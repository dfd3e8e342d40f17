import Mathlib.Data.List.Induction
import Templating.File.Path

/-! The path of the directory that holds what a path leads to has the steps of the path but its
last. A path taken apart at its slashes and put together again is the same path, so what `join`
writes reads as the pieces that it was given. -/

namespace Templating.Path

section Split

theorem split_ne_nil (text : List Char) : split text ≠ [] := by
  induction text with
  | nil => exact List.cons_ne_nil _ _
  | cons c rest ih =>
    rw [split]
    split
    · exact List.cons_ne_nil _ _
    · split
      · exact List.cons_ne_nil _ _
      · exact List.cons_ne_nil _ _

theorem slash_notMem_of_mem_split {text piece : List Char} (h : piece ∈ split text) :
    '/' ∉ piece := by
  induction text generalizing piece with
  | nil =>
    rw [split, List.mem_singleton] at h
    rw [h]
    exact List.not_mem_nil
  | cons c rest ih =>
    rw [split] at h
    split at h
    · rcases List.mem_cons.mp h with rfl | later
      · exact List.not_mem_nil
      · exact ih later
    · next other =>
      split at h
      · next first pieces parts =>
        rcases List.mem_cons.mp h with rfl | later
        · have inFirst : '/' ∉ first := ih (by rw [parts]; exact List.mem_cons_self)
          exact List.not_mem_cons_of_ne_of_not_mem (Ne.symm other) inFirst
        · exact ih (by rw [parts]; exact List.mem_cons_of_mem first later)
      · next parts => exact absurd parts (split_ne_nil rest)

theorem split_append {piece text first : List Char} {pieces : List (List Char)} (h : '/' ∉ piece)
    (hs : split text = first :: pieces) : split (piece ++ text) = (piece ++ first) :: pieces := by
  induction piece with
  | nil => exact hs
  | cons c piece ih =>
    obtain ⟨other, inRest⟩ := List.ne_and_not_mem_of_not_mem_cons h
    rw [List.cons_append, split, if_neg (Ne.symm other), ih inRest]
    rfl

theorem split_of_slash_notMem {piece : List Char} (h : '/' ∉ piece) : split piece = [piece] := by
  have alone := split_append h (show split [] = [] :: [] from rfl)
  rwa [List.append_nil] at alone

theorem split_append_slash {piece : List Char} (h : '/' ∉ piece) (rest : List Char) :
    split (piece ++ '/' :: rest) = piece :: split rest := by
  have ended := split_append h (show split ('/' :: rest) = [] :: split rest from rfl)
  rwa [List.append_nil] at ended

/-- Pieces with slashes between them are taken apart into these pieces. -/
theorem split_intercalate {pieces : List (List Char)} (some : pieces ≠ [])
    (h : ∀ piece ∈ pieces, '/' ∉ piece) : split (['/'].intercalate pieces) = pieces := by
  induction pieces with
  | nil => exact absurd rfl some
  | cons piece rest ih =>
    have here := h piece List.mem_cons_self
    cases rest with
    | nil =>
      rw [List.intercalate_singleton]
      exact split_of_slash_notMem here
    | cons next others =>
      rw [List.intercalate_cons_cons, List.append_assoc, List.singleton_append,
        split_append_slash here,
        ih (List.cons_ne_nil _ _) fun piece inRest => h piece (List.mem_cons_of_mem _ inRest)]

end Split

section Start

/-- A path starts with a slash, with a dot that is its first piece, or with its first step. -/
theorem parts_cases (path : String) :
    (∃ piece pieces, split path.toList = [] :: piece :: pieces ∧
      parts path = (['/'], [.root], piece :: pieces)) ∨
    (∃ pieces, split path.toList = ['.'] :: pieces ∧ parts path = (['.'], [.current], pieces)) ∨
    ((∀ piece pieces, split path.toList ≠ [] :: piece :: pieces) ∧
      (∀ pieces, split path.toList ≠ ['.'] :: pieces) ∧
      parts path = ([], [], split path.toList)) := by
  unfold parts
  split
  · next piece pieces slash => exact .inl ⟨piece, pieces, slash, rfl⟩
  · next pieces dot => exact .inr (.inl ⟨pieces, dot, rfl⟩)
  · next noSlash noDot => exact .inr (.inr ⟨noSlash, noDot, rfl⟩)

theorem components_of_parts {path : String} {start : List Char} {first : List Component}
    {pieces : List (List Char)} (h : parts path = (start, first, pieces)) :
    components path = first ++ (pieces.filter (!isVoid ·)).map component := by
  rw [components, h]

theorem mem_split_of_parts {path : String} {start : List Char} {first : List Component}
    {pieces : List (List Char)} (h : parts path = (start, first, pieces)) {piece : List Char}
    (inPieces : piece ∈ pieces) : piece ∈ split path.toList := by
  rcases parts_cases path with ⟨head, rest, slash, parted⟩ | ⟨rest, dot, parted⟩ | ⟨-, -, parted⟩
  · cases parted.symm.trans h
    rw [slash]
    exact List.mem_cons_of_mem _ inPieces
  · cases parted.symm.trans h
    rw [dot]
    exact List.mem_cons_of_mem _ inPieces
  · cases parted.symm.trans h
    exact inPieces

/-- The first of the pieces of a path, put together after the start of the path, are the steps of
what is so written. -/
theorem components_join {path : String} {start : List Char} {first : List Component}
    {pieces kept : List (List Char)} (h : parts path = (start, first, pieces))
    (hk : kept <+: pieces) :
    components (join start kept) = first ++ (kept.filter (!isVoid ·)).map component := by
  cases kept with
  | nil =>
    rcases parts_cases path with ⟨_, _, -, parted⟩ | ⟨_, -, parted⟩ | ⟨-, -, parted⟩ <;>
      cases parted.symm.trans h <;> rfl
  | cons piece more =>
    -- A slash inside a piece would take it apart, but the pieces come from a path.
    have whole : split (['/'].intercalate (piece :: more)) = piece :: more :=
      split_intercalate (List.cons_ne_nil _ _) fun piece inKept =>
        slash_notMem_of_mem_split (mem_split_of_parts h (hk.subset inKept))
    rcases parts_cases path with ⟨_, _, -, parted⟩ | ⟨_, -, parted⟩ | ⟨noSlash, noDot, parted⟩
    · cases parted.symm.trans h
      have written : split (join ['/'] (piece :: more)).toList = [] :: piece :: more := by
        rw [join, if_neg (by simp), String.toList_ofList, List.singleton_append, split, if_pos rfl,
          whole]
      have again : parts (join ['/'] (piece :: more)) = (['/'], [.root], piece :: more) := by
        rw [parts, written]
      exact components_of_parts again
    · cases parted.symm.trans h
      have written : split (join ['.'] (piece :: more)).toList = ['.'] :: piece :: more := by
        rw [join, if_pos ⟨rfl, List.cons_ne_nil _ _⟩, String.toList_ofList,
          split_append_slash (by decide), whole]
      have again : parts (join ['.'] (piece :: more)) = (['.'], [.current], piece :: more) := by
        rw [parts, written]
        rfl
      exact components_of_parts again
    · cases parted.symm.trans h
      have written : split (join [] (piece :: more)).toList = piece :: more := by
        rw [join, if_neg (by simp), String.toList_ofList, List.nil_append, whole]
      obtain ⟨later, all⟩ := hk
      rcases parts_cases (join [] (piece :: more)) with
        ⟨_, _, slash, -⟩ | ⟨_, dot, -⟩ | ⟨-, -, again⟩
      · cases written.symm.trans slash
        exact absurd all.symm (noSlash _ _)
      · cases written.symm.trans dot
        exact absurd all.symm (noDot _)
      · rw [written] at again
        exact components_of_parts again

end Start

section VoidEnd

theorem dropVoidEnd_concat (pieces : List (List Char)) (piece : List Char) :
    dropVoidEnd (pieces ++ [piece]) =
      if isVoid piece then dropVoidEnd pieces else pieces ++ [piece] := by
  rw [dropVoidEnd, List.reverse_concat, List.dropWhile_cons]
  split
  · rfl
  · rw [List.reverse_cons, List.reverse_reverse]

theorem dropVoidEnd_isPrefix (pieces : List (List Char)) : dropVoidEnd pieces <+: pieces := by
  induction pieces using List.reverseRecOn with
  | nil => exact List.prefix_rfl
  | append_singleton pieces piece ih =>
    rw [dropVoidEnd_concat]
    split
    · exact ih.trans (List.prefix_append pieces [piece])
    · exact List.prefix_rfl

theorem filter_dropVoidEnd (pieces : List (List Char)) :
    (dropVoidEnd pieces).filter (!isVoid ·) = pieces.filter (!isVoid ·) := by
  induction pieces using List.reverseRecOn with
  | nil => rfl
  | append_singleton pieces piece ih =>
    rw [dropVoidEnd_concat]
    split
    · next void => rw [ih, List.filter_append, List.filter_cons_of_neg (by simp [void])]; simp
    · rfl

theorem dropVoidEnd_ends {pieces : List (List Char)} (h : dropVoidEnd pieces ≠ []) :
    ∃ front last, dropVoidEnd pieces = front ++ [last] ∧ isVoid last = false := by
  induction pieces using List.reverseRecOn with
  | nil => exact absurd rfl h
  | append_singleton pieces piece ih =>
    rw [dropVoidEnd_concat] at h ⊢
    split
    · next void =>
      rw [if_pos void] at h
      exact ih h
    · next step => exact ⟨pieces, piece, rfl, Bool.eq_false_iff.mpr step⟩

end VoidEnd

/-- The directory that holds what a path leads to has the steps of the path but its last. -/
theorem components_parent? {path parent : String} (h : parent? path = some parent) :
    components parent = (components path).dropLast := by
  obtain ⟨⟨start, first, pieces⟩, parted⟩ : ∃ parted, parts path = parted := ⟨_, rfl⟩
  rw [components_of_parts parted, ← filter_dropVoidEnd pieces]
  unfold parent? at h
  rw [parted] at h
  dsimp only at h
  split at h
  · next noStep =>
    split at h
    · next dot =>
      cases h
      have current : first = [.current] := by
        rcases parts_cases path with ⟨_, _, -, here⟩ | ⟨_, -, here⟩ | ⟨-, -, here⟩
        · cases here.symm.trans parted
          cases dot
        · cases here.symm.trans parted
          rfl
        · cases here.symm.trans parted
          cases dot
      rw [noStep, current]
      rfl
    · cases h
  · next piece more kept =>
    cases h
    obtain ⟨front, last, ends, isStep⟩ :=
      dropVoidEnd_ends (kept ▸ List.cons_ne_nil piece more : dropVoidEnd pieces ≠ [])
    have whole : piece :: more = front ++ [last] := kept.symm.trans ends
    have inFront : front <+: dropVoidEnd pieces := ends ▸ List.prefix_append front [last]
    have within : dropVoidEnd front <+: pieces :=
      (dropVoidEnd_isPrefix front).trans (inFront.trans (dropVoidEnd_isPrefix pieces))
    rw [whole, List.dropLast_concat, components_join parted within, filter_dropVoidEnd, ends,
      List.filter_append, List.filter_cons_of_pos (by rw [isStep]; rfl), List.filter_nil,
      List.map_append, ← List.append_assoc, List.map_singleton, List.dropLast_concat]

end Templating.Path
