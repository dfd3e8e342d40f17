import Mathlib.Data.List.TakeWhile
import Templating.File.Tree
import Templating.Proofs.File.Path
import Templating.Proofs.Text.Utf8

/-! Making directories: what paths lead to stays where it is as long as directories stay, and a tree
only grows, by directories on the way to the one that is asked for. -/

namespace Templating.FileTree

theorem lift_eq_ok {answer : Except SystemFault α} {value : α} :
    lift answer = .ok value ↔ answer = .ok value := by
  cases answer <;> simp [lift, Except.mapError]

theorem directory_eq_ok {tree : FileTree} {place : Place} :
    tree.directory place = .ok () ↔ ∃ mode, tree.entry place = some (.dir mode) := by
  unfold directory
  cases tree.entry place with
  | none => simp
  | some entry => cases entry <;> simp [Entry.isDir]

/-- A directory of one tree is the same directory in the other, and relative paths start at the same
place. -/
structure Keeps (tree after : FileTree) : Prop where
  current : after.current = tree.current
  dir : ∀ place mode, tree.entry place = some (.dir mode) → after.entry place = some (.dir mode)

section Following

variable {tree after : FileTree} {place next : Place} {path : String}

theorem Keeps.step (h : tree.Keeps after) {piece : List Char}
    (hs : tree.step place piece = .ok next) : after.step place piece = .ok next := by
  obtain ⟨_, isDir, leads⟩ := bind_eq_ok.mp hs
  obtain ⟨mode, there⟩ := directory_eq_ok.mp isDir
  have still : after.directory place = .ok () := directory_eq_ok.mpr ⟨mode, h.dir place mode there⟩
  -- Where a step leads does not depend on the tree.
  exact bind_eq_ok.mpr ⟨(), still, leads⟩

theorem walk_cons {piece : List Char} {rest : List (List Char)} :
    tree.walk place (piece :: rest) = .ok next ↔
      ∃ between, tree.step place piece = .ok between ∧ tree.walk between rest = .ok next := by
  rw [walk, bind_eq_ok]

theorem walk_append {pieces rest : List (List Char)} :
    tree.walk place (pieces ++ rest) = .ok next ↔
      ∃ between, tree.walk place pieces = .ok between ∧ tree.walk between rest = .ok next := by
  induction pieces generalizing place with
  | nil => simp [walk]
  | cons piece pieces ih =>
    rw [List.cons_append, walk_cons]
    constructor
    · rintro ⟨first, step, others⟩
      obtain ⟨between, walked, last⟩ := ih.mp others
      exact ⟨between, walk_cons.mpr ⟨first, step, walked⟩, last⟩
    · rintro ⟨between, walked, last⟩
      obtain ⟨first, step, others⟩ := walk_cons.mp walked
      exact ⟨first, step, ih.mpr ⟨between, others, last⟩⟩

theorem Keeps.walk (h : tree.Keeps after) {pieces : List (List Char)}
    (hw : tree.walk place pieces = .ok next) : after.walk place pieces = .ok next := by
  induction pieces generalizing place with
  | nil => exact hw
  | cons piece rest ih =>
    obtain ⟨between, step, others⟩ := walk_cons.mp hw
    exact walk_cons.mpr ⟨between, h.step step, ih others⟩

theorem Keeps.start (h : tree.Keeps after) (path : String) : after.start path = tree.start path := by
  unfold FileTree.start
  rw [h.current]

/-- Slashes after a directory lead nowhere else. -/
theorem walk_slashes {mode : Nat} (there : tree.entry place = some (.dir mode))
    {slashes : List (List Char)} (void : ∀ piece ∈ slashes, piece = []) :
    tree.walk place slashes = .ok place := by
  induction slashes with
  | nil => rfl
  | cons piece rest ih =>
    have here : piece = [] := void piece List.mem_cons_self
    have step : tree.step place piece = .ok place := by
      rw [FileTree.step, directory_eq_ok.mpr ⟨mode, there⟩, here]
      rfl
    exact walk_cons.mpr ⟨place, step, ih fun other later => void other (List.mem_cons_of_mem _ later)⟩

theorem find_eq_ok {entry : Entry} :
    tree.find path = .ok (place, entry) ↔
      ∃ origin pieces, tree.start path = .ok (origin, pieces) ∧
        tree.walk origin pieces = .ok place ∧ tree.entry place = some entry := by
  simp only [find, bind_eq_ok, lift_eq_ok, Prod.exists]
  constructor
  · rintro ⟨origin, pieces, start, reached, walked, held⟩
    cases there : tree.entry reached with
    | none =>
      rw [there] at held
      cases held
    | some other =>
      rw [there] at held
      cases held
      exact ⟨origin, pieces, start, walked, there⟩
  · rintro ⟨origin, pieces, start, walked, there⟩
    exact ⟨origin, pieces, start, place, walked, by rw [there]; rfl⟩

theorem Keeps.find (h : tree.Keeps after) {entry new : Entry}
    (hf : tree.find path = .ok (place, entry)) (there : after.entry place = some new) :
    after.find path = .ok (place, new) := by
  obtain ⟨origin, pieces, start, walked, -⟩ := find_eq_ok.mp hf
  exact find_eq_ok.mpr ⟨origin, pieces, (h.start path).trans start, h.walk walked, there⟩

theorem stripped_append (pieces : List (List Char)) :
    ∃ slashes, pieces = (pieces.reverse.dropWhile (· == [])).reverse ++ slashes ∧
      ∀ piece ∈ slashes, piece = [] := by
  refine ⟨(pieces.reverse.takeWhile (· == [])).reverse, ?_, ?_⟩
  · rw [← List.reverse_append, List.takeWhile_append_dropWhile, List.reverse_reverse]
  · intro piece inSlashes
    have empty := List.mem_takeWhile_imp (List.mem_reverse.mp inSlashes)
    exact eq_of_beq empty

/-- The place that the last step of a path names is one step away from a directory, and slashes may
follow that step. -/
theorem last_eq_ok {slash : Bool} (h : tree.last path = .ok (some (place, slash))) :
    ∃ origin front piece slashes holder,
      tree.start path = .ok (origin, front ++ piece :: slashes) ∧
      tree.walk origin front = .ok holder ∧ tree.step holder piece = .ok place ∧
      (∀ void ∈ slashes, void = []) ∧ (slash = false → slashes = []) := by
  simp only [last, bind_eq_ok, Prod.exists] at h
  obtain ⟨origin, pieces, start, named⟩ := h
  obtain ⟨slashes, whole, void⟩ := stripped_append pieces
  generalize (pieces.reverse.dropWhile (· == [])).reverse = stripped at named whole
  cases ends : stripped.getLast? with
  | none =>
    rw [ends] at named
    cases named
  | some piece =>
    obtain ⟨front, rfl⟩ := List.getLast?_eq_some_iff.mp ends
    rw [List.append_assoc, List.singleton_append] at whole
    rw [ends] at named
    simp only [List.dropLast_concat, bind_eq_ok, lift_eq_ok] at named
    obtain ⟨holder, walked, _, -, named⟩ := named
    split at named
    · cases named
    · obtain ⟨target, step, named⟩ := bind_eq_ok.mp named
      cases named
      refine ⟨origin, front, piece, slashes, holder, whole ▸ start, walked, lift_eq_ok.mp step, void,
        fun bare => ?_⟩
      -- The path ends in a slash where there are pieces behind the last one that is not empty.
      have short := of_decide_eq_false bare
      simp only [whole, List.length_append, List.length_cons, List.length_nil] at short
      exact List.eq_nil_of_length_eq_zero (by omega)

/-- A path whose last step names a place leads there, if slashes at its end stand after a directory. -/
theorem Keeps.find_of_last (h : tree.Keeps after) {slash : Bool} {entry : Entry}
    (hl : tree.last path = .ok (some (place, slash))) (there : after.entry place = some entry)
    (hs : slash = false ∨ ∃ mode, entry = .dir mode) : after.find path = .ok (place, entry) := by
  obtain ⟨origin, front, piece, slashes, holder, start, walked, step, void, bare⟩ := last_eq_ok hl
  have reached : after.walk place slashes = .ok place := by
    rcases hs with plain | ⟨mode, rfl⟩
    · rw [bare plain]
      rfl
    · exact walk_slashes there void
  have last : after.walk holder (piece :: slashes) = .ok place :=
    walk_cons.mpr ⟨place, h.step step, reached⟩
  exact find_eq_ok.mpr ⟨origin, _, (h.start path).trans start,
    walk_append.mpr ⟨holder, h.walk walked, last⟩, there⟩

end Following

section Setting

variable {tree after : FileTree} {place : Place} {path : String}

theorem entry_set_self (entry : Entry) : (tree.set place entry).entry place = some entry :=
  if_pos rfl

theorem entry_set_of_ne {other : Place} (h : other ≠ place) (entry : Entry) :
    (tree.set place entry).entry other = tree.entry other := if_neg h

theorem keeps_set_of_absent (absent : tree.entry place = none) (entry : Entry) :
    tree.Keeps (tree.set place entry) where
  current := rfl
  dir other mode h := by
    have apart : other ≠ place := by
      rintro rfl
      rw [absent] at h
      cases h
    rw [entry_set_of_ne apart]
    exact h

/-- A directory is made where none was, and its path leads to it. -/
theorem makeDir_eq_ok {mode : Nat} (h : tree.makeDir mode path = .ok after) :
    ∃ place, tree.entry place = none ∧ after = tree.set place (.dir mode) ∧
      after.find path = .ok (place, .dir mode) := by
  obtain ⟨target, named, made⟩ := bind_eq_ok.mp h
  match target, named, made with
  | some (place, slash), named, made =>
    dsimp only at made
    split at made
    · cases made
    · next absent =>
      cases made
      exact ⟨place, absent, rfl, (keeps_set_of_absent absent _).find_of_last named
        (entry_set_self _) (.inr ⟨mode, rfl⟩)⟩

end Setting

/-- A tree that has grown: its entries are as they were, and it may have new directories of a mode, at
places to which paths of a kind lead. -/
structure Grows (mode : Nat) (kind : String → Prop) (tree after : FileTree) : Prop where
  current : after.current = tree.current
  entry : ∀ place, after.entry place = tree.entry place ∨
    tree.entry place = none ∧ ∃ made, kind made ∧ after.find made = .ok (place, .dir mode)

section Growing

variable {tree middle after : FileTree} {mode : Nat} {kind near : String → Prop}

theorem Grows.refl (mode : Nat) (kind : String → Prop) (tree : FileTree) :
    Grows mode kind tree tree := ⟨rfl, fun _ => .inl rfl⟩

theorem Grows.entry_of_some (h : Grows mode kind tree after) {place : Place} {entry : Entry}
    (there : tree.entry place = some entry) : after.entry place = some entry := by
  rcases h.entry place with same | ⟨absent, -⟩
  · exact same.trans there
  · rw [absent] at there
    cases there

theorem Grows.keeps (h : Grows mode kind tree after) : tree.Keeps after :=
  ⟨h.current, fun _ _ there => h.entry_of_some there⟩

theorem Grows.mono (h : Grows mode near tree after) (wider : ∀ made, near made → kind made) :
    Grows mode kind tree after where
  current := h.current
  entry place := by
    rcases h.entry place with same | ⟨absent, made, isNear, found⟩
    · exact .inl same
    · exact .inr ⟨absent, made, wider made isNear, found⟩

/-- A path that led to a new directory still leads there when the tree has grown more. -/
theorem Grows.trans (first : Grows mode kind tree middle) (second : Grows mode kind middle after) :
    Grows mode kind tree after where
  current := second.current.trans first.current
  entry place := by
    rcases first.entry place with same | ⟨absent, made, isKind, found⟩
    · rcases second.entry place with sameToo | ⟨absent, made, isKind, found⟩
      · exact .inl (sameToo.trans same)
      · exact .inr ⟨same ▸ absent, made, isKind, found⟩
    · obtain ⟨_, _, _, _, there⟩ := find_eq_ok.mp found
      exact .inr ⟨absent, made, isKind, second.keeps.find found (second.entry_of_some there)⟩

theorem makeDir_grows {path : String} (h : tree.makeDir mode path = .ok after) (hk : kind path) :
    Grows mode kind tree after := by
  obtain ⟨place, absent, rfl, found⟩ := makeDir_eq_ok h
  refine ⟨rfl, fun other => ?_⟩
  by_cases here : other = place
  · exact .inr ⟨here ▸ absent, path, hk, here ▸ found⟩
  · exact .inl (entry_set_of_ne here _)

/-- The paths whose steps are the first steps of a path. -/
def Leads (path made : String) : Prop := Path.components made <+: Path.components path

theorem leads_of_parent? {path parent made : String} (h : Path.parent? path = some parent)
    (hm : Leads parent made) : Leads path made := by
  have fewer : Path.components parent <+: Path.components path :=
    Path.components_parent? h ▸ List.dropLast_prefix _
  exact hm.trans fewer

/-- Making a directory with those on the way to it, whether or not it ends well, makes directories
on the way only. By induction on how many are left to make. -/
theorem makeDirsWithin_grows (fuel : Nat) (tree : FileTree) (path : String) :
    Grows mode (Leads path) tree (makeDirsWithin mode fuel tree path).1 := by
  induction fuel generalizing tree path with
  | zero => exact .refl _ _ _
  | succ fuel ih =>
    rw [makeDirsWithin]
    split
    · exact .refl _ _ _
    · split
      · next made => exact makeDir_grows made List.prefix_rfl
      · split
        · exact .refl _ _ _
        · next parent held =>
          -- The directory that should hold it is made first, and then the path is tried again.
          have grown : Grows mode (Leads path) tree (makeDirsWithin mode fuel tree parent).1 :=
            (ih tree parent).mono fun made => leads_of_parent? held
          split
          · next middle fault failed =>
            rw [failed] at grown
            exact grown
          · next middle made =>
            rw [made] at grown
            split
            · next after madeToo => exact grown.trans (makeDir_grows madeToo List.prefix_rfl)
            · split
              · exact grown
              · exact grown
      · split
        · exact .refl _ _ _
        · exact .refl _ _ _

end Growing

end Templating.FileTree
