import Templating.File.Target
import Templating.Proofs.File.Growth
import Templating.Proofs.Resolution.Dispatch
import Templating.Proofs.Text.Utf8

/-! What a render to a file does to the tree, and what reading the path gives afterwards. The
directories on the way to the file are made first and stay; then the file is opened, which empties
it or makes it; then it is written. Nothing else in the tree is touched. -/

namespace Templating

namespace FileTree

variable {tree after : FileTree} {place : Place} {path : String} {bytes : Bytes}

/-- The paths that lead to the directory of a path or on the way to it. -/
def LeadsToHolder (path made : String) : Prop :=
  ∃ dir, Path.parent? path = some dir ∧ Leads dir made

theorem makeParents_grows (tree : FileTree) (path : String) :
    Grows ownerDirMode (LeadsToHolder path) tree (tree.makeParents path).1 := by
  unfold makeParents
  cases held : Path.parent? path with
  | none => exact .refl _ _ _
  | some dir =>
    dsimp only
    split
    · exact .refl _ _ _
    · exact (makeDirsWithin_grows _ tree dir).mono fun made leads => ⟨dir, held, leads⟩

theorem makeParents_fault {fault : Fault} (h : (tree.makeParents path).2 = .error fault) :
    ∃ dir cause, fault = .createDir dir cause := by
  unfold makeParents at h
  split at h
  · cases h
  · next dir _ =>
    split at h
    · cases h
    · generalize tree.makeDirs ownerDirMode dir = made at h
      obtain ⟨grown, answer⟩ := made
      cases answer with
      | ok _ => cases h
      | error cause =>
        cases h
        exact ⟨dir, cause, rfl⟩

/-- A file that is opened to be written is empty, with its mode if it was there, or it was a device,
which is left as it is. -/
theorem openToWrite_eq_ok {mode : Nat} (h : tree.openToWrite mode path = .ok (after, place)) :
    tree.last path = .ok (some (place, false)) ∧
      ((∃ kept, (tree.entry place = none ∧ kept = mode ∨
          ∃ content, tree.entry place = some (.file kept content)) ∧
        after = tree.set place (.file kept [])) ∨
      ∃ full, tree.entry place = some (.device full) ∧ after = tree) := by
  obtain ⟨target, named, opened⟩ := bind_eq_ok.mp h
  match target, named, opened with
  | none, named, opened =>
    obtain ⟨_, _, refused⟩ := bind_eq_ok.mp opened
    cases refused
  | some (_, true), named, opened => cases opened
  | some (target, false), named, opened =>
    dsimp only at opened
    split at opened
    · next absent =>
      cases opened
      exact ⟨named, .inl ⟨mode, .inl ⟨absent, rfl⟩, rfl⟩⟩
    · next kept content there =>
      cases opened
      exact ⟨named, .inl ⟨kept, .inr ⟨content, there⟩, rfl⟩⟩
    · next full there =>
      cases opened
      exact ⟨named, .inr ⟨full, there, rfl⟩⟩
    · cases opened

theorem append_set_empty (tree : FileTree) (place : Place) (mode : Nat) (bytes : Bytes) :
    (tree.set place (.file mode [])).append place bytes =
      (tree.set place (.file mode bytes), .ok ()) := by
  rw [append, entry_set_self]
  have twice : (tree.set place (.file mode [])).set place (.file mode bytes) =
      tree.set place (.file mode bytes) := by
    simp only [set, mk.injEq, and_true]
    funext other
    split <;> rfl
  exact congrArg (·, Except.ok ()) twice

/-- A save grows the tree by directories on the way to the file. It ends there with a fault, or it
fills the file that the path then names, or the path names a device. -/
theorem save_cases (tree : FileTree) (path : String) (bytes : Bytes) :
    ∃ grown, Grows ownerDirMode (LeadsToHolder path) tree grown ∧
      ((∃ dir cause, tree.save path bytes = (grown, .error (.createDir dir cause))) ∨
        (∃ cause, tree.save path bytes = (grown, .error (.openFile path cause))) ∨
        (∃ place mode, grown.last path = .ok (some (place, false)) ∧
          (grown.entry place = none ∧ mode = ownerFileMode ∨
            ∃ content, grown.entry place = some (.file mode content)) ∧
          tree.save path bytes = (grown.set place (.file mode bytes), .ok ())) ∨
        ∃ place full, grown.entry place = some (.device full)) := by
  have grows := makeParents_grows tree path
  refine ⟨_, grows, ?_⟩
  unfold save
  cases made : (tree.makeParents path) with
  | mk grown answer =>
    cases answer with
    | error fault =>
      obtain ⟨dir, cause, rfl⟩ := makeParents_fault (congrArg Prod.snd made)
      exact .inl ⟨dir, cause, rfl⟩
    | ok _ =>
      dsimp only
      cases opened : grown.openToWrite ownerFileMode path with
      | error cause => exact .inr (.inl ⟨cause, rfl⟩)
      | ok file =>
        -- Writing to a file that was just emptied or made cannot fail.
        obtain ⟨emptied, place⟩ := file
        obtain ⟨named, ⟨mode, was, rfl⟩ | ⟨full, device, -⟩⟩ := openToWrite_eq_ok opened
        · refine .inr (.inr (.inl ⟨place, mode, named, was, ?_⟩))
          dsimp only
          rw [append_set_empty]
          rfl
        · exact .inr (.inr (.inr ⟨place, full, device⟩))

/-- An entry is as it was, or it is new: then it is a directory of its owner alone, and a first part
of the path of the directory that holds what `path` leads to leads to it. -/
def Spared (path : String) (tree after : FileTree) (place : Place) : Prop :=
  after.entry place = tree.entry place ∨
    tree.entry place = none ∧ ∃ dir made, Path.parent? path = some dir ∧
      Path.components made <+: Path.components dir ∧ after.find made = .ok (place, .dir 0o700)

theorem Grows.spared (h : Grows ownerDirMode (LeadsToHolder path) tree after) (place : Place) :
    Spared path tree after place := by
  rcases h.entry place with same | ⟨absent, made, ⟨dir, held, leads⟩, found⟩
  · exact .inl same
  · exact .inr ⟨absent, dir, made, held, leads, found⟩

theorem Grows.entry_of_file {mode : Nat} {kind : String → Prop} (h : Grows mode kind tree after)
    (other : ∀ mode, after.entry place ≠ some (.dir mode)) :
    tree.entry place = after.entry place := by
  rcases h.entry place with same | ⟨-, made, -, found⟩
  · exact same.symm
  · obtain ⟨_, _, _, _, there⟩ := find_eq_ok.mp found
    exact absurd there (other mode)

theorem keeps_set_file {mode : Nat}
    (was : tree.entry place = none ∨ ∃ content, tree.entry place = some (.file mode content)) :
    tree.Keeps (tree.set place (.file mode bytes)) where
  current := rfl
  dir other dirMode there := by
    have apart : other ≠ place := by
      rintro rfl
      rcases was with absent | ⟨content, file⟩
      · cases absent.symm.trans there
      · cases file.symm.trans there
    rw [entry_set_of_ne apart]
    exact there

/-- A save that ends well fills the file that its path names: the file has just these octets, with
the mode it had or the mode for new files, and everything else is spared. -/
structure Saved (path : String) (bytes : Bytes) (tree after : FileTree) (place : Place) : Prop where
  current : after.current = tree.current
  target : ∃ mode, after.find path = .ok (place, .file mode bytes) ∧
    (tree.entry place = none ∧ mode = 0o600 ∨
      ∃ content, tree.entry place = some (.file mode content))
  others : ∀ other, other ≠ place → Spared path tree after other

theorem saved_of_grows {grown : FileTree} {mode : Nat}
    (grows : Grows ownerDirMode (LeadsToHolder path) tree grown)
    (named : grown.last path = .ok (some (place, false)))
    (was : grown.entry place = none ∧ mode = ownerFileMode ∨
      ∃ content, grown.entry place = some (.file mode content)) :
    Saved path bytes tree (grown.set place (.file mode bytes)) place := by
  have keeps : grown.Keeps (grown.set place (.file mode bytes)) :=
    keeps_set_file (was.imp_left And.left)
  refine ⟨grows.current, ?_, fun other apart => ?_⟩
  · refine ⟨mode, keeps.find_of_last named (entry_set_self _) (.inl rfl), ?_⟩
    rcases was with ⟨absent, rfl⟩ | ⟨content, file⟩
    · have before : tree.entry place = grown.entry place :=
        grows.entry_of_file (by rw [absent]; nofun)
      exact .inl ⟨before.trans absent, rfl⟩
    · have before : tree.entry place = grown.entry place :=
        grows.entry_of_file (by rw [file]; nofun)
      exact .inr ⟨content, before.trans file⟩
  · have still : (grown.set place (.file mode bytes)).entry other = grown.entry other :=
      entry_set_of_ne apart _
    rcases grows.spared other with same | ⟨absent, dir, made, held, leads, found⟩
    · exact .inl (still.trans same)
    · obtain ⟨_, _, _, _, there⟩ := find_eq_ok.mp found
      exact .inr ⟨absent, dir, made, held, leads, keeps.find found (still.trans there)⟩

theorem read_of_find {mode : Nat} (h : tree.find path = .ok (place, .file mode bytes)) :
    tree.read path = .ok bytes :=
  bind_eq_ok.mpr ⟨_, h, rfl⟩

/-- What was saved is read again, in a tree without devices. -/
theorem read_of_save (plain : ∀ place full, tree.entry place ≠ some (.device full))
    (saved : (tree.save path bytes).2 = .ok ()) :
    (tree.save path bytes).1.read path = .ok bytes := by
  obtain ⟨grown, grows, ends⟩ := tree.save_cases path bytes
  rcases ends with ⟨dir, cause, failed⟩ | ⟨cause, failed⟩ | ⟨place, mode, named, was, filled⟩ |
    ⟨place, full, device⟩
  · rw [failed] at saved
    cases saved
  · rw [failed] at saved
    cases saved
  · have kept : Saved path bytes tree (grown.set place (.file mode bytes)) place :=
      saved_of_grows grows named was
    obtain ⟨_, found, -⟩ := kept.target
    rw [filled]
    exact read_of_find found
  · have before : tree.entry place = grown.entry place :=
      grows.entry_of_file (by rw [device]; nofun)
    exact absurd (before.trans device) (plain place full)

end FileTree

namespace Resolver

variable {resolver : Resolver} {tree : FileTree} {path : String} {bytes : Bytes}

/-- A path resolves as octets: as their text under the path's name, after one read, or to a failure
to read them where they are no text. -/
structure ResolvesAs (resolver : Resolver) (tree : FileTree) (path : String) (bytes : Bytes) :
    Prop where
  text : ∀ text, bytes = Utf8.encode text →
    resolver.fromFile tree path =
      ⟨(resolver.fromNamed path text).template,
        .read none path :: (resolver.fromNamed path text).trace⟩
  noText : (∀ text, bytes ≠ Utf8.encode text) →
    ∃ cause, cause.kind = .invalidData ∧
      resolver.fromFile tree path = ⟨.failed (.read path cause), [.read none path]⟩

theorem resolvesAs_of_read (files : resolver.reader? = none) (h : tree.read path = .ok bytes) :
    resolver.ResolvesAs tree path bytes := by
  have content : resolver.content tree path = .ok bytes := by
    rw [Resolver.content, files]
    exact h
  constructor
  · intro text octets
    have decoded : Utf8.decode bytes = .ok text := Utf8.decode_eq_ok_iff.mpr octets
    have loaded : resolver.content tree path >>= decodeSource = .ok text := by
      rw [content]
      simp [bind, Except.bind, decodeSource, decoded]
    rw [fromFile_of_text loaded, files]
    rfl
  · intro noText
    cases decoded : Utf8.decode bytes with
    | ok text => exact absurd (Utf8.decode_eq_ok_iff.mp decoded) (noText text)
    | error defect =>
      have loaded : resolver.content tree path >>= decodeSource = .error (.notText bytes defect) := by
        rw [content]
        simp [bind, Except.bind, decodeSource, decoded]
      refine ⟨.notText bytes defect, rfl, ?_⟩
      rw [fromFile_of_unread loaded, files]

end Resolver

namespace Written

/-- A render that filled the file of its path: all else is spared, and every resolver that reads
files finds the octets there. -/
structure Fills (written : Written) (tree : FileTree) (path : String) (bytes : Bytes) : Prop where
  outcome : written.outcome = .ok ()
  saved : ∃ place, tree.Saved path bytes written.tree place
  resolves : ∀ resolver : Resolver, resolver.reader? = none →
    resolver.ResolvesAs written.tree path bytes

/-- A render that could not make a directory or not open its file: the whole tree is spared. -/
structure Declines (written : Written) (tree : FileTree) (path : String) : Prop where
  outcome : (∃ dir cause, written.outcome = .error (.createDir dir cause)) ∨
    ∃ cause, written.outcome = .error (.openFile path cause)
  current : written.tree.current = tree.current
  spared : ∀ place, tree.Spared path written.tree place

theorem not_declines_of_ok {written : Written} {tree : FileTree} {path : String}
    (h : written.outcome = .ok ()) : ¬written.Declines tree path := by
  intro declines
  rcases declines.outcome with ⟨dir, cause, fault⟩ | ⟨cause, fault⟩
  · cases h.symm.trans fault
  · cases h.symm.trans fault

end Written

namespace Template

variable {executor : Executor} {context : Context} {bytes : Bytes} {path : String}
  {streams : Streams}

theorem renderToFile_of_bytes (rendered : ((ready executor).renderBytes context).outcome = .ok bytes)
    (file : Target.ofPath path = .file) (tree : FileTree) :
    (ready executor).renderToFile context tree path streams =
      ⟨(tree.save path bytes).2, (tree.save path bytes).1, [], [],
        ((ready executor).renderBytes context).signal?⟩ := by
  simp only [renderToFile, file, rendered]

/-- A render to a path of a file, in a tree of directories and files, fills the file with its octets or
declines; the standard streams get nothing and do not matter. -/
theorem renderToFile_fills_or_declines {tree : FileTree}
    (rendered : ((ready executor).renderBytes context).outcome = .ok bytes)
    (file : Target.ofPath path = .file)
    (plain : ∀ place full, tree.entry place ≠ some (.device full)) :
    ((ready executor).renderToFile context tree path streams).output = [] ∧
      ((ready executor).renderToFile context tree path streams).errors = [] ∧
      (((ready executor).renderToFile context tree path streams).Fills tree path bytes ∨
        ((ready executor).renderToFile context tree path streams).Declines tree path) := by
  rw [renderToFile_of_bytes rendered file]
  refine ⟨rfl, rfl, ?_⟩
  obtain ⟨grown, grows, ends⟩ := tree.save_cases path bytes
  rcases ends with ⟨dir, cause, saved⟩ | ⟨cause, saved⟩ | ⟨place, mode, named, was, saved⟩ |
    ⟨place, full, device⟩
  · rw [saved]
    exact .inr ⟨.inl ⟨dir, cause, rfl⟩, grows.current, grows.spared⟩
  · rw [saved]
    exact .inr ⟨.inr ⟨cause, rfl⟩, grows.current, grows.spared⟩
  · rw [saved]
    have filled : tree.Saved path bytes (grown.set place (.file mode bytes)) place :=
      FileTree.saved_of_grows grows named was
    obtain ⟨_, found, -⟩ := filled.target
    exact .inl ⟨rfl, ⟨place, filled⟩, fun resolver files =>
      Resolver.resolvesAs_of_read files (FileTree.read_of_find found)⟩
  · have before : tree.entry place = grown.entry place :=
      grows.entry_of_file (by rw [device]; nofun)
    exact absurd (before.trans device) (plain place full)

/-- Writes two octets. -/
def marking : Executor where
  program _ _ := .write [104, 105] fun _ => .ended (.ok ())

/-- A tree of two directories, in the second of which relative paths start, and a longer file. -/
def desk : FileTree where
  entry place :=
    if place = [] ∨ place = ["work"] then some (.dir 0o755)
    else if place = ["work", "old"] then some (.file 0o644 [1, 2, 3])
    else none
  current := ["work"]

/-- One render makes the directory of its file, one empties a file that is longer, and one finds a
file in the way of a directory. -/
theorem desk_renders :
    ((ready marking).renderToFile (.abortable .null) desk "sub/out").Fills desk "sub/out"
        [104, 105] ∧
      ((ready marking).renderToFile (.abortable .null) desk "./old").Fills desk "./old"
        [104, 105] ∧
      ((ready marking).renderToFile (.abortable .null) desk "old/out").Declines desk "old/out" := by
  have rendered : ((ready marking).renderBytes (.abortable .null)).outcome = .ok [104, 105] := rfl
  have plain : ∀ place full, desk.entry place ≠ some (.device full) := by
    intro place full
    unfold desk
    dsimp only
    split
    · nofun
    · split <;> nofun
  have made : ((ready marking).renderToFile (.abortable .null) desk "sub/out").outcome = .ok () :=
    rfl
  have emptied : ((ready marking).renderToFile (.abortable .null) desk "./old").outcome = .ok () :=
    rfl
  have blocked : ((ready marking).renderToFile (.abortable .null) desk "old/out").outcome =
      .error (.createDir "old" (.system .exists)) := rfl
  obtain ⟨-, -, sub⟩ := renderToFile_fills_or_declines rendered
    (by decide : Target.ofPath "sub/out" = .file) plain
  obtain ⟨-, -, old⟩ := renderToFile_fills_or_declines rendered
    (by decide : Target.ofPath "./old" = .file) plain
  obtain ⟨-, -, under⟩ := renderToFile_fills_or_declines rendered
    (by decide : Target.ofPath "old/out" = .file) plain
  refine ⟨sub.resolve_right (Written.not_declines_of_ok made),
    old.resolve_right (Written.not_declines_of_ok emptied), under.resolve_left ?_⟩
  intro fills
  cases blocked.symm.trans fills.outcome

end Template

end Templating
