import Templating.Yaml.Reader

/-! What a reader of nodes leaves is the end of the tokens that it was given. A document is complete only
if the token of the end is among its tokens. -/

namespace Templating.Yaml

/-- What a reader leaves is an end of what it was given. -/
def Passes (read : List Token → Reading α) : Prop :=
  ∀ tokens rest, (read tokens).2 = some rest → rest <:+ tokens

/-- The readers with some fuel. -/
structure AllPass (fuel : Nat) : Prop where
  node : ∀ block belowKey, Passes (node block belowKey fuel)
  nodeUnless : ∀ stops block belowKey, Passes (nodeUnless stops block belowKey fuel)
  value : ∀ stops block, Passes (value stops block fuel)
  items : ∀ belowKey, Passes (items belowKey fuel)
  entries : Passes (entries fuel)
  flowItems : Passes (flowItems fuel)
  flowItem : Passes (flowItem fuel)
  flowEntries : Passes (flowEntries fuel)
  flowEntry : Passes (flowEntry fuel)

theorem suffix_cons {token : Token} {tokens rest : List Token} (suffix : rest <:+ tokens) :
    rest <:+ token :: tokens := suffix.trans (List.suffix_cons token tokens)

/-- The token before an end belongs to a longer end. -/
theorem suffix_of_suffix_cons {token : Token} {tokens rest : List Token}
    (suffix : token :: rest <:+ tokens) : rest <:+ tokens :=
  (List.suffix_cons token rest).trans suffix

/-! ### One reader with more fuel, from all readers with less -/

namespace AllPass

variable {fuel : Nat} (less : AllPass fuel)

include less

theorem node_succ (block belowKey : Bool) : Passes (Yaml.node block belowKey (fuel + 1)) := by
  intro tokens rest left
  unfold Yaml.node at left
  split at left
  · cases left
    exact List.suffix_cons ..
  · exact suffix_cons (less.flowItems _ _ left)
  · exact suffix_cons (less.flowEntries _ _ left)
  · split at left
    · exact suffix_cons (less.items _ _ _ left)
    · cases left
  · split at left
    · exact suffix_cons (less.entries _ _ left)
    · cases left
  · split at left
    · exact less.items _ _ _ left
    · cases left
  · cases left

theorem nodeUnless_succ (stops : List Token) (block belowKey : Bool) :
    Passes (Yaml.nodeUnless stops block belowKey (fuel + 1)) := by
  intro tokens rest left
  unfold Yaml.nodeUnless at left
  split at left
  · cases left
  · split at left
    · cases left
      exact List.suffix_refl _
    · exact less.node _ _ _ _ left

theorem value_succ (stops : List Token) (block : Bool) :
    Passes (Yaml.value stops block (fuel + 1)) := by
  intro tokens rest left
  unfold Yaml.value at left
  split at left
  · cases left
  · exact suffix_cons (less.nodeUnless _ _ _ _ _ left)
  · cases left
    exact List.suffix_refl _

theorem items_succ (belowKey : Bool) : Passes (Yaml.items belowKey (fuel + 1)) := by
  intro tokens rest left
  unfold Yaml.items at left
  split at left
  · rename_i later
    cases item : (Yaml.nodeUnless (itemStops belowKey) true false fuel later).2 with
    | none => simp [item] at left
    | some others =>
      simp only [item] at left
      have inner := less.nodeUnless _ _ _ _ _ item
      exact suffix_cons ((less.items _ _ _ left).trans inner)
  · cases left
  · split at left
    · cases left
      exact List.suffix_refl _
    · split at left
      · cases left
        exact List.suffix_cons ..
      · cases left

theorem entries_succ : Passes (Yaml.entries (fuel + 1)) := by
  intro tokens rest left
  unfold Yaml.entries at left
  split at left
  · rename_i later
    cases key : (Yaml.nodeUnless entryStops true true fuel later).2 with
    | none => simp [key] at left
    | some others =>
      simp only [key] at left
      cases value : (Yaml.value entryStops true fuel others).2 with
      | none => simp [value] at left
      | some further =>
        simp only [value] at left
        have inner := (less.value _ _ _ _ value).trans (less.nodeUnless _ _ _ _ _ key)
        exact suffix_cons ((less.entries _ _ left).trans inner)
  · cases left
    exact List.suffix_cons ..
  · cases left

theorem flowItems_succ : Passes (Yaml.flowItems (fuel + 1)) := by
  intro tokens rest left
  unfold Yaml.flowItems at left
  split at left
  · cases left
    exact List.suffix_cons ..
  · cases item : Yaml.flowItem fuel tokens with
    | mk node others =>
      have inner := less.flowItem tokens
      simp only [item] at left inner
      split at left
      · exact (less.flowItems _ _ left).trans (suffix_of_suffix_cons (inner _ rfl))
      · cases left
        exact suffix_of_suffix_cons (inner _ rfl)
      · cases left

theorem flowItem_succ : Passes (Yaml.flowItem (fuel + 1)) := by
  intro tokens rest left
  unfold Yaml.flowItem at left
  split at left
  · rename_i later
    split at left
    rename_i key left? read
    -- The key may be left out, and the token in its place is passed then.
    have inner : ∀ others, left? = some others → others <:+ later := by
      rintro others rfl
      split at read
      · cases read
        exact List.suffix_cons ..
      · cases read
        exact List.suffix_cons ..
      · cases read
        exact List.suffix_cons ..
      · exact less.node _ _ _ _ (congrArg Prod.snd read)
    split at left
    · cases left
    · exact suffix_cons ((less.value _ _ _ _ left).trans (inner _ rfl))
  · exact less.node _ _ _ _ left

theorem flowEntries_succ : Passes (Yaml.flowEntries (fuel + 1)) := by
  intro tokens rest left
  unfold Yaml.flowEntries at left
  split at left
  · cases left
    exact List.suffix_cons ..
  · cases entry : Yaml.flowEntry fuel tokens with
    | mk node others =>
      have inner := less.flowEntry tokens
      simp only [entry] at left inner
      split at left
      · exact (less.flowEntries _ _ left).trans (suffix_of_suffix_cons (inner _ rfl))
      · cases left
        exact suffix_of_suffix_cons (inner _ rfl)
      · cases left

theorem flowEntry_succ : Passes (Yaml.flowEntry (fuel + 1)) := by
  intro tokens rest left
  unfold Yaml.flowEntry at left
  split at left
  · rename_i later
    cases key : (Yaml.nodeUnless (.value :: flowEntryStops) false false fuel later).2 with
    | none => simp [key] at left
    | some others =>
      simp only [key] at left
      exact suffix_cons ((less.value _ _ _ _ left).trans (less.nodeUnless _ _ _ _ _ key))
  · cases key : Yaml.node false false fuel tokens with
    | mk node others =>
      have inner := less.node false false tokens
      simp only [key] at left inner
      split at left
      · cases left
        exact inner _ rfl
      · cases left

end AllPass

theorem allPass (fuel : Nat) : AllPass fuel := by
  induction fuel with
  | zero => constructor <;> intros <;> intro tokens rest left <;> cases left
  | succ fuel less =>
    exact
      { node := less.node_succ
        nodeUnless := less.nodeUnless_succ
        value := less.value_succ
        items := less.items_succ
        entries := less.entries_succ
        flowItems := less.flowItems_succ
        flowItem := less.flowItem_succ
        flowEntries := less.flowEntries_succ
        flowEntry := less.flowEntry_succ }

theorem root_passes : Passes root := by
  intro tokens rest left
  unfold root at left
  split at left
  · cases left
    exact List.suffix_refl _
  · cases left
  · split at left
    · cases left
      exact List.suffix_cons ..
    · exact suffix_cons ((allPass _).node _ _ _ _ left)
  · exact (allPass _).node _ _ _ _ left

/-- Nothing but the end of its text ends a document. -/
theorem textEnd_mem_of_complete {source : String} (complete : (read source).complete = true) :
    .textEnd ∈ tokens source := by
  have last : (root (tokens source)).2.any isLast = true := complete
  obtain ⟨rest, left, ends⟩ := (Option.any_eq_true _ _).mp last
  have among : .textEnd ∈ rest := by
    have only : rest.dropWhile (· == .documentEnd) = [.textEnd] := by simpa [isLast] using ends
    exact (List.dropWhile_suffix _).subset (only ▸ List.mem_singleton_self _)
  exact (root_passes _ _ left).subset among

end Templating.Yaml
