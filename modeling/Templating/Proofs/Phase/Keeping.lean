import Templating.Proofs.Printing.Form

/-! Computations whose faults are all of a kind, and computations with a state that keep an invariant
whether they end with a value or stop with a fault. Both are closed under what computations are made
of, so that what a language computes has them by induction on its trees. -/

namespace Templating

/-- A result that is a fault of a kind, if it is a fault. -/
def FaultsIn {ε α : Type} (kind : ε → Prop) (result : Except ε α) : Prop :=
  ∀ fault, result = .error fault → kind fault

namespace FaultsIn

variable {ε α β : Type} {kind : ε → Prop} {result : Except ε α}

theorem ok (value : α) : FaultsIn kind (.ok value : Except ε α) := by
  intro fault same
  cases same

theorem error {fault : ε} (h : kind fault) : FaultsIn kind (.error fault : Except ε α) := by
  intro other same
  cases same
  exact h

theorem bind {next : α → Except ε β} (first : FaultsIn kind result)
    (others : ∀ value, FaultsIn kind (next value)) : FaultsIn kind (result >>= next) := by
  cases result with
  | ok value => exact others value
  | error fault => exact error (first fault rfl)

/-- What follows a result that counts only where a condition holds. -/
theorem ite_bind {condition : Prop} [Decidable condition] {first : Except ε Unit}
    {others : Unit → Except ε α} (h : FaultsIn kind first) (more : FaultsIn kind (others ())) :
    FaultsIn kind (if condition then first >>= others else others ()) := by
  split
  · exact h.bind fun _ => more
  · exact more

theorem map (f : α → β) (h : FaultsIn kind result) : FaultsIn kind (f <$> result) := by
  cases result with
  | ok value => exact ok (f value)
  | error fault => exact error (h fault rfl)

theorem mapError {δ : Type} {other : δ → Prop} {f : ε → δ} (h : FaultsIn kind result)
    (leads : ∀ fault, kind fault → other (f fault)) : FaultsIn other (result.mapError f) := by
  cases result with
  | ok value => exact ok value
  | error fault => exact error (leads fault (h fault rfl))

theorem mapM {f : β → Except ε α} (items : List β) (each : ∀ item, FaultsIn kind (f item)) :
    FaultsIn kind (items.mapM f) := by
  induction items with
  | nil => exact ok []
  | cons item rest ih =>
    rw [List.mapM_cons]
    exact bind (each item) fun value => bind ih fun values => ok (value :: values)

theorem foldlM {f : α → β → Except ε α} (items : List β) (start : α)
    (each : ∀ value item, FaultsIn kind (f value item)) :
    FaultsIn kind (items.foldlM f start) := by
  induction items generalizing start with
  | nil => exact ok start
  | cons item rest ih =>
    rw [List.foldlM_cons]
    exact bind (each start item) ih

end FaultsIn

/-- A computation that keeps an invariant of its state, and stops only with faults of a kind. -/
def Keeps {ε σ α : Type} (invariant : σ → Prop) (kind : ε → Prop)
    (part : ExceptT ε (StateM σ) α) : Prop :=
  ∀ state, invariant state →
    invariant (part.run.run state).2 ∧ FaultsIn kind (part.run.run state).1

namespace Keeps

variable {ε σ α β : Type} {invariant : σ → Prop} {kind : ε → Prop}
  {part : ExceptT ε (StateM σ) α} {next : α → ExceptT ε (StateM σ) β}

theorem pure (value : α) : Keeps invariant kind (Pure.pure value : ExceptT ε (StateM σ) α) :=
  fun _ holds => ⟨holds, .ok value⟩

theorem throw {fault : ε} (h : kind fault) :
    Keeps invariant kind (MonadExcept.throw fault : ExceptT ε (StateM σ) α) :=
  fun _ holds => ⟨holds, .error h⟩

theorem bind (first : Keeps invariant kind part)
    (others : ∀ value, Keeps invariant kind (next value)) :
    Keeps invariant kind (part >>= next) := by
  intro state holds
  obtain ⟨held, blamed⟩ := first state holds
  cases ran : part.run.run state with
  | mk result after =>
    rw [ran] at held blamed
    cases result with
    | ok value =>
      rw [run_bind_of_ok _ ran]
      exact others value after held
    | error fault =>
      rw [run_bind_of_error _ ran]
      exact ⟨held, .error (blamed fault rfl)⟩

theorem map (f : α → β) (h : Keeps invariant kind part) : Keeps invariant kind (f <$> part) := by
  rw [map_eq_pure_bind]
  exact h.bind fun value => pure (f value)

/-- What follows a look at the state may rely on the invariant of what it sees. -/
theorem get_bind {next : σ → ExceptT ε (StateM σ) β}
    (h : ∀ state, invariant state → Keeps invariant kind (next state)) :
    Keeps invariant kind (get >>= next) :=
  fun state holds => h state holds state holds

theorem set {state : σ} (h : invariant state) :
    Keeps invariant kind (MonadStateOf.set state : ExceptT ε (StateM σ) PUnit) :=
  fun _ _ => ⟨h, .ok ()⟩

theorem modify {change : σ → σ} (h : ∀ state, invariant state → invariant (change state)) :
    Keeps invariant kind (modify change : ExceptT ε (StateM σ) PUnit) :=
  fun state holds => ⟨h state holds, .ok ()⟩

theorem tryCatch {handle : ε → ExceptT ε (StateM σ) α} (h : Keeps invariant kind part)
    (other : ∀ fault, Keeps invariant kind (handle fault)) :
    Keeps invariant kind (MonadExcept.tryCatch part handle) := by
  intro state holds
  obtain ⟨held, -⟩ := h state holds
  cases ran : part.run.run state with
  | mk result after =>
    rw [ran] at held
    cases result with
    | ok value =>
      have kept : (MonadExcept.tryCatch part handle).run.run state = (.ok value, after) := by
        rw [ExceptT.run_tryCatch, StateT.run_bind, ran]
        rfl
      rw [kept]
      exact ⟨held, .ok value⟩
    | error fault =>
      have handled : (MonadExcept.tryCatch part handle).run.run state =
          (handle fault).run.run after := by
        rw [ExceptT.run_tryCatch, StateT.run_bind, ran]
        rfl
      rw [handled]
      exact other fault after held

end Keeps

end Templating
