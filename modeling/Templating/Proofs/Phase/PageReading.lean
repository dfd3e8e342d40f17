import Templating.Page.Reader
import Templating.Proofs.Phase.Keeping
import Templating.Proofs.Render.Faults

/-! Why a page cannot be read: always a problem of syntax. The parts of the reader that recur give up
where their fuel ends, which is a problem of syntax as well, so that one induction on the fuel goes
through all parts that call each other. -/

namespace Templating.Page.Reading

/-- A part of the reader that gives up only for problems of syntax. -/
def OfSyntax {α : Type} (part : Reading α) : Prop :=
  ∀ cursor, FaultsIn (fun rejection : Rejection => rejection.kind.isSyntax = true) (part.run cursor)

section Parts

variable {α β : Type} {part : Reading α} {next : α → Reading β}

theorem ofSyntax_pure (value : α) : OfSyntax (pure value : Reading α) := fun _ => .ok _

theorem OfSyntax.bind (first : OfSyntax part) (others : ∀ value, OfSyntax (next value)) :
    OfSyntax (part >>= next) := by
  intro cursor
  rw [StateT.run_bind]
  exact (first cursor).bind fun result => others result.1 result.2

theorem OfSyntax.map (f : α → β) (h : OfSyntax part) : OfSyntax (f <$> part) := by
  rw [map_eq_pure_bind]
  exact h.bind fun value => ofSyntax_pure (f value)

/-- What follows a part that is read only where a condition holds. -/
theorem ofSyntax_ite_bind {condition : Prop} [Decidable condition] {first : Reading Unit}
    {others : Unit → Reading α} (h : OfSyntax first) (more : OfSyntax (others ())) :
    OfSyntax (if condition then first >>= others else others ()) := by
  split
  · exact h.bind fun _ => more
  · exact more

theorem ofSyntax_get : OfSyntax (get : Reading Cursor) := fun _ => .ok _

theorem ofSyntax_modify (change : Cursor → Cursor) : OfSyntax (modify change : Reading PUnit) :=
  fun _ => .ok _

theorem ofSyntax_throw {rejection : Rejection} (h : rejection.kind.isSyntax = true) :
    OfSyntax (throw rejection : Reading α) := fun _ => .error h

theorem ofSyntax_fail : OfSyntax (fail : Reading α) := ofSyntax_get.bind fun _ => ofSyntax_throw rfl

theorem ofSyntax_peek : OfSyntax peek := by
  refine ofSyntax_get.bind fun cursor => ?_
  split
  · exact ofSyntax_pure _
  · exact ofSyntax_pure _
  · exact ofSyntax_throw rfl
  · exact ofSyntax_throw rfl

theorem ofSyntax_line : OfSyntax line := by
  refine ofSyntax_get.bind fun cursor => ?_
  split
  · exact ofSyntax_pure _
  · exact ofSyntax_pure _

theorem ofSyntax_take : OfSyntax take := by
  refine ofSyntax_peek.bind fun found => ?_
  split
  · exact ofSyntax_pure _
  · exact (ofSyntax_modify _).bind fun _ => ofSyntax_pure _

theorem ofSyntax_must : OfSyntax must := by
  refine ofSyntax_take.bind fun found => ?_
  split
  · exact ofSyntax_pure _
  · exact ofSyntax_fail

theorem ofSyntax_expect (token : Token) : OfSyntax (expect token) := by
  refine ofSyntax_must.bind fun found => ?_
  split
  · exact ofSyntax_pure _
  · exact ofSyntax_fail

theorem ofSyntax_name : OfSyntax name := by
  refine ofSyntax_must.bind fun found => ?_
  split
  · exact ofSyntax_pure _
  · exact ofSyntax_fail

theorem ofSyntax_isNext (token : Token) : OfSyntax (isNext token) :=
  ofSyntax_peek.bind fun _ => ofSyntax_pure _

theorem ofSyntax_skip (token : Token) : OfSyntax (skip token) := by
  refine (ofSyntax_isNext token).bind fun isNext => ?_
  split
  · exact ofSyntax_take.bind fun _ => ofSyntax_pure _
  · exact ofSyntax_pure _

theorem ofSyntax_guard (depth : Nat) : OfSyntax (guard depth) := by
  unfold guard
  split
  · exact ofSyntax_fail
  · exact ofSyntax_pure _

theorem ofSyntax_moreText (fuel : Nat) (text : String) : OfSyntax (moreText fuel text) := by
  induction fuel generalizing text with
  | zero => exact ofSyntax_pure _
  | succ fuel ih =>
    refine ofSyntax_get.bind fun cursor => ?_
    split
    · exact ofSyntax_take.bind fun _ => ih _
    · exact ofSyntax_pure _
    · exact (ofSyntax_modify _).bind fun _ => ofSyntax_pure _

theorem ofSyntax_dottedName (fuel : Nat) : OfSyntax (dottedName fuel) := by
  induction fuel with
  | zero => exact ofSyntax_fail
  | succ fuel ih =>
    refine ofSyntax_name.bind fun first => (ofSyntax_skip _).bind fun dotted => ?_
    split
    · exact ih.bind fun _ => ofSyntax_pure _
    · exact ofSyntax_pure _

end Parts

/-! ### Expressions -/

/-- The parts that read expressions with some fuel give up only for problems of syntax. -/
structure ExprOfSyntax (fuel : Nat) : Prop where
  expr : ∀ depth, OfSyntax (expr fuel depth)
  choices : ∀ depth start yes, OfSyntax (choices fuel depth start yes)
  operation : ∀ depth level, OfSyntax (operation fuel depth level)
  operators : ∀ depth level start left, OfSyntax (operators fuel depth level start left)
  comparisons : ∀ depth, OfSyntax (comparisons fuel depth)
  primary : ∀ depth, OfSyntax (primary fuel depth)
  group : ∀ depth start, OfSyntax (group fuel depth start)
  items : ∀ depth close count, OfSyntax (items fuel depth close count)
  entries : ∀ depth first, OfSyntax (entries fuel depth first)
  postfixes : ∀ depth start subject, OfSyntax (postfixes fuel depth start subject)
  subscript : ∀ depth start subject, OfSyntax (subscript fuel depth start subject)
  arguments : ∀ depth count named, OfSyntax (arguments fuel depth count named)
  argument : ∀ depth, OfSyntax (argument fuel depth)
  filters : ∀ depth subject, OfSyntax (filters fuel depth subject)

namespace ExprOfSyntax

theorem zero : ExprOfSyntax 0 := by
  constructor <;> intros <;>
    simp only [Reading.expr, Reading.choices, Reading.operation, Reading.operators,
      Reading.comparisons, Reading.primary, Reading.group, Reading.items, Reading.entries,
      Reading.postfixes, Reading.subscript, Reading.arguments, Reading.argument, Reading.filters,
      ofSyntax_fail]

variable {fuel : Nat} (less : ExprOfSyntax fuel)

include less

theorem expr_succ (depth : Nat) : OfSyntax (Reading.expr (fuel + 1) depth) := by
  rw [Reading.expr]
  exact (ofSyntax_guard _).bind fun _ => ofSyntax_line.bind fun start =>
    (less.operation _ 0).bind fun first => less.choices _ start first

theorem choices_succ (depth start : Nat) (yes : Expr) :
    OfSyntax (Reading.choices (fuel + 1) depth start yes) := by
  rw [Reading.choices]
  refine (ofSyntax_skip _).bind fun conditional => ?_
  split
  · refine (less.operation _ _).bind fun condition => (ofSyntax_skip _).bind fun other => ?_
    extract_lets goOn
    have others : ∀ no, OfSyntax (goOn no) := fun no =>
      ofSyntax_line.bind fun _ => less.choices _ _ _
    split
    · exact ofSyntax_line.bind fun _ => (less.operation _ _).bind fun _ =>
        ((less.choices _ _ _).map some).bind others
    · exact (ofSyntax_pure _).bind others
  · exact ofSyntax_pure _

theorem operation_succ (depth level : Nat) :
    OfSyntax (Reading.operation (fuel + 1) depth level) := by
  rw [Reading.operation]
  refine ofSyntax_line.bind fun start => ?_
  split
  · refine (ofSyntax_skip _).bind fun negated => ?_
    split
    · exact (less.operation _ _).bind fun _ => ofSyntax_pure _
    · exact less.operation _ _
  · split
    · refine (less.operation _ _).bind fun first => (less.comparisons _).bind fun rest => ?_
      split
      · exact ofSyntax_pure _
      · exact ofSyntax_pure _
    · split
      · exact (less.primary _).bind fun _ => (less.postfixes _ _ _).bind fun _ => less.filters _ _
      · exact (less.operation _ _).bind fun _ => less.operators _ _ _ _

theorem operators_succ (depth level start : Nat) (left : Expr) :
    OfSyntax (Reading.operators (fuel + 1) depth level start left) := by
  rw [Reading.operators]
  refine ofSyntax_peek.bind fun found => ?_
  split
  · exact ofSyntax_take.bind fun _ => (less.operation _ _).bind fun _ => less.operators _ _ _ _
  · exact ofSyntax_pure _

theorem comparisons_succ (depth : Nat) : OfSyntax (Reading.comparisons (fuel + 1) depth) := by
  rw [Reading.comparisons]
  refine ofSyntax_peek.bind fun next => ?_
  extract_lets goOn
  have others : ∀ found, OfSyntax (goOn found) := by
    intro found
    cases found with
    | none => exact ofSyntax_pure _
    | some comparison =>
      exact (less.operation _ _).bind fun _ => (less.comparisons _).bind fun _ => ofSyntax_pure _
  split
  · exact ofSyntax_take.bind fun _ => (ofSyntax_expect _).bind fun _ =>
      (ofSyntax_pure _).bind others
  · split
    · exact ofSyntax_take.bind fun _ => (ofSyntax_pure _).bind others
    · exact (ofSyntax_pure _).bind others

theorem primary_succ (depth : Nat) : OfSyntax (Reading.primary (fuel + 1) depth) := by
  rw [Reading.primary]
  refine ofSyntax_line.bind fun start => (ofSyntax_skip _).bind fun negative => ?_
  split
  · exact (less.primary _).bind fun _ => ofSyntax_pure _
  · refine (ofSyntax_guard _).bind fun _ => ofSyntax_must.bind fun token => ?_
    split
    · split
      · exact ofSyntax_pure _
      · exact ofSyntax_pure _
    · exact (ofSyntax_moreText _ _).bind fun _ => ofSyntax_pure _
    · exact ofSyntax_pure _
    · exact ofSyntax_pure _
    · exact less.group _ _
    · exact (less.items _ _ _).bind fun _ => ofSyntax_pure _
    · exact (less.entries _ _).bind fun _ => ofSyntax_pure _
    · exact ofSyntax_fail

theorem group_succ (depth start : Nat) : OfSyntax (Reading.group (fuel + 1) depth start) := by
  rw [Reading.group]
  refine (ofSyntax_skip _).bind fun closed => ?_
  split
  · exact ofSyntax_pure _
  · refine (less.expr _).bind fun first => (ofSyntax_skip _).bind fun listed => ?_
    split
    · exact (less.items _ _ _).bind fun _ => ofSyntax_pure _
    · exact (ofSyntax_expect _).bind fun _ => ofSyntax_pure _

theorem items_succ (depth : Nat) (close : Token) (count : Nat) :
    OfSyntax (Reading.items (fuel + 1) depth close count) := by
  rw [Reading.items]
  refine (ofSyntax_skip _).bind fun closed => ?_
  split
  · exact ofSyntax_pure _
  · extract_lets goOn
    have others : ∀ ended, OfSyntax (goOn ended) := by
      intro ended
      cases ended with
      | true => exact ofSyntax_pure _
      | false =>
        exact (less.expr _).bind fun _ => (less.items _ _ _).bind fun _ => ofSyntax_pure _
    split
    · exact (ofSyntax_pure _).bind others
    · exact (ofSyntax_expect _).bind fun _ => (ofSyntax_skip _).bind others

theorem entries_succ (depth : Nat) (first : Bool) :
    OfSyntax (Reading.entries (fuel + 1) depth first) := by
  rw [Reading.entries]
  refine (ofSyntax_skip _).bind fun closed => ?_
  split
  · exact ofSyntax_pure _
  · extract_lets goOn
    have others : ∀ ended, OfSyntax (goOn ended) := by
      intro ended
      cases ended with
      | true => exact ofSyntax_pure _
      | false =>
        exact (less.expr _).bind fun _ => (ofSyntax_expect _).bind fun _ =>
          (less.expr _).bind fun _ => (less.entries _ _).bind fun _ => ofSyntax_pure _
    split
    · exact (ofSyntax_pure _).bind others
    · exact (ofSyntax_expect _).bind fun _ => (ofSyntax_skip _).bind others

theorem postfixes_succ (depth start : Nat) (subject : Expr) :
    OfSyntax (Reading.postfixes (fuel + 1) depth start subject) := by
  rw [Reading.postfixes]
  refine ofSyntax_peek.bind fun next => ?_
  split
  · refine ofSyntax_take.bind fun _ => ofSyntax_line.bind fun own =>
      ofSyntax_must.bind fun token => ?_
    split
    · exact less.postfixes _ _ _
    · exact less.postfixes _ _ _
    · exact ofSyntax_fail
  · exact ofSyntax_take.bind fun _ => (less.subscript _ _ _).bind fun _ => less.postfixes _ _ _
  · exact ofSyntax_take.bind fun _ => (less.arguments _ _ _).bind fun _ => less.postfixes _ _ _
  · exact ofSyntax_pure _

theorem subscript_succ (depth start : Nat) (subject : Expr) :
    OfSyntax (Reading.subscript (fuel + 1) depth start subject) := by
  rw [Reading.subscript]
  refine (ofSyntax_isNext _).bind fun plain => ?_
  extract_lets goOn
  have others : ∀ first, OfSyntax (goOn first) := by
    intro first
    refine (ofSyntax_skip _).bind fun sliced => ?_
    split
    · refine (ofSyntax_isNext _).bind fun _ => (ofSyntax_isNext _).bind fun _ => ?_
      extract_lets afterStop
      have stopped : ∀ stop, OfSyntax (afterStop stop) := by
        intro stop
        refine (ofSyntax_skip _).bind fun stepped => ?_
        extract_lets afterStep
        have closed : ∀ step, OfSyntax (afterStep step) := fun _ =>
          (ofSyntax_expect _).bind fun _ => ofSyntax_pure _
        split
        · refine (ofSyntax_isNext _).bind fun ended => ?_
          split
          · exact (ofSyntax_pure _).bind closed
          · exact ((less.expr _).map some).bind closed
        · exact (ofSyntax_pure _).bind closed
      split
      · exact (ofSyntax_pure _).bind stopped
      · exact ((less.expr _).map some).bind stopped
    · refine (ofSyntax_expect _).bind fun _ => ?_
      split
      · exact ofSyntax_pure _
      · exact ofSyntax_fail
  split
  · exact (ofSyntax_pure _).bind others
  · exact ((less.expr _).map some).bind others

theorem arguments_succ (depth count : Nat) (named : Bool) :
    OfSyntax (Reading.arguments (fuel + 1) depth count named) := by
  rw [Reading.arguments]
  refine (ofSyntax_skip _).bind fun closed => ?_
  split
  · exact ofSyntax_pure _
  · extract_lets goOn
    have others : ∀ ended, OfSyntax (goOn ended) := by
      intro ended
      cases ended with
      | true => exact ofSyntax_pure _
      | false =>
        refine (less.argument _).bind fun argument => ?_
        extract_lets named goOn
        have more : OfSyntax (goOn ()) :=
          (less.arguments _ _ _).bind fun _ => ofSyntax_pure _
        split
        · exact ofSyntax_ite_bind ofSyntax_fail more
        · exact more
    split
    · exact (ofSyntax_pure _).bind others
    · exact (ofSyntax_expect _).bind fun _ => (ofSyntax_skip _).bind others

theorem argument_succ (depth : Nat) : OfSyntax (Reading.argument (fuel + 1) depth) := by
  rw [Reading.argument]
  refine (ofSyntax_skip _).bind fun entries => ?_
  split
  · exact (less.expr _).map _
  · refine (ofSyntax_skip _).bind fun items => ?_
    split
    · exact (less.expr _).map _
    · refine (less.expr _).bind fun value => ?_
      split
      · refine (ofSyntax_skip _).bind fun assigned => ?_
        split
        · exact (less.expr _).map _
        · exact ofSyntax_pure _
      · exact ofSyntax_pure _

theorem filters_succ (depth : Nat) (subject : Expr) :
    OfSyntax (Reading.filters (fuel + 1) depth subject) := by
  rw [Reading.filters]
  refine ofSyntax_peek.bind fun next => ?_
  split
  · refine ofSyntax_take.bind fun _ => ofSyntax_line.bind fun _ =>
      (ofSyntax_dottedName _).bind fun _ => (ofSyntax_skip _).bind fun called => ?_
    extract_lets goOn
    have others : ∀ arguments, OfSyntax (goOn arguments) := fun _ => less.filters _ _
    split
    · exact (less.arguments _ _ _).bind others
    · exact (ofSyntax_pure _).bind others
  · refine ofSyntax_take.bind fun _ => (ofSyntax_skip _).bind fun negated =>
      ofSyntax_line.bind fun _ => (ofSyntax_dottedName _).bind fun _ =>
        (ofSyntax_skip _).bind fun called => ?_
    extract_lets goOn
    have others : ∀ arguments, OfSyntax (goOn arguments) := fun _ => less.filters _ _
    split
    · exact ofSyntax_peek.bind fun _ => (less.arguments _ _ _).bind others
    · refine ofSyntax_peek.bind fun argument => ?_
      split
      · exact ofSyntax_line.bind fun _ => (less.primary _).bind fun _ =>
          (less.postfixes _ _ _).bind fun _ => (ofSyntax_pure _).bind others
      · exact (ofSyntax_pure _).bind others
  · exact ofSyntax_pure _

omit less

theorem all (fuel : Nat) : ExprOfSyntax fuel := by
  induction fuel with
  | zero => exact zero
  | succ fuel less =>
    exact {
      expr := less.expr_succ
      choices := less.choices_succ
      operation := less.operation_succ
      operators := less.operators_succ
      comparisons := less.comparisons_succ
      primary := less.primary_succ
      group := less.group_succ
      items := less.items_succ
      entries := less.entries_succ
      postfixes := less.postfixes_succ
      subscript := less.subscript_succ
      arguments := less.arguments_succ
      argument := less.argument_succ
      filters := less.filters_succ }

end ExprOfSyntax

theorem ofSyntax_expr (fuel depth : Nat) : OfSyntax (expr fuel depth) :=
  (ExprOfSyntax.all fuel).expr depth

theorem ofSyntax_operation (fuel depth level : Nat) : OfSyntax (operation fuel depth level) :=
  (ExprOfSyntax.all fuel).operation depth level

theorem ofSyntax_arguments (fuel depth count : Nat) (named : Bool) :
    OfSyntax (arguments fuel depth count named) :=
  (ExprOfSyntax.all fuel).arguments depth count named

/-! ### Targets, bindings and filters of blocks -/

theorem ofSyntax_boundName : OfSyntax boundName := by
  refine ofSyntax_name.bind fun found => ?_
  split
  · exact ofSyntax_fail
  · exact ofSyntax_pure _

theorem ofSyntax_boundFields (fuel start : Nat) (subject : Expr) :
    OfSyntax (boundFields fuel start subject) := by
  induction fuel generalizing subject with
  | zero => exact ofSyntax_fail
  | succ fuel ih =>
    refine ofSyntax_take.bind fun _ => ofSyntax_name.bind fun _ =>
      (ofSyntax_isNext _).bind fun dotted => ?_
    split
    · exact ih _
    · exact ofSyntax_pure _

theorem ofSyntax_boundPlace (fuel : Nat) : OfSyntax (boundPlace fuel) := by
  refine ofSyntax_line.bind fun _ => ofSyntax_boundName.bind fun _ =>
    (ofSyntax_isNext _).bind fun dotted => ?_
  split
  · exact ofSyntax_boundFields _ _ _
  · exact ofSyntax_pure _

/-- Targets and lists of targets contain each other. -/
theorem ofSyntax_targets (fuel : Nat) :
    OfSyntax (target fuel) ∧ ∀ count, OfSyntax (targets fuel count) := by
  induction fuel with
  | zero =>
    constructor
    · rw [target]
      exact ofSyntax_fail
    · intro count
      rw [targets]
      exact ofSyntax_fail
  | succ fuel ih =>
    obtain ⟨inner, others⟩ := ih
    constructor
    · rw [target]
      refine ofSyntax_line.bind fun _ => (others 0).bind fun found => ?_
      split
      split
      · exact ofSyntax_pure _
      · exact ofSyntax_pure _
    · intro count
      rw [targets]
      refine ofSyntax_ite_bind (ofSyntax_expect _) (ofSyntax_peek.bind fun next => ?_)
      split
      · exact ofSyntax_pure _
      · refine (ofSyntax_skip _).bind fun grouped => ?_
        extract_lets goOn
        have more : ∀ first, OfSyntax (goOn first) := by
          intro first
          refine (ofSyntax_isNext _).bind fun comma => ?_
          split
          · exact (others _).bind fun _ => ofSyntax_pure _
          · exact ofSyntax_pure _
        split
        · exact inner.bind fun _ => (ofSyntax_expect _).bind fun _ => (ofSyntax_pure _).bind more
        · exact (ofSyntax_boundName.map _).bind more

theorem ofSyntax_settable (fuel : Nat) : OfSyntax (settable fuel) := by
  obtain ⟨inner, others⟩ := ofSyntax_targets fuel
  refine ofSyntax_line.bind fun _ => (ofSyntax_skip _).bind fun grouped => ?_
  extract_lets goOn
  have more : ∀ first, OfSyntax (goOn first) := by
    intro first
    refine (ofSyntax_isNext _).bind fun comma => ?_
    split
    · exact (others _).bind fun _ => ofSyntax_pure _
    · exact ofSyntax_pure _
  split
  · exact inner.bind fun _ => (ofSyntax_expect _).bind fun _ => (ofSyntax_pure _).bind more
  · exact (ofSyntax_boundPlace _).bind more

theorem ofSyntax_moreListed (fuel depth : Nat) : OfSyntax (moreListed fuel depth) := by
  induction fuel with
  | zero => exact ofSyntax_fail
  | succ fuel ih =>
    refine (ofSyntax_skip _).bind fun more => ?_
    split
    · refine (ofSyntax_isNext _).bind fun ended => ?_
      split
      · exact ofSyntax_pure _
      · exact (ofSyntax_expr _ _).bind fun _ => ih.bind fun _ => ofSyntax_pure _
    · exact ofSyntax_pure _

theorem ofSyntax_listed (fuel depth : Nat) : OfSyntax (listed fuel depth) := by
  refine ofSyntax_line.bind fun _ => (ofSyntax_expr _ _).bind fun _ =>
    (ofSyntax_isNext _).bind fun more => ?_
  split
  · exact (ofSyntax_moreListed _ _).bind fun _ => ofSyntax_pure _
  · exact ofSyntax_pure _

theorem ofSyntax_blockFilters (fuel depth : Nat) (first : Bool) :
    OfSyntax (blockFilters fuel depth first) := by
  induction fuel generalizing first with
  | zero => exact ofSyntax_fail
  | succ fuel ih =>
    refine (ofSyntax_isNext _).bind fun ended => ?_
    split
    · split
      · exact ofSyntax_fail
      · exact ofSyntax_pure _
    · refine ofSyntax_ite_bind (ofSyntax_expect _) ?_
      refine ofSyntax_line.bind fun _ => (ofSyntax_dottedName _).bind fun _ =>
        (ofSyntax_skip _).bind fun called => ?_
      extract_lets goOn
      have more : ∀ arguments, OfSyntax (goOn arguments) := fun _ =>
        (ih _).bind fun _ => ofSyntax_pure _
      split
      · exact (ofSyntax_arguments _ _ _ _).bind more
      · exact (ofSyntax_pure _).bind more

theorem ofSyntax_parameters (fuel depth count : Nat) (defaulted : Bool) :
    OfSyntax (parameters fuel depth count defaulted) := by
  induction fuel generalizing count defaulted with
  | zero => exact ofSyntax_fail
  | succ fuel ih =>
    refine (ofSyntax_skip _).bind fun closed => ?_
    split
    · exact ofSyntax_pure _
    · extract_lets goOn
      have more : ∀ ended, OfSyntax (goOn ended) := by
        intro ended
        cases ended with
        | true => exact ofSyntax_pure _
        | false =>
          refine ofSyntax_boundName.bind fun _ => (ofSyntax_skip _).bind fun assigned => ?_
          split
          · exact (ofSyntax_expr _ _).bind fun _ => (ih _ _).bind fun _ => ofSyntax_pure _
          · exact ofSyntax_ite_bind (ofSyntax_expect _) ((ih _ _).bind fun _ => ofSyntax_pure _)
      split
      · exact (ofSyntax_pure _).bind more
      · exact (ofSyntax_expect _).bind fun _ => (ofSyntax_skip _).bind more

theorem ofSyntax_bindings (fuel depth : Nat) (first : Bool) :
    OfSyntax (bindings fuel depth first) := by
  induction fuel generalizing first with
  | zero => exact ofSyntax_fail
  | succ fuel ih =>
    refine (ofSyntax_isNext _).bind fun ended => ?_
    split
    · exact ofSyntax_pure _
    · refine ofSyntax_ite_bind (ofSyntax_expect _) ((ofSyntax_skip _).bind fun grouped => ?_)
      extract_lets goOn
      have more : ∀ bound, OfSyntax (goOn bound) := fun _ =>
        (ofSyntax_expect _).bind fun _ => (ofSyntax_expr _ _).bind fun _ =>
          (ih _).bind fun _ => ofSyntax_pure _
      split
      · exact (ofSyntax_targets fuel).1.bind fun _ => (ofSyntax_expect _).bind fun _ =>
          (ofSyntax_pure _).bind more
      · exact (ofSyntax_boundName.map _).bind more

theorem ofSyntax_context : OfSyntax context := by
  refine (ofSyntax_skip _).bind fun _ => (ofSyntax_skip _).bind fun _ => ?_
  split
  · exact ofSyntax_expect _
  · exact ofSyntax_pure _

/-! ### Statements -/

/-- The parts that read statements with some fuel give up only for problems of syntax. -/
structure StmtOfSyntax (fuel : Nat) : Prop where
  body : ∀ depth ends, OfSyntax (body fuel depth ends)
  statementAndBody : ∀ depth ends, OfSyntax (statementAndBody fuel depth ends)
  statement : ∀ depth, OfSyntax (statement fuel depth)
  branches : ∀ depth start, OfSyntax (branches fuel depth start)

namespace StmtOfSyntax

theorem zero : StmtOfSyntax 0 := by
  constructor <;> intros <;>
    simp only [Reading.body, Reading.statementAndBody, Reading.statement, Reading.branches,
      ofSyntax_fail]

variable {fuel : Nat} (less : StmtOfSyntax fuel)

include less

theorem body_succ (depth : Nat) (ends : List String) :
    OfSyntax (Reading.body (fuel + 1) depth ends) := by
  rw [Reading.body]
  refine ofSyntax_line.bind fun start => ofSyntax_take.bind fun token => ?_
  split
  · exact ofSyntax_pure _
  · exact (less.body _ _).bind fun _ => ofSyntax_pure _
  · exact (ofSyntax_expr _ _).bind fun _ => (ofSyntax_expect _).bind fun _ =>
      (less.body _ _).bind fun _ => ofSyntax_pure _
  · refine ofSyntax_peek.bind fun next => ?_
    split
    · exact ofSyntax_fail
    · split
      · exact ofSyntax_pure _
      · exact less.statementAndBody _ _
    · exact less.statementAndBody _ _
  · exact ofSyntax_fail

theorem statementAndBody_succ (depth : Nat) (ends : List String) :
    OfSyntax (Reading.statementAndBody (fuel + 1) depth ends) := by
  rw [Reading.statementAndBody]
  exact (less.statement _).bind fun _ => (ofSyntax_expect _).bind fun _ =>
    (less.body _ _).bind fun _ => ofSyntax_pure _

theorem branches_succ (depth start : Nat) :
    OfSyntax (Reading.branches (fuel + 1) depth start) := by
  rw [Reading.branches]
  refine (ofSyntax_operation _ _ _).bind fun _ => (ofSyntax_expect _).bind fun _ =>
    (less.body _ _).bind fun _ => ofSyntax_line.bind fun _ => ofSyntax_take.bind fun token => ?_
  split
  · exact (ofSyntax_expect _).bind fun _ => (less.body _ _).bind fun _ =>
      ofSyntax_take.bind fun _ => ofSyntax_pure _
  · exact (less.branches _ _).bind fun _ => ofSyntax_pure _
  · exact ofSyntax_pure _

/-- The body of a statement, up to the tag that ends it, and then the tag's keyword. -/
theorem inside {α : Type} {depth : Nat} {ends : List String} {finish : List Stmt → Reading α}
    (h : ∀ statements, OfSyntax (finish statements)) :
    OfSyntax (do
      expect .tagEnd
      let statements ← Reading.body fuel depth ends
      let _ ← take
      finish statements) :=
  (ofSyntax_expect _).bind fun _ => (less.body _ _).bind fun statements =>
    ofSyntax_take.bind fun _ => h statements

theorem statement_succ (depth : Nat) : OfSyntax (Reading.statement (fuel + 1) depth) := by
  rw [Reading.statement]
  refine (ofSyntax_guard _).bind fun _ => ofSyntax_line.bind fun start =>
    ofSyntax_must.bind fun token => ?_
  split
  · refine (ofSyntax_targets fuel).1.bind fun bound => (ofSyntax_expect _).bind fun _ =>
      (ofSyntax_operation _ _ _).bind fun subject => (ofSyntax_skip _).bind fun chosen => ?_
    extract_lets goOn
    have rounds : ∀ condition, OfSyntax (goOn condition) := by
      intro condition
      refine (ofSyntax_skip _).bind fun recursive => (ofSyntax_expect _).bind fun _ =>
        (less.body _ _).bind fun statements => (ofSyntax_skip _).bind fun other => ?_
      split
      · exact less.inside fun _ => ofSyntax_pure _
      · exact ofSyntax_take.bind fun _ => ofSyntax_pure _
    split
    · exact ((ofSyntax_expr _ _).map some).bind rounds
    · exact (ofSyntax_pure _).bind rounds
  · exact less.branches _ _
  · exact (ofSyntax_bindings _ _ _).bind fun _ => less.inside fun _ => ofSyntax_pure _
  · refine (ofSyntax_isNext _).bind fun grouped => (ofSyntax_settable _).bind fun bound =>
      (ofSyntax_isNext _).bind fun ended => (ofSyntax_skip _).bind fun piped => ?_
    extract_lets goOn
    have others : ∀ filters, OfSyntax (goOn filters) := by
      intro filters
      cases filters with
      | some filters => exact less.inside fun _ => ofSyntax_pure _
      | none =>
        exact (ofSyntax_expect _).bind fun _ => (ofSyntax_listed _ _).bind fun _ => ofSyntax_pure _
    split
    · exact (ofSyntax_pure _).bind others
    · split
      · exact (ofSyntax_pure _).bind others
      · split
        · exact ((ofSyntax_blockFilters _ _ _).map some).bind others
        · exact (ofSyntax_pure _).bind others
  · exact (ofSyntax_blockFilters _ _ _).bind fun _ => less.inside fun _ => ofSyntax_pure _
  · exact ofSyntax_name.bind fun _ => (ofSyntax_expect _).bind fun _ =>
      (ofSyntax_parameters _ _ _ _).bind fun _ => less.inside fun _ => ofSyntax_pure _
  · refine (ofSyntax_expr _ _).bind fun page => ofSyntax_context.bind fun _ =>
      (ofSyntax_skip _).bind fun optional => ?_
    split
    · exact (ofSyntax_expect _).bind fun _ => ofSyntax_context.bind fun _ => ofSyntax_pure _
    · exact ofSyntax_pure _
  · exact (ofSyntax_expr _ _).bind fun _ => ofSyntax_pure _
  · exact ofSyntax_fail

omit less

theorem all (fuel : Nat) : StmtOfSyntax fuel := by
  induction fuel with
  | zero => exact zero
  | succ fuel less =>
    exact ⟨less.body_succ, less.statementAndBody_succ, less.statement_succ, less.branches_succ⟩

end StmtOfSyntax

/-- A page that cannot be read has a problem of syntax. -/
theorem ofSyntax_page (scan : Scan) :
    FaultsIn (fun rejection : Rejection => rejection.kind.isSyntax = true) (page scan) :=
  ((StmtOfSyntax.all _).body 0 [] _).map _

end Templating.Page.Reading
