import Mathlib.Data.List.Forall2
import Templating.Proofs.Calling.PageTokens
import Templating.Proofs.Printing.PageRead

/-! Reading a printed call on a page: each operand is a variable or a constant, and the call holds
them in order, by their places. -/

namespace Templating

/-- Variables with a name that is none of the words. -/
def Operand.Outside (words : List String) : Operand → Prop
  | .var name => name ∉ words
  | .text _ => True

instance (words : List String) : (operand : Operand) → Decidable (operand.Outside words)
  | .var name => inferInstanceAs (Decidable (name ∉ words))
  | .text _ => inferInstanceAs (Decidable True)

namespace Page

/-- The expression that an operand is at a line. -/
def operandExpr (line : Nat) : Operand → Expr
  | .var name => .var line name
  | .text text => .const line (.text text)

/-- Arguments by place with the operands of a call, whatever lines they are on. -/
def Places : List Labelled → List Argument → Prop :=
  List.Forall₂ fun argument place => ∃ line, place = .place (operandExpr line argument.operand)

namespace Reading

section Operand

variable {stop lexeme : Lexeme} {rest : List Lexeme} {last fuel depth count own : Nat}
  {text : String} {operand : Operand} {arguments : List Labelled}

theorem moreText_stop (h : stop.token ∈ stops) :
    moreText fuel text (beforeStop stop rest last) = .ok (text, beforeStop stop rest last) := by
  cases fuel with
  | zero => rfl
  | succ fuel =>
    obtain ⟨token, line⟩ := stop
    simp only [stops, List.mem_cons, List.not_mem_nil, or_false] at h
    rcases h with rfl | rfl | rfl <;> rfl

theorem primary_text (h : stop.token ∈ stops) (shallow : depth < deepest) :
    primary (fuel + 1) depth ⟨⟨.text text, own⟩ :: stop :: rest, none, last⟩ =
      .ok (.const own (.text text), beforeStop stop rest own) := by
  have noMinus : skip (.mark .minus) ⟨⟨.text text, own⟩ :: stop :: rest, none, last⟩ =
      .ok (false, ⟨⟨.text text, own⟩ :: stop :: rest, none, last⟩) := skip_of_ne nofun
  rw [primary, bind_of_ok _ line_cons, bind_of_ok _ noMinus]
  dsimp only
  rw [if_neg Bool.false_ne_true, bind_of_ok _ (guard_of_le shallow), bind_of_ok _ must_cons]
  dsimp only
  rw [bind_of_ok _ (moreText_stop h)]
  rfl

theorem expr_operand (outside : operand.Outside keywords) (h : stop.token ∈ stops)
    (shallow : depth + 1 < deepest) :
    expr (fuel + 11) depth ⟨⟨operandToken operand, own⟩ :: stop :: rest, none, last⟩ =
      .ok (operandExpr own operand, beforeStop stop rest own) := by
  cases operand with
  | var name => exact expr_name outside h shallow
  | text text =>
    refine expr_alone h nofun (Nat.le_of_lt shallow) ?_
    rw [operation, bind_of_ok _ line_cons]
    rw [if_neg (by decide), if_neg (by decide), if_pos rfl, operandToken,
      bind_of_ok _ (primary_text h shallow), bind_of_ok _ (postfixes_stop h _), filters_stop h]
    rfl

/-- An operand before the end of an argument is an argument by place: no name is bound to it, and
nothing is spread. -/
theorem argument_operand (outside : operand.Outside keywords) (h : stop.token ∈ stops)
    (shallow : depth + 1 < deepest) :
    argument (fuel + 12) depth ⟨⟨operandToken operand, own⟩ :: stop :: rest, none, last⟩ =
      .ok (.place (operandExpr own operand), beforeStop stop rest own) := by
  have noPower : skip (.mark .power) ⟨⟨operandToken operand, own⟩ :: stop :: rest, none, last⟩ =
      .ok (false, ⟨⟨operandToken operand, own⟩ :: stop :: rest, none, last⟩) :=
    skip_of_ne (by cases operand <;> nofun)
  have noStar : skip (.mark .star) ⟨⟨operandToken operand, own⟩ :: stop :: rest, none, last⟩ =
      .ok (false, ⟨⟨operandToken operand, own⟩ :: stop :: rest, none, last⟩) :=
    skip_of_ne (by cases operand <;> nofun)
  have noAssign : skip (.mark .assign) (beforeStop stop rest own) =
      .ok (false, beforeStop stop rest own) := skip_beforeStop h (by decide)
  rw [argument, bind_of_ok _ noPower, if_neg Bool.false_ne_true, bind_of_ok _ noStar,
    if_neg Bool.false_ne_true, bind_of_ok _ (expr_operand outside h shallow)]
  cases operand with
  | var name =>
    simp only [operandExpr]
    rw [bind_of_ok _ noAssign, if_neg Bool.false_ne_true]
    rfl
  | text text => rfl

theorem skip_cons :
    skip lexeme.token ⟨lexeme :: rest, none, last⟩ = .ok (true, ⟨rest, none, lexeme.line⟩) := by
  have same : (some lexeme.token == some lexeme.token) = true := beq_self_eq_true _
  have next : isNext lexeme.token ⟨lexeme :: rest, none, last⟩ =
      .ok (true, ⟨lexeme :: rest, none, last⟩) := by
    rw [isNext, bind_of_ok _ peek_cons, same]
    rfl
  rw [skip, bind_of_ok _ next, if_pos rfl, bind_of_ok _ take_cons]
  rfl

end Operand

section Call

variable {before rest : List Lexeme} {last own fuel depth count : Nat} {arguments : List Labelled}

theorem arguments_close {named : Bool} :
    Reading.arguments (fuel + 1) depth count named ⟨⟨.mark .parenClose, own⟩ :: rest, none, last⟩ =
      .ok ([], ⟨rest, none, own⟩) := by
  have close : skip (.mark .parenClose) ⟨⟨.mark .parenClose, own⟩ :: rest, none, last⟩ =
      .ok (true, ⟨rest, none, own⟩) := skip_cons
  rw [Reading.arguments, bind_of_ok _ close, if_pos rfl]
  rfl

theorem skip_operand {operand : Operand} :
    skip (.mark .parenClose) ⟨⟨operandToken operand, own⟩ :: rest, none, last⟩ =
      .ok (false, ⟨⟨operandToken operand, own⟩ :: rest, none, last⟩) :=
  skip_of_ne (by cases operand <;> nofun)

/-- What has to stand before an argument: a comma, unless the argument is the first. -/
inductive Leads : (count : Nat) → (lead : List Lexeme) → (last after : Nat) → Prop where
  | first (last : Nat) : Leads 0 [] last last
  | comma (count line last : Nat) : Leads (count + 1) [⟨.mark .comma, line⟩] last line

/-- Where an operand stands, it is read as an argument, and the others after it. -/
theorem arguments_operand {operand : Operand} {stop : Lexeme} {places : List Argument}
    {lead : List Lexeme} {after : Cursor} {start : Nat} (leads : Leads count lead start last)
    (outside : operand.Outside keywords) (h : stop.token ∈ stops) (shallow : depth + 1 < deepest)
    (others : Reading.arguments (fuel + 12) depth (count + 1) false (beforeStop stop rest own) =
      .ok (places, after)) :
    Reading.arguments (fuel + 13) depth count false
        ⟨lead ++ ⟨operandToken operand, own⟩ :: stop :: rest, none, start⟩ =
      .ok (.place (operandExpr own operand) :: places, after) := by
  have named : (false || (Argument.place (operandExpr own operand)).isNamed) = false := rfl
  have read : argument (fuel + 12) depth ⟨⟨operandToken operand, own⟩ :: stop :: rest, none, last⟩ =
      .ok (.place (operandExpr own operand), beforeStop stop rest own) :=
    argument_operand outside h shallow
  rw [Reading.arguments]
  cases leads with
  | first =>
    rw [List.nil_append, bind_of_ok _ skip_operand, if_neg Bool.false_ne_true, if_pos rfl]
    refine (bind_of_ok _ rfl).trans ?_
    dsimp only
    rw [if_neg Bool.false_ne_true, bind_of_ok _ read]
    simp only [named, Bool.false_eq_true, if_false]
    exact bind_of_ok _ others
  | comma =>
    have goesOn : ∀ lexemes, skip (.mark .parenClose) ⟨⟨.mark .comma, last⟩ :: lexemes, none, start⟩ =
        .ok (false, ⟨⟨.mark .comma, last⟩ :: lexemes, none, start⟩) := by
      intro lexemes
      exact skip_of_ne (by intro same; cases same)
    have comma : ∀ lexemes, expect (.mark .comma) ⟨⟨.mark .comma, last⟩ :: lexemes, none, start⟩ =
        .ok ((), ⟨lexemes, none, last⟩) := fun _ => expect_cons
    rw [List.singleton_append, bind_of_ok _ (goesOn _), if_neg Bool.false_ne_true,
      if_neg (Nat.succ_ne_zero _), bind_of_ok _ (comma _), bind_of_ok _ skip_operand]
    dsimp only
    rw [if_neg Bool.false_ne_true, bind_of_ok _ read]
    simp only [named, Bool.false_eq_true, if_false]
    exact bind_of_ok _ others

/-- What stands after an operand of a call is a comma or the end of the call. -/
theorem moreTokens_stop (spelled : before.map Lexeme.token = moreTokens arguments) :
    ∃ stop others, before = stop :: others ∧ stop.token ∈ stops := by
  cases arguments with
  | nil =>
    obtain ⟨stop, others, rfl, same, -⟩ := List.map_eq_cons_iff.mp spelled
    exact ⟨stop, others, rfl, by rw [same]; decide⟩
  | cons argument more =>
    obtain ⟨stop, others, rfl, same, -⟩ := List.map_eq_cons_iff.mp spelled
    exact ⟨stop, others, rfl, by rw [same]; decide⟩

/-- By induction on the operands: each takes a step of the fuel, and twelve are enough to read it. -/
theorem arguments_more (spelled : before.map Lexeme.token = moreTokens arguments)
    (outside : ∀ argument ∈ arguments, argument.operand.Outside keywords)
    (shallow : depth + 1 < deepest) (fuel count last : Nat)
    (enough : arguments.length + 13 ≤ fuel) :
    ∃ places own, Reading.arguments fuel depth (count + 1) false ⟨before ++ rest, none, last⟩ =
      .ok (places, ⟨rest, none, own⟩) ∧ Places arguments places := by
  induction arguments generalizing before fuel count last with
  | nil =>
    obtain ⟨⟨_, own⟩, others, rfl, rfl, ending⟩ := List.map_eq_cons_iff.mp spelled
    obtain rfl := List.map_eq_nil_iff.mp ending
    obtain ⟨fuel, rfl⟩ : ∃ less, fuel = less + 1 := ⟨fuel - 1, by omega⟩
    exact ⟨[], own, arguments_close, .nil⟩
  | cons argument more ih =>
    obtain ⟨⟨_, comma⟩, _, rfl, rfl, others⟩ := List.map_eq_cons_iff.mp spelled
    obtain ⟨⟨_, line⟩, _, rfl, rfl, later⟩ := List.map_eq_cons_iff.mp others
    obtain ⟨fuel, rfl⟩ : ∃ less, fuel = less + 13 := ⟨fuel - 13, by omega⟩
    obtain ⟨stop, following, rfl, stops⟩ := moreTokens_stop later
    have size : more.length + 13 ≤ fuel + 12 := by
      rw [List.length_cons] at enough
      omega
    obtain ⟨places, own, read, same⟩ := ih later
      (fun other inMore => outside other (List.mem_cons_of_mem _ inMore)) (fuel + 12) (count + 1)
      line size
    exact ⟨_, own, arguments_operand (.comma count comma last)
      (outside argument List.mem_cons_self) stops shallow read, .cons ⟨line, rfl⟩ same⟩

theorem arguments_call (spelled : before.map Lexeme.token = argumentTokens arguments)
    (outside : ∀ argument ∈ arguments, argument.operand.Outside keywords)
    (shallow : depth + 1 < deepest) (enough : arguments.length + 13 ≤ fuel) :
    ∃ places own, Reading.arguments fuel depth 0 false ⟨before ++ rest, none, last⟩ =
      .ok (places, ⟨rest, none, own⟩) ∧ Places arguments places := by
  cases arguments with
  | nil =>
    obtain ⟨⟨_, own⟩, others, rfl, rfl, ending⟩ := List.map_eq_cons_iff.mp spelled
    obtain rfl := List.map_eq_nil_iff.mp ending
    obtain ⟨fuel, rfl⟩ : ∃ less, fuel = less + 1 := ⟨fuel - 1, by omega⟩
    exact ⟨[], own, arguments_close, .nil⟩
  | cons argument more =>
    obtain ⟨⟨_, line⟩, _, rfl, rfl, later⟩ := List.map_eq_cons_iff.mp spelled
    obtain ⟨fuel, rfl⟩ : ∃ less, fuel = less + 13 := ⟨fuel - 13, by omega⟩
    obtain ⟨stop, following, rfl, stops⟩ := moreTokens_stop later
    have size : more.length + 13 ≤ fuel + 12 := by
      rw [List.length_cons] at enough
      omega
    obtain ⟨places, own, read, same⟩ := arguments_more later
      (fun other inMore => outside other (List.mem_cons_of_mem _ inMore)) shallow (fuel + 12) 0
      line size
    exact ⟨_, own, arguments_operand (.first last) (outside argument List.mem_cons_self) stops
      shallow read, .cons ⟨line, rfl⟩ same⟩

/-- A name before parentheses is called, and the call is all of the expression. -/
theorem expr_call {callee : String} {stop : Lexeme} {line : Nat} (free : callee ∉ keywords)
    (spelled : before.map Lexeme.token = argumentTokens arguments)
    (outside : ∀ argument ∈ arguments, argument.operand.Outside keywords)
    (h : stop.token ∈ stops) (enough : arguments.length + 13 ≤ fuel) :
    ∃ places close, Places arguments places ∧
      expr (fuel + 11) 0
          ⟨⟨.name callee, own⟩ :: ⟨.mark .parenOpen, line⟩ :: (before ++ stop :: rest), none, last⟩ =
        .ok (.call own (.var own callee) places, beforeStop stop rest close) := by
  obtain ⟨places, close, read, same⟩ : ∃ places close,
      Reading.arguments fuel 1 0 false ⟨before ++ stop :: rest, none, line⟩ =
        .ok (places, beforeStop stop rest close) ∧ Places arguments places :=
    arguments_call spelled outside (by decide) enough
  obtain ⟨less, rfl⟩ : ∃ less, fuel = less + 1 := ⟨fuel - 1, by omega⟩
  have called : postfixes (less + 2) 1 own (.var own callee)
      ⟨⟨.mark .parenOpen, line⟩ :: (before ++ stop :: rest), none, own⟩ =
        .ok (.call own (.var own callee) places, beforeStop stop rest close) := by
    rw [postfixes, bind_of_ok _ peek_cons]
    dsimp only
    rw [bind_of_ok _ take_cons, bind_of_ok _ read, postfixes_stop h]
  refine ⟨places, close, same, expr_alone h (ne_not_of_free free) (by decide) ?_⟩
  rw [operation, bind_of_ok _ line_cons]
  rw [if_neg (by decide), if_neg (by decide), if_pos rfl,
    bind_of_ok _ (primary_name (constant?_of_free free) (by decide)), bind_of_ok _ called,
    filters_stop h]

end Call

end Reading

/-- A printed variable is read as a page with one statement. -/
theorem parse_variable {name : String} (named : Identifier name) (free : name ∉ keywords) :
    ∃ start own, parse (printTag name) = .ok [.print start (.var own name)] := by
  obtain ⟨lexemes, scanned, spelled⟩ := Scan.ofSource_variable named
  obtain ⟨⟨_, start⟩, _, rfl, rfl, inside⟩ := List.map_eq_cons_iff.mp spelled
  obtain ⟨⟨_, own⟩, _, rfl, rfl, ending⟩ := List.map_eq_cons_iff.mp inside
  obtain ⟨⟨_, stop⟩, _, rfl, rfl, nothing⟩ := List.map_eq_cons_iff.mp ending
  obtain rfl := List.map_eq_nil_iff.mp nothing
  exact ⟨start, own, parse_of_body scanned (Reading.body_variable free Reading.body_nil)⟩

theorem length_moreTokens (arguments : List Labelled) :
    (moreTokens arguments).length = 2 * arguments.length + 1 := by
  induction arguments with
  | nil => rfl
  | cons argument rest ih =>
    rw [moreTokens, List.length_cons, List.length_cons, List.length_cons, ih]
    omega

theorem length_le_argumentTokens (arguments : List Labelled) :
    arguments.length ≤ (argumentTokens arguments).length := by
  cases arguments with
  | nil => exact Nat.zero_le _
  | cons argument rest =>
    rw [argumentTokens, List.length_cons, List.length_cons, length_moreTokens]
    omega

/-- A printed call is read as a page with one statement. -/
theorem parse_call {invocation : Invocation} (named : Identifier invocation.callee)
    (free : invocation.callee ∉ keywords)
    (plain : ∀ argument ∈ invocation.arguments, argument.operand.Plain)
    (outside : ∀ argument ∈ invocation.arguments, argument.operand.Outside keywords) :
    ∃ start own places, Places invocation.arguments places ∧
      parse invocation.pageSource =
        .ok [.print start (.call own (.var own invocation.callee) places)] := by
  obtain ⟨lexemes, scanned, spelled⟩ := Scan.ofSource_call named plain
  obtain ⟨⟨_, start⟩, _, rfl, rfl, called⟩ := List.map_eq_cons_iff.mp spelled
  obtain ⟨⟨_, own⟩, _, rfl, rfl, opened⟩ := List.map_eq_cons_iff.mp called
  obtain ⟨⟨_, line⟩, _, rfl, rfl, inside⟩ := List.map_eq_cons_iff.mp opened
  obtain ⟨before, _, rfl, between, ending⟩ := List.map_eq_append_iff.mp inside
  obtain ⟨⟨_, stop⟩, _, rfl, rfl, nothing⟩ := List.map_eq_cons_iff.mp ending
  obtain rfl := List.map_eq_nil_iff.mp nothing
  have operands : invocation.arguments.length ≤ before.length := by
    rw [← List.length_map Lexeme.token, between]
    exact length_le_argumentTokens _
  have size : ∃ fuel, invocation.arguments.length + 13 ≤ fuel ∧
      Reading.enough (before.length + 4) = fuel + 12 := by
    refine ⟨Reading.enough (before.length + 4) - 12, ?_, ?_⟩ <;>
      · unfold Reading.enough
        omega
  obtain ⟨fuel, enough, fuelled⟩ := size
  let inside : List Lexeme := ⟨.name invocation.callee, own⟩ :: ⟨.mark .parenOpen, line⟩ :: before
  obtain ⟨places, close, same, read⟩ : ∃ places close, Places invocation.arguments places ∧
      Reading.expr (fuel + 11) 0 ⟨inside ++ [⟨.printEnd, stop⟩], none, start⟩ =
        .ok (.call own (.var own invocation.callee) places,
          Reading.beforeStop ⟨.printEnd, stop⟩ [] close) :=
    Reading.expr_call free between outside List.mem_cons_self enough
  let lexemes : List Lexeme := ⟨.printStart, start⟩ :: (inside ++ [⟨.printEnd, stop⟩])
  have page : Reading.body (Reading.enough lexemes.length) 0 [] ⟨lexemes, none, 1⟩ =
      .ok ([.print start (.call own (.var own invocation.callee) places)], ⟨[], none, stop⟩) := by
    rw [show lexemes.length = before.length + 4 by simp [lexemes, inside], fuelled]
    exact Reading.body_print read Reading.body_nil
  exact ⟨start, own, places, same, parse_of_body scanned page⟩

end Page

end Templating
