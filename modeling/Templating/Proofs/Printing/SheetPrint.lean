import Mathlib.Data.List.TakeDrop
import Mathlib.Data.List.TakeWhile
import Templating.Proofs.Printing.SheetRead
import Templating.Sheet.Template

/-! Rendering the sheet of a form: each part is one write, of its text or of the text that the data
binds to its name. -/

namespace Templating.Sheet

section Pointers

variable {name text : String}

theorem replaceAll_identifier (named : Identifier name) {part : String} (new : String)
    (h : part.toList.head?.any (!inIdentifier ·)) : replaceAll name part new = name := by
  have unchanged : ∀ source : List Char, (∀ c ∈ source, inIdentifier c = true) →
      replaceFrom part.toList new.toList 0 source = source := by
    intro source parts
    cases spelled : part.toList with
    | nil =>
      rw [spelled] at h
      cases h
    | cons mark more =>
      rw [spelled] at h
      have outside : inIdentifier mark = false := by simpa using h
      induction source with
      | nil => rfl
      | cons c rest ih =>
        have apart : (mark == c) = false :=
          beq_eq_false_iff_ne.mpr (ne_of_inIdentifier (parts c List.mem_cons_self) outside).symm
        rw [replaceFrom, List.isPrefixOf_cons_cons, apart, Bool.false_and,
          if_neg Bool.false_ne_true, ih fun d inRest => parts d (List.mem_cons_of_mem _ inRest)]
  rw [replaceAll, unchanged _ named.2, String.ofList_toList]

/-- The pointer of a variable without steps is its name. -/
theorem ofSteps_name (named : Identifier name) : Pointer.ofSteps name [] = ⟨name, none⟩ := by
  -- Brackets, quotes and slashes would be replaced, and a point would end the name.
  have bare : withoutBrackets name = name := by
    simp (disch := decide) only [withoutBrackets, replaceAll_identifier named]
  have noPoint : ∀ c ∈ name.toList, decide (c ≠ '.') = true :=
    fun c inName => decide_eq_true (ne_of_inIdentifier (named.2 c inName) rfl)
  have whole : name.toList.span (· ≠ '.') = (name.toList, []) := by
    rw [List.span_eq_takeWhile_dropWhile, List.takeWhile_eq_self_iff.mpr noPoint,
      List.dropWhile_eq_nil_iff.mpr noPoint]
  rw [Pointer.ofSteps, String.join_nil, String.append_empty, bare, Pointer.ofText, whole]
  simp only [String.ofList_toList]

end Pointers

section Scope

variable {data value : Json} {name text : String}

theorem get?_dataVariables (bound : data.field? name = some value) :
    Assoc.get? name (Scope.dataVariables data) = some value := by
  match data, bound with
  | .obj fields, bound =>
    have there : Assoc.get? name fields = some value := bound
    simp only [Scope.dataVariables]
    cases whole : Assoc.get? "data" fields with
    | some other => exact there
    | none =>
      -- All of the data goes by a name that no field has.
      have other : "data" ≠ name := by
        rintro rfl
        rw [whole] at there
        cases there
      simp only [Assoc.get?_insert, if_neg other, there]

theorem value?_start (named : Identifier name) (other : name ≠ Scope.wholeName)
    (bound : data.field? name = some value) :
    (Scope.start data).value? (.mk name []) = some value := by
  have noWhole : (⟨name, none⟩ : Pointer) ≠ ⟨Scope.wholeName, none⟩ :=
    fun same => other (Pointer.mk.inj same).1
  rw [Scope.value?, Scope.stepTexts?, Option.bind_eq_bind, Option.bind_some, ofSteps_name named,
    Scope.find?, if_neg noWhole]
  exact get?_dataVariables bound

theorem ne_wholeName_of_letters (letters : LettersOnly name) : name ≠ Scope.wholeName := by
  rintro rfl
  exact absurd (letters.2 '_' (by decide)) (by decide)

end Scope

namespace Rendering

variable {state : State} {setting : Setting} {name text : String} {value : Json}

theorem write_run (text : String) :
    (write text).run.run state =
      (.ok (), { state with steps := .write (Utf8.encode text) :: state.steps }) := rfl

theorem lookup?_run (path : Path) :
    (lookup? path).run.run state = (.ok (state.scope.value? path), state) := rfl

/-- A variable that is in sight has its value, null too. -/
theorem value_name (found : state.scope.value? (.mk name []) = some value) :
    ((Expr.ofName name).meaning setting).value.run.run state = (.ok value, state) := by
  rw [Expr.ofName, Expr.meaning, filterMeanings]
  show (Meaning.variableValue false [] (.mk name [])).run.run state = _
  rw [Meaning.variableValue, run_bind_of_ok _ (lookup?_run _), found]
  cases value <;> rfl

theorem exec_print_of_ok {e : Expr} {next : State}
    (evaluated : (e.meaning setting).value.run.run state = (.ok value, next)) :
    (exec setting (.print e)).run.run state =
      (.ok (), { next with steps := .write (Utf8.encode (display value)) :: next.steps }) := by
  rw [exec, run_bind_of_ok _ evaluated, write_run]

/-- A print tag with a variable that holds a text writes the text. -/
theorem exec_print (found : state.scope.value? (.mk name []) = some (.str text)) :
    (exec setting (.print (.ofName name))).run.run state =
      (.ok (), { state with steps := .write (Utf8.encode text) :: state.steps }) := by
  rw [exec_print_of_ok (value_name found), display]

/-- The sheet of a form writes its parts in order. By induction on the parts, of which none touches
what is in sight. -/
theorem execAll_parts {value : String → String} (parts : List Part) (state : State)
    (found : ∀ name, .print name ∈ parts →
      state.scope.value? (.mk name []) = some (.str (value name))) :
    (execAll setting (parts.map partStmt)).run.run state =
      (.ok (), { state with
        steps := ((parts.map (Part.shown value)).map (Event.write ∘ Utf8.encode)).reverse ++
          state.steps }) := by
  induction parts generalizing state with
  | nil => rfl
  | cons part rest ih =>
    have others := ih
      { state with steps := .write (Utf8.encode (part.shown value)) :: state.steps }
      fun name inRest => found name (List.mem_cons_of_mem _ inRest)
    have here : (exec setting (partStmt part)).run.run state =
        (.ok (), { state with
          steps := .write (Utf8.encode (part.shown value)) :: state.steps }) := by
      cases part with
      | text text => exact write_run text
      | print name => exact exec_print (found name List.mem_cons_self)
    rw [List.map_cons, execAll, run_bind_of_ok _ here, others]
    simp only [List.map_cons, List.reverse_cons, List.append_assoc, List.singleton_append]
    rfl

end Rendering

section Form

variable {form : Form} {data : Json} {value : String → String}

theorem run_form (label : String) (functions : Registry) (hasSignal : Bool)
    (letters : ∀ field ∈ form.fields, LettersOnly field.name) (bound : form.Binds data value) :
    run label functions (form.parts.map partStmt) data hasSignal =
      .ofTexts (form.parts.map (Part.shown value)) := by
  have found : ∀ name, .print name ∈ form.parts →
      (Scope.start data).value? (.mk name []) = some (.str (value name)) := by
    intro name printed
    obtain ⟨field, inForm, rfl⟩ := Form.mem_parts printed
    have named := letters field inForm
    exact value?_start named.identifier (ne_wholeName_of_letters named) (bound field inForm)
  rw [run, Rendering.execAll_parts form.parts ⟨Scope.start data, []⟩ found]
  simp only [List.append_nil, List.reverse_reverse, Run.ofTexts]
  rfl

/-- A form with texts free of braces and readable names of letters is a sheet, which fills the form in
with the texts as they are. How the source ends does not matter. -/
theorem parse_fields (label : String) (functions : Registry) (lead : BraceFree form.lead)
    (after : ∀ field ∈ form.fields, BraceFree field.after)
    (letters : ∀ field ∈ form.fields, LettersOnly field.name)
    (readable : ∀ field ∈ form.fields, Readable field.name) :
    ∃ template, parser.parse label functions form.source = .ok template ∧
      template.FillsIn form id := by
  refine ⟨.ready (executor label functions (form.parts.map partStmt)), ?_, ?_⟩
  · simp only [parser, parse?_form lead after readable]
  · intro context data value given unmarked bound
    rw [Function.id_comp, ← Form.shown_parts]
    refine Template.render_of_texts (refusal label) unmarked ?_
    rw [← run_form label functions context.signal?.isSome letters bound, given]
    rfl

theorem parse_form (label : String) (functions : Registry) (plain : form.Plain)
    (readable : ∀ field ∈ form.fields, Readable field.name) :
    ∃ template, parser.parse label functions form.source = .ok template ∧
      template.FillsIn form id :=
  parse_fields label functions plain.lead plain.after plain.letters readable

end Form

end Templating.Sheet
