import Templating.Page.Template
import Templating.Proofs.Printing.PageRead
import Templating.Proofs.Printing.RootScope

/-! Rendering the page of a form: each part is one write, of its text or of the text that the data
binds to its name, escaped where the page escapes. -/

namespace Templating.Page

namespace Rendering

variable {calls : Calls} {setting : Setting} {machine : Machine} {name : String}

theorem find?_run :
    (find? setting name).run.run machine = (.ok (Machine.find? setting name machine), machine) := rfl

theorem write_run (text : String) (h : machine.captures = []) :
    (write text).run.run machine =
      (.ok (), { machine with steps := .write (Utf8.encode text) :: machine.steps }) := by
  obtain ⟨frames, outer, closures, macros, captures, steps⟩ := machine
  obtain rfl : captures = [] := h
  rfl

/-- What is printed for a value. -/
def shown (setting : Setting) (value : Value) : String :=
  if setting.escapes then value.markup else value.display

/-- What is printed for a text of the data. -/
def printedText (setting : Setting) (text : String) : String :=
  if setting.escapes then Markup.escape text else text

theorem printed_run {value : Value} (line : Nat) (h : machine.captures = [])
    (present : value.isMissing = false) :
    (printed setting line value).run.run machine =
      (.ok (), { machine with
        steps := .write (Utf8.encode (shown setting value)) :: machine.steps }) := by
  rw [printed, present, if_neg Bool.false_ne_true]
  exact write_run _ h

theorem eval_var {value : Value} (own : Nat) (found : Machine.find? setting name machine = some value) :
    (eval calls setting (.var own name)).run.run machine = (.ok value, machine) := by
  rw [eval, run_bind_of_ok _ find?_run, found]
  rfl

theorem exec_print_var {value : Value} (line own : Nat) (h : machine.captures = [])
    (present : value.isMissing = false)
    (found : Machine.find? setting name machine = some value) :
    (exec calls setting (.print line (.var own name))).run.run machine =
      (.ok (), { machine with
        steps := .write (Utf8.encode (shown setting value)) :: machine.steps }) := by
  rw [exec]
  · rw [run_bind_of_ok _ (eval_var own found)]
    exact printed_run _ h present
  · nofun

/-- A print tag with a variable that holds a text writes the text. -/
theorem exec_print {text : String} (line own : Nat) (h : machine.captures = [])
    (found : Machine.find? setting name machine = some (.text text)) :
    (exec calls setting (.print line (.var own name))).run.run machine =
      (.ok (), { machine with
        steps := .write (Utf8.encode (printedText setting text)) :: machine.steps }) := by
  have same : shown setting (.text text) = printedText setting text := rfl
  rw [exec_print_var line own h rfl found, same]

/-- The page of a form writes its parts in order. By induction on the parts, of which none touches
the variables. -/
theorem execAll_prints {parts : List Part} {page : List Stmt} {value : String → String}
    (calls : Calls) (prints : Prints parts page) (machine : Machine) (h : machine.captures = [])
    (found : ∀ name, .print name ∈ parts →
      Machine.find? setting name machine = some (.text (value name))) :
    (execAll calls setting page).run.run machine =
      (.ok (), { machine with
        steps := ((parts.map (Part.shown (printedText setting ∘ value))).map
          (Event.write ∘ Utf8.encode)).reverse ++ machine.steps }) := by
  induction prints generalizing machine with
  | nil => rfl
  | text text rest ih =>
    have others := ih { machine with steps := .write (Utf8.encode text) :: machine.steps } h
      fun name inRest => found name (List.mem_cons_of_mem _ inRest)
    have first : (exec calls setting (.text text)).run.run machine = _ := write_run text h
    rw [execAll, run_bind_of_ok _ first, others]
    simp only [List.map_cons, List.reverse_cons, List.append_assoc, List.singleton_append]
    rfl
  | print name start own rest ih =>
    have others := ih
      { machine with
        steps := .write (Utf8.encode (printedText setting (value name))) :: machine.steps }
      h fun name inRest => found name (List.mem_cons_of_mem _ inRest)
    have here := found name List.mem_cons_self
    rw [execAll, run_bind_of_ok _ (exec_print start own h here), others]
    simp only [List.map_cons, List.reverse_cons, List.append_assoc, List.singleton_append]
    rfl

end Rendering

section Root

variable {data : Json} {name : String}

/-- The fields of the data are in sight, but for one with the name of the function that marks. -/
theorem lookup_rootVariables {value : Json} {hasSignal : Bool}
    (bound : data.field? name = some value) (other : hasSignal = true → name ≠ "abort") :
    (rootVariables data hasSignal).lookup name = some (Value.ofJson value) := by
  have noMark : ¬(hasSignal = true ∧ name = "abort") := fun both => other both.1 both.2
  rw [lookup_rootVariables_eq, if_neg noMark, Json.binding?, bound, Option.some_or, Option.map_some]

end Root

section Form

variable {form : Form} {page : List Stmt} {data : Json} {value : String → String}

/-- The machine with which a page starts. -/
def start (data : Json) (hasSignal : Bool) : Machine :=
  ⟨[{ Rendering.plainFrame with base := .given (rootVariables data hasSignal) }], 0, [], [], [], []⟩

theorem find?_start {setting : Setting} {hasSignal : Bool} {name : String} {found : Value}
    (h : (rootVariables data hasSignal).lookup name = some found) :
    Rendering.Machine.find? setting name (start data hasSignal) = some found := by
  have inFrame : Rendering.Frame.find? [] name
      { Rendering.plainFrame with base := .given (rootVariables data hasSignal) } = some found := by
    simp only [Rendering.Frame.find?, Rendering.plainFrame, List.lookup_nil, ite_self, h]
  simp only [Rendering.Machine.find?, start, List.findSome?_cons, inFrame]

/-- The page of a form, with data that binds the names of its fields, writes its parts in order. -/
theorem run_form (setting : Setting) (hasSignal : Bool) (prints : Prints form.parts page)
    (noAbort : ∀ field ∈ form.fields, field.name ≠ "abort") (bound : form.Binds data value) :
    run setting page data hasSignal =
      .ofTexts (form.parts.map (Part.shown (Rendering.printedText setting ∘ value))) := by
  have found : ∀ name, .print name ∈ form.parts →
      Rendering.Machine.find? setting name (start data hasSignal) =
        some (.text (value name)) := by
    intro name printed
    obtain ⟨field, inForm, rfl⟩ := Form.mem_parts printed
    have there : (rootVariables data hasSignal).lookup field.name =
        some (.text (value field.name)) :=
      lookup_rootVariables (bound field inForm) fun _ => noAbort field inForm
    exact find?_start there
  have ran := Rendering.execAll_prints (Rendering.callsOf setting page (Rendering.deepest + 1))
    prints (start data hasSignal) rfl found
  rw [run, show (⟨[_], 0, [], [], [], []⟩ : Machine) = start data hasSignal from rfl, ran]
  simp only [start, List.append_nil, List.reverse_reverse, Run.ofTexts]
  rfl

/-- A source that is read as a page of a form's parts fills the form in. -/
theorem compile_of_prints {source : String} (escapes : Bool) (label : String) (functions : Registry)
    (parsed : parse source = .ok page) (prints : Prints form.parts page)
    (noAbort : ∀ field ∈ form.fields, field.name ≠ "abort") :
    ∃ template, compile escapes label functions source = .ok template ∧
      template.FillsIn form (Rendering.printedText ⟨label, escapes, functions⟩) := by
  refine ⟨.ready (executor ⟨label, escapes, functions⟩ page), by rw [compile, parsed], ?_⟩
  intro context data value given unmarked bound
  rw [← Form.shown_parts]
  refine Template.render_of_texts refusal unmarked ?_
  rw [← run_form ⟨label, escapes, functions⟩ context.signal?.isSome prints noAbort bound, given]
  rfl

/-- A plain form whose names are free is a page, which fills the form in. -/
theorem compile_form (escapes : Bool) (label : String) (functions : Registry) (plain : form.Plain)
    (free : ∀ field ∈ form.fields, field.name ∉ keywords) :
    ∃ template, compile escapes label functions form.source = .ok template ∧
      template.FillsIn form (Rendering.printedText ⟨label, escapes, functions⟩) := by
  obtain ⟨page, parsed, prints⟩ := parse_form plain free
  exact compile_of_prints escapes label functions parsed prints plain.noAbort

end Form

end Templating.Page
