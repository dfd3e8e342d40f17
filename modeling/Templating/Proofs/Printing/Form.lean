import Templating.Context
import Templating.Proofs.Text.Utf8
import Templating.Template

/-! Forms: texts with fields in which values are printed. A form is written as a source with each field
in double braces, and filled with texts for its fields. -/

namespace Templating

/-- A place where a value is printed: the name of the value and the text after it. -/
structure Field where
  name : String
  after : String

/-- A text with fields. -/
structure Form where
  lead : String
  fields : List Field

namespace Field

/-- A field as it is written, with the text after it. -/
def source (field : Field) : String := "\x7b\x7b " ++ field.name ++ " \x7d\x7d" ++ field.after

def filled (value : String → String) (field : Field) : String := value field.name ++ field.after

end Field

namespace Form

/-- A form as the source of a template. -/
def source (form : Form) : String := form.lead ++ String.join (form.fields.map Field.source)

/-- A form with the text of each field in its place. -/
def filled (value : String → String) (form : Form) : String :=
  form.lead ++ String.join (form.fields.map (Field.filled value))

end Form

/-- A text without braces. -/
def BraceFree (text : String) : Prop := '\x7b' ∉ text.toList ∧ '\x7d' ∉ text.toList

/-- Letters alone, at least one. -/
def LettersOnly (name : String) : Prop := name ≠ "" ∧ ∀ c ∈ name.toList, c.isAlpha = true

theorem LettersOnly.exists_cons {name : String} (letters : LettersOnly name) :
    ∃ c more, name.toList = c :: more ∧ c.isAlpha = true ∧ ∀ d ∈ more, d.isAlpha = true := by
  cases spelled : name.toList with
  | nil => exact absurd (String.toList_eq_nil_iff.mp spelled) letters.1
  | cons c more =>
    have alpha := letters.2
    rw [spelled] at alpha
    exact ⟨c, more, rfl, alpha c List.mem_cons_self, fun d inMore =>
      alpha d (List.mem_cons_of_mem _ inMore)⟩

/-- A character that can start an identifier. -/
def startsIdentifier (c : Char) : Bool := c.isAlpha || c == '_'

/-- A character that can stand in an identifier. -/
def inIdentifier (c : Char) : Bool := c.isAlphanum || c == '_'

/-- Letters, digits and underscores, at least one, and no digit first. -/
def Identifier (name : String) : Prop :=
  name.toList.head?.any startsIdentifier ∧ ∀ c ∈ name.toList, inIdentifier c = true

instance (name : String) : Decidable (Identifier name) :=
  decidable_of_iff
    (name.toList.head?.any startsIdentifier ∧ name.toList.all inIdentifier = true)
    (and_congr_right' List.all_eq_true)

theorem Identifier.exists_cons {name : String} (named : Identifier name) :
    ∃ c more, name.toList = c :: more ∧ startsIdentifier c = true ∧
      ∀ d ∈ more, inIdentifier d = true := by
  obtain ⟨starts, parts⟩ := named
  cases spelled : name.toList with
  | nil =>
    rw [spelled] at starts
    cases starts
  | cons c more =>
    rw [spelled] at starts parts
    exact ⟨c, more, rfl, starts, fun d inMore => parts d (List.mem_cons_of_mem _ inMore)⟩

theorem LettersOnly.identifier {name : String} (letters : LettersOnly name) : Identifier name := by
  obtain ⟨c, more, spelled, alpha, -⟩ := letters.exists_cons
  refine ⟨?_, fun d inName => ?_⟩
  · rw [spelled]
    simp [startsIdentifier, alpha]
  · simp [inIdentifier, Char.isAlphanum, letters.2 d inName]

theorem ne_of_inIdentifier {c d : Char} (h : inIdentifier c = true) (other : inIdentifier d = false) :
    c ≠ d := by
  rintro rfl
  rw [h] at other
  cases other

section Letters

variable {c : Char}

theorem isUpper_iff_toNat : c.isUpper = true ↔ 65 ≤ c.toNat ∧ c.toNat ≤ 90 :=
  decide_eq_true_iff.trans (and_congr UInt32.le_iff_toNat_le UInt32.le_iff_toNat_le)

theorem isLower_iff_toNat : c.isLower = true ↔ 97 ≤ c.toNat ∧ c.toNat ≤ 122 :=
  Bool.and_eq_true_iff.trans
    (and_congr (decide_eq_true_iff.trans UInt32.le_iff_toNat_le)
      (decide_eq_true_iff.trans UInt32.le_iff_toNat_le))

theorem isDigit_of_isAlpha (h : c.isAlpha = true) : c.isDigit = false := by
  refine Bool.eq_false_iff.mpr fun digit => ?_
  have high : c.toNat ≤ 57 := (Char.isDigit_iff_toNat.mp digit).2
  rcases Bool.or_eq_true_iff.mp h with upper | lower
  · obtain ⟨low, -⟩ := isUpper_iff_toNat.mp upper
    omega
  · obtain ⟨low, -⟩ := isLower_iff_toNat.mp lower
    omega

theorem isDigit_of_startsIdentifier (h : startsIdentifier c = true) : c.isDigit = false := by
  rcases Bool.or_eq_true_iff.mp h with alpha | underscore
  · exact isDigit_of_isAlpha alpha
  · rw [beq_iff_eq.mp underscore]
    rfl

theorem inIdentifier_of_startsIdentifier (h : startsIdentifier c = true) :
    inIdentifier c = true := by
  rcases Bool.or_eq_true_iff.mp h with alpha | underscore
  · simp [inIdentifier, Char.isAlphanum, alpha]
  · simp [inIdentifier, underscore]

/-- A character that starts an identifier is none that does not. -/
theorem ne_of_startsIdentifier {d : Char} (h : startsIdentifier c = true)
    (other : startsIdentifier d = false) : c ≠ d := by
  rintro rfl
  rw [h] at other
  cases other

end Letters

/-- A form whose texts are free of braces, whose names consist of letters and are not the name of the
function that marks a signal, and whose source does not end in a line break. -/
structure Form.Plain (form : Form) : Prop where
  lead : BraceFree form.lead
  after : ∀ field ∈ form.fields, BraceFree field.after
  letters : ∀ field ∈ form.fields, LettersOnly field.name
  noAbort : ∀ field ∈ form.fields, field.name ≠ "abort"
  ending : form.source.toList.getLast? ≠ some '\n' ∧ form.source.toList.getLast? ≠ some '\r'

instance (text : String) : Decidable (BraceFree text) := inferInstanceAs (Decidable (_ ∧ _))

instance (name : String) : Decidable (LettersOnly name) :=
  decidable_of_iff (name ≠ "" ∧ name.toList.all Char.isAlpha = true)
    (and_congr_right' List.all_eq_true)

instance (form : Form) : Decidable form.Plain :=
  decidable_of_iff
    (BraceFree form.lead ∧ (∀ field ∈ form.fields, BraceFree field.after) ∧
      (∀ field ∈ form.fields, LettersOnly field.name) ∧
      (∀ field ∈ form.fields, field.name ≠ "abort") ∧
      form.source.toList.getLast? ≠ some '\n' ∧ form.source.toList.getLast? ≠ some '\r')
    ⟨fun ⟨lead, after, letters, noAbort, ending⟩ => ⟨lead, after, letters, noAbort, ending⟩,
      fun plain => ⟨plain.lead, plain.after, plain.letters, plain.noAbort, plain.ending⟩⟩

/-- Data that binds the name of each field of a form to a text. -/
def Form.Binds (form : Form) (data : Json) (value : String → String) : Prop :=
  ∀ field ∈ form.fields, data.field? field.name = some (.str (value field.name))

/-- A template fills a form in: with data that binds the names of the fields to texts, and without an
abort, it renders to the form filled with what it prints for them. -/
def Template.FillsIn (template : Template) (form : Form) (printed : String → String) : Prop :=
  ∀ (context : Context) (data : Json) (value : String → String),
    context.data = .ok data → context.aborted? = none → form.Binds data value →
    template.render context =
      ⟨.ok (form.filled (printed ∘ value)), Utf8.encode (form.filled (printed ∘ value)),
        context.signal?⟩

/-- A part of what a form becomes: a text, or what is printed for a name. -/
inductive Part where
  | text (text : String)
  | print (name : String)

namespace Part

/-- A text as a part, unless it is empty. -/
def ofText (text : String) : List Part := if text = "" then [] else [.text text]

/-- What a part shows when its name is given a text. -/
def shown (value : String → String) : Part → String
  | text shown => shown
  | print name => value name

end Part

/-- The parts of a form in order. -/
def Form.parts (form : Form) : List Part :=
  Part.ofText form.lead ++
    form.fields.flatMap fun field => .print field.name :: Part.ofText field.after

/-- The characters of a field as it is written, with the text after it. -/
def Field.chars (field : Field) : List Char :=
  '\x7b' :: '\x7b' :: ' ' :: (field.name.toList ++ ' ' :: '\x7d' :: '\x7d' :: field.after.toList)

theorem Form.toList_source (form : Form) :
    form.source.toList = form.lead.toList ++ form.fields.flatMap Field.chars := by
  obtain ⟨lead, fields⟩ := form
  have ofFields : (String.join (fields.map Field.source)).toList = fields.flatMap Field.chars := by
    induction fields with
    | nil => rfl
    | cons field rest ih =>
      have here : field.source.toList = field.chars := by
        simp only [Field.source, Field.chars, String.toList_append, List.append_assoc]
        rfl
      rw [List.map_cons, String.join_cons, String.toList_append, ih, here, List.flatMap_cons]
  rw [source, String.toList_append, ofFields]

theorem Form.parts_cons (lead : String) (field : Field) (rest : List Field) :
    Form.parts ⟨lead, field :: rest⟩ =
      Part.ofText lead ++ .print field.name :: Form.parts ⟨field.after, rest⟩ := by
  rw [parts, List.flatMap_cons]
  rfl

theorem Form.mem_parts {form : Form} {name : String} (h : .print name ∈ form.parts) :
    ∃ field ∈ form.fields, field.name = name := by
  have noText : ∀ text, Part.print name ∉ Part.ofText text := by
    intro text inText
    unfold Part.ofText at inText
    split at inText
    · cases inText
    · cases List.mem_singleton.mp inText
  rcases List.mem_append.mp h with inLead | inFields
  · exact absurd inLead (noText form.lead)
  · obtain ⟨field, inForm, here⟩ := List.mem_flatMap.mp inFields
    rcases List.mem_cons.mp here with printed | inAfter
    · exact ⟨field, inForm, (Part.print.inj printed).symm⟩
    · exact absurd inAfter (noText field.after)

theorem Part.shown_ofText (value : String → String) (text : String) :
    String.join ((Part.ofText text).map (Part.shown value)) = text := by
  unfold Part.ofText
  split
  · next empty =>
    rw [empty]
    rfl
  · simp [Part.shown]

theorem Form.shown_parts (value : String → String) (form : Form) :
    String.join (form.parts.map (Part.shown value)) = form.filled value := by
  obtain ⟨lead, fields⟩ := form
  induction fields generalizing lead with
  | nil =>
    rw [parts, List.flatMap_nil, List.append_nil, Part.shown_ofText]
    exact String.append_empty.symm
  | cons field rest ih =>
    rw [parts_cons, List.map_append, String.join_append, Part.shown_ofText, List.map_cons,
      String.join_cons, ih, filled, filled, List.map_cons, String.join_cons, Field.filled,
      Part.shown, String.append_assoc]

/-- What follows a computation that ends well runs on from the state that it leaves. -/
theorem run_bind_of_ok {ε σ α β : Type} {first : ExceptT ε (StateM σ) α} {value : α}
    {state next : σ} (then_ : α → ExceptT ε (StateM σ) β)
    (h : first.run.run state = (.ok value, next)) :
    (first >>= then_).run.run state = (then_ value).run.run next := by
  rw [ExceptT.run_bind, StateT.run_bind, h]
  rfl

/-- A computation that fails is the last of those after it. -/
theorem run_bind_of_error {ε σ α β : Type} {first : ExceptT ε (StateM σ) α} {fault : ε}
    {state next : σ} (then_ : α → ExceptT ε (StateM σ) β)
    (h : first.run.run state = (.error fault, next)) :
    (first >>= then_).run.run state = (.error fault, next) := by
  rw [ExceptT.run_bind, StateT.run_bind, h]
  rfl

namespace Utf8

theorem encode_append (text more : String) : encode (text ++ more) = encode text ++ encode more := by
  simp only [encode, String.toList_append, List.flatMap_append]

theorem encode_join (texts : List String) : encode (String.join texts) = texts.flatMap encode := by
  induction texts with
  | nil => rfl
  | cons text rest ih => rw [String.join_cons, encode_append, ih, List.flatMap_cons]

end Utf8

/-- The run that writes texts one after another. -/
def Run.ofTexts (texts : List String) : Run := ⟨texts.map (.write ∘ Utf8.encode), .ok ()⟩

theorem Run.execute_ofTexts (refusal : IoFault → Fault) (signal? : Option Signal)
    (texts : List String) :
    ((ofTexts texts).program refusal).execute .unlimited signal? =
      ⟨.ok (), Utf8.encode (String.join texts), false, signal?⟩ := by
  unfold program ofTexts
  induction texts with
  | nil => rfl
  | cons text rest ih =>
    rw [List.map_cons, Function.comp_apply, programOf, Program.execute]
    dsimp only [Writer.offer, Writer.unlimited] at ih ⊢
    rw [ih, Utf8.encode_join, Utf8.encode_join, List.flatMap_cons]
    rfl

/-- A template that writes texts renders them, and leaves the signal of its context as it is. -/
theorem Template.render_of_texts {executor : Executor} {context : Context} {texts : List String}
    (refusal : IoFault → Fault) (unmarked : context.aborted? = none)
    (h : executor.program context.data context.signal?.isSome =
      (Run.ofTexts texts).program refusal) :
    (ready executor).render context =
      ⟨.ok (String.join texts), Utf8.encode (String.join texts), context.signal?⟩ := by
  have executed : executor.execute context .unlimited =
      ⟨.ok (), Utf8.encode (String.join texts), false, context.signal?⟩ := by
    rw [Executor.execute, h, Run.execute_ofTexts]
  have sent : (ready executor).renderTo context .unlimited =
      ⟨.ok (), Utf8.encode (String.join texts), context.signal?⟩ := by
    unfold Context.aborted? at unmarked
    simp only [renderTo, executed, Execution.verdict, unmarked]
  simp only [render, renderBytes, sent, Except.map, Except.bind, decodeOutput, Utf8.decode_encode]

end Templating
