import Templating.Proofs.Printing.Form

/-! Printed calls: a function with variables and quoted texts as its arguments, as pages and as
sheets write it. A page passes arguments by their places, a sheet under their labels. -/

namespace Templating

/-- What is passed: the value of a variable, or a text in quotes. -/
inductive Operand where
  | var (name : String)
  | text (text : String)
  deriving DecidableEq

/-- What an operand is where data is rendered: the field of its name, or its text. -/
def Operand.Denotes (data : Json) : Operand → Json → Prop
  | .var name, value => data.field? name = some value
  | .text quoted, value => value = .str quoted

structure Labelled where
  label : String
  operand : Operand

/-- A call whose result is printed. -/
structure Invocation where
  callee : String
  arguments : List Labelled

/-- A text without quotes and backslashes. -/
def QuoteFree (text : String) : Prop := ∀ c ∈ text.toList, c ≠ '\'' ∧ c ≠ '"' ∧ c ≠ '\\'

instance (text : String) : Decidable (QuoteFree text) :=
  decidable_of_iff
    (text.toList.all (fun c => c ≠ '\'' ∧ c ≠ '"' ∧ c ≠ '\\') = true)
    (by simp [QuoteFree])

namespace Labelled

def onPage (argument : Labelled) : String :=
  match argument.operand with
  | .var name => name
  | .text text => "'" ++ text ++ "'"

def onSheet (argument : Labelled) : String :=
  argument.label ++ "=" ++
    match argument.operand with
    | .var name => name
    | .text text => "\"" ++ text ++ "\""

end Labelled

/-- A tag that prints what is inside. -/
def printTag (inside : String) : String := "\x7b\x7b " ++ inside ++ " \x7d\x7d"

theorem toList_printTag (inside : String) :
    (printTag inside).toList = '\x7b' :: '\x7b' :: ' ' :: (inside.toList ++ [' ', '\x7d', '\x7d']) := by
  simp only [printTag, String.toList_append, List.append_assoc]
  rfl

namespace Invocation

def text (written : Labelled → String) (invocation : Invocation) : String :=
  invocation.callee ++ "(" ++ ", ".intercalate (invocation.arguments.map written) ++ ")"

def pageSource (invocation : Invocation) : String := printTag (invocation.text Labelled.onPage)

def sheetSource (invocation : Invocation) : String := printTag (invocation.text Labelled.onSheet)

variable {written : Labelled → String}

/-- The characters of a call after the first of its arguments. -/
def moreChars (written : Labelled → String) : List Labelled → List Char
  | [] => [')']
  | argument :: rest => ',' :: ' ' :: ((written argument).toList ++ moreChars written rest)

/-- The characters of a call after its opening parenthesis. -/
def argumentChars (written : Labelled → String) : List Labelled → List Char
  | [] => [')']
  | argument :: rest => (written argument).toList ++ moreChars written rest

theorem toList_arguments (arguments : List Labelled) :
    (", ".intercalate (arguments.map written)).toList ++ [')'] =
      argumentChars written arguments := by
  have more : ∀ (first : Labelled) (rest : List Labelled),
      (", ".intercalate ((first :: rest).map written)).toList ++ [')'] =
        (written first).toList ++ moreChars written rest := by
    intro first rest
    induction rest generalizing first with
    | nil => simp [moreChars]
    | cons next rest ih =>
      rw [List.map_cons, List.map_cons, String.intercalate_cons_cons, String.toList_append,
        String.toList_append, List.append_assoc, List.append_assoc, ← List.map_cons, ih, moreChars]
      rfl
  cases arguments with
  | nil => rfl
  | cons first rest => exact more first rest

theorem toList_text (invocation : Invocation) :
    (invocation.text written).toList =
      invocation.callee.toList ++ '(' :: argumentChars written invocation.arguments := by
  rw [← toList_arguments]
  simp only [text, String.toList_append, List.append_assoc]
  rfl

end Invocation

/-- The run of a printed call of a function of the registry, for what the function gives. -/
def Run.ofCall (callee : String) (passed : List Json) (text : Json → String)
    (cause : String → ExecutionFault) : Except String Json → Run
  | .ok value => ⟨[.call callee passed, .write (Utf8.encode (text value))], .ok ()⟩
  | .error message => ⟨[.call callee passed], .error (.execute (cause message))⟩

end Templating
