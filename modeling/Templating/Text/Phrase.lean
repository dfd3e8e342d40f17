/-! Phrases: rules of a grammar over characters. A phrase reads the start of a text and gives the
text after it; where it does not fit, the text stays as it was and another phrase may be tried. -/

namespace Templating

/-- What the start of a text stands for and the text after it, if the text starts so. -/
abbrev Phrase := StateT (List Char) Option

namespace Phrase

def literal (text : String) : Phrase Unit := fun source =>
  if text.toList.isPrefixOf source then some ((), source.drop text.length) else none

/-- The first of some texts that fits, for what stands with it. -/
def oneOf : List (String × α) → Phrase α
  | [] => failure
  | (text, value) :: rest => (literal text *> pure value) <|> oneOf rest

def char (p : Char → Bool) : Phrase Char
  | c :: rest => if p c then some (c, rest) else none
  | [] => none

/-- The longest run of characters of a class, which may be empty. -/
def run (p : Char → Bool) : Phrase (List Char) := fun source =>
  some (source.takeWhile p, source.dropWhile p)

/-- The longest run of characters of a class, which must not be empty. -/
def run1 (p : Char → Bool) : Phrase (List Char) := do
  let first ← char p
  return first :: (← run p)

def optional? (phrase : Phrase α) : Phrase (Option α) := (some <$> phrase) <|> pure none

def skip (phrase : Phrase Unit) : Phrase Bool := (phrase *> pure true) <|> pure false

/-- A phrase as many times as it fits. One that reads nothing fits no time. -/
def many (phrase : Phrase α) (source : List Char) : Option (List α × List Char) :=
  match phrase source with
  | none => some ([], source)
  | some (value, rest) =>
    if rest.length < source.length then
      (many phrase rest).map fun (values, after) => (value :: values, after)
    else some ([], source)
termination_by source.length

/-- A phrase one or more times, with a separator between. -/
def separated (separator : Phrase Unit) (phrase : Phrase α) : Phrase (List α) := do
  let first ← phrase
  return first :: (← many (separator *> phrase))

def ended : Phrase Unit
  | [] => some ((), [])
  | _ => none

end Phrase

end Templating
