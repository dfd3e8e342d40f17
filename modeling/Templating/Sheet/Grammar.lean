import Templating.Assoc
import Templating.Number.Digits
import Templating.Sheet.Tree
import Templating.Text.Phrase

/-! The grammar of expressions. Alternatives are tried in order and the first that fits is taken for
good, so the order of the alternatives is a part of the language. Expressions inside expressions are
read through `Nested`, whose depth is bounded by the length of the source. -/

namespace Templating.Sheet

open Phrase

/-- The white space between the parts of a tag. -/
def isSpace (c : Char) : Bool := c == ' ' || c == '\t' || c == '\r' || c == '\n'

def spaces : Phrase Unit := run isSpace *> pure ()

def spaces1 : Phrase Unit := run1 isSpace *> pure ()

/-- A phrase and the white space after it. -/
def lexeme (phrase : Phrase α) : Phrase α := phrase <* spaces

/-- A text and the white space after it. -/
def mark (text : String) : Phrase Unit := lexeme (literal text)

def word (text : String) : Phrase Unit := literal text *> spaces1

/-- The letters, digits and underscores of names. -/
def isNameChar (c : Char) : Bool := c.isAlphanum || c == '_'

def name : Phrase String := do
  let first ← char fun c => c.isAlpha || c == '_'
  return String.ofList (first :: (← run isNameChar))

/-- The digits of a whole number without leading zeros. -/
def wholeDigits : Phrase (List Char) :=
  (literal "0" *> pure ['0']) <|> do
    let first ← char fun c => c.isDigit && c != '0'
    return first :: (← run Char.isDigit)

def floatTerm : Phrase Term := do
  let negative ← skip (literal "-")
  let whole ← wholeDigits
  literal "."
  let fraction ← run1 Char.isDigit
  return .float (.ofDecimal negative (digitsValue (whole ++ fraction)) (-(fraction.length : Int)))

/-- A whole number, which must fit into sixty-four bits with a sign. -/
def intTerm : Phrase Term := do
  let negative ← skip (literal "-")
  let value := digitsValue (← wholeDigits)
  let n : Int := if negative then -(value : Int) else value
  if -(Int.pow 2 63) ≤ n ∧ n < Int.pow 2 63 then return .int n else failure

/-- A text between two of the given quotes, as it stands. -/
def quotedBy (quote : Char) : Phrase String := do
  let _ ← char (· == quote)
  let text ← run (· != quote)
  let _ ← char (· == quote)
  return String.ofList text

/-- A text between quotes of one of three kinds. -/
def quotedText : Phrase String := quotedBy '"' <|> quotedBy '\'' <|> quotedBy '\x60'

/-- The parts of expressions in which expressions stand again. -/
structure Nested where
  path : Phrase Path
  /-- Arithmetic inside parentheses. -/
  arithmetic : Phrase Expr
  /-- A condition, the widest kind of expression. -/
  condition : Phrase Expr
  /-- A list with its filters. -/
  list : Phrase Expr

namespace Nested

/-- A step into a value in brackets. A negative number and a text between backticks lead nowhere. -/
def bracketStep (nested : Nested) : Phrase Step := do
  literal "["
  let step ← (do
      let negative ← skip (literal "-")
      let digits := String.ofList (← wholeDigits)
      return if negative then .nowhere else .place digits)
    <|> (.quoted '"' <$> quotedBy '"') <|> (.quoted '\'' <$> quotedBy '\'')
    <|> (quotedBy '\x60' *> pure .nowhere) <|> (.computed <$> nested.path)
  literal "]"
  return step

def step (nested : Nested) : Phrase Step :=
  (do
    literal "."
    return .field (String.ofList (← run1 isNameChar)))
  <|> nested.bracketStep

def pathRule (nested : Nested) : Phrase Path := do
  let root ← name
  return .mk root (← many nested.step)

def whole (nested : Nested) : Phrase Expr := nested.condition <|> nested.list

def argument (nested : Nested) : Phrase (String × Expr) := do
  let key ← lexeme name
  mark "="
  return (key, ← nested.whole)

/-- A call with arguments in parentheses; of two arguments with one name the later counts. -/
def call (nested : Nested) : Phrase Call := do
  let callee ← lexeme name
  mark "("
  let arguments ← optional? (separated (mark ",") nested.argument <* skip (mark ","))
  mark ")"
  return .mk callee (Assoc.ofList (arguments.getD []))

def filter (nested : Nested) : Phrase Call := do
  mark "|"
  nested.call <|> ((.mk · []) <$> lexeme name)

def testArguments (nested : Nested) : Phrase (List Expr) := do
  mark "("
  let arguments ← separated (mark ",") nested.whole
  mark ")"
  return arguments

/-- A test of a value; a `not` before the name of the test negates it. -/
def test (nested : Nested) (negated : Bool) : Phrase Term := do
  let subject ← lexeme nested.pathRule
  mark "is"
  if negated then mark "not"
  let called ← lexeme name
  let arguments ← optional? nested.testArguments
  return .test negated subject called (arguments.getD [])

def boolTerm : Phrase Term :=
  oneOf [("true", .bool true), ("True", .bool true), ("false", .bool false),
    ("False", .bool false)]

def operand (nested : Nested) : Phrase Term :=
  lexeme boolTerm <|> nested.test true <|> nested.test false <|> (.call <$> nested.call)
    <|> (.var <$> lexeme nested.pathRule) <|> lexeme floatTerm <|> lexeme intTerm

def mathOp : Phrase MathOp :=
  lexeme (oneOf [("+", .add), ("-", .sub), ("*", .mul), ("/", .div), ("%", .rem)])

/-- Joins operands from left to right, those of tight operators first: `sum` is what waits on the
left of the present product. -/
def join (tight : β → Bool) (combine : β → α → α → α) (sum : Option (α × β)) (product : α) :
    List (β × α) → α
  | [] =>
    match sum with
    | some (left, op) => combine op left product
    | none => product
  | (op, right) :: rest =>
    if tight op then join tight combine sum (combine op product right) rest
    else
      let left := match sum with
        | some (left, waiting) => combine waiting left product
        | none => product
      join tight combine (some (left, op)) right rest

def joinMath (first : Expr) (rest : List (MathOp × Expr)) : Expr :=
  join MathOp.isTight (fun op left right => .ofTerm (.math op left right)) none first rest

/-- An operand of arithmetic, or arithmetic in parentheses. -/
def factor (nested : Nested) : Phrase Expr :=
  (mark "(" *> nested.arithmetic <* mark ")") <|> (.ofTerm <$> nested.operand)

def arithmeticRule (nested : Nested) : Phrase Expr := do
  let first ← nested.factor
  let rest ← many do
    let op ← mathOp
    return (op, ← nested.factor)
  return joinMath first rest

def filtered : Expr → List Call → Expr
  | .mk negated term filters, more => .mk negated term (filters ++ more)

/-- Arithmetic with filters, which apply to all of it. -/
def filteredArithmetic (nested : Nested) : Phrase Expr := do
  let value ← nested.arithmeticRule
  return filtered value (← many nested.filter)

def concatPart (nested : Nested) : Phrase Term :=
  (.call <$> nested.call) <|> lexeme floatTerm <|> lexeme intTerm
    <|> (.text <$> lexeme quotedText) <|> (.var <$> lexeme nested.pathRule)

/-- The text that parts of a joined text are if all of them are texts. -/
def plainText? : List Term → Option String
  | [] => some ""
  | .text text :: rest => (text ++ ·) <$> plainText? rest
  | _ :: _ => none

/-- The parts of a text joined; texts alone are one text. -/
def joinedText (parts : List Term) : Term :=
  match plainText? parts with
  | some text => .text text
  | none => .concat parts

/-- A text, or parts of a text with `~` between, and filters. -/
def filteredText (nested : Nested) : Phrase Expr := do
  let term ← (do
      let first ← nested.concatPart
      mark "~"
      return joinedText (first :: (← separated (mark "~") nested.concatPart)))
    <|> (.text <$> lexeme quotedText)
  return .mk false term (← many nested.filter)

/-- Arithmetic between filtered operands. -/
def comparand (nested : Nested) : Phrase Expr :=
  nested.filteredText <|> do
    let first ← nested.filteredArithmetic
    let rest ← many do
      let op ← mathOp
      return (op, ← nested.filteredArithmetic)
    return joinMath first rest

def comparisonOp : Phrase Comparison :=
  lexeme (oneOf [("==", .eq), ("!=", .ne), (">=", .ge), (">", .gt), ("<=", .le), ("<", .lt)])

/-- At most one comparison. -/
def comparison (nested : Nested) : Phrase Expr := do
  let left ← nested.comparand
  let more ← optional? do
    let op ← comparisonOp
    return (op, ← nested.comparand)
  return match more with
    | some (op, right) => .ofTerm (.compare op left right)
    | none => left

def membership (nested : Nested) : Phrase Expr := do
  let item ← nested.filteredText <|> nested.filteredArithmetic
  let negated ← skip (word "not")
  mark "in"
  let container ← nested.filteredText <|> nested.list
    <|> ((Expr.ofTerm ∘ .var) <$> lexeme nested.pathRule)
  return .ofTerm (.member negated item container)

/-- An expression with a negation, or without, in place of its own. -/
def withNegation (negated : Bool) : Expr → Expr
  | .mk _ term filters => .mk negated term filters

/-- A part of a condition: one that a `not` may precede, or a condition in parentheses, whose own
`not` does not count where it is all that stands there. -/
def conditionPart (nested : Nested) : Phrase Expr :=
  (do
    let negated ← skip (word "not")
    return withNegation negated (← nested.membership <|> nested.comparison))
  <|> withNegation false <$> (mark "(" *> nested.condition <* mark ")")

/-- A connective, which white space must follow. -/
def connective : Phrase Connective :=
  (word "or" *> pure .or) <|> (word "and" *> pure .and)

def conditionRule (nested : Nested) : Phrase Expr := do
  let first ← nested.conditionPart
  let rest ← many do
    let op ← connective
    return (op, ← nested.conditionPart)
  return join (· == Connective.and) (fun op left right => .ofTerm (.connect op left right)) none
    first rest

/-- The items of a list, after the last of which a comma may stand. -/
def items (nested : Nested) : Phrase (List Expr) :=
  separated (mark ",") nested.conditionPart <* skip (mark ",")

def listRule (nested : Nested) : Phrase Expr := do
  mark "["
  let items ← optional? nested.items
  mark "]"
  return .mk false (.list (items.getD [])) (← many nested.filter)

/-- No expression at all. -/
def nothing : Nested := ⟨failure, failure, failure, failure⟩

def ofDepth : Nat → Nested
  | 0 => nothing
  | depth + 1 =>
    let nested := ofDepth depth
    ⟨nested.pathRule, nested.arithmeticRule, nested.conditionRule, nested.listRule⟩

end Nested

end Templating.Sheet
