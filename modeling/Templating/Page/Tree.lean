import Templating.Page.Value

/-! The tree of a page: its expressions and its statements, each with the line where it starts. -/

namespace Templating.Page

/-- An operator with two operands. -/
inductive BinaryOp where
  | add | sub | mul | div | floorDiv | rem | pow
  | concat
  deriving DecidableEq, Repr

/-- A comparison of two values. -/
inductive Comparison where
  | eq | ne | lt | le | gt | ge
  | member | notMember
  deriving DecidableEq, Repr

/-- An operator with one operand. -/
inductive UnaryOp where
  | not | neg
  deriving DecidableEq, Repr

mutual

/-- An expression. -/
inductive Expr where
  | const (line : Nat) (value : Value)
  | list (line : Nat) (items : List Expr)
  | map (line : Nat) (entries : List (Expr × Expr))
  | var (line : Nat) (name : String)
  | unary (line : Nat) (op : UnaryOp) (operand : Expr)
  | binary (line : Nat) (op : BinaryOp) (left right : Expr)
  /-- Comparisons of each operand with the next one, which all have to hold. -/
  | chain (line : Nat) (first : Expr) (rest : List (Comparison × Expr))
  | both (line : Nat) (left right : Expr)
  | either (line : Nat) (left right : Expr)
  | choice (line : Nat) (condition yes : Expr) (no : Option Expr)
  | field (line : Nat) (subject : Expr) (name : String)
  | item (line : Nat) (subject key : Expr)
  | slice (line : Nat) (subject : Expr) (start stop step : Option Expr)
  | call (line : Nat) (callee : Expr) (arguments : List Argument)
  | filter (line : Nat) (name : String) (subject : Expr) (arguments : List Argument)
  | test (line : Nat) (name : String) (subject : Expr) (arguments : List Argument)

/-- An argument of a call. -/
inductive Argument where
  | place (value : Expr)
  | named (name : String) (value : Expr)
  /-- All items of a value, each as an argument by place. -/
  | spread (value : Expr)
  /-- All entries of a map, each as a named argument. -/
  | spreadNamed (value : Expr)

end

instance : Inhabited Expr := ⟨.const 0 .missing⟩

/-- What a value is bound to: a name, the field of a value, or a list of targets for the items of a
sequence. -/
inductive Target where
  | name (name : String)
  | field (line : Nat) (subject : Expr) (name : String)
  | list (line : Nat) (targets : List Target)
  deriving Inhabited

/-- A filter of a block, applied to the text of the block. -/
structure BlockFilter where
  line : Nat
  name : String
  arguments : List Argument

/-- A statement. Pages here do without the statements `block`, `call`, `do`, `import`, `from` and
`autoescape` of the language. -/
inductive Stmt where
  | text (text : String)
  | print (line : Nat) (value : Expr)
  | loop (line : Nat) (target : Target) (items : Expr) (condition : Option Expr)
      (recursive : Bool) (body otherwise : List Stmt)
  | branch (line : Nat) (condition : Expr) (yes no : List Stmt)
  | assign (line : Nat) (target : Target) (value : Expr)
  | capture (line : Nat) (target : Target) (filters : List BlockFilter) (body : List Stmt)
  | scope (line : Nat) (bindings : List (Target × Expr)) (body : List Stmt)
  | filtered (line : Nat) (filters : List BlockFilter) (body : List Stmt)
  | define (line : Nat) (name : String) (parameters : List String) (defaults : List Expr)
      (body : List Stmt)
  | embed (line : Nat) (page : Expr) (optional : Bool)
  | inherit (line : Nat) (page : Expr)

mutual

/-- Whether an expression is a constant, or a collection of constants. -/
def Expr.isConst : Expr → Bool
  | .const _ _ => true
  | .list _ items => allConst items
  | .map _ entries => allConstEntries entries
  | _ => false
termination_by structural e => e

def allConst : List Expr → Bool
  | [] => true
  | item :: rest => item.isConst && allConst rest
termination_by structural items => items

def allConstEntries : List (Expr × Expr) → Bool
  | [] => true
  | (key, value) :: rest => key.isConst && value.isConst && allConstEntries rest
termination_by structural entries => entries

end

/-- Whether only named and spread arguments may follow an argument. -/
def Argument.isNamed : Argument → Bool
  | named _ _ => true
  | spreadNamed _ => true
  | _ => false

mutual

/-- The line of the operation that an expression ends with, if the operation before it was at
`line`. Operations come after their operands, so this is the line of the last name or constant in
the expression; a collection of constants is one constant without a line of its own. -/
def Expr.lineAfter (line : Nat) : Expr → Nat
  | .const own _ => own
  | .list own items => if allConst items then line else linesAfter own items
  | .map own entries => if allConstEntries entries then line else entryLinesAfter own entries
  | .var own _ => own
  | .unary own _ operand => operand.lineAfter own
  | .binary own _ left right => right.lineAfter (left.lineAfter own)
  | .chain own first rest => linkLinesAfter (first.lineAfter own) rest
  | .both own left right => right.lineAfter (left.lineAfter own)
  | .either own left right => right.lineAfter (left.lineAfter own)
  | .choice own condition yes no =>
    optionLineAfter (yes.lineAfter (condition.lineAfter own)) no
  | .field own subject _ => subject.lineAfter own
  | .item own subject key => key.lineAfter (subject.lineAfter own)
  | .slice own subject start stop step =>
    optionLineAfter (optionLineAfter (optionLineAfter (subject.lineAfter own) start) stop) step
  | .call own (.var _ _) arguments => argumentLinesAfter own arguments
  | .call own callee arguments => argumentLinesAfter (callee.lineAfter own) arguments
  | .filter own _ subject arguments => argumentLinesAfter (subject.lineAfter own) arguments
  | .test own _ subject arguments => argumentLinesAfter (subject.lineAfter own) arguments
termination_by structural e => e

/-- `lineAfter` through expressions in order. -/
def linesAfter (line : Nat) : List Expr → Nat
  | [] => line
  | item :: rest => linesAfter (item.lineAfter line) rest
termination_by structural items => items

/-- `lineAfter` through the keys and values of entries in order. -/
def entryLinesAfter (line : Nat) : List (Expr × Expr) → Nat
  | [] => line
  | (key, value) :: rest => entryLinesAfter (value.lineAfter (key.lineAfter line)) rest
termination_by structural entries => entries

/-- `lineAfter` through the further operands of comparisons in order. -/
def linkLinesAfter (line : Nat) : List (Comparison × Expr) → Nat
  | [] => line
  | (_, operand) :: rest => linkLinesAfter (operand.lineAfter line) rest
termination_by structural links => links

/-- `lineAfter` through an expression that may be left out. -/
def optionLineAfter (line : Nat) : Option Expr → Nat
  | none => line
  | some e => e.lineAfter line
termination_by structural e => e

/-- `lineAfter` through arguments in order. -/
def argumentLinesAfter (line : Nat) : List Argument → Nat
  | [] => line
  | argument :: rest => argumentLinesAfter (argument.lineAfter line) rest
termination_by structural arguments => arguments

/-- `lineAfter` through an argument. -/
def Argument.lineAfter (line : Nat) : Argument → Nat
  | .place value => value.lineAfter line
  | .named _ value => if value.isConst then line else value.lineAfter line
  | .spread value => value.lineAfter line
  | .spreadNamed value => value.lineAfter line
termination_by structural argument => argument

end

end Templating.Page
