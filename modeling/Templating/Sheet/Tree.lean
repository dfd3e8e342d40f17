import Templating.Number.Binary64

/-! The tree of a sheet: the paths of variables, expressions, and statements. -/

namespace Templating.Sheet

mutual

/-- The path of a value: the name of a variable and the steps into it. -/
inductive Path where
  | mk (root : String) (steps : List Step)

/-- A step into a value. -/
inductive Step where
  /-- A name or a number after a point. -/
  | field (name : String)
  /-- A number in brackets. -/
  | place (digits : String)
  /-- A text in brackets, between two of a quote. -/
  | quoted (quote : Char) (text : String)
  /-- A path in brackets, for its value. -/
  | computed (path : Path)
  /-- What no value has. -/
  | nowhere

end

/-- An operator of arithmetic. -/
inductive MathOp where
  | add | sub | mul | div | rem
  deriving DecidableEq, Repr

/-- Whether an operator binds its operands more tightly than a sum does. -/
def MathOp.isTight : MathOp → Bool
  | add => false
  | sub => false
  | _ => true

/-- A comparison of two values. -/
inductive Comparison where
  | eq | ne | lt | le | gt | ge
  deriving DecidableEq, Repr

/-- A connective of conditions. -/
inductive Connective where
  | and | or
  deriving DecidableEq, Repr

mutual

/-- An expression: a term and the filters that its value goes through, perhaps after a `not`. -/
inductive Expr where
  | mk (negated : Bool) (term : Term) (filters : List Call)

/-- What an expression starts from. -/
inductive Term where
  | text (value : String)
  | int (value : Int)
  | float (value : Binary64)
  | bool (value : Bool)
  | var (path : Path)
  | list (items : List Expr)
  | call (call : Call)
  | test (negated : Bool) (subject : Path) (name : String) (arguments : List Expr)
  | concat (parts : List Term)
  | math (op : MathOp) (left right : Expr)
  | compare (op : Comparison) (left right : Expr)
  | connect (op : Connective) (left right : Expr)
  | member (negated : Bool) (item container : Expr)

/-- A function or a filter and its named arguments, which the reader brings into the order of their
names. -/
inductive Call where
  | mk (name : String) (arguments : List (String × Expr))

end

def Expr.ofTerm (term : Term) : Expr := .mk false term []

/-- A statement. Sheets here do without the tags `include`, `extends`, `block`, `macro`, `import`,
`filter`, `set_global`, `break` and `continue` of the language, and are rejected where they have one. -/
inductive Stmt where
  | text (text : String)
  | print (value : Expr)
  | assign (name : String) (value : Expr)
  | branch (arms : List (Expr × List Stmt)) (otherwise : List Stmt)
  | loop (key? : Option String) (name : String) (items : Expr) (body otherwise : List Stmt)

end Templating.Sheet
