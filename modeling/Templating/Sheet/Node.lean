import Templating.Sheet.Tree
import Templating.Text.Blank

/-! The nodes of a sheet as they are written: texts, and tags with the marks that trim the texts beside
them. Trimming turns nodes into statements. -/

namespace Templating.Sheet

/-- Whether a tag trims the text before it and the text after it. -/
structure Trims where
  before : Bool
  after : Bool
  deriving DecidableEq, Repr

/-- A node: a comment, a text that is not read, or what becomes a statement. A block has the trims of its
first and last tags. -/
inductive Node where
  | text (text : String)
  | print (trims : Trims) (value : Expr)
  | comment (trims : Trims)
  | raw (first : Trims) (text : String) (last : Trims)
  | assign (trims : Trims) (name : String) (value : Expr)
  | branch (arms : List (Trims × Expr × List Node)) (otherwise? : Option (Trims × List Node))
      (last : Trims)
  | loop (first : Trims) (key? : Option String) (name : String) (items : Expr)
      (body otherwise : List Node) (last : Trims)

namespace Node

/-- Whether a node trims the text before it. -/
def trimsBefore : Node → Bool
  | text _ => false
  | print trims _ => trims.before
  | comment trims => trims.before
  | raw first _ _ => first.before
  | assign trims _ _ => trims.before
  | branch ((first, _) :: _) _ _ => first.before
  | branch [] _ _ => false
  | loop first _ _ _ _ _ _ => first.before

/-- Whether a node trims the text after it. -/
def trimsAfter : Node → Bool
  | text _ => false
  | print trims _ => trims.after
  | comment trims => trims.after
  | raw _ _ last => last.after
  | assign trims _ _ => trims.after
  | branch _ _ last => last.after
  | loop _ _ _ _ _ _ last => last.after

end Node

/-- A text without white space at the ends that are trimmed. -/
def trimmed (before after : Bool) (text : String) : String :=
  let left := if before then trimBlankLeft text.toList else text.toList
  String.ofList (if after then trimBlankRight left else left)

/-- Whether the text before nodes is trimmed by the first of them, or by the tag after them. -/
def opening (after : Bool) : List Node → Bool
  | [] => after
  | node :: _ => node.trimsBefore

/-- Whether the last text of an arm is trimmed, by the arm after it or by the tag after all. -/
def armEnd (after : Bool) : List (Trims × Expr × List Node) → Bool
  | [] => after
  | (trims, _) :: _ => trims.before

mutual

/-- The statements of nodes between two tags: `before` tells whether the tag in front trims the text
after it, and `after` whether the tag behind trims the text before it. Where `trims` is false nothing
is trimmed: so it is in the `else` part of a loop, whose `else` tag trims nothing either. -/
def statements (trims before after : Bool) : List Node → List Stmt
  | [] => []
  | node :: rest =>
    statement trims (trims && before) (trims && opening after rest) node ++
      statements trims node.trimsAfter after rest
termination_by structural nodes => nodes

/-- The statements of a node; `before` and `after` tell what is trimmed of it if it is a text. -/
def statement (trims before after : Bool) : Node → List Stmt
  | .text text => [.text (trimmed before after text)]
  | .print _ value => [.print value]
  | .comment _ => []
  | .raw first text last => [.text (trimmed (trims && first.after) (trims && last.before) text)]
  | .assign _ name value => [.assign name value]
  | .branch arms otherwise? last =>
    let armsAfter := match otherwise? with
      | some (between, _) => between.before
      | none => last.before
    [.branch (armStatements trims armsAfter arms) (elseStatements trims last.before otherwise?)]
  | .loop first key? name items body otherwise last =>
    [.loop key? name items (statements trims first.after last.before body)
      (statements false false false otherwise)]
termination_by structural node => node

def armStatements (trims after : Bool) :
    List (Trims × Expr × List Node) → List (Expr × List Stmt)
  | [] => []
  | (first, condition, body) :: rest =>
    (condition, statements trims first.after (armEnd after rest) body) ::
      armStatements trims after rest
termination_by structural arms => arms

/-- The statements after the `else` of a branch. -/
def elseStatements (trims after : Bool) : Option (Trims × List Node) → List Stmt
  | none => []
  | some (first, body) => statements trims first.after after body
termination_by structural otherwise? => otherwise?

end

end Templating.Sheet
