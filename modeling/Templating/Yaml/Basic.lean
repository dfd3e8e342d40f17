/-! Trees of YAML documents. A document that goes wrong somewhere still has the tree of what stands
before that place, so that a reader of the tree meets its faults in the order of the text. -/

namespace Templating.Yaml

/-- A node. A list or a map that goes wrong before its end is not complete, and `broken` stands where a
node should have been. The keys of a map are nodes too. -/
inductive Node where
  /-- A text; a plain one stands without quotes. -/
  | scalar (text : String) (plain : Bool)
  | list (items : List Node) (complete : Bool)
  | map (entries : List (Node × Node)) (complete : Bool)
  | broken
  deriving Inhabited

def Node.empty : Node := .scalar "" true

/-- A document. It is not complete where the text after its node goes wrong. -/
structure Document where
  root : Node
  complete : Bool

end Templating.Yaml
