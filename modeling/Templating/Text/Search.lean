/-! Finding a text inside another, and putting a third in its place. -/

namespace Templating

def occursIn (part : List Char) : List Char → Bool
  | [] => part.isEmpty
  | c :: rest => part.isPrefixOf (c :: rest) || occursIn part rest

/-- A text with a part replaced wherever it stands; `skip` characters belong to a part before. -/
def replaceFrom (part new : List Char) : (skip : Nat) → List Char → List Char
  | skip + 1, _ :: rest => replaceFrom part new skip rest
  | 0, c :: rest =>
    if part.isPrefixOf (c :: rest) then
      if part.isEmpty then new ++ c :: replaceFrom part new 0 rest
      else new ++ replaceFrom part new (part.length - 1) rest
    else c :: replaceFrom part new 0 rest
  | _, [] => if part.isEmpty then new else []

def replaceAll (text part new : String) : String :=
  String.ofList (replaceFrom part.toList new.toList 0 text.toList)

end Templating
