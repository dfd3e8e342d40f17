/-! Escaping for markup: the characters that could end or open markup become references. -/

namespace Templating.Markup

/-- The reference that stands for a character, if it is one of the six that are escaped; `slash`
is the reference for `/`. -/
def reference? (slash : String) (c : Char) : Option String :=
  match c with
  | '<' => some "&lt;"
  | '>' => some "&gt;"
  | '&' => some "&amp;"
  | '"' => some "&quot;"
  | '\'' => some "&#x27;"
  | '/' => some slash
  | _ => none

/-- A character, or the reference that stands for it. -/
def escapeChar (slash : String) (c : Char) : List Char :=
  match reference? slash c with
  | some text => text.toList
  | none => [c]

/-- A text with every special character replaced by its reference. -/
def escapeWith (slash : String) (text : String) : String :=
  String.ofList (text.toList.flatMap (escapeChar slash))

/-- Escaping with the reference of `/` in lower case. -/
def escape (text : String) : String := escapeWith "&#x2f;" text

/-- Escaping with the reference of `/` in upper case. -/
def escapeUpper (text : String) : String := escapeWith "&#x2F;" text

end Templating.Markup
