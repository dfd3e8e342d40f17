import Templating.Text.Quoted
import Templating.Yaml.Scalar

/-! YAML as it is written line by line: entries of maps on lines of their own, lists of texts between
brackets, and lists of maps with a dash before each item. -/

namespace Templating.Yaml

/-- The printable characters of ASCII that stand for themselves between double quotes. -/
def standsInQuotes (c : Char) : Bool :=
  decide (0x20 ≤ c.toNat) && decide (c.toNat ≤ 0x7E) && c != '"' && c != '\\'

/-- The visible characters of ASCII that stand for themselves in a word. -/
def standsInWord (c : Char) : Bool :=
  decide (0x21 ≤ c.toNat) && decide (c.toNat ≤ 0x7E) && c != ':'

/-- A key as it is written, which is a word or stands between double quotes. -/
inductive Key where
  | word (text : String)
  | quoted (text : String)

def inQuotes (text : String) : String := "\"" ++ text ++ "\""

namespace Key

def text : Key → String
  | word text => text
  | quoted text => text

def written : Key → String
  | word text => text
  | quoted text => inQuotes text

/-- Whether a key can be written so: no character needs an escape, and a word starts with no mark. -/
def isProper : Key → Bool
  | word text => text.toList.head?.any (!isIndicator ·) && text.toList.all standsInWord
  | quoted text => text.toList.all standsInQuotes

end Key

/-- A list of texts. -/
def inBrackets (texts : List String) : String :=
  "[" ++ Text.commaSeparated (texts.map inQuotes) ++ "]"

/-- An entry of a map. -/
def entryLine (key value : String) : String := key ++ ": " ++ value

/-- The lines of an item that is a map: a dash before its first entry, and the others below it. -/
def itemLines : List String → List String
  | [] => []
  | first :: rest => ("  - " ++ first) :: rest.map ("    " ++ ·)

/-- The text of lines. -/
def ofLines (lines : List String) : String := String.join (lines.map (· ++ "\n"))

end Templating.Yaml
