/-! White space as Unicode defines it, and trimming it from the ends of a text. -/

namespace Templating

/-- The characters with the Unicode property White_Space. -/
def isBlank (c : Char) : Bool :=
  let n := c.toNat
  (9 ≤ n && n ≤ 13) || n == 0x20 || n == 0x85 || n == 0xA0 || n == 0x1680 ||
    (0x2000 ≤ n && n ≤ 0x200A) || n == 0x2028 || n == 0x2029 || n == 0x202F || n == 0x205F ||
    n == 0x3000

/-- A text without the characters of class `p` at its start. -/
def trimLeftOf (p : Char → Bool) (text : List Char) : List Char := text.dropWhile p

/-- A text without the characters of class `p` at its end. -/
def trimRightOf (p : Char → Bool) (text : List Char) : List Char :=
  (text.reverse.dropWhile p).reverse

/-- A text without the characters of class `p` at its ends. -/
def trimOf (p : Char → Bool) (text : List Char) : List Char := trimRightOf p (trimLeftOf p text)

/-- A text without white space at its ends. -/
def trimBlank (text : List Char) : List Char := trimOf isBlank text

/-- A text without white space at its start. -/
def trimBlankLeft (text : List Char) : List Char := trimLeftOf isBlank text

/-- A text without white space at its end. -/
def trimBlankRight (text : List Char) : List Char := trimRightOf isBlank text

end Templating
