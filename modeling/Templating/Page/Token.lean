import Templating.Number.Binary64
import Templating.Number.Digits
import Templating.Text.Blank

/-! The tokens of pages. A page is text with tags in it: `{{ … }}` prints a value, `{% … %}` is a
statement and `{# … #}` is a remark. Scanning stops at the first fault, which counts only when a
reader gets there. -/

namespace Templating.Page

/-- A sign in a tag. -/
inductive Mark where
  | plus | minus | star | slash | floorSlash | percent | power
  | dot | comma | colon | tilde | assign | pipe
  | eq | ne | gt | ge | lt | le
  | parenOpen | parenClose | bracketOpen | bracketClose | braceOpen | braceClose
  deriving DecidableEq, Repr

/-- A token of a page. -/
inductive Token where
  /-- Text outside of tags. -/
  | data (text : String)
  | printStart
  | printEnd
  | tagStart
  | tagEnd
  | name (name : String)
  | text (text : String)
  | int (value : Nat)
  | float (value : Binary64)
  | mark (mark : Mark)
  deriving DecidableEq, Repr

/-- A token and the line where it starts. -/
structure Lexeme where
  token : Token
  line : Nat
  deriving DecidableEq, Repr

/-- Why scanning stops. -/
inductive ScanFault where
  /-- The source breaks a rule at a line. -/
  | broken (line : Nat)
  /-- A text has an escape that stands for nothing. -/
  | badEscape
  deriving DecidableEq, Repr

/-- The tokens of a source, and why scanning stopped before its end, if it did. -/
structure Scan where
  lexemes : List Lexeme
  fault? : Option ScanFault
  deriving DecidableEq, Repr

namespace Scan

def breaks (text : List Char) : Nat := text.count '\n'

def isSpace (c : Char) : Bool :=
  c == ' ' || c == '\t' || c == '\n' || c == '\x0c' || c == '\r'

/-- A kind of tag. -/
inductive Tag where
  | print
  | statement
  | remark
  deriving DecidableEq, Repr

/-- The tag that the characters after a brace open. -/
def tag? (c : Char) : Option Tag :=
  match c with
  | '\x7b' => some .print
  | '%' => some .statement
  | '#' => some .remark
  | _ => none

/-- The text before the first tag, the tag's kind, and what follows its two characters. -/
def splitTag : List Char → Option (List Char × Tag × List Char)
  | [] => none
  | [_] => none
  | c :: d :: rest =>
    match (if c = '\x7b' then tag? d else none) with
    | some tag => some ([], tag, rest)
    | none => (splitTag (d :: rest)).map fun (lead, found) => (c :: lead, found)

/-- What a sign next to a tag's mark does to the white space beside the tag. -/
inductive Trim where
  | keep
  | cut
  deriving DecidableEq, Repr

/-- The sign that stands first, if one does: what it asks for and its length. -/
def sign (text : List Char) : Trim × Nat :=
  match text with
  | '-' :: _ => (.cut, 1)
  | '+' :: _ => (.keep, 1)
  | _ => (.keep, 0)

/-- The text before the first place where a mark stands, and what follows the mark. -/
def splitAt? (mark : List Char) : List Char → Option (List Char × List Char)
  | [] => if mark.isEmpty then some ([], []) else none
  | c :: rest =>
    if mark.isPrefixOf (c :: rest) then some ([], (c :: rest).drop mark.length)
    else (splitAt? mark rest).map fun (lead, after) => (c :: lead, after)

/-- Reads a tag that holds one word, after its opening mark: what its closing sign asks for and what
follows it. -/
def wordTag? (word : String) (text : List Char) : Option (Trim × List Char) :=
  let text := text.dropWhile isSpace
  if word.toList.isPrefixOf text then
    let text := (text.drop word.length).dropWhile isSpace
    let (trim, size) := sign text
    let text := text.drop size
    if ['%', '\x7d'].isPrefixOf text then some (trim, text.drop 2) else none
  else none

/-- The verbatim text up to its closing tag: the text, what the signs of the closing tag ask for
before and after it, and what follows. `passed` holds the text before, reversed. -/
def verbatim? (passed : List Char) : List Char → Option (List Char × Trim × Trim × List Char)
  | [] => none
  | [_] => none
  | c :: d :: rest =>
    let closing :=
      if c = '\x7b' ∧ d = '%' then
        let (before, size) := sign rest
        (wordTag? "endraw" (rest.drop size)).map fun (after, rest) => (before, after, rest)
      else none
    match closing with
    | some (before, after, rest) => some (passed.reverse, before, after, rest)
    | none => verbatim? (c :: passed) (d :: rest)

/-- Where scanning stands. -/
inductive Mode where
  /-- In text; `cut` if white space is to be dropped. -/
  | data (cut : Bool)
  /-- In a tag, inside `depth` open brackets. -/
  | tag (tag : Tag) (depth : Int)
  deriving DecidableEq, Repr

/-- What scanning finds at a place: tokens, how many characters they take, the mode and the line
after them; or tokens and a fault. -/
inductive Found where
  | tokens (lexemes : List Lexeme) (size : Nat) (mode : Mode) (line : Nat)
  | stop (lexemes : List Lexeme) (fault : ScanFault)

/-- The token of text, unless it is empty. -/
def dataToken (text : List Char) (line : Nat) : List Lexeme :=
  if text.isEmpty then [] else [⟨.data (String.ofList text), line⟩]

/-- Finds the next tag from a place in text: the text before it and the tag's start, or a whole
remark or verbatim part. -/
def inData (cut : Bool) (line : Nat) (source : List Char) : Found :=
  let text := if cut then source.dropWhile isBlank else source
  let line := line + breaks (if cut then source.takeWhile isBlank else [])
  match splitTag text with
  | none => .tokens (dataToken text line) source.length (.data false) (line + breaks text)
  | some (lead, tag, after) =>
    let (trim, size) := sign after
    let shown := if trim = .cut then trimBlankRight lead else lead
    let tokens := dataToken shown line
    let start := line + breaks lead
    let after := after.drop size
    let upTo (rest : List Char) : Nat := source.length - rest.length
    match tag with
    | .print => .tokens (tokens ++ [⟨.printStart, start⟩]) (upTo after) (.tag tag 0) start
    | .remark =>
      match splitAt? ['#', '\x7d'] after with
      | none => .stop tokens (.broken (start + breaks after))
      | some (body, rest) =>
        .tokens tokens (upTo rest) (.data (body.getLast? == some '-')) (start + breaks body)
    | .statement =>
      match wordTag? "raw" after with
      | none => .tokens (tokens ++ [⟨.tagStart, start⟩]) (upTo after) (.tag tag 0) start
      | some (opening, inside) =>
        let first := start + breaks (after.take (after.length - inside.length))
        match verbatim? [] inside with
        | none => .stop tokens (.broken (first + breaks inside))
        | some (body, before, closing, rest) =>
          let body' := if opening = .cut then trimBlankLeft body else body
          let body' := if before = .cut then trimBlankRight body' else body'
          let taken := inside.take (inside.length - rest.length)
          .tokens (tokens ++ [⟨.data (String.ofList body'), first⟩]) (upTo rest)
            (.data (closing = .cut)) (first + breaks taken)

def pairMark? (c d : Char) : Option Mark :=
  match c, d with
  | '/', '/' => some .floorSlash
  | '*', '*' => some .power
  | '=', '=' => some .eq
  | '!', '=' => some .ne
  | '>', '=' => some .ge
  | '<', '=' => some .le
  | _, _ => none

def mark? (c : Char) : Option Mark :=
  match c with
  | '+' => some .plus
  | '-' => some .minus
  | '*' => some .star
  | '/' => some .slash
  | '%' => some .percent
  | '.' => some .dot
  | ',' => some .comma
  | ':' => some .colon
  | '~' => some .tilde
  | '|' => some .pipe
  | '=' => some .assign
  | '>' => some .gt
  | '<' => some .lt
  | '(' => some .parenOpen
  | ')' => some .parenClose
  | '[' => some .bracketOpen
  | ']' => some .bracketClose
  | '\x7b' => some .braceOpen
  | '\x7d' => some .braceClose
  | _ => none

def depthChange : Mark → Int
  | .parenOpen => 1
  | .bracketOpen => 1
  | .braceOpen => 1
  | .parenClose => -1
  | .bracketClose => -1
  | .braceClose => -1
  | _ => 0

def startsName (c : Char) : Bool := c.isAlpha || c == '_'

def continuesName (c : Char) : Bool := c.isAlphanum || c == '_'

/-- The text between quotes, with its escapes, and whether the closing quote is there. -/
def quotedBody (quote : Char) : List Char → List Char × Bool
  | [] => ([], false)
  | '\\' :: c :: rest =>
    let (body, closed) := quotedBody quote rest
    ('\\' :: c :: body, closed)
  | c :: rest =>
    if c = '\\' then ([c], false)
    else if c = quote then ([], true)
    else
      let (body, closed) := quotedBody quote rest
      (c :: body, closed)

/-- The value of a digit in base sixteen. -/
def hexDigit? (c : Char) : Option Nat :=
  if '0' ≤ c ∧ c ≤ '9' then some (c.toNat - '0'.toNat)
  else if 'a' ≤ c ∧ c ≤ 'f' then some (c.toNat - 'a'.toNat + 10)
  else if 'A' ≤ c ∧ c ≤ 'F' then some (c.toNat - 'A'.toNat + 10)
  else none

/-- The value of digits in a base. -/
def numeral? (base : Nat) (digits : List Char) : Option Nat :=
  if digits.isEmpty then none
  else
    digits.foldlM
      (fun n c => do
        let d ← hexDigit? c
        if d < base then some (n * base + d) else none)
      0

/-- The value of digits in base sixteen behind an optional plus sign. -/
def signedHex? (digits : List Char) : Option Nat :=
  match digits with
  | '+' :: rest => numeral? 16 rest
  | digits => numeral? 16 digits

/-- A digit in base eight. -/
def isOctal (c : Char) : Bool := '0' ≤ c && c ≤ '7'

/-- The octal digits of an escape after its first one, of which there are at most two. -/
def octalTail : List Char → List Char
  | c :: d :: _ => if isOctal c then c :: (if isOctal d then [d] else []) else []
  | [c] => if isOctal c then [c] else []
  | [] => []

/-- What a letter after a backslash stands for. -/
def escapes : List (Char × Char) :=
  [('"', '"'), ('\\', '\\'), ('/', '/'), ('\'', '\''), ('b', '\x08'), ('f', '\x0c'), ('n', '\n'),
    ('r', '\r'), ('t', '\t')]

/-- The half of a character beyond 16 bits that an escape stands for. -/
def isSurrogate (n : Nat) : Bool := 0xD800 ≤ n && n ≤ 0xDFFF

/-- The text that a text with escapes stands for; a backslash that starts no escape stands for itself.
`half` is the first half of a character whose second half has to follow, and the first `skip`
characters belong to an escape already read. -/
def unescape (half : Option Nat) : (skip : Nat) → List Char → Option (List Char)
  | _, [] => if half.isSome then none else some []
  | skip + 1, _ :: rest => unescape half skip rest
  | 0, '\\' :: 'u' :: rest => do
    let digits := rest.take 4
    let n ← if digits.length < 4 then none else signedHex? digits
    match half with
    | none =>
      if isSurrogate n then unescape (some n) 4 rest
      else (Char.ofNat n :: ·) <$> unescape none 4 rest
    | some high =>
      if 0xD800 ≤ high ∧ high ≤ 0xDBFF ∧ 0xDC00 ≤ n ∧ n ≤ 0xDFFF then
        (Char.ofNat (0x10000 + (high - 0xD800) * 0x400 + (n - 0xDC00)) :: ·) <$>
          unescape none 4 rest
      else none
  | 0, '\\' :: c :: rest => do
    if half.isSome then none
    else if c = 'x' then
      let digits := rest.take 2
      let n ← if digits.length < 2 then none else signedHex? digits
      (Char.ofNat n :: ·) <$> unescape none 2 rest
    else if isOctal c then
      let tail := octalTail rest
      let n ← numeral? 8 (c :: tail)
      if 256 ≤ n then none else (Char.ofNat n :: ·) <$> unescape none tail.length rest
    else
      match escapes.lookup c with
      | some d => (d :: ·) <$> unescape none 0 rest
      | none => ('\\' :: c :: ·) <$> unescape none 0 rest
  | 0, c :: rest =>
    if half.isSome then none else (c :: ·) <$> unescape none 0 rest

/-- The parts of a number that have been read. -/
inductive NumberPart where
  | radix (base : Nat)
  | whole
  | fraction
  | exponent
  | exponentSign
  deriving DecidableEq, Repr

def NumberPart.next? : NumberPart → Char → Option NumberPart
  | part, '_' => some part
  | whole, '.' => some fraction
  | whole, 'e' => some exponent
  | whole, 'E' => some exponent
  | fraction, 'e' => some exponent
  | fraction, 'E' => some exponent
  | exponent, '+' => some exponentSign
  | exponent, '-' => some exponentSign
  | part, c =>
    if c.isDigit then some (if part = exponent then exponentSign else part)
    else if part = radix 16 ∧ (hexDigit? c).isSome then some part
    else none

/-- The characters of a number, after those of a part, and the part that they end in. -/
def numberBody (part : NumberPart) : List Char → List Char × NumberPart
  | [] => ([], part)
  | c :: rest =>
    match part.next? c with
    | some part =>
      let (body, last) := numberBody part rest
      (c :: body, last)
    | none => ([], part)

/-- The double that the characters of a number stand for. -/
def decimal? (text : List Char) : Option Binary64 :=
  let whole := text.takeWhile Char.isDigit
  let rest := text.dropWhile Char.isDigit
  let (fraction, rest) := match rest with
    | '.' :: rest => (rest.takeWhile Char.isDigit, rest.dropWhile Char.isDigit)
    | rest => ([], rest)
  let digits := whole ++ fraction
  let value := digitsValue digits
  if digits.isEmpty then none
  else
    match rest with
    | [] => some (Binary64.ofDecimal false value (-(fraction.length : Int)))
    | _ :: rest =>
      let (negative, digits) := match rest with
        | '-' :: digits => (true, digits)
        | '+' :: digits => (false, digits)
        | digits => (false, digits)
      (numeral? 10 digits).map fun e =>
        Binary64.ofDecimal false value ((if negative then -(e : Int) else e) - fraction.length)

/-- Reads a number: its size and its token, if it is one. -/
def number (text : List Char) : Nat × Option Token :=
  let (start, base) := match text with
    | '0' :: c :: _ =>
      if c = 'b' ∨ c = 'B' then (2, 2)
      else if c = 'o' ∨ c = 'O' then (2, 8)
      else if c = 'x' ∨ c = 'X' then (2, 16)
      else (0, 10)
    | _ => (0, 10)
  let part := if base = 10 then NumberPart.whole else .radix base
  let (body, part) := numberBody part (text.drop start)
  let digits := body.filter (· ≠ '_')
  let token :=
    if body.getLast? = some '_' then none
    else
      match part with
      | .whole => (numeral? 10 digits).bind whole?
      | .radix base => (numeral? base digits).bind whole?
      | _ => (decimal? digits).map .float
  (start + body.length, token)
where
  whole? (n : Nat) : Option Token := if n < Nat.pow 2 128 then some (.int n) else none

/-- The closing mark of a tag, without and with its sign. -/
def closing (tag : Tag) (text : List Char) : Option (Trim × Nat) :=
  let first := if tag = .print then '\x7d' else '%'
  match text with
  | c :: d :: rest =>
    if c = first ∧ d = '\x7d' then some (.keep, 2)
    else if (c = '-' ∨ c = '+') ∧ d = first ∧ rest.head? = some '\x7d' then
      some (if c = '-' then .cut else .keep, 3)
    else none
  | _ => none

def inTag (tag : Tag) (depth : Int) (line : Nat) (source : List Char) : Found :=
  match source with
  | [] => .stop [] (.broken line)
  | c :: rest =>
    if isSpace c then
      .tokens [] (source.takeWhile isSpace).length (.tag tag depth)
        (line + breaks (source.takeWhile isSpace))
    else
      match (if depth = 0 then closing tag source else none) with
      | some (trim, size) =>
        .tokens [⟨if tag = .print then .printEnd else .tagEnd, line⟩] size
          (.data (trim = .cut)) line
      | none =>
        match rest.head?.bind (pairMark? c) with
        | some mark => .tokens [⟨.mark mark, line⟩] 2 (.tag tag depth) line
        | none =>
          match mark? c with
          | some mark => .tokens [⟨.mark mark, line⟩] 1 (.tag tag (depth + depthChange mark)) line
          | none =>
            if c = '\'' ∨ c = '"' then
              let (body, closed) := quotedBody c rest
              if closed then
                match unescape none 0 body with
                | some text =>
                  .tokens [⟨.text (String.ofList text), line⟩] (body.length + 2) (.tag tag depth)
                    (line + breaks body)
                | none => .stop [] .badEscape
              else .stop [] (.broken (line + breaks rest))
            else if c.isDigit then
              match number source with
              | (size, some token) => .tokens [⟨token, line⟩] size (.tag tag depth) line
              | (_, none) => .stop [] (.broken line)
            else if startsName c then
              let name := source.takeWhile continuesName
              .tokens [⟨.name (String.ofList name), line⟩] name.length (.tag tag depth) line
            else .stop [] (.broken line)

def prepend (lexemes : List Lexeme) (scan : Scan) : Scan :=
  { scan with lexemes := lexemes ++ scan.lexemes }

/-- Scans a source from a place; the first `skip` characters belong to tokens already found. -/
def scanFrom (mode : Mode) (line : Nat) : (skip : Nat) → List Char → Scan
  | _, [] => ⟨[], none⟩
  | skip + 1, _ :: rest => scanFrom mode line skip rest
  | 0, c :: rest =>
    let found := match mode with
      | .data cut => inData cut line (c :: rest)
      | .tag tag depth => inTag tag depth line (c :: rest)
    match found with
    | .tokens lexemes size mode line => prepend lexemes (scanFrom mode line (size - 1) rest)
    | .stop lexemes fault => ⟨lexemes, some fault⟩

/-- A source without the one line break that may end it. -/
def chomp (source : List Char) : List Char :=
  let source := if source.getLast? = some '\n' then source.dropLast else source
  if source.getLast? = some '\r' then source.dropLast else source

def ofSource (source : String) : Scan := scanFrom (.data false) 1 0 (chomp source.toList)

end Scan

end Templating.Page
