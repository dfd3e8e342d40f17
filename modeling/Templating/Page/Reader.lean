import Templating.Fault
import Templating.Page.Token
import Templating.Page.Tree

/-! Reading the tree of a page from its tokens. A fault is reported at the line of the last token that
was taken, unless it is one of scanning that has a line of its own. -/

namespace Templating.Page

/-- Where reading stands: the tokens that are left, why there are no more of them, and the line of the
last token taken. -/
structure Cursor where
  lexemes : List Lexeme
  fault? : Option ScanFault
  last : Nat

/-- Why a page cannot be read, and the line of the fault. -/
structure Rejection where
  kind : PageFault.Kind
  line : Nat
  deriving DecidableEq, Repr

abbrev Reading := StateT Cursor (Except Rejection)

namespace Reading

def deepest : Nat := 150

/-- Gives up at the last token taken. -/
def fail : Reading α := do
  throw ⟨.syntaxError, (← get).last⟩

/-- The next token, if there is one. -/
def peek : Reading (Option Token) := do
  let cursor ← get
  match cursor.lexemes, cursor.fault? with
  | lexeme :: _, _ => pure (some lexeme.token)
  | [], none => pure none
  | [], some (.broken line) => throw ⟨.syntaxError, line⟩
  | [], some .badEscape => throw ⟨.badEscape, cursor.last⟩

/-- The line of the next token, or of the last one where there is none. -/
def line : Reading Nat := do
  let cursor ← get
  match cursor.lexemes with
  | lexeme :: _ => pure lexeme.line
  | [] => pure cursor.last

/-- Takes the next token, if there is one. -/
def take : Reading (Option Token) := do
  match ← peek with
  | none => pure none
  | some token =>
    modify fun cursor => match cursor.lexemes with
      | lexeme :: rest => { cursor with lexemes := rest, last := lexeme.line }
      | [] => cursor
    pure (some token)

/-- Takes the next token, which has to be there. -/
def must : Reading Token := do
  match ← take with
  | some token => pure token
  | none => fail

/-- Takes the next token, which has to be this one. -/
def expect (token : Token) : Reading Unit := do
  if (← must) = token then pure () else fail

/-- Takes the next token, which has to be a name. -/
def name : Reading String := do
  match ← must with
  | .name name => pure name
  | _ => fail

def isNext (token : Token) : Reading Bool := do
  pure ((← peek) == some token)

/-- Takes the next token if it is this one, and tells whether it did. -/
def skip (token : Token) : Reading Bool := do
  if ← isNext token then
    let _ ← take
    pure true
  else pure false

def guard (depth : Nat) : Reading Unit := if deepest < depth then fail else pure ()

/-- The levels of operators with two operands, from the loosest to the tightest; level 2 is `not` and
level 3 holds the comparisons. -/
def operator? (level : Nat) (token : Token) : Option (Nat → Expr → Expr → Expr) :=
  match level, token with
  | 0, .name "or" => some .either
  | 1, .name "and" => some .both
  | 4, .mark .plus => some fun line => .binary line .add
  | 4, .mark .minus => some fun line => .binary line .sub
  | 5, .mark .tilde => some fun line => .binary line .concat
  | 6, .mark .star => some fun line => .binary line .mul
  | 6, .mark .slash => some fun line => .binary line .div
  | 6, .mark .floorSlash => some fun line => .binary line .floorDiv
  | 6, .mark .percent => some fun line => .binary line .rem
  | 7, .mark .power => some fun line => .binary line .pow
  | _, _ => none

def comparison? : Token → Option Comparison
  | .mark .eq => some .eq
  | .mark .ne => some .ne
  | .mark .lt => some .lt
  | .mark .le => some .le
  | .mark .gt => some .gt
  | .mark .ge => some .ge
  | .name "in" => some .member
  | _ => none

/-- The names that no assignment can bind. -/
def reserved : List String :=
  ["true", "True", "false", "False", "none", "None", "loop", "self"]

def constant? : String → Option Value
  | "true" => some (.bool true)
  | "True" => some (.bool true)
  | "false" => some (.bool false)
  | "False" => some (.bool false)
  | "none" => some .nothing
  | "None" => some .nothing
  | _ => none

/-- Whether a test without parentheses takes the value that a token starts as its argument. -/
def startsArgument : Token → Bool
  | .name name => !(["and", "or", "else", "is"].contains name)
  | .text _ => true
  | .int _ => true
  | .float _ => true
  | .mark .plus => true
  | .mark .minus => true
  | .mark .bracketOpen => true
  | .mark .braceOpen => true
  | _ => false

/-- Takes texts that stand next to each other as one text. A fault of scanning after a text ends the
source there. -/
def moreText : (fuel : Nat) → String → Reading String
  | 0, text => pure text
  | fuel + 1, text => do
    match (← get).lexemes with
    | ⟨.text more, _⟩ :: _ =>
      let _ ← take
      moreText fuel (text ++ more)
    | _ :: _ => pure text
    | [] =>
      modify fun cursor => { cursor with fault? := none }
      pure text

def dottedName : (fuel : Nat) → Reading String
  | 0 => fail
  | fuel + 1 => do
    let first ← name
    if ← skip (.mark .dot) then
      pure (first ++ "." ++ (← dottedName fuel))
    else pure first

mutual

def expr : (fuel depth : Nat) → Reading Expr
  | 0, _ => fail
  | fuel + 1, depth => do
    guard (depth + 1)
    let start ← line
    let first ← operation fuel (depth + 1) 0
    choices fuel (depth + 1) start first

/-- Reads the conditions after an expression. -/
def choices : (fuel depth start : Nat) → Expr → Reading Expr
  | 0, _, _, _ => fail
  | fuel + 1, depth, start, yes => do
    if ← skip (.name "if") then
      let condition ← operation fuel depth 0
      let no ← if ← skip (.name "else") then
        let again ← line
        let first ← operation fuel depth 0
        some <$> choices fuel depth again first
      else pure none
      choices fuel depth (← line) (.choice start condition yes no)
    else pure yes

/-- Reads the operators of a level and those that bind tighter. -/
def operation : (fuel depth level : Nat) → Reading Expr
  | 0, _, _ => fail
  | fuel + 1, depth, level => do
    let start ← line
    if level = 2 then
      if ← skip (.name "not") then
        pure (.unary start .not (← operation fuel depth 2))
      else operation fuel depth 3
    else if level = 3 then
      let first ← operation fuel depth 4
      match ← comparisons fuel depth with
      | [] => pure first
      | rest => pure (.chain start first rest)
    else if level = 8 then
      let subject ← primary fuel depth
      let subject ← postfixes fuel depth start subject
      filters fuel depth subject
    else
      let first ← operation fuel depth (level + 1)
      operators fuel depth level start first

/-- Reads the further operands of operators of one level. -/
def operators : (fuel depth level start : Nat) → Expr → Reading Expr
  | 0, _, _, _, _ => fail
  | fuel + 1, depth, level, start, left => do
    match (← peek).bind (operator? level) with
    | some build =>
      let _ ← take
      let right ← operation fuel depth (level + 1)
      operators fuel depth level start (build start left right)
    | none => pure left

def comparisons : (fuel depth : Nat) → Reading (List (Comparison × Expr))
  | 0, _ => fail
  | fuel + 1, depth => do
    let next ← peek
    let found ← if next == some (.name "not") then do
        let _ ← take
        expect (.name "in")
        pure (some Comparison.notMember)
      else match next.bind comparison? with
        | some comparison => do
          let _ ← take
          pure (some comparison)
        | none => pure none
    match found with
    | none => pure []
    | some comparison =>
      let operand ← operation fuel depth 4
      pure ((comparison, operand) :: (← comparisons fuel depth))

/-- Reads an expression without operators, behind any minus signs. -/
def primary : (fuel depth : Nat) → Reading Expr
  | 0, _ => fail
  | fuel + 1, depth => do
    let start ← line
    if ← skip (.mark .minus) then
      pure (.unary start .neg (← primary fuel depth))
    else
      guard (depth + 1)
      match ← must with
      | .name name =>
        match constant? name with
        | some value => pure (.const start value)
        | none => pure (.var start name)
      | .text text => pure (.const start (.text (← moreText fuel text)))
      | .int n => pure (.const start (.count n))
      | .float x => pure (.const start (.float x))
      | .mark .parenOpen => group fuel (depth + 1) start
      | .mark .bracketOpen =>
        pure (.list start (← items fuel (depth + 1) (.mark .bracketClose) 0))
      | .mark .braceOpen => pure (.map start (← entries fuel (depth + 1) true))
      | _ => fail

/-- Reads what follows an opening parenthesis: an expression, or the items of a list. -/
def group : (fuel depth start : Nat) → Reading Expr
  | 0, _, _ => fail
  | fuel + 1, depth, start => do
    if ← skip (.mark .parenClose) then pure (.list start [])
    else
      let first ← expr fuel depth
      if ← skip (.mark .comma) then
        pure (.list start (first :: (← items fuel depth (.mark .parenClose) 0)))
      else
        expect (.mark .parenClose)
        pure first

/-- Reads the items of a list up to its end, after `count` items. -/
def items : (fuel depth : Nat) → (close : Token) → (count : Nat) → Reading (List Expr)
  | 0, _, _, _ => fail
  | fuel + 1, depth, close, count => do
    if ← skip close then pure []
    else
      let ended ← if count = 0 then pure false else do
        expect (.mark .comma)
        skip close
      if ended then pure []
      else
        let item ← expr fuel depth
        pure (item :: (← items fuel depth close (count + 1)))

def entries : (fuel depth : Nat) → (first : Bool) → Reading (List (Expr × Expr))
  | 0, _, _ => fail
  | fuel + 1, depth, first => do
    if ← skip (.mark .braceClose) then pure []
    else
      let ended ← if first then pure false else do
        expect (.mark .comma)
        skip (.mark .braceClose)
      if ended then pure []
      else
        let key ← expr fuel depth
        expect (.mark .colon)
        let value ← expr fuel depth
        pure ((key, value) :: (← entries fuel depth false))

/-- Reads the fields, items and calls after an expression. -/
def postfixes : (fuel depth start : Nat) → Expr → Reading Expr
  | 0, _, _, _ => fail
  | fuel + 1, depth, start, subject => do
    match ← peek with
    | some (.mark .dot) =>
      let _ ← take
      let own ← line
      match ← must with
      | .name name => postfixes fuel depth start (.field start subject name)
      | .int n => postfixes fuel depth start (.item start subject (.const own (.count n)))
      | _ => fail
    | some (.mark .bracketOpen) =>
      let _ ← take
      let next ← subscript fuel depth start subject
      postfixes fuel depth start next
    | some (.mark .parenOpen) =>
      let _ ← take
      let arguments ← arguments fuel depth 0 false
      postfixes fuel depth start (.call start subject arguments)
    | _ => pure subject

def subscript : (fuel depth start : Nat) → Expr → Reading Expr
  | 0, _, _, _ => fail
  | fuel + 1, depth, start, subject => do
    let first ← if ← isNext (.mark .colon) then pure none else some <$> expr fuel depth
    if ← skip (.mark .colon) then
      let stop ← if (← isNext (.mark .bracketClose)) || (← isNext (.mark .colon)) then pure none
        else some <$> expr fuel depth
      let step ← if ← skip (.mark .colon) then
          if ← isNext (.mark .bracketClose) then pure none else some <$> expr fuel depth
        else pure none
      expect (.mark .bracketClose)
      pure (.slice start subject first stop step)
    else
      expect (.mark .bracketClose)
      match first with
      | some key => pure (.item start subject key)
      | none => fail

/-- Reads the arguments of a call up to the closing parenthesis, after `count` arguments. After a
named one, only named ones and spread ones may stand. -/
def arguments : (fuel depth count : Nat) → (named : Bool) → Reading (List Argument)
  | 0, _, _, _ => fail
  | fuel + 1, depth, count, named => do
    if ← skip (.mark .parenClose) then pure []
    else
      let ended ← if count = 0 then pure false else do
        expect (.mark .comma)
        skip (.mark .parenClose)
      if ended then pure []
      else
        let argument ← argument fuel depth
        match argument with
        | .place _ => if named then fail
        | _ => pure ()
        let named := named || argument.isNamed
        pure (argument :: (← arguments fuel depth (count + 1) named))

def argument : (fuel depth : Nat) → Reading Argument
  | 0, _ => fail
  | fuel + 1, depth => do
    if ← skip (.mark .power) then .spreadNamed <$> expr fuel depth
    else if ← skip (.mark .star) then .spread <$> expr fuel depth
    else
      let value ← expr fuel depth
      match value with
      | .var _ name =>
        if ← skip (.mark .assign) then .named name <$> expr fuel depth
        else pure (.place value)
      | value => pure (.place value)

/-- Reads the filters and tests after an expression. -/
def filters : (fuel depth : Nat) → Expr → Reading Expr
  | 0, _, _ => fail
  | fuel + 1, depth, subject => do
    match ← peek with
    | some (.mark .pipe) =>
      let _ ← take
      let own ← line
      let filter ← dottedName fuel
      let arguments ← if ← skip (.mark .parenOpen) then arguments fuel depth 0 false
        else pure []
      filters fuel depth (.filter own filter subject arguments)
    | some (.name "is") =>
      let _ ← take
      let negated ← skip (.name "not")
      let own ← line
      let test ← dottedName fuel
      let arguments ← if ← skip (.mark .parenOpen) then arguments fuel depth 0 false
        else if ((← peek).map startsArgument).getD false then do
          let start ← line
          let value ← primary fuel depth
          pure [.place (← postfixes fuel depth start value)]
        else pure []
      let result := .test own test subject arguments
      filters fuel depth (if negated then .unary own .not result else result)
    | _ => pure subject

end

def boundName : Reading String := do
  let name ← name
  if reserved.contains name then fail else pure name

/-- Reads the fields after a bound name. -/
def boundFields : (fuel : Nat) → (start : Nat) → Expr → Reading Target
  | 0, _, _ => fail
  | fuel + 1, start, subject => do
    let _ ← take
    let field ← name
    if ← isNext (.mark .dot) then boundFields fuel start (.field start subject field)
    else pure (.field start subject field)

def boundPlace (fuel : Nat) : Reading Target := do
  let start ← line
  let name ← boundName
  if ← isNext (.mark .dot) then boundFields fuel start (.var start name)
  else pure (.name name)

mutual

/-- Reads what a value is bound to: names and groups of names, with commas between them. -/
def target : (fuel : Nat) → Reading Target
  | 0 => fail
  | fuel + 1 => do
    let start ← line
    let (targets, isList) ← targets fuel 0
    match isList, targets with
    | false, [only] => pure only
    | _, targets => pure (.list start targets)

/-- Reads targets after `count` others, and tells whether a comma stood among them. -/
def targets : (fuel count : Nat) → Reading (List Target × Bool)
  | 0, _ => fail
  | fuel + 1, count => do
    if 0 < count then expect (.mark .comma)
    let next ← peek
    if next == some (.mark .parenClose) || next == some .printEnd || next == some .tagEnd ||
        next == some (.mark .assign) || next == some (.name "in") then
      pure ([], false)
    else
      let first ← if ← skip (.mark .parenOpen) then do
          let inner ← target fuel
          expect (.mark .parenClose)
          pure inner
        else .name <$> boundName
      if ← isNext (.mark .comma) then
        let (rest, _) ← targets fuel (count + 1)
        pure (first :: rest, true)
      else pure ([first], false)

end

/-- Reads a target of an assignment: a place, a group, or several of them with commas between. -/
def settable (fuel : Nat) : Reading Target := do
  let start ← line
  let first ← if ← skip (.mark .parenOpen) then do
      let inner ← target fuel
      expect (.mark .parenClose)
      pure inner
    else boundPlace fuel
  if ← isNext (.mark .comma) then
    let (rest, _) ← targets fuel 1
    pure (.list start (first :: rest))
  else pure first

/-- Reads the expressions after a first one up to the end of a tag. -/
def moreListed : (fuel depth : Nat) → Reading (List Expr)
  | 0, _ => fail
  | fuel + 1, depth => do
    if ← skip (.mark .comma) then
      if ← isNext .tagEnd then pure []
      else
        let item ← expr fuel depth
        pure (item :: (← moreListed fuel depth))
    else pure []

/-- Reads an expression, or several with commas as a list. -/
def listed (fuel depth : Nat) : Reading Expr := do
  let start ← line
  let first ← expr fuel depth
  if ← isNext (.mark .comma) then
    pure (.list start (first :: (← moreListed fuel depth)))
  else pure first

/-- Reads the filters of a block up to the end of its tag. -/
def blockFilters : (fuel depth : Nat) → (first : Bool) → Reading (List BlockFilter)
  | 0, _, _ => fail
  | fuel + 1, depth, first => do
    if ← isNext .tagEnd then
      if first then fail else pure []
    else
      if !first then expect (.mark .pipe)
      let own ← line
      let filter ← dottedName fuel
      let arguments ← if ← skip (.mark .parenOpen) then arguments fuel depth 0 false else pure []
      pure (⟨own, filter, arguments⟩ :: (← blockFilters fuel depth false))

/-- Reads the parameters of a macro up to the closing parenthesis. Once one has a default, those after
it have one too. -/
def parameters : (fuel depth count : Nat) → (defaulted : Bool) →
    Reading (List String × List Expr)
  | 0, _, _, _ => fail
  | fuel + 1, depth, count, defaulted => do
    if ← skip (.mark .parenClose) then pure ([], [])
    else
      let ended ← if count = 0 then pure false else do
        expect (.mark .comma)
        skip (.mark .parenClose)
      if ended then pure ([], [])
      else
        let own ← boundName
        if ← skip (.mark .assign) then
          let value ← expr fuel depth
          let (names, values) ← parameters fuel depth (count + 1) true
          pure (own :: names, value :: values)
        else
          if defaulted then expect (.mark .assign)
          let (names, values) ← parameters fuel depth (count + 1) defaulted
          pure (own :: names, values)

/-- Reads the bindings of a scope up to the end of its tag. -/
def bindings : (fuel depth : Nat) → (first : Bool) → Reading (List (Target × Expr))
  | 0, _, _ => fail
  | fuel + 1, depth, first => do
    if ← isNext .tagEnd then pure []
    else
      if !first then expect (.mark .comma)
      let bound ← if ← skip (.mark .parenOpen) then do
          let inner ← target fuel
          expect (.mark .parenClose)
          pure inner
        else .name <$> boundName
      expect (.mark .assign)
      let value ← expr fuel depth
      pure ((bound, value) :: (← bindings fuel depth false))

/-- Takes the word after a page's name that says whether the page sees the variables. -/
def context : Reading Unit := do
  if (← skip (.name "with")) || (← skip (.name "without")) then expect (.name "context")

mutual

/-- Reads statements up to a tag that starts with one of the names, whose opening mark is taken. -/
def body : (fuel depth : Nat) → (ends : List String) → Reading (List Stmt)
  | 0, _, _ => fail
  | fuel + 1, depth, ends => do
    let start ← line
    match ← take with
    | none => pure []
    | some (.data text) => pure (.text text :: (← body fuel depth ends))
    | some .printStart =>
      let value ← expr fuel depth
      expect .printEnd
      pure (.print start value :: (← body fuel depth ends))
    | some .tagStart =>
      match ← peek with
      | none => fail
      | some (.name keyword) =>
        if ends.contains keyword then pure []
        else statementAndBody fuel depth ends
      | some _ => statementAndBody fuel depth ends
    | some _ => fail

/-- Reads a statement and the statements after it. -/
def statementAndBody : (fuel depth : Nat) → (ends : List String) → Reading (List Stmt)
  | 0, _, _ => fail
  | fuel + 1, depth, ends => do
    let first ← statement fuel depth
    expect .tagEnd
    pure (first :: (← body fuel depth ends))

/-- Reads a statement after the opening mark of its tag, up to the closing mark of its last tag. A word
that begins none of the statements in `Stmt` is rejected, also where the language has a statement for
it. -/
def statement : (fuel depth : Nat) → Reading Stmt
  | 0, _ => fail
  | fuel + 1, depth => do
    let depth := depth + 1
    guard depth
    let start ← line
    match ← must with
    | .name "for" => do
      let bound ← target fuel
      expect (.name "in")
      let subject ← operation fuel depth 0
      let condition ← if ← skip (.name "if") then some <$> expr fuel depth else pure none
      let recursive ← skip (.name "recursive")
      expect .tagEnd
      let inside ← body fuel depth ["endfor", "else"]
      let otherwise ← if ← skip (.name "else") then do
          expect .tagEnd
          body fuel depth ["endfor"]
        else pure []
      let _ ← take
      pure (.loop start bound subject condition recursive inside otherwise)
    | .name "if" => branches fuel depth start
    | .name "with" => do
      let bound ← bindings fuel depth true
      expect .tagEnd
      let inside ← body fuel depth ["endwith"]
      let _ ← take
      pure (.scope start bound inside)
    | .name "set" => do
      let grouped ← isNext (.mark .parenOpen)
      let bound ← settable fuel
      let filters ← if grouped then pure none
        else if ← isNext .tagEnd then pure (some [])
        else if ← skip (.mark .pipe) then some <$> blockFilters fuel depth true
        else pure none
      match filters with
      | some filters =>
        expect .tagEnd
        let inside ← body fuel depth ["endset"]
        let _ ← take
        pure (.capture start bound filters inside)
      | none =>
        expect (.mark .assign)
        pure (.assign start bound (← listed fuel depth))
    | .name "filter" => do
      let filters ← blockFilters fuel depth true
      expect .tagEnd
      let inside ← body fuel depth ["endfilter"]
      let _ ← take
      pure (.filtered start filters inside)
    | .name "macro" => do
      let own ← name
      expect (.mark .parenOpen)
      let (names, defaults) ← parameters fuel depth 0 false
      expect .tagEnd
      let inside ← body fuel depth ["endmacro"]
      let _ ← take
      pure (.define start own names defaults inside)
    | .name "include" => do
      let page ← expr fuel depth
      context
      let optional ← if ← skip (.name "ignore") then do
          expect (.name "missing")
          context
          pure true
        else pure false
      pure (.embed start page optional)
    | .name "extends" => do
      pure (.inherit start (← expr fuel depth))
    | _ => fail

/-- Reads the branches of a condition after its keyword. -/
def branches : (fuel depth start : Nat) → Reading Stmt
  | 0, _, _ => fail
  | fuel + 1, depth, start => do
    let condition ← operation fuel depth 0
    expect .tagEnd
    let yes ← body fuel depth ["endif", "else", "elif"]
    let own ← line
    let no ← match ← take with
      | some (.name "else") => do
        expect .tagEnd
        let no ← body fuel depth ["endif"]
        let _ ← take
        pure no
      | some (.name "elif") => do
        pure [← branches fuel depth own]
      | _ => pure []
    pure (.branch start condition yes no)

end

/-- More steps than reading a source of so many tokens can take. -/
def enough (tokens : Nat) : Nat := 32 * (tokens + 2)

def page (scan : Scan) : Except Rejection (List Stmt) :=
  let cursor : Cursor := ⟨scan.lexemes, scan.fault?, 1⟩
  (·.1) <$> (body (enough scan.lexemes.length) 0 []).run cursor

end Reading

def parse (source : String) : Except Rejection (List Stmt) := Reading.page (Scan.ofSource source)

end Templating.Page
