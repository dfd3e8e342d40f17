import Templating.Proofs.Calling.Invocation
import Templating.Proofs.Printing.PageScan

/-! The tokens of a printed call on a page, whatever their lines are: a text in quotes may have line
breaks in it. Characters inside the tag are cut into tokens piece by piece, and a piece is taken
together with what follows it, as a name ends only where no part of a name follows. -/

namespace Templating

/-- Operands that are written as they are: identifiers, and texts that need no escapes. -/
def Operand.Plain : Operand → Prop
  | .var name => Identifier name
  | .text shown => QuoteFree shown

instance : (operand : Operand) → Decidable operand.Plain
  | .var name => inferInstanceAs (Decidable (Identifier name))
  | .text shown => inferInstanceAs (Decidable (QuoteFree shown))

namespace Page

def operandToken : Operand → Token
  | .var name => .name name
  | .text text => .text text

/-- The tokens of a call after the first of its arguments. -/
def moreTokens : List Labelled → List Token
  | [] => [.mark .parenClose]
  | argument :: rest => .mark .comma :: operandToken argument.operand :: moreTokens rest

/-- The tokens of a call after its opening parenthesis. -/
def argumentTokens : List Labelled → List Token
  | [] => [.mark .parenClose]
  | argument :: rest => operandToken argument.operand :: moreTokens rest

namespace Scan

/-- In a print tag, inside some brackets, characters before a rest are tokens and lead into a number
of brackets. -/
def Cuts (depth : Int) (chars : List Char) (tokens : List Token) (after : Int)
    (rest : List Char) : Prop :=
  ∀ line, ∃ lexemes next, lexemes.map Lexeme.token = tokens ∧
    scanFrom (.tag .print depth) line 0 (chars ++ rest) =
      prepend lexemes (scanFrom (.tag .print after) next 0 rest)

section Pieces

variable {depth middle after : Int} {chars more rest : List Char} {tokens others : List Token}
  {name text : String} {c : Char}

theorem Cuts.append (first : Cuts depth chars tokens middle (more ++ rest))
    (second : Cuts middle more others after rest) :
    Cuts depth (chars ++ more) (tokens ++ others) after rest := by
  intro line
  obtain ⟨lexemes, next, spelled, scanned⟩ := first line
  obtain ⟨lexemes', next', spelled', scanned'⟩ := second next
  refine ⟨lexemes ++ lexemes', next', ?_, ?_⟩
  · rw [List.map_append, spelled, spelled']
  · rw [List.append_assoc, scanned, scanned', prepend, prepend, prepend, List.append_assoc]

theorem cuts_space (h : isSpace c = false) : Cuts depth [' '] [] depth (c :: rest) := by
  intro line
  exact ⟨[], line, rfl, scanFrom_tag (List.cons_ne_nil _ _) (inTag_space h)⟩

theorem cuts_name (named : Identifier name) (outside : inIdentifier c = false) :
    Cuts depth name.toList [.name name] depth (c :: rest) := by
  intro line
  obtain ⟨first, more, spelled, starts, parts⟩ := named.exists_cons
  refine ⟨[⟨.name name, line⟩], line, rfl, ?_⟩
  rw [← String.ofList_toList (s := name), spelled, String.toList_ofList]
  exact scanFrom_tag (List.cons_ne_nil _ _) (inTag_name starts parts outside)

/-- A sign that is neither part of another nor of the end of the tag. -/
theorem inTag_mark {mark : Mark} (line : Nat) (visible : isSpace c = false)
    (brace : c ≠ '\x7d') (minus : c ≠ '-') (plus : c ≠ '+') (noPair : ∀ d, pairMark? c d = none)
    (is : mark? c = some mark) :
    inTag .print depth line (c :: rest) =
      .tokens [⟨.mark mark, line⟩] 1 (.tag .print (depth + depthChange mark)) line := by
  have goesOn : (if depth = 0 then closing .print (c :: rest) else none) = none := by
    rw [closing_of_ne brace minus plus, ite_self]
  have single : rest.head?.bind (pairMark? c) = none := by
    cases rest.head? with
    | none => rfl
    | some d => exact noPair d
  simp only [inTag, visible, Bool.false_eq_true, if_false, goesOn, single, is]

theorem cuts_mark {mark : Mark} (visible : isSpace c = false)
    (brace : c ≠ '\x7d') (minus : c ≠ '-') (plus : c ≠ '+') (noPair : ∀ d, pairMark? c d = none)
    (is : mark? c = some mark) :
    Cuts depth [c] [.mark mark] (depth + depthChange mark) rest := fun line =>
  ⟨[⟨.mark mark, line⟩], line, rfl, scanFrom_tag (List.cons_ne_nil c [])
    (inTag_mark line visible brace minus plus noPair is)⟩

theorem cuts_open : Cuts depth ['('] [.mark .parenOpen] (depth + 1) rest :=
  cuts_mark rfl (by decide) (by decide) (by decide) (fun _ => rfl) rfl

theorem cuts_close : Cuts depth [')'] [.mark .parenClose] (depth + -1) rest :=
  cuts_mark rfl (by decide) (by decide) (by decide) (fun _ => rfl) rfl

theorem cuts_comma : Cuts depth [','] [.mark .comma] depth rest := by
  have cuts : Cuts depth [','] [.mark .comma] (depth + depthChange .comma) rest :=
    cuts_mark rfl (by decide) (by decide) (by decide) (fun _ => rfl) rfl
  rwa [show depthChange .comma = 0 from rfl, Int.add_zero] at cuts

theorem quotedBody_of_quoteFree (chars : List Char)
    (h : ∀ c ∈ chars, c ≠ '\'' ∧ c ≠ '"' ∧ c ≠ '\\') :
    quotedBody '\'' (chars ++ '\'' :: rest) = (chars, true) := by
  induction chars with
  | nil =>
    rw [List.nil_append, quotedBody]
    · rfl
    · nofun
  | cons c more ih =>
    obtain ⟨quote, -, backslash⟩ := h c List.mem_cons_self
    rw [List.cons_append, quotedBody]
    · rw [if_neg backslash, if_neg quote, ih fun d inMore => h d (List.mem_cons_of_mem _ inMore)]
    · exact fun _ _ same => absurd same backslash

theorem unescape_of_quoteFree (chars : List Char) (h : ∀ c ∈ chars, c ≠ '\\') :
    unescape none 0 chars = some chars := by
  induction chars with
  | nil => rfl
  | cons c more ih =>
    have backslash := h c List.mem_cons_self
    rw [unescape, ih fun d inMore => h d (List.mem_cons_of_mem _ inMore)]
    · rfl
    · exact fun _ same => absurd same backslash
    · exact fun _ _ same => absurd same backslash

theorem cuts_text (free : QuoteFree text) :
    Cuts depth ('\'' :: (text.toList ++ ['\''])) [.text text] depth rest := by
  intro line
  have body : quotedBody '\'' (text.toList ++ '\'' :: rest) = (text.toList, true) :=
    quotedBody_of_quoteFree text.toList free
  have plain := unescape_of_quoteFree text.toList fun c inText => (free c inText).2.2
  have goesOn : (if depth = 0 then closing .print ('\'' :: (text.toList ++ '\'' :: rest))
      else none) = none := by
    rw [closing_of_ne (by decide) (by decide) (by decide), ite_self]
  have noPair : (text.toList ++ '\'' :: rest).head?.bind (pairMark? '\'') = none := by
    cases (text.toList ++ '\'' :: rest).head? <;> rfl
  have found : inTag .print depth line ('\'' :: (text.toList ++ '\'' :: rest)) =
      .tokens [⟨.text text, line⟩] (text.toList.length + 2) (.tag .print depth)
        (line + breaks text.toList) := by
    have visible : isSpace '\'' = false := rfl
    have noMark : mark? '\'' = none := rfl
    simp only [inTag, visible, goesOn, noPair, noMark, body, plain, true_or, if_true,
      Bool.false_eq_true, if_false, String.ofList_toList]
  have size : ('\'' :: (text.toList ++ ['\''])).length = text.toList.length + 2 := by simp
  refine ⟨[⟨.text text, line⟩], line + breaks text.toList, rfl,
    scanFrom_tag (List.cons_ne_nil _ _) ?_⟩
  rw [size, List.cons_append, List.append_assoc]
  exact found

end Pieces

section Call

variable {depth : Int} {rest : List Char} {arguments : List Labelled}

theorem cuts_operand {argument : Labelled} {c : Char} (plain : argument.operand.Plain)
    (outside : inIdentifier c = false) :
    Cuts depth argument.onPage.toList [operandToken argument.operand] depth (c :: rest) := by
  obtain ⟨label, operand⟩ := argument
  cases operand with
  | var name => exact cuts_name plain outside
  | text text =>
    have written : (Labelled.onPage ⟨label, .text text⟩).toList =
        '\'' :: (text.toList ++ ['\'']) := by
      simp only [Labelled.onPage, String.toList_append, List.append_assoc]
      rfl
    rw [written]
    exact cuts_text plain

theorem onPage_visible {argument : Labelled} (plain : argument.operand.Plain) :
    ∃ c more, argument.onPage.toList = c :: more ∧ isSpace c = false := by
  obtain ⟨label, operand⟩ := argument
  cases operand with
  | var name =>
    obtain ⟨c, more, spelled, starts, -⟩ := Identifier.exists_cons plain
    exact ⟨c, more, spelled, isSpace_of_startsIdentifier starts⟩
  | text text =>
    refine ⟨'\'', text.toList ++ ['\''], ?_, rfl⟩
    simp only [Labelled.onPage, String.toList_append, List.append_assoc]
    rfl

theorem moreChars_outside (arguments : List Labelled) (rest : List Char) :
    ∃ c more, Invocation.moreChars Labelled.onPage arguments ++ rest = c :: more ∧
      inIdentifier c = false := by
  cases arguments with
  | nil => exact ⟨')', rest, rfl, rfl⟩
  | cons argument others => exact ⟨',', _, rfl, rfl⟩

theorem cuts_more (plain : ∀ argument ∈ arguments, argument.operand.Plain) :
    Cuts depth (Invocation.moreChars Labelled.onPage arguments) (moreTokens arguments)
      (depth + -1) rest := by
  induction arguments with
  | nil => exact cuts_close
  | cons argument others ih =>
    have here := plain argument List.mem_cons_self
    have later := ih fun other inOthers => plain other (List.mem_cons_of_mem _ inOthers)
    obtain ⟨c, more, next, outside⟩ := moreChars_outside others rest
    obtain ⟨first, tail, spelled, visible⟩ := onPage_visible here
    have operand : Cuts depth argument.onPage.toList [operandToken argument.operand] depth
        (Invocation.moreChars Labelled.onPage others ++ rest) := next ▸ cuts_operand here outside
    have space : Cuts depth [' '] [] depth
        ((argument.onPage.toList ++ Invocation.moreChars Labelled.onPage others) ++ rest) := by
      rw [spelled]
      exact cuts_space visible
    exact cuts_comma.append (space.append (operand.append later))

theorem cuts_arguments (plain : ∀ argument ∈ arguments, argument.operand.Plain) :
    Cuts depth (Invocation.argumentChars Labelled.onPage arguments) (argumentTokens arguments)
      (depth + -1) rest := by
  cases arguments with
  | nil => exact cuts_close
  | cons argument others =>
    obtain ⟨c, more, next, outside⟩ := moreChars_outside others rest
    have operand : Cuts depth argument.onPage.toList [operandToken argument.operand] depth
        (Invocation.moreChars Labelled.onPage others ++ rest) :=
      next ▸ cuts_operand (plain argument List.mem_cons_self) outside
    exact operand.append
      (cuts_more fun other inOthers => plain other (List.mem_cons_of_mem _ inOthers))

theorem chomp_of_brace (source : List Char) : chomp (source ++ ['\x7d']) = source ++ ['\x7d'] := by
  refine chomp_of_no_break ?_
  rw [List.getLast?_concat]
  decide

/-- A print tag whose inside starts with something visible and ends outside of brackets. -/
theorem ofSource_printTag {inside : String} {tokens : List Token} {c : Char} {more : List Char}
    (spelled : inside.toList = c :: more) (visible : isSpace c = false)
    (cuts : Cuts 0 inside.toList tokens 0 [' ', '\x7d', '\x7d']) :
    ∃ lexemes, ofSource (printTag inside) = ⟨lexemes, none⟩ ∧
      lexemes.map Lexeme.token = .printStart :: (tokens ++ [.printEnd]) := by
  have space : Cuts 0 [' '] [] 0 (inside.toList ++ [' ', '\x7d', '\x7d']) := by
    rw [spelled]
    exact cuts_space visible
  obtain ⟨lexemes, next, same, scanned⟩ := space.append cuts 1
  have whole : chomp (printTag inside).toList =
      [] ++ '\x7b' :: '\x7b' :: ' ' :: (inside.toList ++ [' ', '\x7d', '\x7d']) := by
    have ending : (printTag inside).toList =
        ('\x7b' :: '\x7b' :: ' ' :: (inside.toList ++ [' ', '\x7d'])) ++ ['\x7d'] := by
      simp [toList_printTag]
    rw [ending, chomp_of_brace, ← ending, toList_printTag, List.nil_append]
  have opened : scanFrom (.data false) 1 0
      (['\x7b', '\x7b'] ++ ' ' :: (inside.toList ++ [' ', '\x7d', '\x7d'])) =
      prepend [⟨.printStart, 1⟩] (scanFrom (.tag .print 0) 1 0
        (' ' :: (inside.toList ++ [' ', '\x7d', '\x7d']))) :=
    scanFrom_data (List.cons_ne_nil _ _) (inData_field 1 List.not_mem_nil)
  have close : scanFrom (.tag .print 0) next 0 [' ', '\x7d', '\x7d'] =
      ⟨[⟨.printEnd, next⟩], none⟩ := rfl
  refine ⟨⟨.printStart, 1⟩ :: (lexemes ++ [⟨.printEnd, next⟩]), ?_, by simp [same]⟩
  rw [ofSource, whole]
  refine opened.trans ?_
  rw [List.append_assoc] at scanned
  rw [show ' ' :: (inside.toList ++ [' ', '\x7d', '\x7d']) =
    [' '] ++ (inside.toList ++ [' ', '\x7d', '\x7d']) from rfl, scanned, close]
  rfl

theorem ofSource_variable {name : String} (named : Identifier name) :
    ∃ lexemes, ofSource (printTag name) = ⟨lexemes, none⟩ ∧
      lexemes.map Lexeme.token = [.printStart, .name name, .printEnd] := by
  obtain ⟨c, more, spelled, starts, -⟩ := named.exists_cons
  exact ofSource_printTag spelled (isSpace_of_startsIdentifier starts) (cuts_name named rfl)

theorem ofSource_call {invocation : Invocation} (named : Identifier invocation.callee)
    (plain : ∀ argument ∈ invocation.arguments, argument.operand.Plain) :
    ∃ lexemes, ofSource invocation.pageSource = ⟨lexemes, none⟩ ∧
      lexemes.map Lexeme.token =
        .printStart :: .name invocation.callee :: .mark .parenOpen ::
          (argumentTokens invocation.arguments ++ [.printEnd]) := by
  obtain ⟨c, more, spelled, starts, -⟩ := named.exists_cons
  have call : Cuts 0 (invocation.text Labelled.onPage).toList
      ([.name invocation.callee] ++ ([.mark .parenOpen] ++ argumentTokens invocation.arguments)) 0
      [' ', '\x7d', '\x7d'] := by
    rw [invocation.toList_text]
    exact (cuts_name named rfl).append (cuts_open.append (cuts_arguments plain))
  have start : (invocation.text Labelled.onPage).toList =
      c :: (more ++ '(' :: Invocation.argumentChars Labelled.onPage invocation.arguments) := by
    rw [invocation.toList_text, spelled, List.cons_append]
  exact ofSource_printTag start (isSpace_of_startsIdentifier starts) call

end Call

end Scan

end Page

end Templating
