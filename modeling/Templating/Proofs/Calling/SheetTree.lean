import Templating.Proofs.Calling.Invocation
import Templating.Proofs.Printing.SheetRead

/-! Reading a printed call on a sheet. An argument is a label and an expression, and a text in quotes is
an expression of its own; a name before parentheses is neither a constant nor a test. -/

namespace Templating.Sheet

open Phrase

/-- Operands that stand for themselves: names that are free, and texts without quotes. -/
def Fits : Operand → Prop
  | .var name => Free name
  | .text text => QuoteFree text

instance : (operand : Operand) → Decidable (Fits operand)
  | .var name => inferInstanceAs (Decidable (Free name))
  | .text text => inferInstanceAs (Decidable (QuoteFree text))

def operandTerm : Operand → Term
  | .var name => .var (.mk name [])
  | .text text => .text text

def operandExpr (operand : Operand) : Expr := .ofTerm (operandTerm operand)

def operandChars : Operand → List Char
  | .var name => name.toList
  | .text text => '"' :: (text.toList ++ ['"'])

theorem toList_onSheet (argument : Labelled) :
    argument.onSheet.toList = argument.label.toList ++ '=' :: operandChars argument.operand := by
  obtain ⟨label, operand⟩ := argument
  cases operand <;>
    · simp only [Labelled.onSheet, operandChars, String.toList_append, List.append_assoc]
      rfl

namespace Nested

section Text

variable {nested : Nested} {text : String} {after rest : List Char} {stop : Char}

theorem reads_quotedText (free : QuoteFree text) :
    Reads quotedText ('"' :: (text.toList ++ '"' :: after)) text after := by
  have inside : ∀ c ∈ text.toList, (c != '"') = true := fun c inText =>
    bne_iff_ne.mpr (free c inText).2.1
  have quoted : Reads (quotedBy '"') ('"' :: (text.toList ++ '"' :: after))
      (String.ofList text.toList) after :=
    Reads.bind (reads_char rfl) (Reads.bind (reads_run inside rfl)
      (Reads.bind (reads_char rfl) (reads_pure _ _)))
  rw [String.ofList_toList] at quoted
  exact Reads.orElse quoted

theorem fails_name_quote : Fails name ('"' :: after) := Fails.bind (fails_char rfl)

theorem fails_wholeDigits_quote : Fails wholeDigits ('"' :: after) :=
  Fails.fails_orElse (Fails.seqRight (fails_literal_cons (by decide)))
    (Fails.bind (fails_char rfl))

theorem reads_no_minus_quote : Reads (skip (literal "-")) ('"' :: after) false ('"' :: after) :=
  Fails.skip (fails_literal_cons (by decide))

/-- A text in quotes is no other part of a joined text, and nothing is joined to it. -/
theorem reads_filteredText (free : QuoteFree text) (ends : Ends after stop rest) :
    Reads nested.filteredText ('"' :: (text.toList ++ '"' :: after)) (.ofTerm (.text text))
      (stop :: rest) := by
  have quoted := ends.reads_lexeme (reads_quotedText free)
  have part : Reads nested.concatPart ('"' :: (text.toList ++ '"' :: after)) (.text text)
      (stop :: rest) := by
    refine Fails.orElse (Fails.map (Fails.bind (fails_lexeme fails_name_quote))) ?_
    refine Fails.orElse (fails_lexeme (Reads.fails_bind reads_no_minus_quote
      (Fails.bind fails_wholeDigits_quote))) ?_
    refine Fails.orElse (fails_lexeme (Reads.fails_bind reads_no_minus_quote
      (Fails.bind fails_wholeDigits_quote))) ?_
    exact Reads.orElse (Reads.map Term.text quoted)
  have alone : Fails (do
      let first ← nested.concatPart
      mark "~"
      return joinedText (first :: (← separated (mark "~") nested.concatPart)))
      ('"' :: (text.toList ++ '"' :: after)) :=
    Reads.fails_bind part (Fails.bind (fails_mark_stop ends.stop_mem (by decide)))
  exact Reads.bind (Fails.orElse alone (Reads.map Term.text quoted))
    (Reads.bind (Fails.many (fails_filter ends.stop_mem)) (reads_pure _ _))

theorem reads_whole_text (depth : Nat) (free : QuoteFree text) (ends : Ends after stop rest) :
    Reads (ofDepth (depth + 1)).whole ('"' :: (text.toList ++ '"' :: after))
      (.ofTerm (.text text)) (stop :: rest) := by
  have filtered : Reads (ofDepth depth).filteredText ('"' :: (text.toList ++ '"' :: after))
      (.ofTerm (.text text)) (stop :: rest) := reads_filteredText free ends
  have noNot : Fails (word "not") ('"' :: (text.toList ++ '"' :: after)) :=
    Fails.seqRight (fails_literal_cons (by decide))
  exact Reads.orElse
    (reads_condition ends.stop_mem noNot (Reads.orElse filtered) (Reads.orElse filtered))

theorem reads_whole_operand {operand : Operand} (depth : Nat) (fits : Fits operand)
    (ends : Ends after stop rest) :
    Reads (ofDepth (depth + 1)).whole (operandChars operand ++ after) (operandExpr operand)
      (stop :: rest) := by
  cases operand with
  | var name => exact reads_whole_name depth fits ends
  | text text =>
    have spelled : operandChars (.text text) ++ after = '"' :: (text.toList ++ '"' :: after) := by
      simp [operandChars]
    rw [spelled]
    exact reads_whole_text depth fits ends

theorem operandChars_visible {operand : Operand} (fits : Fits operand) :
    ∃ c more, operandChars operand = c :: more ∧ isSpace c = false := by
  cases operand with
  | var name =>
    obtain ⟨c, more, spelled, starts, -⟩ := fits.named.exists_cons
    exact ⟨c, more, spelled, isSpace_of_startsIdentifier starts⟩
  | text text => exact ⟨'"', _, rfl, rfl⟩

end Text

section Call

variable {nested : Nested} {callee : String} {argument : Labelled} {arguments : List Labelled}
  {after rest : List Char} {stop : Char} {depth : Nat}

/-- What a call holds for an argument. -/
def pair (argument : Labelled) : String × Expr := (argument.label, operandExpr argument.operand)

theorem reads_lexeme_visible {α : Type} {phrase : Phrase α} {source : List Char} {value : α}
    {c : Char} (h : Reads phrase source value (c :: rest)) (visible : isSpace c = false) :
    Reads (lexeme phrase) source value (c :: rest) := by
  have noGap : Reads phrase source value ([] ++ c :: rest) := h
  exact reads_lexeme noGap nofun visible

theorem reads_mark {text : String} {c : Char} (visible : isSpace c = false) :
    Reads (mark text) (text.toList ++ c :: rest) () (c :: rest) :=
  reads_lexeme_visible (reads_literal text _) visible

theorem reads_argument (named : Identifier argument.label) (fits : Fits argument.operand)
    (ends : Ends after stop rest) :
    Reads (ofDepth (depth + 1)).argument (argument.onSheet.toList ++ after) (pair argument)
      (stop :: rest) := by
  obtain ⟨c, more, spelled, visible⟩ := operandChars_visible fits
  have label : Reads (lexeme name) (argument.label.toList ++ '=' :: (operandChars argument.operand ++
      after)) argument.label ('=' :: (operandChars argument.operand ++ after)) :=
    reads_lexeme_visible (reads_name named rfl) rfl
  have sign : Reads (mark "=") ('=' :: (operandChars argument.operand ++ after)) ()
      (operandChars argument.operand ++ after) := by
    rw [spelled]
    exact reads_mark visible
  rw [toList_onSheet, List.append_assoc, List.cons_append]
  exact Reads.bind label (Reads.bind sign
    (Reads.bind (reads_whole_operand depth fits ends) (reads_pure _ _)))

/-- What stands after an argument is a comma or the end of the call. -/
theorem moreChars_stop (arguments : List Labelled) (rest : List Char) :
    ∃ stop others, Invocation.moreChars Labelled.onSheet arguments ++ rest = stop :: others ∧
      stop ∈ stops := by
  cases arguments with
  | nil => exact ⟨')', rest, rfl, by decide⟩
  | cons argument others => exact ⟨',', _, rfl, by decide⟩

theorem reads_more (named : ∀ argument ∈ arguments, Identifier argument.label)
    (fit : ∀ argument ∈ arguments, Fits argument.operand) :
    Reads (many (mark "," *> (ofDepth (depth + 1)).argument))
      (Invocation.moreChars Labelled.onSheet arguments ++ rest) (arguments.map pair)
      (')' :: rest) := by
  induction arguments with
  | nil => exact Fails.many (Fails.seqRight (fails_lexeme (fails_literal_cons (by decide))))
  | cons argument more ih =>
    have others := ih (fun other inMore => named other (List.mem_cons_of_mem _ inMore))
      (fun other inMore => fit other (List.mem_cons_of_mem _ inMore))
    have label := named argument List.mem_cons_self
    obtain ⟨stop, following, next, stopped⟩ := moreChars_stop more rest
    obtain ⟨c, letters, spelled, starts, -⟩ := label.exists_cons
    have operand : Reads (ofDepth (depth + 1)).argument
        (argument.onSheet.toList ++ (Invocation.moreChars Labelled.onSheet more ++ rest))
        (pair argument) (Invocation.moreChars Labelled.onSheet more ++ rest) := by
      rw [next]
      exact reads_argument label (fit argument List.mem_cons_self) (.of_stop stopped)
    have comma : Reads (mark ",")
        (',' :: ' ' :: (argument.onSheet.toList ++
          (Invocation.moreChars Labelled.onSheet more ++ rest))) ()
        (argument.onSheet.toList ++ (Invocation.moreChars Labelled.onSheet more ++ rest)) := by
      rw [toList_onSheet, spelled]
      exact reads_lexeme (reads_literal "," _) (List.forall_mem_singleton.mpr rfl)
        (isSpace_of_startsIdentifier starts)
    rw [Invocation.moreChars, List.cons_append, List.cons_append, List.append_assoc]
    refine Reads.many (Reads.seqRight comma operand) ?_ others
    simp only [List.length_cons, List.length_append]
    omega

/-- The arguments of a call, of which there may be none. -/
theorem reads_arguments (named : ∀ argument ∈ arguments, Identifier argument.label)
    (fit : ∀ argument ∈ arguments, Fits argument.operand) :
    ∃ read?, Reads (optional? (separated (mark ",") (ofDepth (depth + 1)).argument
        <* skip (mark ","))) (Invocation.argumentChars Labelled.onSheet arguments ++ rest) read?
        (')' :: rest) ∧ read?.getD [] = arguments.map pair := by
  cases arguments with
  | nil =>
    have noLabel : Fails (ofDepth (depth + 1)).argument (')' :: rest) :=
      Fails.bind (fails_lexeme (Fails.bind (fails_char rfl)))
    exact ⟨none, Fails.optional? (Fails.seqLeft (Fails.bind noLabel)), rfl⟩
  | cons argument more =>
    obtain ⟨stop, following, next, stopped⟩ := moreChars_stop more rest
    have first : Reads (ofDepth (depth + 1)).argument
        (argument.onSheet.toList ++ (Invocation.moreChars Labelled.onSheet more ++ rest))
        (pair argument) (Invocation.moreChars Labelled.onSheet more ++ rest) := by
      rw [next]
      exact reads_argument (named argument List.mem_cons_self) (fit argument List.mem_cons_self)
        (.of_stop stopped)
    have others : Reads (many (mark "," *> (ofDepth (depth + 1)).argument))
        (Invocation.moreChars Labelled.onSheet more ++ rest) (more.map pair) (')' :: rest) :=
      reads_more (fun other inMore => named other (List.mem_cons_of_mem _ inMore))
        (fun other inMore => fit other (List.mem_cons_of_mem _ inMore))
    have noComma : Fails (mark ",") (')' :: rest) :=
      fails_lexeme (fails_literal_cons (by decide))
    have all : Reads (separated (mark ",") (ofDepth (depth + 1)).argument <* skip (mark ","))
        (argument.onSheet.toList ++ (Invocation.moreChars Labelled.onSheet more ++ rest))
        (pair argument :: more.map pair) (')' :: rest) :=
      Reads.seqLeft (Reads.bind first (Reads.bind others (reads_pure _ _))) (Fails.skip noComma)
    rw [Invocation.argumentChars, List.append_assoc]
    exact ⟨some _, Reads.orElse (Reads.map some all), rfl⟩

/-- The characters of a call and what is after it. -/
abbrev callChars (callee : String) (arguments : List Labelled) (after : List Char) : List Char :=
  callee.toList ++ '(' :: (Invocation.argumentChars Labelled.onSheet arguments ++ after)

theorem argumentChars_visible (named : ∀ argument ∈ arguments, Identifier argument.label)
    (after : List Char) : ∃ c more,
      Invocation.argumentChars Labelled.onSheet arguments ++ after = c :: more ∧
        isSpace c = false := by
  cases arguments with
  | nil => exact ⟨')', after, rfl, rfl⟩
  | cons argument others =>
    obtain ⟨c, letters, spelled, starts, -⟩ := (named argument List.mem_cons_self).exists_cons
    rw [Invocation.argumentChars, toList_onSheet, spelled]
    exact ⟨c, _, rfl, isSpace_of_startsIdentifier starts⟩

theorem reads_call (called : Identifier callee)
    (named : ∀ argument ∈ arguments, Identifier argument.label)
    (fit : ∀ argument ∈ arguments, Fits argument.operand) (ends : Ends after stop rest) :
    Reads (ofDepth (depth + 1)).call (callChars callee arguments after)
      (.mk callee (Assoc.ofList (arguments.map pair))) (stop :: rest) := by
  obtain ⟨read?, read, same⟩ : ∃ read?,
      Reads (optional? (separated (mark ",") (ofDepth (depth + 1)).argument <* skip (mark ",")))
        (Invocation.argumentChars Labelled.onSheet arguments ++ after) read? (')' :: after) ∧
        read?.getD [] = arguments.map pair := reads_arguments named fit
  obtain ⟨c, more, spelled, visible⟩ := argumentChars_visible named after
  have callee : Reads (lexeme name) (callChars callee arguments after) callee
      ('(' :: (Invocation.argumentChars Labelled.onSheet arguments ++ after)) :=
    reads_lexeme_visible (reads_name called rfl) rfl
  have opened : Reads (mark "(")
      ('(' :: (Invocation.argumentChars Labelled.onSheet arguments ++ after)) ()
      (Invocation.argumentChars Labelled.onSheet arguments ++ after) := by
    rw [spelled]
    exact reads_mark visible
  have closed : Reads (mark ")") (')' :: after) () (stop :: rest) :=
    ends.reads_lexeme (reads_literal ")" after)
  rw [← same]
  exact Reads.bind callee (Reads.bind opened (Reads.bind read (Reads.bind closed (reads_pure _ _))))

theorem fails_test_call (negated : Bool) (called : Identifier callee) (after : List Char) :
    Fails ((ofDepth depth).test negated) (callee.toList ++ '(' :: after) := by
  have noStep : Fails (ofDepth depth).step ('(' :: after) :=
    Fails.fails_orElse (Fails.bind (fails_literal_cons (by decide)))
      (Fails.bind (fails_literal_cons (by decide)))
  have path : Reads (ofDepth depth).pathRule (callee.toList ++ '(' :: after) (.mk callee [])
      ('(' :: after) :=
    Reads.bind (reads_name called rfl) (Reads.bind (Fails.many noStep) (reads_pure _ _))
  exact Reads.fails_bind (reads_lexeme_visible path rfl)
    (Fails.bind (fails_lexeme (fails_literal_cons (by decide))))

/-- The expression that a call is. -/
def callExpr (callee : String) (arguments : List Labelled) : Expr :=
  .ofTerm (.call (.mk callee (Assoc.ofList (arguments.map pair))))

/-- A call at the start of an expression, before what ends it, is all of the expression. -/
theorem reads_whole_call (depth : Nat) (free : Free callee)
    (named : ∀ argument ∈ arguments, Identifier argument.label)
    (fit : ∀ argument ∈ arguments, Fits argument.operand) (ends : Ends after stop rest) :
    Reads (ofDepth (depth + 2)).whole (callChars callee arguments after)
      (callExpr callee arguments) (stop :: rest) := by
  have call : Reads (ofDepth (depth + 1)).call (callChars callee arguments after)
      (.mk callee (Assoc.ofList (arguments.map pair))) (stop :: rest) :=
    reads_call free.named named fit ends
  have operand : Reads (ofDepth (depth + 1)).operand (callChars callee arguments after)
      (.call (.mk callee (Assoc.ofList (arguments.map pair)))) (stop :: rest) := by
    refine Fails.orElse (fails_lexeme (fails_boolTerm free rfl)) ?_
    refine Fails.orElse (fails_test_call true free.named _) ?_
    refine Fails.orElse (fails_test_call false free.named _) ?_
    exact Reads.orElse (Reads.map Term.call call)
  have noText : Fails (ofDepth (depth + 1)).filteredText (callChars callee arguments after) :=
    fails_filteredText ends.stop_mem (Reads.orElse (Reads.map Term.call call))
      (fails_quotedText free.named)
  exact Reads.orElse (reads_condition_of_operand ends.stop_mem (fails_not free rfl)
    (fails_mark_name free.named (by decide)) noText operand)

end Call

end Nested

/-- A print tag whose inside is one expression is a sheet with one statement. -/
theorem parse?_printTag {inside : String} {e : Expr} {c : Char} {more : List Char}
    (spelled : inside.toList = c :: more) (visible : isSpace c = false)
    (whole : ∀ depth, Reads (Nested.ofDepth (depth + 2)).whole
      (inside.toList ++ [' ', '\x7d', '\x7d']) e ['\x7d', '\x7d']) :
    parse? (printTag inside) = some [.print e] := by
  obtain ⟨depth, deep⟩ : ∃ depth, (printTag inside).length + 1 = depth + 2 := by
    refine ⟨(printTag inside).length - 1, ?_⟩
    have size := congrArg List.length (toList_printTag inside)
    rw [String.length_toList, List.length_cons] at size
    omega
  have tag : Reads (node (Nested.ofDepth (depth + 2)) (nodes (Nested.ofDepth (depth + 2))
      (depth + 1))) (printTag inside).toList (.print ⟨false, false⟩ e) [] := by
    have start := whole depth
    rw [spelled, List.cons_append] at start
    rw [toList_printTag, spelled, List.cons_append]
    exact reads_printTag visible start
  have noComment : Fails commentNode (printTag inside).toList := by
    rw [toList_printTag]
    exact fails_comment_field
  have shorter : ([] : List Char).length < (printTag inside).toList.length := by
    rw [toList_printTag]
    exact Nat.zero_lt_succ _
  have read : Reads (sheet (depth + 2)) (printTag inside).toList [.print ⟨false, false⟩ e] [] := by
    have ends : Reads ended [] () [] := rfl
    refine Reads.seqLeft (Reads.seqRight (Fails.many noComment) ?_) ends
    rw [nodes_succ]
    exact Reads.many tag shorter (Fails.many fails_node_nil)
  rw [parse?, deep, show sheet _ _ = _ from read]
  rfl

theorem parse?_variable {name : String} (free : Free name) :
    parse? (printTag name) = some [.print (.ofName name)] := by
  obtain ⟨c, more, spelled, starts, -⟩ := free.named.exists_cons
  exact parse?_printTag spelled (isSpace_of_startsIdentifier starts) fun depth =>
    Nested.reads_whole_name (depth + 1) free (.of_space (by decide))

theorem parse?_call {invocation : Invocation} (free : Free invocation.callee)
    (named : ∀ argument ∈ invocation.arguments, Identifier argument.label)
    (fit : ∀ argument ∈ invocation.arguments, Fits argument.operand) :
    parse? invocation.sheetSource =
      some [.print (Nested.callExpr invocation.callee invocation.arguments)] := by
  obtain ⟨c, more, spelled, starts, -⟩ := free.named.exists_cons
  have chars : (invocation.text Labelled.onSheet).toList = invocation.callee.toList ++
      '(' :: Invocation.argumentChars Labelled.onSheet invocation.arguments :=
    invocation.toList_text
  refine parse?_printTag (e := Nested.callExpr invocation.callee invocation.arguments)
    (chars.trans (by rw [spelled, List.cons_append])) (isSpace_of_startsIdentifier starts)
    fun depth => ?_
  rw [chars, List.append_assoc, List.cons_append]
  exact Nested.reads_whole_call depth free named fit (.of_space (by decide))

end Templating.Sheet
