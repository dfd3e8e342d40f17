import Templating.Page.Token
import Templating.Proofs.Printing.Form

/-! The tokens of a form that is read as a page: its texts, and for each field the name between the
marks of a print tag. The lines of the tokens are left open, as only faults tell them. -/

namespace Templating.Page

/-- Tokens that spell the parts of a form. -/
inductive Spells : List Part → List Lexeme → Prop where
  | nil : Spells [] []
  | text {parts : List Part} {lexemes : List Lexeme} (text : String) (line : Nat)
      (rest : Spells parts lexemes) : Spells (.text text :: parts) (⟨.data text, line⟩ :: lexemes)
  | print {parts : List Part} {lexemes : List Lexeme} (name : String) (start own stop : Nat)
      (rest : Spells parts lexemes) :
      Spells (.print name :: parts)
        (⟨.printStart, start⟩ :: ⟨.name name, own⟩ :: ⟨.printEnd, stop⟩ :: lexemes)

namespace Scan

section Data

variable {text rest : List Char}

theorem splitTag_cons {c d : Char} (h : c ≠ '\x7b') :
    splitTag (c :: d :: rest) =
      (splitTag (d :: rest)).map fun (lead, found) => (c :: lead, found) := by
  rw [splitTag, if_neg h]

theorem splitTag_of_no_brace (h : '\x7b' ∉ text) : splitTag text = none := by
  induction text with
  | nil => rfl
  | cons c more ih =>
    obtain ⟨other, noBrace⟩ := List.ne_and_not_mem_of_not_mem_cons h
    cases more with
    | nil => rfl
    | cons d more => rw [splitTag_cons (Ne.symm other), ih noBrace, Option.map_none]

theorem splitTag_append (h : '\x7b' ∉ text) :
    splitTag (text ++ '\x7b' :: '\x7b' :: rest) = some (text, .print, rest) := by
  induction text with
  | nil => rfl
  | cons c more ih =>
    obtain ⟨other, noBrace⟩ := List.ne_and_not_mem_of_not_mem_cons h
    have found := ih noBrace
    cases more with
    | nil =>
      rw [List.cons_append, List.nil_append, splitTag_cons (Ne.symm other)]
      rw [List.nil_append] at found
      rw [found, Option.map_some]
    | cons d more =>
      rw [List.cons_append, List.cons_append, splitTag_cons (Ne.symm other), ← List.cons_append,
        found, Option.map_some]

theorem inData_of_no_brace (line : Nat) (h : '\x7b' ∉ text) :
    inData false line text =
      .tokens (dataToken text line) text.length (.data false) (line + breaks text) := by
  simp only [inData, Bool.false_eq_true, if_false, splitTag_of_no_brace h]
  rfl

theorem sign_space : sign (' ' :: rest) = (.keep, 0) := rfl

theorem inData_field (line : Nat) (h : '\x7b' ∉ text) :
    inData false line (text ++ '\x7b' :: '\x7b' :: ' ' :: rest) =
      .tokens (dataToken text line ++ [⟨.printStart, line + breaks text⟩]) (text.length + 2)
        (.tag .print 0) (line + breaks text) := by
  have size : (text ++ '\x7b' :: '\x7b' :: ' ' :: rest).length - (' ' :: rest).length =
      text.length + 2 := by
    simp only [List.length_append, List.length_cons]
    omega
  simp only [inData, Bool.false_eq_true, if_false, splitTag_append h, sign_space, List.drop_zero,
    size]
  rfl

end Data

section Tag

variable {line : Nat} {rest : List Char}

theorem isSpace_of_startsIdentifier {c : Char} (h : startsIdentifier c = true) :
    isSpace c = false := by
  simp only [isSpace, Bool.or_eq_false_iff, beq_eq_false_iff_ne]
  exact ⟨⟨⟨⟨ne_of_startsIdentifier h rfl, ne_of_startsIdentifier h rfl⟩,
    ne_of_startsIdentifier h rfl⟩, ne_of_startsIdentifier h rfl⟩, ne_of_startsIdentifier h rfl⟩

/-- Only a brace and the signs of a tag can be the end of a print tag. -/
theorem closing_of_ne {c : Char} (brace : c ≠ '\x7d') (minus : c ≠ '-') (plus : c ≠ '+') :
    closing .print (c :: rest) = none := by
  cases rest with
  | nil => rfl
  | cons d rest => simp only [closing, if_true, brace, minus, plus, false_and, or_self, if_false]

/-- What starts an identifier is no sign, alone or with another character. -/
theorem pairMark?_of_startsIdentifier {c d : Char} (h : startsIdentifier c = true) :
    pairMark? c d = none := by
  unfold pairMark?
  split <;> first | rfl | exact absurd h (by decide)

theorem mark?_of_startsIdentifier {c : Char} (h : startsIdentifier c = true) : mark? c = none := by
  unfold mark?
  split <;> first | rfl | exact absurd h (by decide)

theorem inTag_space {c : Char} {depth : Int} (h : isSpace c = false) :
    inTag .print depth line (' ' :: c :: rest) = .tokens [] 1 (.tag .print depth) line := by
  have spaces : (' ' :: c :: rest).takeWhile isSpace = [' '] := by
    have stays : ¬isSpace c = true := by rw [h]; exact Bool.false_ne_true
    rw [List.takeWhile_cons_of_pos rfl, List.takeWhile_cons_of_neg stays]
  rw [inTag, if_pos rfl, spaces]
  rfl

theorem inTag_close :
    inTag .print 0 line ('\x7d' :: '\x7d' :: rest) =
      .tokens [⟨.printEnd, line⟩] 2 (.data false) line := rfl

/-- An identifier before a character that no identifier has is one name. -/
theorem inTag_name {name : List Char} {c stop : Char} {depth : Int}
    (starts : startsIdentifier c = true) (parts : ∀ d ∈ name, inIdentifier d = true)
    (stops : inIdentifier stop = false) :
    inTag .print depth line (c :: (name ++ stop :: rest)) =
      .tokens [⟨.name (String.ofList (c :: name)), line⟩] (name.length + 1) (.tag .print depth)
        line := by
  have whole : (c :: (name ++ stop :: rest)).takeWhile continuesName = c :: name := by
    have ends : ¬inIdentifier stop = true := by
      rw [stops]
      exact Bool.false_ne_true
    show (c :: (name ++ stop :: rest)).takeWhile inIdentifier = c :: name
    rw [List.takeWhile_cons_of_pos (inIdentifier_of_startsIdentifier starts),
      List.takeWhile_append_of_pos parts, List.takeWhile_cons_of_neg ends, List.append_nil]
  have open_ : (if depth = 0 then closing .print (c :: (name ++ stop :: rest)) else none) = none := by
    rw [closing_of_ne (ne_of_startsIdentifier starts rfl) (ne_of_startsIdentifier starts rfl)
      (ne_of_startsIdentifier starts rfl), ite_self]
  have single : c ≠ '\'' := ne_of_startsIdentifier starts rfl
  have double : c ≠ '"' := ne_of_startsIdentifier starts rfl
  have noPair : (name ++ stop :: rest).head?.bind (pairMark? c) = none := by
    cases (name ++ stop :: rest).head? with
    | none => rfl
    | some d => exact pairMark?_of_startsIdentifier starts
  simp only [inTag, isSpace_of_startsIdentifier starts, open_, noPair,
    mark?_of_startsIdentifier starts, single, double, or_self, isDigit_of_startsIdentifier starts,
    show startsName c = true from starts, if_true, if_false, Bool.false_eq_true, whole,
    List.length_cons]

end Tag

section Whole

variable {line after size : Nat} {source rest : List Char} {lexemes : List Lexeme} {mode : Mode}

theorem scanFrom_skip (mode : Mode) (line : Nat) (passed rest : List Char) :
    scanFrom mode line passed.length (passed ++ rest) = scanFrom mode line 0 rest := by
  induction passed with
  | nil => rfl
  | cons c passed ih => exact ih

/-- The tokens found in text at the start of a source come before those of what follows. -/
theorem scanFrom_data {passed : List Char} (some : passed ≠ [])
    (h : inData false line (passed ++ rest) = .tokens lexemes passed.length mode after) :
    scanFrom (.data false) line 0 (passed ++ rest) =
      prepend lexemes (scanFrom mode after 0 rest) := by
  cases passed with
  | nil => exact absurd rfl some
  | cons c passed =>
    rw [List.cons_append] at h ⊢
    simp only [scanFrom, h, List.length_cons, Nat.add_sub_cancel, scanFrom_skip]

theorem scanFrom_tag {tag : Tag} {depth : Int} {passed : List Char} (some : passed ≠ [])
    (h : inTag tag depth line (passed ++ rest) = .tokens lexemes passed.length mode after) :
    scanFrom (.tag tag depth) line 0 (passed ++ rest) =
      prepend lexemes (scanFrom mode after 0 rest) := by
  cases passed with
  | nil => exact absurd rfl some
  | cons c passed =>
    rw [List.cons_append] at h ⊢
    simp only [scanFrom, h, List.length_cons, Nat.add_sub_cancel, scanFrom_skip]

/-- The tokens of a print tag with a name, after the tag's opening mark. -/
theorem scanFrom_name {name : String} (named : Identifier name) :
    scanFrom (.tag .print 0) line 0 (' ' :: (name.toList ++ ' ' :: '\x7d' :: '\x7d' :: rest)) =
      prepend [⟨.name name, line⟩, ⟨.printEnd, line⟩] (scanFrom (.data false) line 0 rest) := by
  obtain ⟨c, more, spelled, starts, parts⟩ := named.exists_cons
  rw [spelled, ← String.ofList_toList (s := name), spelled]
  have space : scanFrom (.tag .print 0) line 0
      (' ' :: (c :: more ++ ' ' :: '\x7d' :: '\x7d' :: rest)) =
      prepend [] (scanFrom (.tag .print 0) line 0 (c :: more ++ ' ' :: '\x7d' :: '\x7d' :: rest)) :=
    scanFrom_tag (List.cons_ne_nil ' ' []) (inTag_space (isSpace_of_startsIdentifier starts))
  have name : scanFrom (.tag .print 0) line 0 (c :: more ++ ' ' :: '\x7d' :: '\x7d' :: rest) =
      prepend [⟨.name (String.ofList (c :: more)), line⟩]
        (scanFrom (.tag .print 0) line 0 (' ' :: '\x7d' :: '\x7d' :: rest)) :=
    scanFrom_tag (List.cons_ne_nil c more) (inTag_name starts parts rfl)
  have spaceAfter : scanFrom (.tag .print 0) line 0 (' ' :: '\x7d' :: '\x7d' :: rest) =
      prepend [] (scanFrom (.tag .print 0) line 0 ('\x7d' :: '\x7d' :: rest)) :=
    scanFrom_tag (List.cons_ne_nil ' ' []) (inTag_space rfl)
  have close : scanFrom (.tag .print 0) line 0 ('\x7d' :: '\x7d' :: rest) =
      prepend [⟨.printEnd, line⟩] (scanFrom (.data false) line 0 rest) :=
    scanFrom_tag (List.cons_ne_nil '\x7d' ['\x7d']) inTag_close
  rw [space, name, spaceAfter, close]
  rfl

theorem scanFrom_text {text : List Char} (h : '\x7b' ∉ text) :
    scanFrom (.data false) line 0 text = ⟨dataToken text line, none⟩ := by
  cases text with
  | nil => rfl
  | cons c more =>
    have ended : scanFrom (.data false) (line + breaks (c :: more)) more.length more =
        ⟨[], none⟩ := by
      have skipped := scanFrom_skip (.data false) (line + breaks (c :: more)) more []
      rwa [List.append_nil] at skipped
    simp only [scanFrom, inData_of_no_brace line h, List.length_cons, Nat.add_sub_cancel, ended,
      prepend, List.append_nil]

theorem spells_ofText {parts : List Part} (text : String) (line : Nat)
    (h : Spells parts lexemes) :
    Spells (Part.ofText text ++ parts) (dataToken text.toList line ++ lexemes) := by
  by_cases empty : text = ""
  · subst empty
    exact h
  · have some : text.toList.isEmpty = false := by
      rw [List.isEmpty_eq_false_iff]
      exact fun none => empty (String.toList_eq_nil_iff.mp none)
    rw [Part.ofText, if_neg empty, dataToken, some, String.ofList_toList]
    exact .text text line h

/-- The text before the first field, and the tokens of the fields, in order. By induction on the
fields: the text before a field ends at the first brace. -/
theorem scan_fields (lead : String) (fields : List Field) (line : Nat) (plain : BraceFree lead)
    (after : ∀ field ∈ fields, BraceFree field.after)
    (letters : ∀ field ∈ fields, LettersOnly field.name) :
    ∃ lexemes, scanFrom (.data false) line 0 (lead.toList ++ fields.flatMap Field.chars) =
        ⟨lexemes, none⟩ ∧ Spells (Form.parts ⟨lead, fields⟩) lexemes := by
  induction fields generalizing lead line with
  | nil =>
    refine ⟨dataToken lead.toList line, ?_, ?_⟩
    · rw [List.flatMap_nil, List.append_nil, scanFrom_text plain.1]
    · rw [← List.append_nil (dataToken _ _)]
      exact spells_ofText lead line .nil
  | cons field rest ih =>
    obtain ⟨lexemes, scanned, spells⟩ := ih field.after (line + breaks lead.toList)
      (after field List.mem_cons_self)
      (fun other inRest => after other (List.mem_cons_of_mem _ inRest))
      (fun other inRest => letters other (List.mem_cons_of_mem _ inRest))
    have named : Identifier field.name := (letters field List.mem_cons_self).identifier
    have opened : scanFrom (.data false) line 0
        (lead.toList ++ (field :: rest).flatMap Field.chars) =
        prepend (dataToken lead.toList line ++ [⟨.printStart, line + breaks lead.toList⟩])
          (scanFrom (.tag .print 0) (line + breaks lead.toList) 0
            (' ' :: (field.name.toList ++ ' ' :: '\x7d' :: '\x7d' ::
              (field.after.toList ++ rest.flatMap Field.chars)))) := by
      have shape : lead.toList ++ (field :: rest).flatMap Field.chars =
          (lead.toList ++ ['\x7b', '\x7b']) ++ ' ' :: (field.name.toList ++ ' ' :: '\x7d' :: '\x7d' ::
            (field.after.toList ++ rest.flatMap Field.chars)) := by
        simp only [List.flatMap_cons, Field.chars, List.append_assoc, List.cons_append,
          List.nil_append]
      rw [shape]
      refine scanFrom_data (List.append_ne_nil_of_right_ne_nil _ (List.cons_ne_nil _ _)) ?_
      rw [List.length_append, List.append_assoc]
      exact inData_field line plain.1
    refine ⟨dataToken lead.toList line ++ ⟨.printStart, line + breaks lead.toList⟩ ::
      ⟨.name field.name, line + breaks lead.toList⟩ :: ⟨.printEnd, line + breaks lead.toList⟩ ::
        lexemes, ?_, ?_⟩
    · rw [opened, scanFrom_name named, scanned]
      simp only [prepend, List.append_assoc, List.cons_append, List.nil_append]
    · rw [Form.parts_cons]
      exact spells_ofText lead line (.print _ _ _ _ spells)

end Whole

theorem chomp_of_no_break {source : List Char}
    (h : source.getLast? ≠ some '\n' ∧ source.getLast? ≠ some '\r') : chomp source = source := by
  simp only [chomp, if_neg h.1, if_neg h.2]

theorem chomp_isPrefix (source : List Char) : chomp source <+: source := by
  have dropped : ∀ text : List Char, ∀ mark : Char,
      (if text.getLast? = some mark then text.dropLast else text) <+: text := by
    intro text mark
    split
    · exact List.dropLast_prefix text
    · exact List.prefix_rfl
  exact (dropped _ '\r').trans (dropped source '\n')

theorem ofSource_text {source : String} (h : '\x7b' ∉ source.toList) :
    ofSource source = ⟨dataToken (chomp source.toList) 1, none⟩ :=
  scanFrom_text fun inside => h ((chomp_isPrefix source.toList).subset inside)

theorem ofSource_form {form : Form} (plain : form.Plain) :
    ∃ lexemes, ofSource form.source = ⟨lexemes, none⟩ ∧ Spells form.parts lexemes := by
  rw [ofSource, chomp_of_no_break plain.ending, form.toList_source]
  exact scan_fields form.lead form.fields 1 plain.lead plain.after plain.letters

end Scan

end Templating.Page
