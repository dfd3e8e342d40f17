import Templating.Proofs.Printing.SheetName
import Templating.Sheet.Reader

/-! Reading a form as a sheet: its texts are nodes, and so are its print tags, of which none trims a
text. -/

namespace Templating.Sheet

open Phrase

section Nodes

variable {nested : Nested} {inner : Phrase (List Node)} {source rest last : List Char}
  {name text : String} {values : List Node}

/-- One node, with the nodes inside it. -/
def node (nested : Nested) (inner : Phrase (List Node)) : Phrase Node :=
  commentNode <|> printNode nested <|> assignNode nested <|> rawNode <|> branchNode nested inner
    <|> loopNode nested inner <|> textNode

theorem nodes_succ (nested : Nested) (depth : Nat) :
    nodes nested (depth + 1) = many (node nested (nodes nested depth)) := rfl

theorem fails_bracket {trimming plain : String} (h : Fails (literal trimming) source)
    (other : Fails (literal plain) source) : Fails (bracket trimming plain) source := by
  refine fails_oneOf fun entry inTable => ?_
  rcases List.mem_cons.mp inTable with rfl | inRest
  · exact h
  · obtain rfl := List.mem_singleton.mp inRest
    exact other

theorem reads_bracket {trimming plain : String}
    (h : Fails (literal trimming) (plain.toList ++ rest)) :
    Reads (bracket trimming plain) (plain.toList ++ rest) false rest :=
  Fails.orElse (Fails.seqRight h)
    (Reads.orElse (Reads.seqRight (reads_literal plain rest) (reads_pure _ _)))

/-- A text that ends where a tag would begin. -/
def AtTag (source : List Char) : Prop := untilTag source = ([], source)

theorem untilTag_append {text : List Char} (noBrace : '\x7b' ∉ text) (stop : AtTag rest) :
    untilTag (text ++ rest) = (text, rest) := by
  induction text with
  | nil => exact stop
  | cons c more ih =>
    obtain ⟨other, noMore⟩ := List.ne_and_not_mem_of_not_mem_cons noBrace
    have noTag : startsTag (c :: (more ++ rest)) = false := by
      unfold startsTag
      split
      · next found => exact absurd (List.cons.inj found).1.symm other
      · rfl
    rw [List.cons_append, untilTag, noTag, ih noMore]
    rfl

theorem fails_literal_of_head (start : source.head? ≠ some '\x7b')
    (h : text.toList.head? = some '\x7b') : Fails (literal text) source := by
  refine fails_literal fun ⟨more, spelled⟩ => start ?_
  rw [← spelled, List.head?_append, h]
  rfl

theorem fails_comment_of_head (start : source.head? ≠ some '\x7b') : Fails commentNode source :=
  Fails.bind (fails_bracket (fails_literal_of_head start rfl) (fails_literal_of_head start rfl))

/-- Where no brace stands there is no tag, and a node is a text. -/
theorem node_of_head (start : source.head? ≠ some '\x7b') :
    node nested inner source = textNode source := by
  have noPrint : Fails (printNode nested) source :=
    Fails.bind (fails_lexeme
      (fails_bracket (fails_literal_of_head start rfl) (fails_literal_of_head start rfl)))
  have noTag : ∀ {α : Type} (inside : Phrase α), Fails (tag inside) source := fun _ =>
    Fails.bind (fails_lexeme
      (fails_bracket (fails_literal_of_head start rfl) (fails_literal_of_head start rfl)))
  simp only [node, orElse_run, show commentNode source = none from fails_comment_of_head start,
    show printNode nested source = none from noPrint,
    show assignNode nested source = none from Fails.bind (noTag _),
    show rawNode source = none from Fails.bind (Fails.map (noTag _)),
    show branchNode nested inner source = none from Fails.bind (Fails.bind (noTag _)),
    show loopNode nested inner source = none from Fails.bind (noTag _), Option.orElse_none]

theorem fails_node_nil : Fails (node nested inner) [] := by
  rw [Fails, node_of_head (by decide)]
  rfl

theorem head?_append_of_braceFree (some : text ≠ "") (plain : BraceFree text) :
    (text.toList ++ rest).head? ≠ Option.some '\x7b' := by
  cases spelled : text.toList with
  | nil => exact absurd (String.toList_eq_nil_iff.mp spelled) some
  | cons c more =>
    intro brace
    obtain rfl : c = '\x7b' := Option.some.inj brace
    exact plain.1 (spelled ▸ List.mem_cons_self)

theorem reads_text (some : text ≠ "") (plain : BraceFree text) (stop : AtTag rest) :
    Reads (node nested inner) (text.toList ++ rest) (.text text) rest := by
  rw [Reads, node_of_head (head?_append_of_braceFree some plain), textNode,
    untilTag_append plain.1 stop]
  split
  · next none => exact absurd (String.toList_eq_nil_iff.mp (congrArg Prod.fst none)) some
  · next found =>
    obtain ⟨rfl, rfl⟩ := Prod.mk.inj found
    rw [String.ofList_toList]

theorem fails_comment_field : Fails commentNode ('\x7b' :: '\x7b' :: source) := by
  refine Fails.bind (fails_bracket (fails_literal fun start => ?_) (fails_literal fun start => ?_))
  all_goals
    have second := (List.cons_prefix_cons.mp (List.cons_prefix_cons.mp start).2).1
    exact absurd second (by decide)

/-- The start of a print tag before something that is no white space. -/
theorem reads_printStart {c : Char} (visible : isSpace c = false) :
    Reads (lexeme (bracket "\x7b\x7b-" "\x7b\x7b")) ('\x7b' :: '\x7b' :: ' ' :: c :: rest) false
      (c :: rest) := by
  have noTrim : Fails (literal "\x7b\x7b-") ('\x7b' :: '\x7b' :: ' ' :: c :: rest) := by
    refine fails_literal fun trims => ?_
    have third := (List.cons_prefix_cons.mp
      (List.cons_prefix_cons.mp (List.cons_prefix_cons.mp trims).2).2).1
    exact absurd third (by decide)
  have space : ∀ d ∈ [' '], isSpace d = true := List.forall_mem_singleton.mpr rfl
  exact reads_lexeme (reads_bracket noTrim) space visible

/-- A print tag with an expression that ends where the tag does. -/
theorem reads_printTag {c : Char} {value : Expr} (visible : isSpace c = false)
    (whole : Reads nested.whole (c :: source) value ('\x7d' :: '\x7d' :: rest)) :
    Reads (node nested inner) ('\x7b' :: '\x7b' :: ' ' :: c :: source)
      (.print ⟨false, false⟩ value) rest := by
  have stop : Reads (bracket "-\x7d\x7d" "\x7d\x7d") ('\x7d' :: '\x7d' :: rest) false rest :=
    reads_bracket (fails_literal_stop (by decide) (by decide))
  refine Fails.orElse fails_comment_field (Reads.orElse ?_)
  exact Reads.bind (reads_printStart visible)
    (Reads.bind whole (Reads.bind stop (reads_pure _ _)))

theorem isSpace_of_startsIdentifier {c : Char} (h : startsIdentifier c = true) :
    isSpace c = false :=
  isSpace_of_inIdentifier (inIdentifier_of_startsIdentifier h)

theorem reads_field (depth : Nat) (free : Free name) :
    Reads (node (Nested.ofDepth (depth + 1)) inner)
      ('\x7b' :: '\x7b' :: ' ' :: (name.toList ++ ' ' :: '\x7d' :: '\x7d' :: rest))
      (.print ⟨false, false⟩ (.ofName name)) rest := by
  have ends : Ends (' ' :: '\x7d' :: '\x7d' :: rest) '\x7d' ('\x7d' :: rest) :=
    .of_space (by decide)
  have whole := Nested.reads_whole_name depth free ends
  obtain ⟨c, more, spelled, starts, -⟩ := free.named.exists_cons
  rw [spelled, List.cons_append] at whole ⊢
  exact reads_printTag (isSpace_of_startsIdentifier starts) whole

end Nodes

section Form

variable {inner : Phrase (List Node)} {last : List Char} {values : List Node}

/-- A part of a form as a node. -/
def partNode : Part → Node
  | .text text => .text text
  | .print name => .print ⟨false, false⟩ (.ofName name)

/-- A part of a form as a statement. -/
def partStmt : Part → Stmt
  | .text text => .text text
  | .print name => .print (.ofName name)

theorem reads_ofText {nested : Nested} {text : String} {rest : List Char} (plain : BraceFree text)
    (stop : AtTag rest) (more : Reads (many (node nested inner)) rest values last) :
    Reads (many (node nested inner)) (text.toList ++ rest)
      ((Part.ofText text).map partNode ++ values) last := by
  by_cases empty : text = ""
  · subst empty
    exact more
  · have shorter : rest.length < (text.toList ++ rest).length := by
      have some : 0 < text.toList.length :=
        List.length_pos_iff.mpr fun none => empty (String.toList_eq_nil_iff.mp none)
      rw [List.length_append]
      omega
    rw [Part.ofText, if_neg empty]
    exact Reads.many (reads_text empty plain stop) shorter more

theorem atTag_fields (fields : List Field) : AtTag (fields.flatMap Field.chars) := by
  cases fields with
  | nil => rfl
  | cons field rest => rfl

/-- The nodes of a form, of which no tag trims a text. By induction on the fields: the text before a
field ends where the field begins. -/
theorem reads_fields (depth : Nat) (lead : String) (fields : List Field) (plain : BraceFree lead)
    (after : ∀ field ∈ fields, BraceFree field.after)
    (readable : ∀ field ∈ fields, Readable field.name) :
    Reads (many (node (Nested.ofDepth (depth + 1)) inner))
      (lead.toList ++ fields.flatMap Field.chars) ((Form.parts ⟨lead, fields⟩).map partNode) [] := by
  induction fields generalizing lead with
  | nil =>
    rw [Form.parts, List.flatMap_nil, List.flatMap_nil, List.map_append]
    exact reads_ofText plain rfl (Fails.many fails_node_nil)
  | cons field rest ih =>
    have others := ih field.after (after field List.mem_cons_self)
      (fun other inRest => after other (List.mem_cons_of_mem _ inRest))
      (fun other inRest => readable other (List.mem_cons_of_mem _ inRest))
    have here : (field :: rest).flatMap Field.chars =
        '\x7b' :: '\x7b' :: ' ' :: (field.name.toList ++ ' ' :: '\x7d' :: '\x7d' ::
          (field.after.toList ++ rest.flatMap Field.chars)) := by
      simp only [List.flatMap_cons, Field.chars, List.append_assoc, List.cons_append]
    rw [Form.parts_cons, List.map_append, List.map_cons]
    refine reads_ofText plain (atTag_fields _) ?_
    rw [here]
    refine Reads.many (reads_field depth (readable field List.mem_cons_self).free) ?_ others
    simp only [List.length_cons, List.length_append]
    omega

theorem trimsBefore_partNode (part : Part) : (partNode part).trimsBefore = false := by
  cases part <;> rfl

theorem statements_parts (parts : List Part) :
    statements true false false (parts.map partNode) = parts.map partStmt := by
  induction parts with
  | nil => rfl
  | cons part rest ih =>
    have next : opening false (rest.map partNode) = false := by
      cases rest with
      | nil => rfl
      | cons other more => exact trimsBefore_partNode other
    rw [List.map_cons, statements, next]
    cases part with
    | text text =>
      have whole : trimmed false false text = text := String.ofList_toList
      rw [partNode, statement, Bool.and_false, whole]
      exact congrArg _ ih
    | print name => exact congrArg _ ih

theorem fails_comment_form {form : Form} (plain : BraceFree form.lead) :
    Fails commentNode form.source.toList := by
  rw [Form.toList_source]
  by_cases empty : form.lead = ""
  · rw [empty]
    cases form.fields with
    | nil => exact fails_comment_of_head (by decide)
    | cons field rest => exact fails_comment_field
  · exact fails_comment_of_head (head?_append_of_braceFree empty plain)

/-- A form with texts free of braces and readable names is read as a sheet that prints its parts. -/
theorem parse?_form {form : Form} (lead : BraceFree form.lead)
    (after : ∀ field ∈ form.fields, BraceFree field.after)
    (readable : ∀ field ∈ form.fields, Readable field.name) :
    parse? form.source = some (form.parts.map partStmt) := by
  have read : Reads (sheet (form.source.length + 1)) form.source.toList
      (form.parts.map partNode) [] := by
    have ends : Reads ended [] () [] := rfl
    refine Reads.seqLeft (Reads.seqRight (Fails.many (fails_comment_form lead)) ?_) ends
    rw [nodes_succ, Form.toList_source]
    exact reads_fields _ form.lead form.fields lead after readable
  rw [parse?, show sheet _ _ = _ from read, Option.map_some]
  exact congrArg some (statements_parts form.parts)

end Form

end Templating.Sheet
