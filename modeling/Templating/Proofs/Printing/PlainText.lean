import Templating.Proofs.File.Save
import Templating.Proofs.Pattern.Formatting
import Templating.Proofs.Printing.PagePrint
import Templating.Proofs.Printing.SheetPrint

/-! Texts without markup. Patterns and sheets give such a text back as it is. Pages drop one line break
from its end, and give it back where it ends in none. -/

namespace Templating

/-- The first text is the second without the line break at its end. -/
inductive LosesBreak : String → String → Prop where
  | newline {text : String} (alone : text.toList.getLast? ≠ some '\r') :
      LosesBreak text (text ++ "\n")
  | carriageReturn (text : String) : LosesBreak text (text ++ "\r")
  | both (text : String) : LosesBreak text (text ++ "\r\n")

/-- A template renders to a text whatever the data, unless the render is aborted. Rendered to a file it
fails only where the text cannot be saved, and else the file has the octets of the text. -/
structure Template.Gives (template : Template) (text : String) : Prop where
  renders : ∀ data, template.Renders data text
  fills : ∀ (context : Context) (data : Json) (tree : FileTree) (path : String) (streams : Streams),
    context.data = .ok data → context.aborted? = none → Target.ofPath path = .file →
    (template.renderToFile context tree path streams).outcome =
      (tree.save path (Utf8.encode text)).2 ∧
    ((∀ place full, tree.entry place ≠ some (.device full)) →
      (template.renderToFile context tree path streams).outcome = .ok () →
      (template.renderToFile context tree path streams).tree.read path = .ok (Utf8.encode text))

/-- A parser makes of a source a template that gives a text. -/
def Parser.Gives (parser : Parser) (label : String) (functions : Registry) (source text : String) :
    Prop :=
  ∃ template, parser.parse label functions source = .ok template ∧ template.Gives text

section Rendering

variable {template : Template} {text : String}

theorem renderBytes_of_render {context : Context} {written : Bytes} {signal? : Option Signal}
    (h : template.render context = ⟨.ok text, written, signal?⟩) :
    (template.renderBytes context).outcome = .ok (Utf8.encode text) := by
  have decoded : (template.renderBytes context).outcome >>= Template.decodeOutput = .ok text :=
    congrArg Rendered.outcome h
  obtain ⟨bytes, rendered, isText⟩ := bind_eq_ok.mp decoded
  unfold Template.decodeOutput at isText
  split at isText
  · next found =>
    cases isText
    rw [rendered, Utf8.decode_eq_ok_iff.mp found]
  · cases isText

/-- A render that gives a text saves the text. -/
theorem saves_of_render {context : Context} {written : Bytes} {signal? : Option Signal}
    {tree : FileTree} {path : String} {streams : Streams}
    (h : template.render context = ⟨.ok text, written, signal?⟩)
    (file : Target.ofPath path = .file) :
    (template.renderToFile context tree path streams).outcome =
        (tree.save path (Utf8.encode text)).2 ∧
      (template.renderToFile context tree path streams).tree =
        (tree.save path (Utf8.encode text)).1 := by
  cases template with
  | failed fault => cases h
  | ready executor =>
    rw [Template.renderToFile_of_bytes (renderBytes_of_render h) file]
    exact ⟨rfl, rfl⟩

theorem gives_of_renders (renders : ∀ data, template.Renders data text) : template.Gives text := by
  refine ⟨renders, fun context data tree path streams given unmarked file => ?_⟩
  obtain ⟨outcome, after⟩ := saves_of_render (renders data context given unmarked) file
  refine ⟨outcome, fun plain saved => ?_⟩
  rw [after]
  exact FileTree.read_of_save plain (outcome.symm.trans saved)

/-- A form without fields binds nothing, so its text is rendered whatever the data. -/
theorem gives_of_fillsIn {printed : String → String} (h : template.FillsIn ⟨text, []⟩ printed) :
    template.Gives text := by
  refine gives_of_renders fun data context given unmarked => ?_
  have unbound : Form.Binds ⟨text, []⟩ data id := fun field none => absurd none List.not_mem_nil
  have filled : Form.filled (printed ∘ id) ⟨text, []⟩ = text := String.append_empty
  have rendered := h context data id given unmarked unbound
  rwa [filled] at rendered

end Rendering

/-! ### The line break at the end -/

section Ending

variable {text rest : String}

theorem LosesBreak.ne (h : LosesBreak rest text) : rest ≠ text := by
  intro same
  have lengths := congrArg (fun whole => whole.toList.length) same
  cases h <;> simp at lengths

theorem LosesBreak.last (h : LosesBreak rest text) :
    text.toList.getLast? = some '\n' ∨ text.toList.getLast? = some '\r' := by
  cases h <;> simp

theorem LosesBreak.chomp_eq (h : LosesBreak rest text) :
    Page.Scan.chomp text.toList = rest.toList := by
  cases h with
  | newline alone => simp [Page.Scan.chomp, alone]
  | carriageReturn => simp [Page.Scan.chomp]
  | both => simp [Page.Scan.chomp]

theorem chomp_eq_of_keeps (keeps : ∀ rest, ¬LosesBreak rest text) :
    Page.Scan.chomp text.toList = text.toList := by
  have spelled : ∀ {front : List Char} {c : Char}, text.toList = front ++ [c] →
      text = String.ofList front ++ String.singleton c := by
    intro front c whole
    rw [← String.toList_inj, whole]
    simp
  refine Page.Scan.chomp_of_no_break ⟨fun last => ?_, fun last => ?_⟩
  · obtain ⟨front, whole⟩ := List.getLast?_eq_some_iff.mp last
    -- A carriage return before the line feed belongs to the break.
    by_cases both : front.getLast? = some '\r'
    · obtain ⟨start, rfl⟩ := List.getLast?_eq_some_iff.mp both
      refine keeps (String.ofList start) ?_
      have ending : text = String.ofList start ++ "\r\n" := by
        rw [← String.toList_inj, whole]
        simp
      rw [ending]
      exact .both _
    · refine keeps (String.ofList front) ?_
      rw [spelled whole]
      exact .newline (by rwa [String.toList_ofList])
  · obtain ⟨front, whole⟩ := List.getLast?_eq_some_iff.mp last
    refine keeps (String.ofList front) ?_
    rw [spelled whole]
    exact .carriageReturn _

end Ending

/-! ### The engines -/

section Engines

variable {text rest : String} (label : String) (functions : Registry)

theorem escape_of_braceFree (free : BraceFree text) : Pattern.escape text = text := by
  have plain : ∀ c ∈ text.toList, Pattern.escapeChar c = [c] := by
    intro c inText
    rw [Pattern.escapeChar, if_neg]
    rintro (rfl | rfl)
    · exact free.1 inText
    · exact free.2 inText
  rw [Pattern.escape, List.flatMap_congr plain, List.flatMap_singleton', String.ofList_toList]

theorem Pattern.parser_gives (free : BraceFree text) :
    Pattern.parser.Gives label functions text text := by
  obtain ⟨segments, canonical, printed, -, formatted⟩ := canonical_text text
  have parsed : parse text = .ok ⟨segments⟩ := by
    have read := parse_print canonical
    rwa [printed, escape_of_braceFree free] at read
  refine ⟨_, parser_parse parsed label functions, gives_of_renders fun data => ?_⟩
  have renders := renders_format ⟨segments⟩ data
  rwa [format, formatted] at renders

theorem Sheet.parser_gives (free : BraceFree text) :
    Sheet.parser.Gives label functions text text := by
  have lead : BraceFree (Form.mk text []).lead := free
  obtain ⟨template, parsed, fills⟩ := parse_fields label functions lead (List.forall_mem_nil _)
    (List.forall_mem_nil _) (List.forall_mem_nil _)
  have source : Form.source ⟨text, []⟩ = text := String.append_empty
  rw [source] at parsed
  exact ⟨template, parsed, gives_of_fillsIn fills⟩

/-- A page has one text: what is left of the source without the break at its end. -/
theorem Page.compile_gives (escapes : Bool) (free : BraceFree text)
    (chomped : Scan.chomp text.toList = rest.toList) :
    ∃ template, compile escapes label functions text = .ok template ∧ template.Gives rest := by
  have scanned := Scan.ofSource_text free.1
  have spells : Spells (Form.parts ⟨rest, []⟩) (Scan.dataToken rest.toList 1) := by
    rw [← List.append_nil (Scan.dataToken _ _)]
    exact Scan.spells_ofText rest 1 .nil
  rw [chomped] at scanned
  obtain ⟨page, parsed, prints⟩ := parse_of_spells scanned spells (List.forall_mem_nil _)
  obtain ⟨template, compiled, fills⟩ :=
    compile_of_prints escapes label functions parsed prints (List.forall_mem_nil _)
  exact ⟨template, compiled, gives_of_fillsIn fills⟩

theorem Page.parsers_give (free : BraceFree text)
    (chomped : Scan.chomp text.toList = rest.toList) :
    ∀ parser ∈ [Page.textParser, Page.htmlParser], parser.Gives label functions text rest := by
  intro parser listed
  simp only [List.mem_cons, List.not_mem_nil, or_false] at listed
  rcases listed with rfl | rfl
  · exact compile_gives label functions false free chomped
  · exact compile_gives label functions true free chomped

end Engines

/-- Under every label and with all functions a text without braces is read by every engine. Patterns
and sheets give it back. Pages give it back where it ends in no line break, and else give it without
the break, which is another text. -/
theorem plain_text_is_given (text label : String) (functions : Registry) (free : BraceFree text) :
    (∀ parser ∈ [Pattern.parser, Sheet.parser], parser.Gives label functions text text) ∧
    ((∀ rest, ¬LosesBreak rest text) →
      ∀ parser ∈ [Page.textParser, Page.htmlParser], parser.Gives label functions text text) ∧
    ∀ rest, LosesBreak rest text → rest ≠ text ∧
      ∀ parser ∈ [Page.textParser, Page.htmlParser], parser.Gives label functions text rest := by
  refine ⟨?_, fun keeps => ?_, fun rest loses => ⟨loses.ne, ?_⟩⟩
  · intro parser listed
    simp only [List.mem_cons, List.not_mem_nil, or_false] at listed
    rcases listed with rfl | rfl
    · exact Pattern.parser_gives label functions free
    · exact Sheet.parser_gives label functions free
  · exact Page.parsers_give label functions free (chomp_eq_of_keeps keeps)
  · exact Page.parsers_give label functions free loses.chomp_eq

/-- A tree of its root alone. -/
def rootOnly : FileTree := ⟨fun place => if place = [] then some (.dir 0o755) else none, []⟩

/-- With its break a line of markup is kept by a sheet and cut by a page, whose label does not matter.
Without the break the page keeps it, in a file too. -/
theorem line_is_given :
    BraceFree "<p>\n" ∧ Sheet.parser.Gives "page.txt" .empty "<p>\n" "<p>\n" ∧
      LosesBreak "<p>" "<p>\n" ∧ Page.htmlParser.Gives "page.txt" .empty "<p>\n" "<p>" ∧
      BraceFree "<p>" ∧ (∀ rest, ¬LosesBreak rest "<p>") ∧
      ∃ template, Page.htmlParser.parse "page.txt" .empty "<p>" = .ok template ∧
        (template.render (.abortable .null)).outcome = .ok "<p>" ∧
        (template.renderToFile (.abortable .null) rootOnly "out").tree.read "out" =
          .ok (Utf8.encode "<p>") := by
  have loses : LosesBreak "<p>" "<p>\n" := @LosesBreak.newline "<p>" (by decide)
  have keeps : ∀ rest, ¬LosesBreak rest "<p>" := fun rest loses =>
    absurd loses.last (by decide)
  have free : BraceFree "<p>\n" := by decide
  have freeAlone : BraceFree "<p>" := by decide
  have plain : ∀ place full, rootOnly.entry place ≠ some (.device full) := by
    intro place full
    unfold rootOnly
    dsimp only
    split <;> simp
  obtain ⟨kept, -, cut⟩ := plain_text_is_given "<p>\n" "page.txt" .empty free
  obtain ⟨-, whole, -⟩ := plain_text_is_given "<p>" "page.txt" .empty freeAlone
  obtain ⟨template, parsed, gives⟩ := whole keeps Page.htmlParser (by simp)
  have rendered := gives.renders .null (.abortable .null) rfl rfl
  obtain ⟨outcome, filled⟩ :=
    gives.fills (.abortable .null) .null rootOnly "out" .unlimited rfl rfl (by decide)
  have saved : (template.renderToFile (.abortable .null) rootOnly "out").outcome = .ok () := by
    rw [outcome]
    rfl
  exact ⟨free, kept Sheet.parser (by simp), loses, (cut "<p>" loses).2 Page.htmlParser (by simp),
    freeAlone, keeps, template, parsed, congrArg Rendered.outcome rendered,
    filled plain saved⟩

/-- The break at the end of a text without braces is lost on a page. -/
theorem final_break_is_lost :
    BraceFree "a\n" ∧ ∃ template, Page.textParser.parse "t" .empty "a\n" = .ok template ∧
      (template.render .unit).outcome = .ok "a" ∧ (template.render .unit).outcome ≠ .ok "a\n" := by
  have free : BraceFree "a\n" := by decide
  have chomped : Page.Scan.chomp "a\n".toList = "a".toList := by decide
  obtain ⟨template, parsed, gives⟩ := Page.compile_gives "t" .empty false free chomped
  have rendered : (template.render .unit).outcome = .ok "a" :=
    congrArg Rendered.outcome (gives.renders .null .unit rfl rfl)
  refine ⟨free, template, parsed, rendered, ?_⟩
  rw [rendered]
  decide

end Templating
