import Templating.Engine
import Templating.Proofs.Printing.PagePrint
import Templating.Proofs.Printing.SheetPrint

/-! Data is printed as it is. What a value is does not matter to how a template is read, and whether it
is escaped depends on the engine alone, not on the label. -/

namespace Templating

namespace Markup

/-- The references that stand for characters in pages that escape. -/
def references : List (Char × String) :=
  [('<', "&lt;"), ('>', "&gt;"), ('&', "&amp;"), ('"', "&quot;"), ('\'', "&#x27;"),
    ('/', "&#x2f;")]

/-- A character, or the reference that stands for it. -/
def referred (c : Char) : List Char := ((references.lookup c).map String.toList).getD [c]

theorem referred_of_notMem {c : Char} (h : c ∉ references.map Prod.fst) : referred c = [c] := by
  have unlisted : references.lookup c = none := by
    refine List.lookup_eq_none_iff.mpr fun entry inTable => ?_
    have other : c ≠ entry.1 := fun same => h (same ▸ List.mem_map_of_mem inTable)
    exact bne_iff_ne.mpr other
  rw [referred, unlisted]
  rfl

theorem escapeChar_eq (c : Char) : escapeChar "&#x2f;" c = referred c := by
  -- The table is short enough to be gone through; all other characters are left as they are.
  by_cases listed : c ∈ references.map Prod.fst
  · have each : ∀ entry ∈ references, escapeChar "&#x2f;" entry.1 = referred entry.1 := by decide
    obtain ⟨entry, inTable, rfl⟩ := List.mem_map.mp listed
    exact each entry inTable
  · have none : reference? "&#x2f;" c = none := by
      unfold reference?
      split <;> first | rfl | exact absurd (by decide) listed
    rw [referred_of_notMem listed, escapeChar, none]

theorem toList_escape (text : String) : (escape text).toList = text.toList.flatMap referred := by
  rw [escape, escapeWith, String.toList_ofList]
  exact congrArg (text.toList.flatMap ·) (funext escapeChar_eq)

theorem notMem_referred {c : Char} : '<' ∉ referred c ∧ '>' ∉ referred c := by
  by_cases listed : c ∈ references.map Prod.fst
  · have each : ∀ entry ∈ references, '<' ∉ referred entry.1 ∧ '>' ∉ referred entry.1 := by decide
    obtain ⟨entry, inTable, rfl⟩ := List.mem_map.mp listed
    exact each entry inTable
  · have bracket : ∀ d ∈ references.map Prod.fst, d ∉ [c] :=
      fun d inTable here => listed (List.mem_singleton.mp here ▸ inTable)
    rw [referred_of_notMem listed]
    exact ⟨bracket '<' (by decide), bracket '>' (by decide)⟩

theorem notMem_escape (text : String) :
    '<' ∉ (escape text).toList ∧ '>' ∉ (escape text).toList := by
  rw [toList_escape, List.mem_flatMap, List.mem_flatMap]
  exact ⟨fun ⟨_, _, here⟩ => notMem_referred.1 here, fun ⟨_, _, here⟩ => notMem_referred.2 here⟩

end Markup

namespace Form

/-- Under every label a plain form is read, and filled in with the texts that the data binds: as they
are by sheets and by the pages of one engine, and escaped by the pages of the other. What the form
has around them is never escaped. -/
theorem data_is_printed (form : Form) (label : String) (functions : Registry) (plain : form.Plain) :
    ((∀ field ∈ form.fields, field.name ∉ Page.keywords) →
      (∃ template, Page.textParser.parse label functions form.source = .ok template ∧
        template.FillsIn form id) ∧
      ∃ template, Page.htmlParser.parse label functions form.source = .ok template ∧
        template.FillsIn form Markup.escape) ∧
    ((∀ field ∈ form.fields, Sheet.Readable field.name) →
      ∃ template, Sheet.parser.parse label functions form.source = .ok template ∧
        template.FillsIn form id) ∧
    ∀ text, (Markup.escape text).toList = text.toList.flatMap Markup.referred ∧
      '<' ∉ (Markup.escape text).toList ∧ '>' ∉ (Markup.escape text).toList :=
  ⟨fun free => ⟨Page.compile_form false label functions plain free,
      Page.compile_form true label functions plain free⟩,
    fun readable => Sheet.parse_form label functions plain readable,
    fun text => ⟨Markup.toList_escape text, Markup.notMem_escape text⟩⟩

/-- A form in markup. -/
def bold : Form := ⟨"<b>", [⟨"x", "</b> "⟩, ⟨"y", "."⟩]⟩

/-- Values that are markup and template themselves. -/
def tricky (name : String) : String :=
  if name = "x" then "<i>\x7b\x7b y \x7d\x7d</i>" else "\x7b% if"

def trickyData : Json := .obj [("x", .str (tricky "x")), ("y", .str (tricky "y"))]

/-- The labels of the text and of the page tell the opposite of how the engines escape. -/
theorem bold_prints_markup :
    ∃ text html sheet,
      Page.textParser.parse "page.html" .empty bold.source = .ok text ∧
      (text.render (.ofData trickyData)).outcome =
        .ok "<b><i>\x7b\x7b y \x7d\x7d</i></b> \x7b% if." ∧
      Page.htmlParser.parse "page.txt" .empty bold.source = .ok html ∧
      (html.render (.ofData trickyData)).outcome =
        .ok "<b>&lt;i&gt;\x7b\x7b y \x7d\x7d&lt;&#x2f;i&gt;</b> \x7b% if." ∧
      Sheet.parser.parse "page.html" .empty bold.source = .ok sheet ∧
      (sheet.render (.ofData trickyData)).outcome =
        .ok "<b><i>\x7b\x7b y \x7d\x7d</i></b> \x7b% if." := by
  have plain : bold.Plain := by decide
  have free : ∀ field ∈ bold.fields, field.name ∉ Page.keywords := by decide
  have readable : ∀ field ∈ bold.fields, Sheet.Readable field.name := by decide
  have bound : bold.Binds trickyData tricky := by
    intro field inForm
    rcases List.mem_cons.mp inForm with rfl | inRest
    · rfl
    · obtain rfl := List.mem_singleton.mp inRest
      rfl
  obtain ⟨⟨text, textParsed, textFills⟩, -⟩ :=
    (data_is_printed bold "page.html" .empty plain).1 free
  obtain ⟨-, html, htmlParsed, htmlFills⟩ := (data_is_printed bold "page.txt" .empty plain).1 free
  obtain ⟨sheet, sheetParsed, sheetFills⟩ :=
    (data_is_printed bold "page.html" .empty plain).2.1 readable
  refine ⟨text, html, sheet, textParsed, ?_, htmlParsed, ?_, sheetParsed, ?_⟩
  · rw [textFills (.ofData trickyData) trickyData tricky rfl rfl bound]
    exact congrArg Except.ok (by decide)
  · rw [htmlFills (.ofData trickyData) trickyData tricky rfl rfl bound]
    exact congrArg Except.ok (by decide)
  · rw [sheetFills (.ofData trickyData) trickyData tricky rfl rfl bound]
    exact congrArg Except.ok (by decide)

/-- The words with a meaning of their own in sheets. -/
def sheetWords : List String :=
  Sheet.constants ++ ["not", "and", "or", "in", "is", "set", "raw", "endraw", "if", "elif", "else",
    "endif", "for", "endfor", "loop", "self", "super"]

/-- A field whose name is no word of sheets but starts with one. -/
def hidden : Form := ⟨"", [⟨"trueish", ""⟩]⟩

/-- After the constant at the start of the name a sheet has no rule for the rest of the name. -/
theorem constant_hides_name :
    hidden.Plain ∧ (∀ field ∈ hidden.fields, field.name ∉ sheetWords) ∧
      hidden.Binds (.obj [("trueish", .str "v")]) (fun _ => "v") ∧
      Sheet.parser.parse "t" .empty hidden.source = .error (.source (.sheet "t")) := by
  have bound : hidden.Binds (.obj [("trueish", .str "v")]) (fun _ => "v") := by
    intro field inForm
    obtain rfl := List.mem_singleton.mp inForm
    rfl
  have unread : Sheet.parse? hidden.source = none :=
    Option.isNone_iff_eq_none.mp (by decide +kernel)
  refine ⟨by decide, by decide, bound, ?_⟩
  simp only [Sheet.parser, unread]

end Form

end Templating
