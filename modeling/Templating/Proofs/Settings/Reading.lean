import Templating.Proofs.Yaml.Nodes
import Templating.Settings.Layout
import Templating.Settings.Reader

/-! Reading settings from their layout. The layout has one section for each block that is not left out, and
each section fills one place of the draft, whichever come first. -/

namespace Templating

open Yaml (Key Node Section)

theorem Engine.ofName?_name (engine : Engine) : ofName? engine.name = some engine := by
  cases engine <;> rfl

theorem Engine.isNull_name (engine : Engine) : Yaml.isNull engine.name = false := by
  cases engine <;> decide

namespace Settings

/-! ### The layout as sections -/

def ruleSection (rule : Rule) : List Yaml.Entry :=
  [⟨.word "engine", .word rule.engine.name⟩, ⟨.word "suffixes", .list rule.suffixes⟩]

/-- A block as a section, unless it is left out. -/
def blockSection? (settings : Settings) (items : List (List Yaml.Entry)) : Block → Option Section
  | .default => settings.default?.map fun engine => .single ⟨.word "default", .word engine.name⟩
  | .rules => if items.isEmpty then none else some (.list (.word "matchers") items)
  | .standard => some (.single ⟨.word "stdlib", .word (if settings.standard then "true" else "false")⟩)

def sections (settings : Settings) (items : List (List Yaml.Entry)) (order : List Block) : List Section :=
  order.flatMap fun block => (settings.blockSection? items block).toList

theorem ruleEntries_eq (rule : Rule) : ruleEntries rule = (ruleSection rule).map Yaml.Entry.line := rfl

theorem blockLines_eq (settings : Settings) (items : List (List Yaml.Entry)) (block : Block) :
    settings.blockLines (items.map (·.map Yaml.Entry.line)) block =
      (settings.blockSection? items block).toList.flatMap Section.lines := by
  cases block with
  | default =>
    cases chosen : settings.default? with
    | none => simp [blockLines, blockSection?, chosen]
    | some engine =>
      simp [blockLines, blockSection?, chosen, Section.lines]
      rfl
  | rules =>
    cases items with
    | nil => rfl
    | cons item more =>
      simp [blockLines, blockSection?, Section.lines, Key.written, List.flatMap_map]
  | standard => simp [blockLines, blockSection?, Section.lines]; rfl

theorem lines_eq (settings : Settings) (items : List (List Yaml.Entry)) (order : List Block) :
    order.flatMap (settings.blockLines (items.map (·.map Yaml.Entry.line))) =
      (settings.sections items order).flatMap Section.lines := by
  rw [sections, List.flatMap_assoc]
  exact congrArg (order.flatMap ·) (funext fun block => settings.blockLines_eq items block)

theorem layoutLines_eq (settings : Settings) (order : List Block) : settings.layoutLines order =
    (settings.sections (settings.rules.map ruleSection) order).flatMap Section.lines := by
  rw [layoutLines, ← lines_eq, List.map_map]
  rfl

/-- Suffixes that stand for themselves between quotes. -/
def Quotable (rules : List Rule) : Prop :=
  ∀ rule ∈ rules, ∀ suffix ∈ rule.suffixes, ∀ c ∈ suffix.toList, Yaml.standsInQuotes c = true

theorem ruleSection_isProper {rules : List Rule} (quotable : Quotable rules) {rule : Rule}
    (there : rule ∈ rules) :
    ∀ entry ∈ ruleSection rule, entry.isProper = true := by
  intro entry among
  rcases List.mem_cons.mp among with rfl | among
  · cases rule.engine <;> decide
  · rw [List.mem_singleton.mp among]
    have suffixes : (Yaml.Value.list rule.suffixes).isProper = true :=
      List.all_eq_true.mpr fun suffix here => List.all_eq_true.mpr (quotable rule there suffix here)
    rw [Yaml.Entry.isProper, suffixes, Bool.and_true]
    exact (show ((Key.word "suffixes").isProper && (Key.word "suffixes").isShort) = true by decide)

theorem blockSection_isProper {settings : Settings} {items : List (List Yaml.Entry)}
    (proper : ∀ entries ∈ items, entries ≠ [] ∧ ∀ entry ∈ entries, entry.isProper = true) {block : Block}
    {part : Section} (there : settings.blockSection? items block = some part) : part.isProper = true := by
  cases block with
  | default =>
    obtain ⟨engine, -, rfl⟩ := Option.map_eq_some_iff.mp there
    cases engine <;> decide
  | rules =>
    rw [blockSection?] at there
    split at there
    · cases there
    · rename_i nonempty
      cases there
      have name : ((Key.word "matchers").isProper && (Key.word "matchers").isShort) = true := by decide
      rw [Section.isProper, name]
      simpa using ⟨by simpa using nonempty, proper⟩
  | standard =>
    cases there
    cases settings.standard <;> decide

theorem sections_isProper (settings : Settings) {items : List (List Yaml.Entry)}
    (proper : ∀ entries ∈ items, entries ≠ [] ∧ ∀ entry ∈ entries, entry.isProper = true)
    (order : List Block) :
    ∀ part ∈ settings.sections items order, part.isProper = true := by
  intro part there
  obtain ⟨block, -, among⟩ := List.mem_flatMap.mp there
  exact blockSection_isProper proper (Option.mem_toList.mp among)

theorem ruleSections_isProper {rules : List Rule} (quotable : Quotable rules) :
    ∀ entries ∈ rules.map ruleSection, entries ≠ [] ∧ ∀ entry ∈ entries, entry.isProper = true := by
  intro entries there
  obtain ⟨rule, among, rfl⟩ := List.mem_map.mp there
  exact ⟨List.cons_ne_nil _ _, ruleSection_isProper quotable among⟩

/-! ### Reading a rule -/

theorem readItems_ok {read : Reading α} {nodeOf : α → Node} {values : List α}
    (each : ∀ value ∈ values, ∀ path, read path (nodeOf value) = .ok value) (path : String) (index : Nat) :
    readItems read path index (values.map nodeOf) = .ok values := by
  induction values generalizing index with
  | nil => rfl
  | cons value more ih =>
    have later := ih (fun value there => each value (List.mem_cons_of_mem _ there)) (index + 1)
    rw [List.map_cons, readItems, each value List.mem_cons_self, later]
    rfl

theorem readList_ok {read : Reading α} {nodeOf : α → Node} {values : List α}
    (each : ∀ value ∈ values, ∀ path, read path (nodeOf value) = .ok value) (path : String) :
    readList read path (.list (values.map nodeOf) true) = .ok values := by
  rw [readList, readItems_ok each]
  rfl

theorem readEngine_name (engine : Engine) (path : String) :
    readEngine path (.scalar engine.name true) = .ok engine := by
  rw [readEngine, engine.ofName?_name]

/-- Reads an entry under its key. -/
def readKeyed (readEntry : σ → String → Node → Except SettingsFault σ) (path : String) (state : σ)
    (entry : Node × Node) : Except SettingsFault σ := do
  readEntry state (← readName path entry.1) entry.2

theorem readEntries_map (readEntry : σ → String → Node → Except SettingsFault σ) (start : σ)
    (expected path : String) (entries : List (Node × Node)) (complete : Bool) :
    readEntries readEntry start expected path (.map entries complete) = (do
      let state ← entries.foldlM (readKeyed readEntry path) start
      if complete then return state else throw SettingsFault.notYaml) := rfl

theorem foldlM_ok {f : σ → α → Except SettingsFault σ} {state next : σ} {x : α} {xs : List α}
    (first : f state x = .ok next) : (x :: xs).foldlM f state = xs.foldlM f next := by
  rw [List.foldlM_cons, first]
  rfl

theorem readKeyed_engine (draft : RuleDraft) (free : draft.engine? = none) (engine : Engine) (path : String) :
    readKeyed (readRuleEntry path) path draft ((Key.word "engine").node, .scalar engine.name true) =
      .ok { draft with engine? := some engine } := by
  have read := readEngine_name engine (entryPath path "engine")
  show readRuleEntry path draft "engine" (.scalar engine.name true) = _
  rw [readRuleEntry, free, read]
  rfl

theorem readKeyed_suffixes (draft : RuleDraft) (free : draft.suffixes? = none) (suffixes : List String)
    (path : String) :
    readKeyed (readRuleEntry path) path draft
        ((Key.word "suffixes").node, .list (suffixes.map (.scalar · false)) true) =
      .ok { draft with suffixes? := some suffixes } := by
  have text : ∀ suffix ∈ suffixes, ∀ path, readText path (.scalar suffix false) = .ok suffix :=
    fun _ _ _ => rfl
  show readRuleEntry path draft "suffixes" (.list (suffixes.map (.scalar · false)) true) = _
  rw [readRuleEntry, free, readList_ok text]
  rfl

theorem readRule_node (rule : Rule) (path : String) :
    readRule path (Yaml.itemNode (ruleSection rule)) = .ok rule := by
  have nodes : (ruleSection rule).map Yaml.Entry.node =
      [((Key.word "engine").node, .scalar rule.engine.name true),
        ((Key.word "suffixes").node, .list (rule.suffixes.map (.scalar · false)) true)] := rfl
  rw [readRule, Yaml.itemNode, readEntries_map, nodes, foldlM_ok (readKeyed_engine _ rfl _ _),
    foldlM_ok (readKeyed_suffixes _ rfl _ _)]
  rfl

/-! ### Reading settings -/

/-- What has been read of settings after some blocks. -/
def draftOf (settings : Settings) (blocks : List Block) : Draft where
  default? := if .default ∈ blocks then settings.default?.map some else none
  rules? := if .rules ∈ blocks ∧ settings.rules ≠ [] then some settings.rules else none
  standard? := if .standard ∈ blocks then some settings.standard else none

theorem readBool_standard (standard : Bool) (path : String) :
    readBool path (.scalar (if standard then "true" else "false") true) = .ok standard := by
  cases standard <;> rfl

theorem readDefault_name (engine : Engine) (path : String) :
    readDefault path (.scalar engine.name true) = .ok (some engine) := by
  rw [readDefault, engine.isNull_name, if_neg Bool.false_ne_true, readEngine_name]
  rfl

theorem readListOrNull_rules (rules : List Rule) (path : String) :
    readListOrNull readRule path (.list (rules.map fun rule => Yaml.itemNode (ruleSection rule)) true) =
      .ok rules := by
  rw [readListOrNull]
  · exact readList_ok (fun rule _ path => readRule_node rule path) path
  · simp

variable {settings : Settings} {blocks : List Block} {block : Block} {part : Section}

/-- A block adds what it says to the draft. -/
theorem readKeyed_block (fresh : block ∉ blocks)
    (written : settings.blockSection? (settings.rules.map ruleSection) block = some part) :
    readKeyed readEntry "" (settings.draftOf blocks) part.node =
      .ok (settings.draftOf (block :: blocks)) := by
  cases block with
  | default =>
    obtain ⟨engine, chosen, rfl⟩ := Option.map_eq_some_iff.mp written
    have free : (settings.draftOf blocks).default? = none := if_neg fresh
    show readEntry (settings.draftOf blocks) "default" (.scalar engine.name true) = _
    rw [readEntry, free, readDefault_name]
    simp [fill, draftOf, chosen]
  | rules =>
    rw [blockSection?] at written
    split at written
    · cases written
    · rename_i nonempty
      cases written
      have free : (settings.draftOf blocks).rules? = none := if_neg fun both => fresh both.1
      show readEntry (settings.draftOf blocks) "matchers"
        (.list ((settings.rules.map ruleSection).map Yaml.itemNode) true) = _
      have some : settings.rules ≠ [] := by simpa using nonempty
      have read := readListOrNull_rules settings.rules "matchers"
      rw [readEntry, free, List.map_map]
      simp only [Function.comp_def, read]
      simp [fill, draftOf, some]
  | standard =>
    cases written
    have free : (settings.draftOf blocks).standard? = none := if_neg fresh
    show readEntry (settings.draftOf blocks) "stdlib"
      (.scalar (if settings.standard then "true" else "false") true) = _
    rw [readEntry, free, readBool_standard]
    simp [fill, draftOf]

/-- A block that is left out says nothing. -/
theorem draftOf_none (omitted : settings.blockSection? (settings.rules.map ruleSection) block = none) :
    settings.draftOf (block :: blocks) = settings.draftOf blocks := by
  cases block with
  | default =>
    have none : settings.default? = none := Option.map_eq_none_iff.mp omitted
    simp [draftOf, none]
  | rules =>
    have none : settings.rules = [] := by simpa [blockSection?] using omitted
    simp [draftOf, none]
  | standard => cases omitted

theorem foldlM_sections {order : List Block} (apart : (blocks.reverse ++ order).Nodup) :
    ((settings.sections (settings.rules.map ruleSection) order).map Section.node).foldlM
        (readKeyed readEntry "") (settings.draftOf blocks) =
      .ok (settings.draftOf (order.reverse ++ blocks)) := by
  induction order generalizing blocks with
  | nil => rfl
  | cons block more ih =>
    have apart' : ((block :: blocks).reverse ++ more).Nodup := by simpa using apart
    have fresh : block ∉ blocks := by
      have parts := List.nodup_append.mp apart
      intro there
      exact parts.2.2 block (List.mem_reverse.mpr there) block List.mem_cons_self rfl
    have later := ih apart'
    rw [List.reverse_cons, List.append_assoc, List.singleton_append]
    cases written : settings.blockSection? (settings.rules.map ruleSection) block with
    | none =>
      rw [draftOf_none written] at later
      rw [sections, List.flatMap_cons, written]
      exact later
    | some part =>
      rw [sections, List.flatMap_cons, written, List.map_append]
      exact (foldlM_ok (readKeyed_block fresh written)).trans later

/-- A document with the sections of all blocks, in any order, is that of the settings. -/
theorem ofDocument_sections {order : List Block} (all : order.Perm [.default, .rules, .standard]) :
    ofDocument ⟨.map ((settings.sections (settings.rules.map ruleSection) order).map Section.node) true,
      true⟩ = .ok settings := by
  have everywhere : ∀ block, block ∈ order := fun block => all.mem_iff.mpr (by cases block <;> decide)
  have apart : order.Nodup := all.nodup_iff.mpr (by decide)
  have read : ((settings.sections (settings.rules.map ruleSection) order).map Section.node).foldlM
      (readKeyed readEntry "") (settings.draftOf []) = _ := foldlM_sections (by simpa using apart)
  have default : (settings.default?.map some).getD none = settings.default? := by
    cases settings.default? <;> rfl
  have rules : (if settings.rules = [] then none else some settings.rules).getD [] = settings.rules := by
    cases settings.rules <;> rfl
  rw [ofDocument, readEntries_map, show (⟨none, none, none⟩ : Draft) = settings.draftOf [] from rfl, read]
  simp [draftOf, everywhere, default, rules]

theorem parse_layout (valid : settings.validate = .ok ()) (quotable : Quotable settings.rules)
    {order : List Block} (all : order.Perm [.default, .rules, .standard]) :
    parse (settings.layout order) = .ok settings := by
  have nonempty : settings.sections (settings.rules.map ruleSection) order ≠ [] := by
    have there : Section.single ⟨.word "stdlib", .word (if settings.standard then "true" else "false")⟩ ∈
        settings.sections (settings.rules.map ruleSection) order :=
      List.mem_flatMap.mpr ⟨.standard, all.mem_iff.mpr (by decide), List.mem_singleton_self _⟩
    exact List.ne_nil_of_mem there
  have proper : ∀ part ∈ settings.sections (settings.rules.map ruleSection) order, part.isProper = true :=
    sections_isProper settings (ruleSections_isProper quotable) order
  rw [parse, layout, layoutLines_eq, Yaml.read_layout nonempty proper, ofDocument_sections all]
  show (do settings.validate; return settings) = _
  rw [valid]
  rfl

end Settings

end Templating
