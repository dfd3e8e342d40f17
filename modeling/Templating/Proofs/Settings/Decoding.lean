import Templating.Proofs.Settings.Reading

/-! Settings are read from their layout as they are, and no further key may stand in it. Behind such a key
the text may go on in any way: the tokens up to the key cannot change any more, and the first fault in
the order of the text counts. -/

namespace Templating.Settings

open Yaml (Document Key Node Section)

variable {settings : Settings} {before : List Block} {key : Key}

/-! ### Further keys -/

/-- Something is not read. -/
def Fails (result : Except SettingsFault α) : Prop := ∃ fault, result = .error fault

theorem Fails.bind {result : Except SettingsFault α} (fails : Fails result) (f : α → Except SettingsFault β) :
    Fails (result >>= f) := by
  obtain ⟨fault, rfl⟩ := fails
  exact ⟨fault, rfl⟩

theorem Fails.map {result : Except SettingsFault α} (fails : Fails result) (f : α → β) :
    Fails (f <$> result) := by
  obtain ⟨fault, rfl⟩ := fails
  exact ⟨fault, rfl⟩

theorem fails_foldlM {f : σ → α → Except SettingsFault σ} {x : α} (fails : ∀ state, Fails (f state x))
    (before after : List α) (state : σ) : Fails ((before ++ x :: after).foldlM f state) := by
  induction before generalizing state with
  | nil => exact (fails state).bind _
  | cons y before ih =>
    rw [List.cons_append, List.foldlM_cons]
    cases read : f state y with
    | error fault => exact ⟨fault, rfl⟩
    | ok next => exact ih next

theorem fails_readEntries {readEntry : σ → String → Node → Except SettingsFault σ} {key : Key} {value : Node}
    (unknown : ∀ state, Fails (readEntry state key.text value)) (start : σ) (expected path : String)
    (before after : List (Node × Node)) (complete : Bool) :
    Fails (readEntries readEntry start expected path
      (.map (before ++ (key.node, value) :: after) complete)) := by
  have step : ∀ state, Fails (readKeyed readEntry path state (key.node, value)) := unknown
  rw [readEntries_map]
  exact (fails_foldlM step before after start).bind _

theorem fails_readItems {read : Reading α} {node : Node} (fails : ∀ path, Fails (read path node))
    (before after : List Node) (path : String) (index : Nat) :
    Fails (readItems read path index (before ++ node :: after)) := by
  induction before generalizing index with
  | nil => exact (fails _).bind _
  | cons first before ih =>
    rw [List.cons_append, readItems]
    cases item : read (itemPath path index) first with
    | error fault => exact ⟨fault, rfl⟩
    | ok value => exact (ih (index + 1)).bind _

theorem fails_ruleEntry {name : String} (further : name ∉ ["engine", "suffixes"]) (path : String)
    (draft : RuleDraft) (value : Node) : Fails (readRuleEntry path draft name value) := by
  simp only [List.mem_cons, List.not_mem_nil, or_false, not_or] at further
  unfold readRuleEntry
  split
  · exact absurd rfl further.1
  · exact absurd rfl further.2
  · exact ⟨_, rfl⟩

theorem fails_entry {name : String} (further : name ∉ ["default", "matchers", "stdlib"]) (draft : Draft)
    (value : Node) : Fails (readEntry draft name value) := by
  simp only [List.mem_cons, List.not_mem_nil, or_false, not_or] at further
  unfold readEntry
  split
  · exact absurd rfl further.1
  · exact absurd rfl further.2.1
  · exact absurd rfl further.2.2
  · exact ⟨_, rfl⟩

/-- An item with a further key is not read, wherever it stands. -/
theorem fails_rules {list : List (List Yaml.Entry)} {front : List Yaml.Entry} {nodes : List Node}
    (further : key.text ∉ ["engine", "suffixes"]) (starts : Yaml.StartWith list front key nodes)
    (ended : Bool) (draft : Draft) : Fails (readEntry draft "matchers" (.list nodes ended)) := by
  obtain ⟨value, more, whole, others, rfl⟩ := starts
  have rule : ∀ path, Fails (readRule path
      (.map (front.map Yaml.Entry.node ++ (key.node, value) :: more) whole)) := fun path =>
    (fails_readEntries (fun draft => fails_ruleEntry further path draft value) _ _ _ _ _ _).bind _
  have items := fails_readItems rule (list.map Yaml.itemNode) others "matchers" 0
  rw [readEntry]
  refine Fails.bind ?_ _
  cases draft.rules? with
  | some rules => exact ⟨_, rfl⟩
  | none =>
    refine Fails.map ?_ _
    exact items.bind _

theorem fails_incomplete {document : Document} (incomplete : document.complete = false) :
    Fails (ofDocument document) := by
  rw [ofDocument, incomplete]
  cases readEntries readEntry ⟨none, none, none⟩ "struct FactoryConfig" "" document.root with
  | error fault => exact ⟨fault, rfl⟩
  | ok draft => exact ⟨.notYaml, rfl⟩

theorem fails_parse {text : String} (fails : Fails (ofDocument (Yaml.read text))) : Fails (parse text) :=
  fails.bind _

theorem toList_furtherEntry (key : Key) (value : String) (parts : List Section) (below : List String) :
    (Yaml.ofLines (parts.flatMap Section.lines ++ Yaml.entryLine key.written value :: below)).toList =
      Yaml.Cutting.sectionsText parts ++ (key.written.toList ++ ':' :: ' ' ::
        (value.toList ++ '\n' :: (Yaml.ofLines below).toList)) := by
  rw [Yaml.toList_ofLines, Yaml.toList_ofLines, List.flatMap_append, List.flatMap_cons, List.flatMap_assoc]
  simp [Yaml.Cutting.lineChars, Yaml.entryLine]
  rfl

/-- A further key among the blocks, with anything behind it. -/
theorem parse_furtherEntry (quotable : Quotable settings.rules) (before after : List Block) {key : Key}
    (proper : key.isProper = true) (further : key.text ∉ ["default", "matchers", "stdlib"]) (value : String) :
    Fails (parse (settings.layoutWithLine before after (Yaml.entryLine key.written value))) := by
  have above := sections_isProper settings (ruleSections_isProper quotable) before
  rw [layoutWithLine, layoutLines_eq]
  refine fails_parse ?_
  rcases Yaml.read_section above proper (toList_furtherEntry key value _ _) with
    ⟨node, more, complete, root⟩ | incomplete
  · rw [ofDocument, root]
    exact (fails_readEntries (fun draft => fails_entry further draft node) _ _ _ _ _ _).bind _
  · exact fails_incomplete incomplete

theorem blockLines_of_ne (settings : Settings) (items : List (List String)) {block : Block}
    (other : block ≠ .rules) : settings.blockLines items block = settings.blockLines [] block := by
  cases block with
  | rules => exact absurd rfl other
  | default => rfl
  | standard => rfl

theorem toList_furtherItem (parts : List Section) (earlier : List (List Yaml.Entry)) (front : List Yaml.Entry)
    (key : Key) (value : String) (back below : List String) :
    (Yaml.ofLines (parts.flatMap Section.lines ++ "matchers:" ::
      (earlier.flatMap fun entries => Yaml.itemLines (entries.map Yaml.Entry.line)) ++
      Yaml.itemLines (front.map Yaml.Entry.line ++ Yaml.entryLine key.written value :: back) ++
      below)).toList =
    Yaml.Cutting.sectionsText parts ++ ((Key.word "matchers").written.toList ++ ':' :: '\n' ::
      (Yaml.Cutting.itemsText earlier ++ (Yaml.Cutting.itemChars front ++ (key.written.toList ++ ':' :: ' ' ::
        (value.toList ++ '\n' :: (Yaml.Cutting.indented back ++ (Yaml.ofLines below).toList)))))) := by
  rw [Yaml.toList_ofLines, Yaml.toList_ofLines]
  simp only [List.flatMap_append, List.flatMap_cons, List.flatMap_assoc, Yaml.Cutting.itemLines_append]
  have sections : (parts.flatMap fun part => part.lines.flatMap Yaml.Cutting.lineChars) =
      Yaml.Cutting.sectionsText parts := rfl
  have items : (earlier.flatMap fun entries =>
      (Yaml.itemLines (entries.map Yaml.Entry.line)).flatMap Yaml.Cutting.lineChars) =
      Yaml.Cutting.itemsText earlier := rfl
  rw [sections, items]
  simp [Yaml.Cutting.lineChars, Yaml.entryLine, Key.written]

/-- The lines up to an item and from there on. -/
theorem flatMap_blockLines (settings : Settings) {before : List Block} (after : List Block)
    (fresh : .rules ∉ before)
    (earlier later : List (List Yaml.Entry)) (item : List String) :
    ∃ below, (before ++ .rules :: after).flatMap (settings.blockLines
        (earlier.map (·.map Yaml.Entry.line) ++ item :: later.map (·.map Yaml.Entry.line))) =
      (settings.sections [] before).flatMap Section.lines ++ "matchers:" ::
        (earlier.flatMap fun entries => Yaml.itemLines (entries.map Yaml.Entry.line)) ++
        Yaml.itemLines item ++ below := by
  have above : before.flatMap (settings.blockLines (earlier.map (·.map Yaml.Entry.line) ++
      item :: later.map (·.map Yaml.Entry.line))) = (settings.sections [] before).flatMap Section.lines := by
    rw [← lines_eq, List.map_nil, List.flatMap_def, List.flatMap_def]
    refine congrArg List.flatten (List.map_congr_left fun block among => blockLines_of_ne settings _ ?_)
    rintro rfl
    exact fresh among
  refine ⟨(later.flatMap fun entries => Yaml.itemLines (entries.map Yaml.Entry.line)) ++
    after.flatMap (settings.blockLines (earlier.map (·.map Yaml.Entry.line) ++
      item :: later.map (·.map Yaml.Entry.line))), ?_⟩
  rw [List.flatMap_append, above, List.flatMap_cons]
  simp [blockLines, List.flatMap_map]

/-- A further key among the entries of a rule, with anything behind it. -/
theorem parse_furtherItem {earlier later : List Rule} {rule : Rule} (quotable : Quotable settings.rules)
    (split : settings.rules = earlier ++ rule :: later) {order : List Block} (there : .rules ∈ order)
    (apart : order.Nodup) {front back : List String} (entries : ruleEntries rule = front ++ back) {key : Key}
    (proper : key.isProper = true) (further : key.text ∉ ["engine", "suffixes"]) (value : String) :
    Fails (parse (settings.layoutWithEntries order earlier later
      (front ++ Yaml.entryLine key.written value :: back))) := by
  obtain ⟨before, after, rfl⟩ := List.append_of_mem there
  rw [ruleEntries_eq] at entries
  obtain ⟨known, unread, ruleSplit, rfl, rfl⟩ := List.map_eq_append_iff.mp entries
  have fresh : Block.rules ∉ before := by
    have parts := List.nodup_append.mp apart
    exact fun among => parts.2.2 _ among _ List.mem_cons_self rfl
  have aboveQuotable : Quotable earlier := fun other among =>
    quotable other (split ▸ List.mem_append_left _ among)
  have above := ruleSections_isProper aboveQuotable
  have own : ∀ entry ∈ ruleSection rule, entry.isProper = true :=
    ruleSection_isProper quotable (by simp [split])
  have ownKnown : ∀ entry ∈ known, entry.isProper = true := fun entry among =>
    own entry (ruleSplit ▸ List.mem_append_left _ among)
  obtain ⟨below, lines⟩ := flatMap_blockLines settings after fresh (earlier.map ruleSection)
    (later.map ruleSection)
    (known.map Yaml.Entry.line ++ Yaml.entryLine key.written value :: unread.map Yaml.Entry.line)
  rw [List.map_map, List.map_map] at lines
  have spelled := toList_furtherItem (settings.sections [] before) (earlier.map ruleSection) known key value
    (unread.map Yaml.Entry.line) below
  refine fails_parse ?_
  rw [layoutWithEntries, show ruleEntries = (·.map Yaml.Entry.line) ∘ ruleSection from rfl, lines]
  rcases Yaml.read_item (sections_isProper settings (List.forall_mem_nil _) before) (by decide) (by decide)
    (fun entries among => (above entries among).1) (fun entries among => (above entries among).2) ownKnown
    proper spelled with ⟨nodes, ended, more, complete, starts, root⟩ | incomplete
  · rw [ofDocument, root]
    exact (fails_readEntries (fun draft => fails_rules further starts ended draft) _ _ _ _ _ _).bind _
  · exact fails_incomplete incomplete

/-- Valid settings whose suffixes need no escapes are read from their layout, with the blocks in any order,
as they are. With a further key, among the blocks or in a rule, nothing is read. -/
theorem layout_decodes (valid : settings.validate = .ok ()) (quotable : Quotable settings.rules)
    {order : List Block} (all : order.Perm [.default, .rules, .standard]) :
    parse (settings.layout order) = .ok settings ∧
      (∀ before after, order = before ++ after → ∀ key : Key, key.isProper = true →
        key.text ∉ ["default", "matchers", "stdlib"] → ∀ value, ∃ fault,
          parse (settings.layoutWithLine before after (Yaml.entryLine key.written value)) = .error fault) ∧
      ∀ earlier rule later, settings.rules = earlier ++ rule :: later →
        ∀ front back, ruleEntries rule = front ++ back → ∀ key : Key, key.isProper = true →
          key.text ∉ ["engine", "suffixes"] → ∀ value, ∃ fault,
            parse (settings.layoutWithEntries order earlier later
              (front ++ Yaml.entryLine key.written value :: back)) = .error fault := by
  refine ⟨parse_layout valid quotable all, ?_, ?_⟩
  · intro before after _ key proper further value
    exact parse_furtherEntry quotable before after proper further value
  · intro earlier rule later split front back entries key proper further value
    have there : Block.rules ∈ order := all.mem_iff.mpr (by decide)
    have apart : order.Nodup := all.nodup_iff.mpr (by decide)
    exact parse_furtherItem quotable split there apart entries proper further value

/-- Settings with a suffix that is full of marks. -/
def marked : Settings := ⟨some .format, [⟨.html, [".page", " #: ,[]'"]⟩], true⟩

theorem marks_decode :
    parse (marked.layout [.standard, .rules, .default]) = .ok marked ∧
      (∃ fault, parse (marked.layoutWithLine [.standard] [.rules, .default] "owner: someone") =
        .error fault) ∧
      ∃ fault, parse (marked.layoutWithEntries [.standard, .rules, .default] [] []
        ["engine: html", "\"note\": any", "suffixes: [\".page\", \" #: ,[]'\"]"]) = .error fault := by
  have valid : marked.validate = .ok () := rfl
  have quotable : Quotable marked.rules := by
    have standing : (marked.rules.all fun rule => rule.suffixes.all fun suffix =>
        suffix.toList.all Yaml.standsInQuotes) = true := by decide
    simpa only [Quotable, List.all_eq_true] using standing
  have all : [Block.standard, .rules, .default].Perm [.default, .rules, .standard] := by decide
  obtain ⟨same, furtherLine, furtherEntry⟩ := layout_decodes valid quotable all
  exact ⟨same,
    furtherLine [.standard] [.rules, .default] rfl (.word "owner") (by decide) (by decide) "someone",
    furtherEntry [] _ [] rfl ["engine: html"] ["suffixes: [\".page\", \" #: ,[]'\"]"] (by decide)
      (.quoted "note") (by decide) (by decide) "any"⟩

end Templating.Settings
