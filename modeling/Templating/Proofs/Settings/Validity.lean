import Templating.Proofs.Settings.Choice
import Templating.Proofs.Settings.Reading
import Templating.Proofs.Text.Utf8

/-! Valid settings. A rule is wrong where its matcher accepts no file name or all of them, and the
first rule that is wrong is reported with which of the two it is. What is read is valid, so each matcher
of a resolver that is set up from it tells file names apart. -/

namespace Templating

/-- A matcher that accepts a file name, and not the empty one. -/
structure Matcher.Discerns (matcher : Matcher) : Prop where
  some : ∃ fileName, matcher.accepts fileName = true
  notEmpty : matcher.accepts "" = false

namespace Settings

variable {settings : Settings} {rule : Rule} {index : Nat} {fault : SettingsFault}

/-- The first rule whose matcher does not tell file names apart. -/
structure FirstWrong (settings : Settings) (index : Nat) (rule : Rule) : Prop where
  here : settings.rules[index]? = some rule
  wrong : ¬(ruleMatcher rule).Discerns
  earlier : ∀ i < index, ∀ other, settings.rules[i]? = some other → (ruleMatcher other).Discerns

/-! ### One rule -/

theorem accepts_iff {fileName : String} :
    (ruleMatcher rule).accepts fileName = true ↔ rule.Claims fileName := by
  rw [Rule.claims_iff]
  show (if rule.suffixes.any (endsWith fileName) then some rule.engine.parser else none).isSome = _ ↔ _
  rw [Option.isSome_ite]

theorem accepts_of_mem {suffix : String} (h : suffix ∈ rule.suffixes) (stem : String) :
    (ruleMatcher rule).accepts (stem ++ suffix) = true :=
  accepts_iff.mpr ⟨suffix, h, stem, rfl⟩

theorem accepts_none_iff :
    (∀ fileName, (ruleMatcher rule).accepts fileName = false) ↔ rule.suffixes = [] := by
  constructor
  · intro h
    rw [List.eq_nil_iff_forall_not_mem]
    intro suffix hs
    exact Bool.false_ne_true ((h _).symm.trans (accepts_of_mem hs ""))
  · intro h fileName
    rw [← Bool.not_eq_true, accepts_iff]
    rintro ⟨suffix, hs, -⟩
    rw [h] at hs
    exact List.not_mem_nil hs

theorem accepts_empty_iff : (ruleMatcher rule).accepts "" = true ↔ "" ∈ rule.suffixes := by
  rw [accepts_iff]
  constructor
  · rintro ⟨suffix, hs, stem, split⟩
    obtain ⟨-, rfl⟩ := String.append_eq_empty_iff.mp split.symm
    exact hs
  · intro h
    exact ⟨"", h, "", rfl⟩

theorem accepts_all_iff :
    (∀ fileName, (ruleMatcher rule).accepts fileName = true) ↔ "" ∈ rule.suffixes := by
  constructor
  · intro h
    exact accepts_empty_iff.mp (h "")
  · intro h fileName
    have all := accepts_of_mem h fileName
    rwa [String.append_empty] at all

theorem discerns_iff :
    (ruleMatcher rule).Discerns ↔ rule.suffixes ≠ [] ∧ "" ∉ rule.suffixes := by
  rw [← accepts_empty_iff, Ne, ← accepts_none_iff]
  constructor
  · rintro ⟨⟨fileName, accepted⟩, notEmpty⟩
    refine ⟨fun none => ?_, by simp [notEmpty]⟩
    exact Bool.false_ne_true ((none fileName).symm.trans accepted)
  · rintro ⟨some, notEmpty⟩
    refine ⟨?_, by simpa using notEmpty⟩
    simpa using some

theorem ruleFault?_eq : ruleFault? index rule =
    if rule.suffixes = [] then some (.noSuffixes index rule.engine.name)
    else if "" ∈ rule.suffixes then some (.emptySuffix index rule.engine.name)
    else none := by
  simp only [ruleFault?, List.isEmpty_iff, List.any_beq', List.contains_iff_mem]

theorem ruleFault?_eq_none_iff :
    ruleFault? index rule = none ↔ (ruleMatcher rule).Discerns := by
  rw [discerns_iff, ruleFault?_eq]
  by_cases none : rule.suffixes = []
  · simp [none]
  · by_cases empty : "" ∈ rule.suffixes <;> simp [none, empty]

/-! ### All rules -/

theorem validate_eq_ok_iff :
    settings.validate = .ok () ↔ ∀ rule ∈ settings.rules, (ruleMatcher rule).Discerns := by
  unfold validate
  constructor
  · intro h rule hr
    split at h
    · cases h
    · next passed =>
      obtain ⟨index, here⟩ := List.mem_iff_getElem?.mp hr
      exact ruleFault?_eq_none_iff.mp
        (List.findSome?_eq_none_iff.mp passed (rule, index) (List.mk_mem_zipIdx_iff_getElem?.mpr here))
  · intro h
    split
    · next fault found =>
      obtain ⟨numbered, listed, blamed⟩ := List.exists_of_findSome?_eq_some found
      have discerns := h numbered.1 (List.mem_of_getElem? (List.mem_zipIdx_iff_getElem?.mp listed))
      cases (ruleFault?_eq_none_iff.mpr discerns).symm.trans blamed
    · rfl

/-- The fault is that of the first rule that is wrong. -/
theorem firstWrong_of_validate (h : settings.validate = .error fault) :
    ∃ index rule, settings.FirstWrong index rule ∧ ruleFault? index rule = some fault := by
  unfold validate at h
  split at h
  · next cause found =>
    cases h
    obtain ⟨before, ⟨rule, index⟩, after, split, blamed, passed⟩ :=
      List.findSome?_eq_some_iff.mp found
    have at_index : ∀ i : Nat, settings.rules[i]?.map (fun other => (other, i)) =
        (before ++ (rule, index) :: after)[i]? := by
      intro i
      rw [← split, List.getElem?_zipIdx, Nat.zero_add]
    -- The rule stands where its index says.
    have here := at_index before.length
    rw [List.getElem?_append_right (Nat.le_refl _), Nat.sub_self, List.getElem?_cons_zero,
      Option.map_eq_some_iff] at here
    obtain ⟨first, listed, same⟩ := here
    cases same
    refine ⟨before.length, rule, ⟨listed, ?_, ?_⟩, blamed⟩
    · intro discerns
      cases (ruleFault?_eq_none_iff.mpr discerns).symm.trans blamed
    · intro i earlier other there
      have inBefore := at_index i
      rw [there, List.getElem?_append_left earlier] at inBefore
      exact ruleFault?_eq_none_iff.mp (passed _ (List.mem_of_getElem? inBefore.symm))
  · cases h

theorem noSuffixes_message_ne (index : Nat) (engine : String) :
    (SettingsFault.noSuffixes index engine).message ≠
      (SettingsFault.emptySuffix index engine).message := by
  unfold SettingsFault.message
  rw [Ne, String.append_right_inj]
  decide

/-- What a rule that is wrong is reported as says which names its matcher accepts. -/
theorem message_of_ruleFault? (h : ruleFault? index rule = some fault) :
    ((∀ fileName, (ruleMatcher rule).accepts fileName = false) ∨
      ∀ fileName, (ruleMatcher rule).accepts fileName = true) ∧
    (fault.message = "matcher " ++ toString index ++ " (" ++ rule.engine.name ++ ") has no suffixes" ↔
      ∀ fileName, (ruleMatcher rule).accepts fileName = false) ∧
    (fault.message =
        "matcher " ++ toString index ++ " (" ++ rule.engine.name ++ ") has an empty suffix" ↔
      ∀ fileName, (ruleMatcher rule).accepts fileName = true) := by
  have differ := noSuffixes_message_ne index rule.engine.name
  rw [accepts_none_iff, accepts_all_iff]
  rw [ruleFault?_eq] at h
  split at h
  · next none =>
    cases h
    refine ⟨.inl none, ⟨fun _ => none, fun _ => rfl⟩, fun same => absurd same differ, ?_⟩
    simp [none]
  · next some =>
    split at h
    · next empty =>
      cases h
      exact ⟨.inr empty, ⟨fun same => absurd same.symm differ, fun none => absurd none some⟩,
        fun _ => empty, fun _ => rfl⟩
    · cases h

theorem validate_of_parse {text : String} (h : parse text = .ok settings) :
    settings.validate = .ok () := by
  unfold parse at h
  obtain ⟨read, -, checked⟩ := bind_eq_ok.mp h
  obtain ⟨done, valid, same⟩ := bind_eq_ok.mp checked
  cases same
  exact valid

theorem discerns_matcher (engine : Engine) : engine.matcher.Discerns := by
  cases engine with
  | text => exact ⟨⟨".tmpl", by decide⟩, by decide⟩
  | html => exact ⟨⟨".html.tpl", by decide⟩, by decide⟩
  | format => exact ⟨⟨".format", by decide⟩, by decide⟩

/-- All matchers of a resolver tell file names apart if those of the rules do. -/
theorem resolver_discerns (h : ∀ rule ∈ settings.rules, (ruleMatcher rule).Discerns) (label : String) :
    ∀ matcher ∈ (settings.resolver label).matchers, matcher.Discerns := by
  rw [resolver_eq]
  intro matcher hm
  rcases List.mem_append.mp hm with ruled | standard
  · obtain ⟨rule, hr, rfl⟩ := List.mem_map.mp ruled
    exact h rule hr
  · split at standard
    · obtain ⟨engine, -, rfl⟩ := List.mem_map.mp standard
      exact discerns_matcher engine
    · exact absurd standard List.not_mem_nil

/-- Settings are valid where the matcher of each rule accepts some file name and not the empty one, and
else the first rule without that is reported, with whether it accepts none or all of them. What is read
is valid, and no matcher of its resolver accepts all names or none. -/
theorem valid_settings_discern :
    (∀ settings : Settings, settings.validate = .ok () ↔
      ∀ rule ∈ settings.rules, (ruleMatcher rule).Discerns) ∧
    (∀ settings : Settings, settings.validate ≠ .ok () →
      ∃ index rule fault, settings.FirstWrong index rule ∧ settings.validate = .error fault ∧
        ((∀ fileName, (ruleMatcher rule).accepts fileName = false) ∨
          ∀ fileName, (ruleMatcher rule).accepts fileName = true) ∧
        (fault.message =
            "matcher " ++ toString index ++ " (" ++ rule.engine.name ++ ") has no suffixes" ↔
          ∀ fileName, (ruleMatcher rule).accepts fileName = false) ∧
        (fault.message =
            "matcher " ++ toString index ++ " (" ++ rule.engine.name ++ ") has an empty suffix" ↔
          ∀ fileName, (ruleMatcher rule).accepts fileName = true)) ∧
    ∀ text settings, parse text = .ok settings →
      (∀ rule ∈ settings.rules, (ruleMatcher rule).Discerns) ∧
      ∀ label, ∀ matcher ∈ (settings.resolver label).matchers, matcher.Discerns := by
  refine ⟨fun settings => validate_eq_ok_iff, fun settings invalid => ?_, fun text settings h => ?_⟩
  · cases outcome : settings.validate with
    | ok done => exact absurd outcome invalid
    | error fault =>
      obtain ⟨index, rule, first, blamed⟩ := firstWrong_of_validate outcome
      exact ⟨index, rule, fault, first, rfl, message_of_ruleFault? blamed⟩
  · have discern := validate_eq_ok_iff.mp (validate_of_parse h)
    exact ⟨discern, resolver_discerns discern⟩

/-- A rule with an empty suffix between others, before one without suffixes. -/
def degenerate : Settings :=
  ⟨none, [⟨.html, [".page"]⟩, ⟨.text, [".a", "", ".b"]⟩, ⟨.format, []⟩], true⟩

/-- Settings whose rule collides with no engine. -/
def pages : Settings := ⟨some .text, [⟨.html, [".page", "index"]⟩], true⟩

/-- The rule after the one with the empty suffix does not count, and a text that is read has matchers
that tell file names apart. -/
theorem degenerate_is_reported :
    degenerate.validate ≠ .ok () ∧
      (∃ index rule fault, degenerate.FirstWrong index rule ∧
        degenerate.validate = .error fault ∧
        fault.message = "matcher 1 (text) has an empty suffix" ∧
        ∀ fileName, (ruleMatcher rule).accepts fileName = true) ∧
      parse (pages.layout [.default, .rules, .standard]) = .ok pages ∧
      ∀ matcher ∈ (pages.resolver "site").matchers, matcher.Discerns := by
  obtain ⟨-, reports, reads⟩ := valid_settings_discern
  have invalid : degenerate.validate ≠ .ok () := by decide
  have quotable : Quotable pages.rules := by
    have standing : (pages.rules.all fun rule => rule.suffixes.all fun suffix =>
        suffix.toList.all Yaml.standsInQuotes) = true := by decide
    simpa only [Quotable, List.all_eq_true] using standing
  have parsed : parse (pages.layout [.default, .rules, .standard]) = .ok pages :=
    parse_layout rfl quotable (.refl _)
  obtain ⟨-, discern⟩ := reads (pages.layout [.default, .rules, .standard]) pages parsed
  refine ⟨invalid, ?_, parsed, discern "site"⟩
  obtain ⟨index, rule, fault, first, reported, -, -, all⟩ := reports degenerate invalid
  rcases index with _ | _ | i
  · cases first.here
    exact absurd (discerns_iff.mpr (by decide)) first.wrong
  · cases first.here
    have known : degenerate.validate = .error (.emptySuffix 1 "text") := rfl
    obtain rfl := Except.error.inj (reported.symm.trans known)
    exact ⟨1, _, _, first, known, rfl, all.mp rfl⟩
  · -- The rule before this one does not tell names apart.
    have before : (ruleMatcher ⟨.text, [".a", "", ".b"]⟩).Discerns :=
      first.earlier 1 (by omega) _ rfl
    exact absurd (discerns_iff.mp before).2 (by decide)

end Settings

end Templating
