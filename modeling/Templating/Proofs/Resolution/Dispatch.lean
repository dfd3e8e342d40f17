import Templating.Resolver

/-! How resolution dispatches, with its trace. The matchers are asked in their order, up to the
first that accepts the name; then one parser is called once, the accepted one or else the default
one, and its fault gets one layer of parsing. A path is read once, and what cannot be read as text
reaches neither matchers nor parsers. -/

namespace Templating

/-- A selection asks matchers that decline and then one that accepts, or all of them in vain. -/
theorem Matcher.askAll_cases (fileName : String) (matchers : List Matcher) :
    (∃ declined matcher later parser, matchers = declined ++ matcher :: later ∧
      (∀ other ∈ declined, other.select fileName = none) ∧
      matcher.select fileName = some parser ∧
      askAll fileName matchers =
        ⟨some parser, (declined ++ [matcher]).map (Consult.asked · fileName)⟩) ∨
    ((∀ other ∈ matchers, other.select fileName = none) ∧
      askAll fileName matchers = ⟨none, matchers.map (Consult.asked · fileName)⟩) := by
  induction matchers with
  | nil => exact .inr ⟨List.forall_mem_nil _, rfl⟩
  | cons matcher rest ih =>
    cases hs : matcher.select fileName with
    | some parser =>
      refine .inl ⟨[], matcher, rest, parser, rfl, List.forall_mem_nil _, hs, ?_⟩
      ext1 <;> simp [askAll, ask, hs]
    | none =>
      -- Past a matcher that declines, the selection is that of the rest, one use later.
      have step : askAll fileName (matcher :: rest) =
          ⟨(askAll fileName rest).answer,
            .asked matcher fileName :: (askAll fileName rest).trace⟩ := by
        ext1 <;> simp [askAll, ask, hs]
      rcases ih with ⟨declined, accepting, later, parser, rfl, hd, ha, he⟩ | ⟨hd, he⟩
      · refine .inl ⟨matcher :: declined, accepting, later, parser, rfl, ?_, ha, ?_⟩
        · simpa [hs] using hd
        · rw [step, he]
          rfl
      · refine .inr ⟨by simpa [hs] using hd, ?_⟩
        rw [step, he]
        rfl

namespace Resolver

variable {resolver : Resolver} {source : String} {resolution : Resolution}

/-- After some uses, one parser is called once on the source, with the label and all functions. Its
template is the answer, or its fault in one layer. -/
structure CallsOnce (resolver : Resolver) (before : List Consult) (parser : Parser)
    (source : String) (resolution : Resolution) : Prop where
  trace : resolution.trace =
    before ++ [.parsed parser resolver.label resolver.functions source]
  template : ∀ template, parser.parse resolver.label resolver.functions source = .ok template →
    resolution.template = template
  fault : ∀ fault, parser.parse resolver.label resolver.functions source = .error fault →
    resolution.template = .failed (.parse fault)

/-- After some uses, the default parser is called, or its absence is the fault. -/
def Defaults (resolver : Resolver) (before : List Consult) (source : String)
    (resolution : Resolution) : Prop :=
  (∃ parser, resolver.default? = some parser ∧
    resolver.CallsOnce before parser source resolution) ∨
  (resolver.default? = none ∧ resolution = ⟨.failed (.parse .noDefaultParser), before⟩)

/-- The matchers are asked up to the first that accepts the name, whose parser is called; where all
decline, the default parser is. -/
def Dispatches (resolver : Resolver) (fileName source : String) (resolution : Resolution) : Prop :=
  (∃ declined matcher later parser, resolver.matchers = declined ++ matcher :: later ∧
    (∀ other ∈ declined, other.select fileName = none) ∧
    matcher.select fileName = some parser ∧
    resolver.CallsOnce ((declined ++ [matcher]).map (Consult.asked · fileName)) parser source
      resolution) ∨
  ((∀ other ∈ resolver.matchers, other.select fileName = none) ∧
    resolver.Defaults (resolver.matchers.map (Consult.asked · fileName)) source resolution)

theorem parseWith_callsOnce (resolver : Resolver) (parser : Parser) (source : String) :
    resolver.CallsOnce [] parser source (resolver.parseWith parser source) where
  trace := by
    cases h : parser.parse resolver.label resolver.functions source <;>
      simp [parseWith, Parser.call, h]
  template template h := by simp [Resolution.template, parseWith, Parser.call, h]
  fault fault h := by simp [Resolution.template, parseWith, Parser.call, h]

/-- What is used before a call of a parser goes before it in the trace. -/
theorem CallsOnce.after {parser : Parser} (before : List Consult)
    (h : resolver.CallsOnce [] parser source resolution) :
    resolver.CallsOnce before parser source ⟨resolution.answer, before ++ resolution.trace⟩ where
  trace := congrArg (before ++ ·) h.trace
  template := h.template
  fault := h.fault

theorem fromSource_defaults (resolver : Resolver) (source : String) :
    resolver.Defaults [] source (resolver.fromSource source) := by
  unfold Defaults fromSource
  cases hd : resolver.default? with
  | some parser => exact .inl ⟨parser, rfl, resolver.parseWith_callsOnce parser source⟩
  | none => exact .inr ⟨rfl, rfl⟩

theorem Defaults.after (before : List Consult) (h : resolver.Defaults [] source resolution) :
    resolver.Defaults before source ⟨resolution.answer, before ++ resolution.trace⟩ := by
  rcases h with ⟨parser, hd, hc⟩ | ⟨hd, rfl⟩
  · exact .inl ⟨parser, hd, hc.after before⟩
  · exact .inr ⟨hd, by rw [List.append_nil]⟩

theorem fromNamed_dispatches (resolver : Resolver) (fileName source : String) :
    resolver.Dispatches fileName source (resolver.fromNamed fileName source) := by
  rcases Matcher.askAll_cases fileName resolver.matchers with
    ⟨declined, matcher, later, parser, hm, hd, ha, he⟩ | ⟨hd, he⟩
  · refine .inl ⟨declined, matcher, later, parser, hm, hd, ha, ?_⟩
    rw [fromNamed, select, he]
    exact (resolver.parseWith_callsOnce parser source).after
      ((declined ++ [matcher]).map (Consult.asked · fileName))
  · refine .inr ⟨hd, ?_⟩
    rw [fromNamed, select, he]
    exact (resolver.fromSource_defaults source).after
      (resolver.matchers.map (Consult.asked · fileName))

section File

variable {tree : FileTree} {path : String}

/-- A path without text gives the failure to read it, and nothing else is used. -/
theorem fromFile_of_unread {cause : IoFault}
    (h : resolver.content tree path >>= decodeSource = .error cause) :
    resolver.fromFile tree path = ⟨.failed (.read path cause), [.read resolver.reader? path]⟩ := by
  ext1 <;> simp [fromFile, load, h]

/-- A path with text resolves as the text under the path's name, after one read. -/
theorem fromFile_of_text {text : String}
    (h : resolver.content tree path >>= decodeSource = .ok text) :
    resolver.fromFile tree path =
      ⟨(resolver.fromNamed path text).answer,
        .read resolver.reader? path :: (resolver.fromNamed path text).trace⟩ := by
  ext1 <;> simp [fromFile, load, h]

end File

/-- Resolution of a named source, of a bare source and of a path, with the uses that each makes. -/
theorem resolution_dispatches (resolver : Resolver) :
    (∀ fileName source,
      resolver.Dispatches fileName source (resolver.fromNamed fileName source)) ∧
    (∀ source, resolver.Defaults [] source (resolver.fromSource source)) ∧
    ∀ tree path,
      (∀ cause, resolver.content tree path = .error cause →
        resolver.fromFile tree path =
          ⟨.failed (.read path cause), [.read resolver.reader? path]⟩) ∧
      (∀ bytes defect, resolver.content tree path = .ok bytes →
        Utf8.decode bytes = .error defect →
        resolver.fromFile tree path =
          ⟨.failed (.read path (.notText bytes defect)), [.read resolver.reader? path]⟩) ∧
      ∀ bytes text, resolver.content tree path = .ok bytes → Utf8.decode bytes = .ok text →
        resolver.fromFile tree path =
          ⟨(resolver.fromNamed path text).template,
            .read resolver.reader? path :: (resolver.fromNamed path text).trace⟩ := by
  refine ⟨resolver.fromNamed_dispatches, resolver.fromSource_defaults, fun tree path =>
    ⟨fun cause h => ?_, fun bytes defect h hd => ?_, fun bytes text h hd => ?_⟩⟩
  · exact fromFile_of_unread (by rw [h]; rfl)
  · exact fromFile_of_unread (by rw [h]; simp [bind, Except.bind, decodeSource, hd])
  · exact fromFile_of_text (by rw [h]; simp [bind, Except.bind, decodeSource, hd])

/-- A reader with one path that is not there, one that is no text, and text elsewhere. -/
def shelf : Reader where
  name := "shelf"
  read path :=
    if path = "gone" then .error (.system .noEntry)
    else if path = "latin" then .ok [0x63, 0xE9]
    else .ok [0x68, 0x69]

/-- A parser that gives a template to every source but the empty one. -/
def Desk.parser : Parser where
  name := "desk"
  parse _ _ source :=
    if source = "" then .error (.source (.text "nothing")) else .ok (.failed (.aborted source))

/-- A parser that rejects every source. -/
def Desk.rejecting : Parser := ⟨"rejecting", fun _ _ source => .error (.source (.text source))⟩

def Desk.pages : Matcher := .ofSuffixes [".page"] Desk.rejecting

def Desk.notes : Matcher := .ofSuffixes [".note", ".page"] Desk.parser

/-- A resolver of a shelf with two matchers, which both accept pages, and a default parser. -/
def desk : Resolver :=
  (((new "desk").withReader shelf).addMatchers [Desk.pages, Desk.notes]).withDefault Desk.parser

theorem shelf_dispatches :
    desk.fromFile .initial "gone" =
        ⟨.failed (.read "gone" (.system .noEntry)), [.read (some shelf) "gone"]⟩ ∧
      desk.fromFile .initial "latin" =
        ⟨.failed (.read "latin" (.notText [0x63, 0xE9] (.incomplete 1))),
          [.read (some shelf) "latin"]⟩ ∧
      desk.fromFile .initial "a.note" =
        ⟨.failed (.aborted "hi"), [.read (some shelf) "a.note", .asked Desk.pages "a.note",
          .asked Desk.notes "a.note", .parsed Desk.parser "desk" .empty "hi"]⟩ ∧
      desk.fromFile .initial "a.page" =
        ⟨.failed (.parse (.source (.text "hi"))), [.read (some shelf) "a.page",
          .asked Desk.pages "a.page", .parsed Desk.rejecting "desk" .empty "hi"]⟩ ∧
      desk.fromFile .initial "a" =
        ⟨.failed (.aborted "hi"), [.read (some shelf) "a", .asked Desk.pages "a",
          .asked Desk.notes "a", .parsed Desk.parser "desk" .empty "hi"]⟩ ∧
      ((new "bare").withReader shelf).fromFile .initial "a" =
        ⟨.failed (.parse .noDefaultParser), [.read (some shelf) "a"]⟩ := by
  have files := (resolution_dispatches desk).2.2 .initial
  have bare := (resolution_dispatches ((new "bare").withReader shelf)).2.2 .initial "a"
  refine ⟨(files "gone").1 _ rfl, (files "latin").2.1 _ _ rfl rfl, ?_, ?_, ?_, ?_⟩
  · exact ((files "a.note").2.2 _ _ rfl rfl).trans rfl
  · exact ((files "a.page").2.2 _ _ rfl rfl).trans rfl
  · exact ((files "a").2.2 _ _ rfl rfl).trans rfl
  · exact (bare.2.2 _ _ rfl rfl).trans rfl

end Resolver

end Templating
