import Templating.Proofs.Render.Atomicity
import Templating.Proofs.Resolution.Dispatch
import Templating.Proofs.Text.Defects

/-! Octets as sources and as output. Both are read as UTF-8, so that the same octets are the same text on
either side, or are refused on both with messages that end alike. -/

namespace Templating

/-- An execution without limit ends well and unmarked and has written octets. -/
structure Executor.Writes (executor : Executor) (context : Context) (bytes : Bytes) : Prop where
  outcome : (executor.execute context .unlimited).outcome = .ok ()
  taken : (executor.execute context .unlimited).taken = bytes
  unmarked : (executor.execute context .unlimited).Unmarked

/-- What is said of octets that are no text: how far they are one, and that the rest begins a character
or how many octets of it are wrong. -/
def Utf8.Blames (bytes : Bytes) (ending : String) : Prop :=
  ∃ index, Longest WellFormed bytes index ∧
    (ending = "incomplete utf-8 byte sequence from index " ++ toString index ↔
      Begins (bytes.drop index)) ∧
    (¬Begins (bytes.drop index) → ∃ most, Longest Begins (bytes.drop index) most ∧
      max 1 most ≤ 3 ∧
      ending = "invalid utf-8 sequence of " ++ toString (max 1 most) ++ " bytes from index " ++
        toString index)

/-- The two wordings differ in their third character. -/
theorem Utf8.wordings_differ (before after : String) :
    "incomplete utf-8 byte sequence from index " ++ before ≠ "invalid utf-8 sequence of " ++ after := by
  intro same
  have missing : "incomplete utf-8 byte sequence from index ".toList =
      'i' :: 'n' :: 'c' :: "omplete utf-8 byte sequence from index ".toList := by decide
  have wrong : "invalid utf-8 sequence of ".toList =
      'i' :: 'n' :: 'v' :: "alid utf-8 sequence of ".toList := by decide
  have chars := congrArg String.toList same
  rw [String.toList_append, String.toList_append, missing, wrong] at chars
  simp only [List.cons_append, List.cons.injEq] at chars
  exact absurd chars.2.2.1 (by decide)

theorem Utf8.Defect.Describes.blames {bytes : Bytes} {defect : Defect}
    (h : defect.Describes bytes) : Blames bytes defect.message := by
  refine ⟨defect.index, h.text, ⟨fun same => ?_, fun begins => ?_⟩, fun ended => ?_⟩
  · refine Classical.byContradiction fun ended => ?_
    obtain ⟨most, -, -, invalid⟩ := h.invalid ended
    have wording : defect.message = "invalid utf-8 sequence of " ++ toString (max 1 most) ++
        " bytes from index " ++ toString defect.index := congrArg message invalid
    rw [wording, String.append_assoc, String.append_assoc] at same
    exact wordings_differ _ _ same.symm
  · exact congrArg message (h.incomplete begins)
  · obtain ⟨most, longest, few, invalid⟩ := h.invalid ended
    exact ⟨most, longest, few, congrArg message invalid⟩

namespace Template

variable {executor : Executor} {context : Context} {bytes : Bytes}

theorem renderBytes_of_writes (writes : executor.Writes context bytes) :
    ((ready executor).renderBytes context).outcome = .ok bytes := by
  have verdict : (executor.execute context .unlimited).verdict = .ok () :=
    (Execution.verdict_of_unmarked writes.unmarked).trans writes.outcome
  simp only [renderBytes, renderTo, verdict, writes.taken, Except.map]

theorem render_of_writes (writes : executor.Writes context bytes) :
    ((ready executor).render context).outcome = decodeOutput bytes := by
  have rendered := renderBytes_of_writes writes
  simp only [render, rendered, Except.bind]

theorem render_of_text {text : String} (writes : executor.Writes context bytes)
    (decoded : Utf8.decode bytes = .ok text) :
    ((ready executor).render context).outcome = .ok text := by
  rw [render_of_writes writes, decodeOutput, decoded]

theorem render_of_defect {defect : Utf8.Defect} (writes : executor.Writes context bytes)
    (decoded : Utf8.decode bytes = .error defect) :
    ((ready executor).render context).outcome = .error (.notText defect.message) := by
  rw [render_of_writes writes, decodeOutput, decoded]

end Template

namespace Resolver

variable {resolver : Resolver} {tree : FileTree} {path fileName source text : String}
  {bytes : Bytes}

/-! ### A named source -/

/-- A named source leads to one call of a parser with the source, or to no call at all. -/
theorem fromNamed_ends (resolver : Resolver) (fileName source : String) :
    ∃ before, (∀ use ∈ before, ∃ matcher, use = Consult.asked matcher fileName) ∧
      ((∃ parser, resolver.CallsOnce before parser source (resolver.fromNamed fileName source)) ∨
        resolver.fromNamed fileName source = ⟨.failed (.parse .noDefaultParser), before⟩) := by
  have asked : ∀ matchers : List Matcher, ∀ use ∈ matchers.map (Consult.asked · fileName),
      ∃ matcher, use = Consult.asked matcher fileName := by
    intro matchers use here
    obtain ⟨matcher, -, rfl⟩ := List.mem_map.mp here
    exact ⟨matcher, rfl⟩
  rcases resolver.fromNamed_dispatches fileName source with
    ⟨declined, matcher, -, parser, -, -, -, called⟩ | ⟨-, ⟨parser, -, called⟩ | ⟨-, absent⟩⟩
  · exact ⟨_, asked _, .inl ⟨parser, called⟩⟩
  · exact ⟨_, asked _, .inl ⟨parser, called⟩⟩
  · exact ⟨_, asked _, .inr absent⟩

theorem source_of_parsed {parser : Parser} {label given : String} {functions : Registry}
    (h : .parsed parser label functions given ∈ (resolver.fromNamed fileName source).trace) :
    given = source := by
  obtain ⟨before, asked, ⟨called, once⟩ | none⟩ := resolver.fromNamed_ends fileName source
  · rw [once.trace] at h
    rcases List.mem_append.mp h with earlier | last
    · obtain ⟨matcher, other⟩ := asked _ earlier
      cases other
    · cases List.mem_singleton.mp last
      rfl
  · rw [none] at h
    obtain ⟨matcher, other⟩ := asked _ h
    cases other

/-- A named source that gives a failure to read got it from the parser that was called. -/
theorem parsed_of_read {other : String} {cause : IoFault}
    (h : (resolver.fromNamed fileName source).answer = .failed (.read other cause)) :
    ∃ parser label functions,
      .parsed parser label functions source ∈ (resolver.fromNamed fileName source).trace ∧
        parser.parse label functions source = .ok (.failed (.read other cause)) := by
  obtain ⟨before, -, ⟨parser, once⟩ | none⟩ := resolver.fromNamed_ends fileName source
  · refine ⟨parser, resolver.label, resolver.functions, ?_, ?_⟩
    · rw [once.trace]
      exact List.mem_append_right _ List.mem_cons_self
    · cases parsed : parser.parse resolver.label resolver.functions source with
      | ok template => rw [← (once.template template parsed).symm.trans h]
      | error fault => cases (once.fault fault parsed).symm.trans h
  · rw [none] at h
    cases h

/-! ### A source at a path -/

section Path

variable (reads : resolver.content tree path = .ok bytes)

include reads

theorem fromFile_of_defect {defect : Utf8.Defect} (decoded : Utf8.decode bytes = .error defect) :
    resolver.fromFile tree path =
      ⟨.failed (.read path (.notText bytes defect)), [.read resolver.reader? path]⟩ := by
  refine fromFile_of_unread ?_
  rw [reads]
  simp only [bind, Except.bind, decodeSource, decoded]

theorem fromFile_of_decoded (decoded : Utf8.decode bytes = .ok text) :
    resolver.fromFile tree path =
      ⟨(resolver.fromNamed path text).template,
        .read resolver.reader? path :: (resolver.fromNamed path text).trace⟩ := by
  refine fromFile_of_text ?_
  rw [reads]
  simp only [bind, Except.bind, decodeSource, decoded]

/-- The parser gets the text that the octets are. -/
theorem source_of_parsed_file (decoded : Utf8.decode bytes = .ok text) {parser : Parser}
    {label : String} {functions : Registry}
    (h : .parsed parser label functions source ∈ (resolver.fromFile tree path).trace) :
    source = text := by
  rw [fromFile_of_decoded reads decoded] at h
  rcases List.mem_cons.mp h with other | later
  · cases other
  · exact source_of_parsed later

/-- Where octets are a text, a failure to read comes from the parser that got it. -/
theorem parsed_of_read_file (decoded : Utf8.decode bytes = .ok text) {other : String}
    {cause : IoFault} (h : (resolver.fromFile tree path).template = .failed (.read other cause)) :
    ∃ parser label functions,
      .parsed parser label functions text ∈ (resolver.fromFile tree path).trace ∧
        parser.parse label functions text = .ok (.failed (.read other cause)) := by
  rw [fromFile_of_decoded reads decoded] at h ⊢
  obtain ⟨parser, label, functions, here, parsed⟩ := parsed_of_read h
  exact ⟨parser, label, functions, List.mem_cons_of_mem _ here, parsed⟩

end Path

/-- What a resolver makes of octets that it reads and what a template makes of them that it writes are
the same text, if they are UTF-8; that is what the parser gets, and it has just these octets. Else
both sides fail: nothing is asked after the read, and both messages end in the same words. -/
theorem octets_decode_alike {executor : Executor} {context : Context}
    (reads : resolver.content tree path = .ok bytes) (writes : executor.Writes context bytes) :
    ((Template.ready executor).renderBytes context).outcome = .ok bytes ∧
    ((∃ cause, cause.kind = .invalidData ∧ resolver.fromFile tree path =
        ⟨.failed (.read path cause), [.read resolver.reader? path]⟩) ↔ ¬Utf8.WellFormed bytes) ∧
    ((∃ reason, ((Template.ready executor).render context).outcome = .error (.notText reason)) ↔
      ¬Utf8.WellFormed bytes) ∧
    ((∀ parser label functions source,
        .parsed parser label functions source ∈ (resolver.fromFile tree path).trace →
        ∀ other cause, parser.parse label functions source ≠ .ok (.failed (.read other cause))) →
      ((∃ cause, cause.kind = .invalidData ∧
          (resolver.fromFile tree path).template = .failed (.read path cause)) ↔
        ¬Utf8.WellFormed bytes)) ∧
    (Utf8.WellFormed bytes → ∃ text, Utf8.encode text = bytes ∧
      ((Template.ready executor).render context).outcome = .ok text ∧
      resolver.fromFile tree path =
        ⟨(resolver.fromNamed path text).template,
          .read resolver.reader? path :: (resolver.fromNamed path text).trace⟩ ∧
      ∀ parser label functions source,
        .parsed parser label functions source ∈ (resolver.fromFile tree path).trace →
        source = text) ∧
    (¬Utf8.WellFormed bytes → ∃ cause reason ending,
      resolver.fromFile tree path = ⟨.failed (.read path cause), [.read resolver.reader? path]⟩ ∧
      ((Template.ready executor).render context).outcome = .error (.notText reason) ∧
      (Fault.read path cause).message = "error reading template: " ++ path ++ ": " ++ ending ∧
      (Fault.notText reason).message = "rendered output is not valid UTF-8: " ++ ending ∧
      Utf8.Blames bytes ending) := by
  cases decoded : Utf8.decode bytes with
  | error defect =>
    have refused : ¬Utf8.WellFormed bytes := fun whole => by
      obtain ⟨text, read⟩ := Utf8.wellFormed_iff_decode.mp whole
      rw [read] at decoded
      cases decoded
    have unread := fromFile_of_defect reads decoded
    have failed := Template.render_of_defect writes decoded
    exact ⟨Template.renderBytes_of_writes writes, iff_of_true ⟨_, rfl, unread⟩ refused,
      iff_of_true ⟨_, failed⟩ refused,
      fun _ => iff_of_true ⟨_, rfl, congrArg Consulted.answer unread⟩ refused,
      fun whole => absurd whole refused, fun _ => ⟨_, _, defect.message, unread, failed, rfl, rfl,
        (Utf8.describes_of_decode decoded).blames⟩⟩
  | ok text =>
    have whole : Utf8.WellFormed bytes := Utf8.wellFormed_iff_decode.mpr ⟨text, decoded⟩
    have shown := Template.render_of_text writes decoded
    refine ⟨Template.renderBytes_of_writes writes, iff_of_false ?_ (not_not_intro whole),
      iff_of_false ?_ (not_not_intro whole),
      fun parsers => iff_of_false ?_ (not_not_intro whole),
      fun _ => ⟨text, (Utf8.decode_eq_ok_iff.mp decoded).symm, shown,
        fromFile_of_decoded reads decoded, fun _ _ _ _ => source_of_parsed_file reads decoded⟩,
      fun refused => absurd whole refused⟩
    · -- A failure to read that came from a parser would have the call in its trace.
      rintro ⟨cause, -, unread⟩
      obtain ⟨parser, label, functions, here, -⟩ :=
        parsed_of_read_file reads decoded (congrArg Consulted.answer unread)
      rw [unread] at here
      cases List.mem_singleton.mp here
    · rintro ⟨reason, failed⟩
      rw [shown] at failed
      cases failed
    · rintro ⟨cause, -, unread⟩
      obtain ⟨parser, label, functions, here, parsed⟩ := parsed_of_read_file reads decoded unread
      exact parsers parser label functions text here path cause parsed

/-- Writes octets in two parts. -/
def writing (first second : Bytes) : Executor where
  program _ _ := .write first fun _ => .write second fun _ => .ended (.ok ())

theorem writes_writing (first second : Bytes) :
    (writing first second).Writes .unit (first ++ second) where
  outcome := rfl
  taken := congrArg (first ++ ·) (List.append_nil second)
  unmarked _ := nofun

/-- A character of three octets whose last one is missing, with a letter behind it, and a whole
character that was written in two parts. -/
theorem cut_character_is_blamed :
    ¬Utf8.WellFormed [0x61, 0xE2, 0x82, 0x41] ∧
      Utf8.Blames [0x61, 0xE2, 0x82, 0x41] "invalid utf-8 sequence of 2 bytes from index 1" ∧
      (∀ parser label functions source,
        .parsed parser label functions source ∈
          (((new "label").withReader ⟨"one", fun _ => .ok [0xC3, 0xA9]⟩).fromFile .initial "p").trace →
        ∀ other cause, parser.parse label functions source ≠ .ok (.failed (.read other cause))) ∧
      ¬∃ cause, cause.kind = .invalidData ∧
        (((new "label").withReader ⟨"one", fun _ => .ok [0xC3, 0xA9]⟩).fromFile .initial "p").template =
          .failed (.read "p" cause) := by
  have whole : Utf8.WellFormed [0xC3, 0xA9] := Utf8.wellFormed_iff_decode.mpr ⟨"é", rfl⟩
  have uncalled : ∀ parser label functions source,
      .parsed parser label functions source ∈
        (((new "label").withReader ⟨"one", fun _ => .ok [0xC3, 0xA9]⟩).fromFile .initial "p").trace →
      ∀ other cause, parser.parse label functions source ≠ .ok (.failed (.read other cause)) := by
    intro parser label functions source here
    cases List.mem_singleton.mp here
  have readsCut : ((new "label").withReader ⟨"one", fun _ => .ok [0x61, 0xE2, 0x82, 0x41]⟩).content
      .initial "p" = .ok [0x61, 0xE2, 0x82, 0x41] := rfl
  have readsWhole : ((new "label").withReader ⟨"one", fun _ => .ok [0xC3, 0xA9]⟩).content
      .initial "p" = .ok [0xC3, 0xA9] := rfl
  obtain ⟨-, -, refused, -, -, blamed⟩ :=
    octets_decode_alike readsCut (writes_writing [0x61, 0xE2] [0x82, 0x41])
  obtain ⟨-, -, -, unread, -, -⟩ :=
    octets_decode_alike readsWhole (writes_writing [0xC3] [0xA9])
  have cut := refused.mp ⟨_, rfl⟩
  obtain ⟨cause, reason, ending, -, rendered, -, message, blames⟩ := blamed cut
  cases rendered
  have ends : "invalid utf-8 sequence of 2 bytes from index 1" = ending :=
    (String.append_right_inj "rendered output is not valid UTF-8: ").mp message
  exact ⟨cut, ends ▸ blames, uncalled, fun found => (unread uncalled).mp found whole⟩

end Resolver

end Templating
