import Templating.Proofs.File.Path
import Templating.Proofs.Render.Atomicity

/-! Renders to the standard streams. A path leads to a stream where it is the stream's name with nothing
behind it but slashes and dots between them. What a render to such a path writes, and how it ends, is
that of a render to the stream's writer, and the tree stays as it is whatever stands in it under that name. A
render to another path writes to neither stream. -/

namespace Templating

namespace Path

/-- Slashes, each with a dot behind it or not. -/
inductive Trail : List Char → Prop where
  | nil : Trail []
  | slash {rest : List Char} : Trail rest → Trail ('/' :: rest)
  | dot {rest : List Char} : Trail rest → Trail ('/' :: '.' :: rest)

/-- A path that is a name with a trail behind it. -/
def WithTrail (name path : String) : Prop :=
  ∃ trail, path.toList = name.toList ++ trail ∧ Trail trail

/-- A name that is a step of a path and leads down. -/
structure IsStep (name : String) : Prop where
  noSlash : '/' ∉ name.toList
  notVoid : isVoid name.toList = false
  notParent : name.toList ≠ ['.', '.']

variable {name path : String}

/-! ### Trails and pieces -/

theorem isVoid_iff {piece : List Char} : isVoid piece = true ↔ piece = [] ∨ piece = ['.'] := by
  simp [isVoid]

theorem split_trail {trail : List Char} (h : Trail trail) :
    ∃ pieces, split trail = [] :: pieces ∧ ∀ piece ∈ pieces, isVoid piece = true := by
  induction h with
  | nil => exact ⟨[], rfl, by simp⟩
  | @slash rest _ ih =>
    obtain ⟨pieces, hs, hv⟩ := ih
    refine ⟨split rest, rfl, ?_⟩
    rw [hs]
    intro piece hp
    rcases List.mem_cons.mp hp with rfl | hp
    · rfl
    · exact hv piece hp
  | @dot rest _ ih =>
    obtain ⟨pieces, hs, hv⟩ := ih
    have dotted : split ('.' :: rest) = ['.'] :: pieces := by
      rw [split, if_neg (by decide), hs]
    refine ⟨split ('.' :: rest), rfl, ?_⟩
    rw [dotted]
    intro piece hp
    rcases List.mem_cons.mp hp with rfl | hp
    · rfl
    · exact hv piece hp

theorem trail_of_split {text piece : List Char} {pieces : List (List Char)}
    (h : split text = piece :: pieces) (hv : ∀ other ∈ pieces, isVoid other = true) :
    ∃ trail, text = piece ++ trail ∧ Trail trail := by
  induction text generalizing piece pieces with
  | nil =>
    rw [split] at h
    cases h
    exact ⟨[], rfl, .nil⟩
  | cons c rest ih =>
    rw [split] at h
    split at h
    · next hc =>
      -- A slash ends an empty piece, and what follows it is void and has a trail of its own.
      subst hc
      obtain ⟨rfl, rfl⟩ := List.cons.inj h
      obtain ⟨first, others, hs⟩ := List.exists_cons_of_ne_nil (split_ne_nil rest)
      rw [hs, List.forall_mem_cons] at hv
      obtain ⟨trail, rfl, ht⟩ := ih hs hv.2
      rcases isVoid_iff.mp hv.1 with rfl | rfl
      · exact ⟨'/' :: trail, rfl, .slash ht⟩
      · exact ⟨'/' :: '.' :: trail, rfl, .dot ht⟩
    · obtain ⟨first, others, hs⟩ := List.exists_cons_of_ne_nil (split_ne_nil rest)
      rw [hs] at h
      obtain ⟨rfl, rfl⟩ := List.cons.inj h
      obtain ⟨trail, rfl, ht⟩ := ih hs hv
      exact ⟨trail, rfl, ht⟩

/-! ### Steps -/

theorem component_eq_normal_iff {piece : List Char} (step : IsStep name) :
    component piece = .normal name ↔ piece = name.toList := by
  unfold component
  constructor
  · intro h
    split at h
    · cases h
    · rw [← Component.normal.inj h, String.toList_ofList]
  · rintro rfl
    rw [if_neg step.notParent, String.ofList_toList]

theorem withTrail_of_components (step : IsStep name) (h : components path = [.normal name]) :
    WithTrail name path := by
  rcases parts_cases path with ⟨_, _, -, parted⟩ | ⟨_, -, parted⟩ | ⟨noSlash, noDot, parted⟩
  · simp [components_of_parts parted] at h
  · simp [components_of_parts parted] at h
  · rw [components_of_parts parted, List.nil_append] at h
    obtain ⟨first, others, hs⟩ := List.exists_cons_of_ne_nil (split_ne_nil path.toList)
    rw [hs] at h
    -- The first piece is the step: a void one would start the path or be all of it.
    have first_step : isVoid first = false := by
      rw [Bool.eq_false_iff]
      intro void
      rcases isVoid_iff.mp void with rfl | rfl
      · cases others with
        | nil => simp [isVoid] at h
        | cons other more => exact noSlash other more hs
      · exact noDot others hs
    rw [List.filter_cons_of_pos (by rw [first_step]; rfl), List.map_cons, List.cons.injEq,
      component_eq_normal_iff step, List.map_eq_nil_iff, List.filter_eq_nil_iff] at h
    obtain ⟨rfl, hv⟩ := h
    exact trail_of_split hs fun other ho => by simpa using hv other ho

theorem components_of_withTrail (step : IsStep name) (h : WithTrail name path) :
    components path = [.normal name] := by
  obtain ⟨trail, hp, ht⟩ := h
  obtain ⟨pieces, hs, hv⟩ := split_trail ht
  have whole : split path.toList = name.toList :: pieces := by
    rw [hp, split_append step.noSlash hs, List.append_nil]
  have notVoid := step.notVoid
  rcases parts_cases path with ⟨_, _, slash, -⟩ | ⟨_, dot, -⟩ | ⟨-, -, parted⟩
  · rw [whole, List.cons.injEq] at slash
    rw [slash.1] at notVoid
    cases notVoid
  · rw [whole, List.cons.injEq] at dot
    rw [dot.1] at notVoid
    cases notVoid
  · have none_left : pieces.filter (!isVoid ·) = [] := by
      rw [List.filter_eq_nil_iff]
      intro piece hp
      simp [hv piece hp]
    rw [components_of_parts parted, whole, List.filter_cons_of_pos (by rw [notVoid]; rfl),
      none_left, List.map_singleton, (component_eq_normal_iff step).mpr rfl, List.nil_append]

/-- A path with one step and no start is the name of the step, with a trail behind it. -/
theorem components_eq_singleton_iff (step : IsStep name) :
    components path = [.normal name] ↔ WithTrail name path :=
  ⟨withTrail_of_components step, components_of_withTrail step⟩

end Path

/-! ### Targets -/

namespace Target

open Templating.Path

theorem same_iff {name path : String} (step : IsStep name)
    (alone : components name = [.normal name]) : same path name = true ↔ WithTrail name path := by
  rw [same, beq_iff_eq, alone, components_eq_singleton_iff step]

theorem same_outputName_iff {path : String} :
    same path outputName = true ↔ WithTrail "stdout" path :=
  same_iff ⟨by decide, by decide, by decide⟩ (by decide)

theorem same_errorName_iff {path : String} :
    same path errorName = true ↔ WithTrail "stderr" path :=
  same_iff ⟨by decide, by decide, by decide⟩ (by decide)

theorem ofPath_eq_standardOutput_iff {path : String} :
    ofPath path = .standardOutput ↔ WithTrail "stdout" path := by
  rw [← same_outputName_iff, ofPath]
  cases same path outputName with
  | true => simp
  | false => cases same path errorName <;> simp

theorem ofPath_eq_standardError_iff {path : String} :
    ofPath path = .standardError ↔ WithTrail "stderr" path := by
  rw [← same_errorName_iff, ofPath]
  cases output : same path outputName with
  | true =>
    -- No path has the steps of both names.
    have other : same path errorName = false := by
      rw [same, beq_iff_eq] at output
      rw [same, output]
      decide
    simp [other]
  | false => cases same path errorName <;> simp

example : ["stdout", "stdout/", "stdout/.", "./stdout", "/stdout", "stdout/x", "STDOUT"].map ofPath =
    [.standardOutput, .standardOutput, .standardOutput, .file, .file, .file, .file] := by decide

end Target

/-! ### Renders -/

namespace Template

open Templating.Path

variable {executor : Executor} {context : Context} {tree : FileTree} {path : String}
  {streams : Streams}

theorem renderToFile_of_output (h : Target.ofPath path = .standardOutput) :
    (ready executor).renderToFile context tree path streams =
      ⟨((ready executor).renderTo context streams.output).outcome, tree,
        ((ready executor).renderTo context streams.output).written, [],
        ((ready executor).renderTo context streams.output).signal?⟩ := by
  rw [renderToFile, h]

theorem renderToFile_of_errors (h : Target.ofPath path = .standardError) :
    (ready executor).renderToFile context tree path streams =
      ⟨((ready executor).renderTo context streams.errors).outcome, tree, [],
        ((ready executor).renderTo context streams.errors).written,
        ((ready executor).renderTo context streams.errors).signal?⟩ := by
  rw [renderToFile, h]

/-- A stream to which the path does not lead gets nothing. -/
theorem streams_renderToFile :
    (Target.ofPath path ≠ .standardOutput →
      ((ready executor).renderToFile context tree path streams).output = []) ∧
    (Target.ofPath path ≠ .standardError →
      ((ready executor).renderToFile context tree path streams).errors = []) := by
  unfold renderToFile
  cases Target.ofPath path with
  | standardOutput => exact ⟨fun other => absurd rfl other, fun _ => rfl⟩
  | standardError => exact ⟨fun _ => rfl, fun other => absurd rfl other⟩
  | file =>
    dsimp only
    cases ((ready executor).renderBytes context).outcome with
    | error fault => exact ⟨fun _ => rfl, fun _ => rfl⟩
    | ok bytes => exact ⟨fun _ => rfl, fun _ => rfl⟩

/-- A render to a path is one to a standard stream exactly where the path is the stream's name with a
trail. What the stream has and how the render ends is as for the stream's writer, which may refuse
octets, and the tree stays. -/
theorem stream_names_stream (executor : Executor) (context : Context) (tree : FileTree)
    (path : String) (streams : Streams) :
    (WithTrail "stdout" path →
      (ready executor).renderToFile context tree path streams =
        ⟨((ready executor).renderTo context streams.output).outcome, tree,
          ((ready executor).renderTo context streams.output).written, [],
          ((ready executor).renderTo context streams.output).signal?⟩) ∧
    (WithTrail "stderr" path →
      (ready executor).renderToFile context tree path streams =
        ⟨((ready executor).renderTo context streams.errors).outcome, tree, [],
          ((ready executor).renderTo context streams.errors).written,
          ((ready executor).renderTo context streams.errors).signal?⟩) ∧
    (¬WithTrail "stdout" path →
      ((ready executor).renderToFile context tree path streams).output = []) ∧
    (¬WithTrail "stderr" path →
      ((ready executor).renderToFile context tree path streams).errors = []) := by
  rw [← Target.ofPath_eq_standardOutput_iff, ← Target.ofPath_eq_standardError_iff]
  exact ⟨renderToFile_of_output, renderToFile_of_errors, streams_renderToFile⟩

/-- A tree with a directory under the name of a stream. -/
def namesake : FileTree := FileTree.initial.set ["work", "stdout"] (.dir 0o755)

/-- What was written before the abort stays on the stream, unless the stream takes nothing, and the
directory of its name does not matter. The same name behind a dot is a file's. -/
theorem namesake_stays :
    WithTrail "stdout" "stdout//." ∧
      (ready stopping).renderToFile (.abortable .null) namesake "stdout//." =
        ⟨.error (.aborted "stopped"), namesake, [80], [], some ⟨some "stopped"⟩⟩ ∧
      (ready stopping).renderToFile (.abortable .null) namesake "stdout//."
          ⟨.limited 0 (.system .noSpace), .unlimited⟩ =
        ⟨.error (.aborted "stopped"), namesake, [], [], some ⟨some "stopped"⟩⟩ ∧
      WithTrail "stderr" "stderr/" ∧
      (ready stopping).renderToFile (.abortable .null) namesake "stderr/" =
        ⟨.error (.aborted "stopped"), namesake, [], [80], some ⟨some "stopped"⟩⟩ ∧
      ¬WithTrail "stdout" "./stdout" ∧
      ((ready stopping).renderToFile (.abortable .null) namesake "./stdout").output = [] ∧
      ¬WithTrail "stderr" "./stdout" ∧
      ((ready stopping).renderToFile (.abortable .null) namesake "./stdout").errors = [] := by
  have output : WithTrail "stdout" "stdout//." := ⟨_, rfl, .slash (.dot .nil)⟩
  have errors : WithTrail "stderr" "stderr/" := ⟨_, rfl, .slash .nil⟩
  have file : Target.ofPath "./stdout" = .file := by decide
  have noOutput : ¬WithTrail "stdout" "./stdout" := by
    rw [← Target.ofPath_eq_standardOutput_iff, file]
    decide
  have noErrors : ¬WithTrail "stderr" "./stdout" := by
    rw [← Target.ofPath_eq_standardError_iff, file]
    decide
  have onOutput := fun streams =>
    (stream_names_stream stopping (.abortable .null) namesake "stdout//." streams).1 output
  obtain ⟨-, onErrors, -⟩ :=
    stream_names_stream stopping (.abortable .null) namesake "stderr/" .unlimited
  obtain ⟨-, -, neither⟩ :=
    stream_names_stream stopping (.abortable .null) namesake "./stdout" .unlimited
  exact ⟨output, onOutput .unlimited, onOutput ⟨.limited 0 (.system .noSpace), .unlimited⟩, errors,
    onErrors errors, noOutput, neither.1 noOutput, noErrors, neither.2 noErrors⟩

end Template

end Templating
