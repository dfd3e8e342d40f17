import Templating.Pattern.Template
import Templating.Proofs.Pattern.RoundTrip
import Templating.Proofs.Printing.Form

/-! Formatting, said place by place. A segment's text depends on the segments before it only through how
many of them ask for the next argument, so an explicit index can stand for such a slot wherever there
are arguments enough. -/

namespace Templating

/-- Every render of the data whose signal is not marked beforehand gives the text, and nothing else
is written. -/
def Template.Renders (template : Template) (data : Json) (text : String) : Prop :=
  ∀ context : Context, context.data = .ok data → context.aborted? = none →
    template.render context = ⟨.ok text, Utf8.encode text, context.signal?⟩

namespace Pattern

/-- How many segments ask for the next argument. -/
def nextCount (segments : List Segment) : Nat := segments.count (.slot .next)

/-- The text of the argument at an index, or what stands there without it. -/
def filled (arguments : List Json) (index : Nat) (missing : String) : String :=
  (arguments[index]?.map argumentText).getD missing

/-- Segments with an explicit index in each slot for the next argument, the first of which asks for the
argument at `count`. -/
def numbered : (count : Nat) → List Segment → List Segment
  | _, [] => []
  | count, .slot .next :: rest => .slot (.index count) :: numbered (count + 1) rest
  | count, .slot (.index n) :: rest => .slot (.index n) :: numbered count rest
  | count, .literal text :: rest => .literal text :: numbered count rest

variable {arguments : List Json} {segments : List Segment}

/-! ### Places -/

theorem slotText_eq_filled (slot : Slot) (index : Nat) (arguments : List Json) :
    slotText slot index arguments = filled arguments index slot.text := by
  unfold slotText filled
  cases arguments[index]? <;> rfl

theorem renders_format (pattern : Pattern) (data : Json) :
    (Template.ready pattern.executor).Renders data (pattern.format (Pattern.arguments data)) := by
  intro context given unmarked
  have same : pattern.executor.program context.data context.signal?.isSome =
      (Run.ofTexts [pattern.format (Pattern.arguments data)]).program Fault.stream := by
    rw [given]
    rfl
  have rendered := Template.render_of_texts Fault.stream unmarked same
  rwa [String.join_cons, String.join_nil, String.append_empty] at rendered

theorem parser_parse {source : String} {pattern : Pattern} (h : parse source = .ok pattern)
    (label : String) (functions : Registry) :
    parser.parse label functions source = .ok (.ready pattern.executor) := by
  simp only [parser, h]

/-! ### Explicit indices -/

theorem isSlot_head?_numbered (count : Nat) (h : ∀ first ∈ segments.head?, first.isSlot) :
    ∀ first ∈ (numbered count segments).head?, first.isSlot := by
  match segments with
  | [] => simp [numbered]
  | .literal text :: rest => exact absurd (h _ rfl) (by simp [Segment.isSlot])
  | .slot .next :: rest => simp [numbered, Segment.isSlot]
  | .slot (.index n) :: rest => simp [numbered, Segment.isSlot]

/-- Numbered segments can be written, as long as their numbers can. -/
theorem Canonical.numbered (h : Canonical segments) {count : Nat}
    (fits : count + nextCount segments ≤ Nat.pow 2 64) :
    Canonical (Pattern.numbered count segments) := by
  induction segments generalizing count with
  | nil => exact .nil
  | cons segment rest ih =>
    match segment with
    | .literal text =>
      have text_ne : text ≠ "" := by
        rintro rfl
        exact h.nonempty List.mem_cons_self
      exact .literal text_ne (isSlot_head?_numbered count h.after_literal)
        (ih h.tail (by simpa [nextCount] using fits))
    | .slot (.index n) =>
      refine .slot (fun m same => ?_) (ih h.tail (by simpa [nextCount] using fits))
      cases same
      exact h.bounded n List.mem_cons_self
    | .slot .next =>
      simp only [nextCount, List.count_cons_self] at fits
      refine .slot (fun m same => ?_) (ih h.tail (by unfold nextCount; omega))
      cases same
      omega

/-! ### The whole of formatting -/

end Pattern

end Templating
