import Templating.Proofs.Printing.Form
import Templating.Proofs.Render.Faults

/-! What renders write. Where each step of a run that writes has the octets of a text, so have the
writes that its execution offers, whatever the writer takes of them, and a writer that refuses nothing
has the octets of one text in the end. -/

namespace Templating

/-- A step that has the octets of a text, if it writes. -/
def Event.IsText : Event → Prop
  | .write bytes => ∃ text, bytes = Utf8.encode text
  | _ => True

/-- Steps that write texts. -/
def Texts (events : List Event) : Prop := ∀ event ∈ events, event.IsText

theorem Texts.nil : Texts [] := List.forall_mem_nil _

theorem Texts.cons {event : Event} {events : List Event} (first : event.IsText)
    (others : Texts events) : Texts (event :: events) :=
  List.forall_mem_cons.mpr ⟨first, others⟩

/-- The writes that an execution offers, each with its octets also where the writer refuses some of
them. -/
def Program.offered (writer : Writer) (signal? : Option Signal) : Program → List Bytes
  | ended _ => []
  | write bytes next =>
    let (_, failure?, writer) := writer.offer bytes
    bytes :: (next failure?).offered writer signal?
  | abort reason next => next.offered writer (signal?.map (·.abort reason))
  | reset next => next.offered writer (signal?.map fun _ => Signal.clear)
  | look next => (next (signal?.bind (·.reason?))).offered writer signal?

namespace Run

variable {refusal : IoFault → Fault} {outcome : Except Fault Unit} {events : List Event}

theorem offered_programOf (texts : Texts events) (writer : Writer) (signal? : Option Signal) :
    ∀ bytes ∈ (programOf refusal outcome events).offered writer signal?,
      ∃ text, bytes = Utf8.encode text := by
  induction events generalizing writer signal? with
  | nil => exact List.forall_mem_nil _
  | cons event rest ih =>
    obtain ⟨first, others⟩ := List.forall_mem_cons.mp texts
    cases event with
    | write bytes =>
      simp only [programOf, Program.offered]
      refine List.forall_mem_cons.mpr ⟨first, ?_⟩
      cases (writer.offer bytes).2.1 with
      | none => exact ih others _ signal?
      | some cause => exact List.forall_mem_nil _
    | abort reason => exact ih others writer _
    | call name arguments => exact ih others writer signal?

/-- What a writer takes is the beginning of a text, and the whole text where it refuses nothing. -/
theorem taken_programOf (texts : Texts events) (writer : Writer) (signal? : Option Signal) :
    ∃ text, ((programOf refusal outcome events).execute writer signal?).taken <+: Utf8.encode text ∧
      (((programOf refusal outcome events).execute writer signal?).refused = false →
        ((programOf refusal outcome events).execute writer signal?).taken = Utf8.encode text) := by
  induction events generalizing writer signal? with
  | nil => exact ⟨"", List.prefix_rfl, fun _ => rfl⟩
  | cons event rest ih =>
    obtain ⟨first, others⟩ := List.forall_mem_cons.mp texts
    cases event with
    | write bytes =>
      obtain ⟨text, rfl⟩ : ∃ text, bytes = Utf8.encode text := first
      rcases execute_write_cases (Utf8.encode text) rest writer signal? with
        ⟨left, goesOn⟩ | ⟨room, ended⟩
      · obtain ⟨more, start, all⟩ := ih others left signal?
        rw [goesOn]
        refine ⟨text ++ more, ?_, fun kept => ?_⟩
        · rw [Utf8.encode_append]
          exact (List.prefix_append_right_inj _).mpr start
        · rw [Utf8.encode_append, ← all kept]
          rfl
      · rw [ended]
        refine ⟨text, List.take_prefix room _, fun kept => ?_⟩
        cases kept
    | abort reason => exact ih others writer _
    | call name arguments => exact ih others writer signal?

end Run

/-- A writer without limit refuses nothing. -/
theorem Program.refused_execute_unlimited (program : Program) (signal? : Option Signal) :
    (program.execute .unlimited signal?).refused = false := by
  induction program generalizing signal? with
  | ended outcome => rfl
  | write bytes next ih => exact ih none signal?
  | abort reason next ih => exact ih _
  | reset next ih => exact ih _
  | look next ih => exact ih _ signal?

end Templating
