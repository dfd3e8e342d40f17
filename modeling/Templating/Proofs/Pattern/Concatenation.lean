import Templating.Proofs.Pattern.Formatting

/-! Sources behind one another. Behind a source that reads, and past a seam that does not join two
closing braces, the reader goes on as at the start of a text, so the pattern of both sources is the one
pattern behind the other, with one literal where two meet. Faults of the second source are met further
on. -/

namespace Templating

/-- The fault that is met `offset` octets further on. -/
def SourceFault.shifted (offset : Nat) : SourceFault → SourceFault
  | .unclosedPlaceholder position => .unclosedPlaceholder (offset + position)
  | fault => fault

namespace Pattern

/-- Segments behind others, with one literal in place of two that meet. -/
def merge (first second : List Segment) : List Segment :=
  match first.getLast?, second with
  | some (.literal text), .literal more :: later => first.dropLast ++ .literal (text ++ more) :: later
  | _, second => first ++ second

variable {first second : List Segment} {arguments : List Json}

/-! ### Merging -/

theorem merge_cases (first second : List Segment) :
    merge first second = first ++ second ∨
      ∃ front text more later, first = front ++ [.literal text] ∧ second = .literal more :: later ∧
        merge first second = front ++ .literal (text ++ more) :: later := by
  unfold merge
  split
  · next text more later last =>
    obtain ⟨front, rfl⟩ := List.getLast?_eq_some_iff.mp last
    exact .inr ⟨front, text, more, later, rfl, rfl, by rw [List.dropLast_concat]⟩
  · exact .inl rfl

theorem merge_append (front : List Segment) (some : first ≠ []) :
    merge (front ++ first) second = front ++ merge first second := by
  unfold merge
  rw [List.getLast?_append_of_ne_nil front some, List.dropLast_append_of_ne_nil some]
  split <;> rw [List.append_assoc]

theorem merge_slot_cons (place : Slot) (rest second : List Segment) :
    merge (.slot place :: rest) second = .slot place :: merge rest second := by
  cases rest with
  | nil => rfl
  | cons segment rest => exact merge_append [.slot place] (List.cons_ne_nil segment rest)

theorem literal_of_ne_nil {read : List Char} (h : read ≠ []) :
    literal read = [.literal (String.ofList read.reverse)] := by
  rw [literal, if_neg (by simpa using h)]

/-- What has been read stays apart from what is read next, or the literals of both become one. -/
theorem literal_append (read more : List Char) {rest : List Segment}
    (hs : ∀ segment ∈ rest.head?, segment.isSlot) :
    literal (more ++ read) ++ rest = merge (literal read) (literal more ++ rest) := by
  by_cases hr : read = []
  · subst hr
    rw [List.append_nil]
    rfl
  by_cases hm : more = []
  · subst hm
    rw [List.nil_append, literal_of_ne_nil hr]
    match rest with
    | [] => rfl
    | .slot place :: rest => rfl
    | .literal text :: rest => exact absurd (hs _ rfl) (by simp [Segment.isSlot])
  · rw [literal_of_ne_nil hr, literal_of_ne_nil hm, literal_of_ne_nil (by simp [hm]),
      List.reverse_append, String.ofList_append]
    rfl

/-! ### Gathering -/

theorem gather_read (read more : List Char) (found : List Token) :
    gather (more ++ read) found = merge (literal read) (gather more found) := by
  induction found generalizing more with
  | nil =>
    have apart : literal (more ++ read) ++ [] = merge (literal read) (literal more ++ []) :=
      literal_append read more (by simp)
    rwa [List.append_nil, List.append_nil] at apart
  | cons token rest ih =>
    cases token with
    | char c => exact ih (c :: more)
    | slot place =>
      rw [gather, gather]
      exact literal_append read more (by simp [Segment.isSlot])

/-- Tokens behind others are gathered on their own but for the literal where both meet. -/
theorem gather_append (read : List Char) (found later : List Token) :
    gather read (found ++ later) = merge (gather read found) (gather [] later) := by
  induction found generalizing read with
  | nil => exact gather_read read [] later
  | cons token rest ih =>
    cases token with
    | char c => exact ih (c :: read)
    | slot place =>
      rw [List.cons_append, gather, gather, ih, merge_append _ (List.cons_ne_nil _ _),
        merge_slot_cons]

/-! ### Counting and formatting -/

theorem countP_merge (holds : Segment → Bool) (literals : ∀ text, holds (.literal text) = false)
    (first second : List Segment) :
    (merge first second).countP holds = first.countP holds + second.countP holds := by
  rcases merge_cases first second with same | ⟨front, text, more, later, rfl, rfl, merged⟩
  · rw [same, List.countP_append]
  · rw [merged]
    simp [literals]

theorem nextCount_cons (segment : Segment) (rest : List Segment) :
    nextCount (segment :: rest) = (if segment = .slot .next then 1 else 0) + nextCount rest := by
  rw [nextCount, List.count_cons, Nat.add_comm]
  simp [nextCount]

theorem formatFrom_append (count : Nat) (first second : List Segment) :
    formatFrom arguments count (first ++ second) =
      formatFrom arguments count first ++ formatFrom arguments (count + nextCount first) second := by
  induction first generalizing count with
  | nil => simp [formatFrom, nextCount]
  | cons segment rest ih =>
    rw [nextCount_cons, List.cons_append]
    cases segment with
    | literal text => simp [formatFrom, ih, String.append_assoc]
    | slot place =>
      cases place with
      | index n => simp [formatFrom, ih, String.append_assoc]
      | next => simp [formatFrom, ih, String.append_assoc, Nat.add_assoc]

theorem formatFrom_merge (count : Nat) (first second : List Segment) :
    formatFrom arguments count (merge first second) =
      formatFrom arguments count first ++ formatFrom arguments (count + nextCount first) second := by
  rcases merge_cases first second with same | ⟨front, text, more, later, rfl, rfl, merged⟩
  · rw [same, formatFrom_append]
  · rw [merged, formatFrom_append, formatFrom_append]
    simp [formatFrom, nextCount, String.append_assoc]

/-! ### Reading -/

theorem Faulty.shifted {position : Nat} {after : List Char} {fault : SourceFault}
    (h : Faulty position after fault) (offset : Nat) :
    Faulty (offset + position) after (fault.shifted offset) := by
  cases h with
  | unclosed hb => exact .unclosed hb
  | invalid hb ht hs => exact .invalid hb ht hs

theorem tokens_shifted {source : List Char} {position : Nat} {fault : SourceFault}
    (h : tokens position source = .error fault) (offset : Nat) :
    tokens (offset + position) source = .error (fault.shifted offset) := by
  obtain ⟨before, after, lexemes, hs, hr, ho, hf⟩ := tokens_eq_error_iff.mp h
  refine tokens_eq_error_iff.mpr ⟨before, after, lexemes, hs, hr, ho, ?_⟩
  rw [Nat.add_assoc]
  exact hf.shifted offset

variable {source other : String} {pattern : Pattern}

/-- Behind a source that reads, the reader goes on as far as the source reaches. -/
theorem parse_append (h : parse source = .ok pattern) (seam : Seam source.toList other.toList) :
    parse (source ++ other) =
      (fun found => ⟨merge pattern.segments (gather [] found)⟩) <$>
        tokens source.utf8ByteSize other.toList := by
  obtain ⟨lexemes, hr, rfl⟩ := parse_eq_ok_iff.mp h
  rw [parse, String.toList_append, tokens_append hr seam, Functor.map_map, Nat.zero_add,
    octets_toList]
  congr 1
  funext found
  rw [gather_append]

theorem parse_append_ok {later : Pattern} (h : parse source = .ok pattern)
    (seam : Seam source.toList other.toList) (h' : parse other = .ok later) :
    parse (source ++ other) = .ok ⟨merge pattern.segments later.segments⟩ := by
  obtain ⟨lexemes, hr, rfl⟩ := parse_eq_ok_iff.mp h'
  rw [parse_append h seam, tokens_of_reads hr]
  rfl

theorem parse_append_error {fault : SourceFault} (h : parse source = .ok pattern)
    (seam : Seam source.toList other.toList) (h' : parse other = .error fault) :
    parse (source ++ other) = .error (fault.shifted source.utf8ByteSize) := by
  rw [parse, map_eq_error_iff] at h'
  have met := tokens_shifted h' source.utf8ByteSize
  rw [Nat.add_zero] at met
  rw [parse_append h seam, met]
  rfl

/-- The body that is no slot is closed, so nothing behind it changes what is wrong with it. -/
theorem parse_append_of_invalid {body : String}
    (h : parse source = .error (.invalidPlaceholder body)) (other : String) :
    parse (source ++ other) = .error (.invalidPlaceholder body) := by
  obtain ⟨before, after, rfl, hp, ho, hf⟩ := parse_eq_error_iff.mp h
  generalize ht : after.toList = text at ho hf
  cases hf with
  | @invalid inner core rest hb hc hs =>
    -- The text after the fault only grows behind the brace that closes the body.
    refine parse_eq_error_iff.mpr
      ⟨before, after ++ other, by simp only [String.append_assoc], hp, ?_, ?_⟩
    · rw [String.toList_append, ht, List.append_assoc, List.cons_append]
      intro h
      exact ho ((head?_append_closing rest).mpr ((head?_append_closing _).mp h))
    · rw [String.toList_append, ht, List.append_assoc, List.cons_append]
      exact .invalid hb hc hs

/-- Sources that do not meet in two closing braces compose: the segments of both, the sum of the places,
and the text of the first before that of the second, which counts on. A fault of the second is met as
far on as the first reaches, and a body that is no slot in the first is the fault whatever follows. -/
theorem sources_compose :
    (∀ (source other : String) (pattern : Pattern), parse source = .ok pattern →
      Seam source.toList other.toList →
      (∀ later, parse other = .ok later →
        ∃ whole, parse (source ++ other) = .ok whole ∧
          whole.segments = merge pattern.segments later.segments ∧
          whole.slotCount = pattern.slotCount + later.slotCount ∧
          ∀ arguments, whole.format arguments =
            pattern.format arguments ++
              formatFrom arguments (nextCount pattern.segments) later.segments) ∧
      ∀ fault, parse other = .error fault →
        parse (source ++ other) = .error (fault.shifted source.utf8ByteSize)) ∧
    ∀ source other body, parse source = .error (.invalidPlaceholder body) →
      parse (source ++ other) = .error (.invalidPlaceholder body) := by
  refine ⟨fun source other pattern h seam => ⟨fun later h' => ?_, fun fault h' => ?_⟩,
    fun source other body h => parse_append_of_invalid h other⟩
  · refine ⟨_, parse_append_ok h seam h', rfl, ?_, fun arguments => ?_⟩
    · exact countP_merge Segment.isSlot (fun _ => rfl) _ _
    · rw [format, formatFrom_merge, Nat.zero_add]
      rfl
  · exact parse_append_error h seam h'

/-- A literal at the seam and a counter that goes on, and a brace that opens behind a letter of two
octets. -/
theorem seam_merges_literals :
    parse "é\x7b\x7da" = .ok ⟨[.literal "é", .slot .next, .literal "a"]⟩ ∧
      Seam "é\x7b\x7da".toList "b\x7b\x7d".toList ∧
      parse "b\x7b\x7d" = .ok ⟨[.literal "b", .slot .next]⟩ ∧
      (∃ whole, parse ("é\x7b\x7da" ++ "b\x7b\x7d") = .ok whole ∧
        whole.segments = [.literal "é", .slot .next, .literal "ab", .slot .next] ∧
        whole.slotCount = 2 ∧ whole.format [.int 7, .int 8] = "é7ab8") ∧
      Seam "é\x7b\x7da".toList "é\x7b0".toList ∧
      parse "é\x7b0" = .error (.unclosedPlaceholder 2) ∧
      parse ("é\x7b\x7da" ++ "é\x7b0") = .error (.unclosedPlaceholder 7) ∧
      parse "\x7bx\x7d" = .error (.invalidPlaceholder "x") ∧
      parse ("\x7bx\x7d" ++ "\x7d\x7b") = .error (.invalidPlaceholder "x") := by
  have first : parse "é\x7b\x7da" = .ok ⟨[.literal "é", .slot .next, .literal "a"]⟩ := by
    decide +kernel
  have second : parse "b\x7b\x7d" = .ok ⟨[.literal "b", .slot .next]⟩ := by decide +kernel
  have unclosed : parse "é\x7b0" = .error (.unclosedPlaceholder 2) := by decide +kernel
  have invalid : parse "\x7bx\x7d" = .error (.invalidPlaceholder "x") := by decide +kernel
  have seam : ∀ other, Seam "é\x7b\x7da".toList other := fun _ last => absurd last (by decide)
  obtain ⟨behind, failed⟩ := sources_compose
  obtain ⟨ok, error⟩ := behind "é\x7b\x7da" "b\x7b\x7d" _ first (seam _)
  obtain ⟨whole, parsed, segments, counted, formatted⟩ := ok _ second
  refine ⟨first, seam _, second, ⟨whole, parsed, segments, counted, ?_⟩, seam _, unclosed,
    (behind _ _ _ first (seam _)).2 _ unclosed, invalid, failed _ "\x7d\x7b" _ invalid⟩
  rw [formatted]
  decide

end Pattern

end Templating
