import Templating.Page.Render
import Templating.Sheet.Scope

/-! The variables with which templates start. Pages and sheets bring the data in sight in ways of their
own, and both bind each name to the same JSON: a field of the data, or all of the data under a name of
its own. Only the function that marks the signal, which pages have and sheets have not, goes before a
field. -/

namespace Templating

namespace Json

variable {data : Json} {name : String}

/-- The fields of an object; other data has none. -/
def fields : Json → List (String × Json)
  | obj fields => fields
  | _ => []

/-- What data binds a name to: its field of that name, whatever that holds, and all of the data under
the name `data` where no field has that name. -/
def binding? (data : Json) (name : String) : Option Json :=
  (data.field? name).or (if name = "data" then some data else none)

theorem get?_fields (data : Json) (name : String) :
    Assoc.get? name data.fields = data.field? name := by
  cases data <;> rfl

theorem field?_of_not_object (h : ∀ fields, data ≠ obj fields) : data.field? name = none := by
  cases data with
  | obj fields => exact absurd rfl (h fields)
  | _ => rfl

theorem binding?_of_not_object (h : ∀ fields, data ≠ obj fields) :
    data.binding? name = if name = "data" then some data else none := by
  rw [binding?, field?_of_not_object h, Option.none_or]

theorem binding?_of_mem {fields : List (String × Json)} (sorted : Assoc.Sorted fields)
    {entry : String × Json} (h : entry ∈ fields) :
    (obj fields).binding? entry.1 = some entry.2 := by
  have own : (obj fields).field? entry.1 = some entry.2 := sorted.get?_eq_some_iff.mpr h
  rw [binding?, own, Option.some_or]

end Json

namespace Sheet.Scope

theorem dataVariables_eq (data : Json) :
    dataVariables data =
      if (data.field? "data").isSome then data.fields
      else Assoc.insert "data" data data.fields := by
  cases data with
  | obj fields =>
    have own : Assoc.get? "data" fields = (Json.obj fields).field? "data" := rfl
    simp only [dataVariables, own]
    cases (Json.obj fields).field? "data" <;> rfl
  | _ => rfl

theorem get?_dataVariables (data : Json) (name : String) :
    Assoc.get? name (dataVariables data) = data.binding? name := by
  rw [dataVariables_eq, Json.binding?]
  cases found : data.field? "data" with
  | some own =>
    rw [Option.isSome_some, if_pos rfl, Json.get?_fields]
    split
    · next whole => rw [whole, found, Option.some_or]
    · exact (Option.or_none ..).symm
  | none =>
    rw [Option.isSome_none, if_neg Bool.false_ne_true, Assoc.get?_insert, Json.get?_fields]
    by_cases whole : name = "data"
    · rw [if_pos whole.symm, if_pos whole, whole, found, Option.none_or]
    · rw [if_neg (Ne.symm whole), if_neg whole, Option.or_none]

end Sheet.Scope

namespace Page

namespace Value

mutual

/-- Values of pages tell JSON apart. -/
theorem ofJson_inj (value other : Json) (same : ofJson value = ofJson other) : value = other := by
  match value with
  | .null => cases other <;> first | rfl | cases same
  | .bool _ => cases other <;> cases same; rfl
  | .int _ => cases other <;> cases same; rfl
  | .float _ => cases other <;> cases same; rfl
  | .str _ => cases other <;> cases same; rfl
  | .arr items =>
    cases other with
    | arr others =>
      injection same with _ same
      rw [ofItems_inj items others same]
    | _ => cases same
  | .obj fields =>
    cases other with
    | obj others =>
      injection same with _ same
      rw [ofFields_inj fields others same]
    | _ => cases same
termination_by structural value

theorem ofItems_inj (items others : List Json) (same : ofItems items = ofItems others) :
    items = others := by
  match items, others with
  | [], [] => rfl
  | item :: rest, other :: more =>
    injection same with here later
    rw [ofJson_inj item other here, ofItems_inj rest more later]
  | [], _ :: _ => cases same
  | _ :: _, [] => cases same
termination_by structural items

theorem ofFields_inj (fields others : List (String × Json))
    (same : ofFields fields = ofFields others) : fields = others := by
  match fields, others with
  | [], [] => rfl
  | (name, value) :: rest, (_, other) :: more =>
    injection same with here later
    injection here with named here
    injection named with named
    rw [named, ofJson_inj value other here, ofFields_inj rest more later]
  | [], _ :: _ => cases same
  | _ :: _, [] => cases same
termination_by structural fields

end

end Value

theorem lookup_fields (fields : List (String × Json)) (name : String) :
    (fields.map fun (name, value) => (name, Value.ofJson value)).lookup name =
      (Assoc.get? name fields).map Value.ofJson := by
  induction fields with
  | nil => rfl
  | cons field rest ih =>
    obtain ⟨key, value⟩ := field
    rw [List.map_cons, List.lookup_cons, Assoc.get?_cons, ih]
    by_cases here : key = name
    · simp [here]
    · have apart : (name == key) = false := beq_eq_false_iff_ne.mpr (Ne.symm here)
      simp [here, apart]

theorem rootVariables_eq (data : Json) (hasSignal : Bool) :
    rootVariables data hasSignal =
      (if hasSignal then [("abort", .abort)] else []) ++
        data.fields.map (fun (name, value) => (name, Value.ofJson value)) ++
        if (data.field? "data").isNone then [("data", Value.ofJson data)] else [] := by
  cases data with
  | obj fields =>
    have own : (Json.obj fields).field? "data" = Assoc.get? "data" fields := rfl
    rw [rootVariables, lookup_fields, Option.isSome_map, own]
    cases Assoc.get? "data" fields <;> rfl
  | _ => rfl

theorem lookup_optional (bound : Bool) (key name : String) (value : Value) :
    (if bound then [(key, value)] else []).lookup name =
      if bound = true ∧ name = key then some value else none := by
  cases bound with
  | false => rfl
  | true =>
    by_cases same : name = key
    · simp [same]
    · have apart : (name == key) = false := beq_eq_false_iff_ne.mpr same
      simp [List.lookup_cons, same, apart]

/-- But for the mark, a page has the variables that the data gives. -/
theorem lookup_rootVariables_eq (data : Json) (hasSignal : Bool) (name : String) :
    (rootVariables data hasSignal).lookup name =
      if hasSignal = true ∧ name = "abort" then some .abort
      else (data.binding? name).map Value.ofJson := by
  rw [rootVariables_eq, List.lookup_append, List.lookup_append, lookup_optional, lookup_fields,
    lookup_optional, Json.get?_fields, Option.or_assoc]
  have given : ((data.field? name).map Value.ofJson).or
      (if (data.field? "data").isNone = true ∧ name = "data" then some (Value.ofJson data) else none) =
        (data.binding? name).map Value.ofJson := by
    by_cases whole : name = "data"
    · rw [Json.binding?, whole]
      cases data.field? "data" <;> rfl
    · rw [Json.binding?, if_neg whole, if_neg fun both => whole both.2, Option.or_none,
        Option.or_none]
  rw [given]
  split <;> rfl

end Page

/-- Pages and sheets bind each name to the same JSON, the data's own entry or else, for `data`, all of
it; but where the context has a signal, `abort` is on a page the function that marks the signal. -/
theorem root_scopes_agree (data : Json) :
    (∀ name, Assoc.get? name (Sheet.Scope.dataVariables data) = data.binding? name) ∧
    (∀ hasSignal name, name ≠ "abort" →
      (Page.rootVariables data hasSignal).lookup name =
        (data.binding? name).map Page.Value.ofJson ∧
      ∀ value, (Page.rootVariables data hasSignal).lookup name = some (.ofJson value) ↔
        Assoc.get? name (Sheet.Scope.dataVariables data) = some value) ∧
    (Page.rootVariables data true).lookup "abort" = some .abort ∧
    (Page.rootVariables data false).lookup "abort" =
      (data.binding? "abort").map Page.Value.ofJson ∧
    (∀ name, name ≠ "abort" →
      (Page.rootVariables data true).lookup name = (Page.rootVariables data false).lookup name) ∧
    (∀ fields, data = .obj fields → Assoc.Sorted fields →
      ∀ entry ∈ fields, data.binding? entry.1 = some entry.2) ∧
    ((∀ fields, data ≠ .obj fields) →
      ∀ name, data.binding? name = if name = "data" then some data else none) := by
  have onPage : ∀ hasSignal name, name ≠ "abort" →
      (Page.rootVariables data hasSignal).lookup name =
        (data.binding? name).map Page.Value.ofJson := fun hasSignal name other => by
    rw [Page.lookup_rootVariables_eq, if_neg fun both => other both.2]
  refine ⟨Sheet.Scope.get?_dataVariables data, fun hasSignal name other =>
    ⟨onPage hasSignal name other, fun value => ?_⟩, ?_, ?_, ?_, ?_, ?_⟩
  · rw [onPage hasSignal name other, Sheet.Scope.get?_dataVariables]
    refine ⟨fun same => ?_, fun given => by rw [given, Option.map_some]⟩
    obtain ⟨given, found, same⟩ := Option.map_eq_some_iff.mp same
    rw [found, Page.Value.ofJson_inj given value same]
  · rw [Page.lookup_rootVariables_eq, if_pos ⟨rfl, rfl⟩]
  · rw [Page.lookup_rootVariables_eq, if_neg fun both => Bool.false_ne_true both.1]
  · exact fun name other => (onPage true name other).trans (onPage false name other).symm
  · rintro fields rfl sorted entry listed
    exact Json.binding?_of_mem sorted listed
  · exact fun noObject name => Json.binding?_of_not_object noObject

/-- An object with fields of both special names, one of them null. -/
def report : Json := .obj [("abort", .int 1), ("data", .null), ("title", .str "Tides")]

theorem report_and_list_in_scope :
    (Page.rootVariables report true).lookup "data" = some .nothing ∧
      Assoc.get? "data" (Sheet.Scope.dataVariables report) = some .null ∧
      (Page.rootVariables report false).lookup "abort" = some (.int 1 false) ∧
      (Page.rootVariables report true).lookup "abort" = some .abort ∧
      (Page.rootVariables report true).lookup "title" =
        (Page.rootVariables report false).lookup "title" ∧
      (Json.arr [.null]).binding? "title" = none ∧
      Assoc.get? "data" (Sheet.Scope.dataVariables (.arr [.null])) = some (.arr [.null]) := by
  obtain ⟨onSheet, onPage, marked, unmarked, others, entries, -⟩ := root_scopes_agree report
  obtain ⟨listOnSheet, -, -, -, -, -, noObject⟩ := root_scopes_agree (.arr [.null])
  have sorted : Assoc.Sorted [("abort", Json.int 1), ("data", .null), ("title", .str "Tides")] := by
    unfold Assoc.Sorted
    decide
  have bound : ∀ entry ∈ [("abort", Json.int 1), ("data", .null), ("title", .str "Tides")],
      report.binding? entry.1 = some entry.2 := entries _ rfl sorted
  have atData : report.binding? "data" = some .null := bound ("data", .null) (by simp)
  have atAbort : report.binding? "abort" = some (.int 1) := bound ("abort", .int 1) (by simp)
  refine ⟨?_, (onSheet _).trans atData, ?_, marked, others "title" (by decide), ?_, ?_⟩
  · rw [(onPage true "data" (by decide)).1, atData]
    rfl
  · rw [unmarked, atAbort]
    rfl
  · exact (noObject (fun fields => by simp) "title").trans (if_neg (by decide))
  · exact (listOnSheet "data").trans ((noObject (fun fields => by simp) "data").trans (if_pos rfl))

end Templating
