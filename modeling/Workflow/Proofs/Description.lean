import Workflow.Description
import Workflow.Proofs.Json

/-! Descriptions as JSON. A description is written in one way and read in several, and what is written is
read back as it was. -/

namespace Workflow

theorem mapM_eq_some_iff {α β : Type} {f : α → Option β} {xs : List α} {ys : List β} :
    xs.mapM f = some ys ↔ List.Forall₂ (fun x y => f x = some y) xs ys := by
  induction xs generalizing ys with
  | nil => simp [eq_comm]
  | cons x xs ih =>
    rw [List.mapM_cons, List.forall₂_cons_left_iff]
    simp only [bind, Option.bind_eq_some_iff, ← ih, pure, Option.some.injEq]
    constructor
    · rintro ⟨y, hy, ys, hys, rfl⟩
      exact ⟨y, ys, hy, hys, rfl⟩
    · rintro ⟨y, ys, hy, hys, rfl⟩
      exact ⟨y, hy, ys, hys, rfl⟩

/-- How values stand for descriptions: what shows the fields of a record, and the field of a hook. -/
structure Convention where
  record : List String → Json → List (Option Json) → Prop
  hook : Option Json → Option String → Prop

namespace Convention

inductive Optionally : Option Json → Option String → Prop
  | absent : Optionally none none
  | null : Optionally (some .null) none
  | text (name : String) : Optionally (some (.string name)) (some name)

def reading : Convention := ⟨Json.Shows, Optionally⟩

def writing : Convention := ⟨Json.IsRecord, fun field name => field = name.map Json.string⟩

def SaysTransition (c : Convention) (v : Json) (t : Transition) : Prop :=
  c.record ["condition", "target"] v [some (.string t.condition), some (.string t.target)]

def SaysState (c : Convention) (v : Json) (s : StateDescription) : Prop :=
  ∃ onEnter onLeave ts,
    c.record ["name", "on_enter", "on_leave", "transitions"] v
      [some (.string s.name), onEnter, onLeave, some (.array ts)] ∧
    c.hook onEnter s.onEnter ∧ c.hook onLeave s.onLeave ∧
      List.Forall₂ c.SaysTransition ts s.transitions

def Says (c : Convention) (v : Json) (d : Description) : Prop :=
  ∃ states, c.record ["initial", "current", "checksum", "states"] v
      [some (.string d.initial), some (.string d.current), some (.string d.checksum),
        some (.array states)] ∧
    List.Forall₂ c.SaysState states d.states

section Written

variable {v : Json} {t : Transition} {s : StateDescription} {d : Description}

theorem SaysTransition.reads (h : writing.SaysTransition v t) : reading.SaysTransition v t :=
  Json.IsRecord.shows h

theorem optionally_map_string (name : Option String) : Optionally (name.map Json.string) name := by
  cases name with
  | none => exact .absent
  | some name => exact .text name

theorem SaysState.reads (h : writing.SaysState v s) : reading.SaysState v s := by
  obtain ⟨onEnter, onLeave, ts, hrecord, rfl, rfl, hts⟩ := h
  exact ⟨_, _, ts, Json.IsRecord.shows hrecord, optionally_map_string s.onEnter,
    optionally_map_string s.onLeave, hts.imp fun _ _ => SaysTransition.reads⟩

theorem Says.reads (h : writing.Says v d) : reading.Says v d := by
  obtain ⟨states, hrecord, hstates⟩ := h
  exact ⟨states, Json.IsRecord.shows hrecord, hstates.imp fun _ _ => SaysState.reads⟩

end Written

end Convention

namespace Description

section Reading

variable {v : Json} {keys : List String} {values : List (Option Json)} {field : Option Json}

theorem fields?_eq_some_iff : fields? keys v = some values ↔ Json.Shows keys v values := by
  have hmembers (members : List (String × Json)) : keys.mapM (Json.member? members) = some values ↔
      List.Forall₂ (Json.Holds members) keys values := by
    simp only [mapM_eq_some_iff, Json.member?_eq_some_iff]
  constructor
  · intro h
    cases v with
    | object members => exact .object ((hmembers members).mp h)
    | array items =>
      rw [fields?, Option.ite_none_right_eq_some] at h
      obtain ⟨hlength, hvalues⟩ := h
      obtain rfl := Option.some.inj hvalues
      exact .array hlength
    | _ => cases h
  · intro h
    cases h with
    | object h => exact (hmembers _).mpr h
    | array h => rw [fields?, if_pos h]

theorem string?_eq_some_iff {s : String} : v.string? = some s ↔ v = .string s := by
  cases v <;> simp [Json.string?]

theorem items?_eq_some_iff {items : List Json} : v.items? = some items ↔ v = .array items := by
  cases v <;> simp [Json.items?]

theorem required?_string?_eq_some_iff {s : String} :
    required? Json.string? field = some s ↔ field = some (.string s) := by
  simp [required?, Option.bind_eq_some_iff, string?_eq_some_iff]

theorem optional?_string?_eq_some_iff {name : Option String} :
    optional? Json.string? field = some name ↔ Convention.Optionally field name := by
  constructor
  · intro h
    match field, h with
    | none, rfl => exact .absent
    | some .null, rfl => exact .null
    | some (.string name), rfl => exact .text name
  · rintro (_ | _ | _) <;> rfl

theorem required?_readList?_eq_some_iff {α : Type} {read : Json → Option α} {xs : List α} :
    required? (readList? read) field = some xs ↔ ∃ items, field = some (.array items) ∧
      List.Forall₂ (fun item x => read item = some x) items xs := by
  simp only [required?, readList?, bind, Option.bind_eq_some_iff, items?_eq_some_iff, mapM_eq_some_iff]
  constructor
  · rintro ⟨_, rfl, items, rfl, hitems⟩
    exact ⟨items, rfl, hitems⟩
  · rintro ⟨items, rfl, hitems⟩
    exact ⟨_, rfl, items, rfl, hitems⟩

theorem readTransition?_eq_some_iff {t : Transition} :
    readTransition? v = some t ↔ Convention.reading.SaysTransition v t := by
  simp only [readTransition?, bind, Option.bind_eq_some_iff, fields?_eq_some_iff]
  constructor
  · rintro ⟨values, hrecord, h⟩
    split at h
    next condition target =>
      simp only [Option.bind_eq_some_iff, required?_string?_eq_some_iff, pure, Option.some.injEq] at h
      obtain ⟨_, rfl, _, rfl, rfl⟩ := h
      exact hrecord
    next => cases h
  · intro h
    exact ⟨_, h, rfl⟩

theorem readState?_eq_some_iff {s : StateDescription} :
    readState? v = some s ↔ Convention.reading.SaysState v s := by
  simp only [readState?, bind, Option.bind_eq_some_iff, fields?_eq_some_iff]
  constructor
  · rintro ⟨values, hrecord, h⟩
    split at h
    next =>
      simp only [Option.bind_eq_some_iff, required?_string?_eq_some_iff, optional?_string?_eq_some_iff,
        required?_readList?_eq_some_iff, readTransition?_eq_some_iff, pure, Option.some.injEq] at h
      obtain ⟨_, rfl, _, henter, _, hleave, _, ⟨ts, rfl, hts⟩, rfl⟩ := h
      exact ⟨_, _, ts, hrecord, henter, hleave, hts⟩
    next => cases h
  · rintro ⟨onEnter, onLeave, ts, hrecord, henter, hleave, hts⟩
    refine ⟨_, hrecord, ?_⟩
    simp only [Option.bind_eq_some_iff, required?_string?_eq_some_iff, optional?_string?_eq_some_iff,
      required?_readList?_eq_some_iff, readTransition?_eq_some_iff, pure, Option.some.injEq]
    exact ⟨_, rfl, _, henter, _, hleave, _, ⟨ts, rfl, hts⟩, rfl⟩

theorem ofJson?_eq_some_iff {d : Description} : ofJson? v = some d ↔ Convention.reading.Says v d := by
  simp only [ofJson?, bind, Option.bind_eq_some_iff, fields?_eq_some_iff]
  constructor
  · rintro ⟨values, hrecord, h⟩
    split at h
    next =>
      simp only [Option.bind_eq_some_iff, required?_string?_eq_some_iff,
        required?_readList?_eq_some_iff, readState?_eq_some_iff, pure, Option.some.injEq] at h
      obtain ⟨_, rfl, _, rfl, _, rfl, _, ⟨states, rfl, hstates⟩, rfl⟩ := h
      exact ⟨states, hrecord, hstates⟩
    next => cases h
  · rintro ⟨states, hrecord, hstates⟩
    refine ⟨_, hrecord, ?_⟩
    simp only [Option.bind_eq_some_iff, required?_string?_eq_some_iff,
      required?_readList?_eq_some_iff, readState?_eq_some_iff, pure, Option.some.injEq]
    exact ⟨_, rfl, _, rfl, _, rfl, _, ⟨states, rfl, hstates⟩, rfl⟩

end Reading

section Writing

open Convention (writing)

def transitionFields (t : Transition) : List (String × Option Json) :=
  [("condition", some (.string t.condition)), ("target", some (.string t.target))]

def stateFields (s : StateDescription) : List (String × Option Json) :=
  [("name", some (.string s.name)), ("on_enter", s.onEnter.map .string),
    ("on_leave", s.onLeave.map .string),
    ("transitions", some (.array (s.transitions.map transitionToJson)))]

def fields (d : Description) : List (String × Option Json) :=
  [("initial", some (.string d.initial)), ("current", some (.string d.current)),
    ("checksum", some (.string d.checksum)), ("states", some (.array (d.states.map stateToJson)))]

variable (t : Transition) (s : StateDescription) (d : Description)

theorem transitionToJson_eq : transitionToJson t = .object (Json.given (transitionFields t)) := rfl

theorem stateToJson_eq : stateToJson s = .object (Json.given (stateFields s)) := by
  obtain ⟨name, _ | onEnter, _ | onLeave, ts⟩ := s <;> rfl

theorem toJson_eq : d.toJson = .object (Json.given d.fields) := rfl

theorem forall₂_map {α β : Type} {R : β → α → Prop} {f : α → β} (h : ∀ x, R (f x) x) (xs : List α) :
    List.Forall₂ R (xs.map f) xs := by
  rw [List.forall₂_map_left_iff, List.forall₂_same]
  exact fun x _ => h x

theorem saysTransition_transitionToJson : writing.SaysTransition (transitionToJson t) t := by
  have hkeys : ((transitionFields t).map Prod.fst).Nodup := by
    simp [transitionFields]
  exact Json.isRecord_given hkeys

theorem saysState_stateToJson : writing.SaysState (stateToJson s) s := by
  have hkeys : ((stateFields s).map Prod.fst).Nodup := by
    simp [stateFields]
  rw [stateToJson_eq]
  exact ⟨_, _, _, Json.isRecord_given hkeys, rfl, rfl,
    forall₂_map saysTransition_transitionToJson s.transitions⟩

theorem says_toJson : writing.Says d.toJson d := by
  have hkeys : (d.fields.map Prod.fst).Nodup := by
    simp [fields]
  exact ⟨_, Json.isRecord_given hkeys, forall₂_map saysState_stateToJson d.states⟩

theorem ofJson?_toJson : ofJson? d.toJson = some d :=
  ofJson?_eq_some_iff.mpr (says_toJson d).reads

theorem not_occurs_null_transitionToJson : ¬ Json.Occurs .null (transitionToJson t) := by
  rw [transitionToJson_eq]
  refine Json.not_occurs_null_given ?_
  simp [transitionFields, Json.not_occurs_null_string]

theorem not_occurs_null_stateToJson : ¬ Json.Occurs .null (stateToJson s) := by
  have hts : ¬ Json.Occurs .null (.array (s.transitions.map transitionToJson)) :=
    Json.not_occurs_null_array (by simp [not_occurs_null_transitionToJson])
  rw [stateToJson_eq]
  refine Json.not_occurs_null_given ?_
  simp [stateFields, Json.not_occurs_null_string, hts]

theorem not_occurs_null_toJson : ¬ Json.Occurs .null d.toJson := by
  have hstates : ¬ Json.Occurs .null (.array (d.states.map stateToJson)) :=
    Json.not_occurs_null_array (by simp [not_occurs_null_stateToJson])
  rw [toJson_eq]
  refine Json.not_occurs_null_given ?_
  simp [fields, Json.not_occurs_null_string, hstates]

end Writing

/-- A value is read if and only if it says a description in one of the ways there are, and what is written
is read back. To write what has been read gives a value that stays as it is from then on: its records are
objects of their own fields, a hook is there if and only if there is one, and nothing is null. -/
theorem json_round_trip :
    (∀ v d, ofJson? v = some d ↔ Convention.reading.Says v d) ∧
      (∀ d, ofJson? (toJson d) = some d) ∧
      (∀ m : Machine, ofJson? m.describe.toJson = some m.describe) ∧
      (∀ v w, (ofJson? v).map toJson = some w →
        ofJson? w = ofJson? v ∧ (ofJson? w).map toJson = some w) ∧
      ∀ d, Convention.writing.Says (toJson d) d ∧ ¬ Json.Occurs .null (toJson d) := by
  refine ⟨fun v d => ofJson?_eq_some_iff, ofJson?_toJson, fun m => ofJson?_toJson m.describe,
    fun v w h => ?_, fun d => ⟨says_toJson d, not_occurs_null_toJson d⟩⟩
  obtain ⟨d, hv, rfl⟩ := Option.map_eq_some_iff.mp h
  have hw := ofJson?_toJson d
  exact ⟨by rw [hw, hv], by rw [hw, Option.map_some]⟩

/-- Records as arrays and as objects, a hook that is null and one that is not there, and members of no
field come to the one value that is written for them. -/
theorem json_round_trip_mixed :
    let v : Json := .array [.string "A", .string "B", .string "7", .array [
      .object [("note", .null), ("transitions", .array [.array [.string "GO", .string "B"]]),
        ("on_enter", .null), ("name", .string "A")],
      .array [.string "B", .null, .string "LeaveB", .array []]]]
    let w : Json := .object [("initial", .string "A"), ("current", .string "B"),
      ("checksum", .string "7"), ("states", .array [
        .object [("name", .string "A"), ("transitions",
          .array [.object [("condition", .string "GO"), ("target", .string "B")]])],
        .object [("name", .string "B"), ("on_leave", .string "LeaveB"), ("transitions", .array [])]])]
    (ofJson? v).map toJson = some w ∧ ofJson? w = ofJson? v ∧ (ofJson? w).map toJson = some w ∧
      ¬ Json.Occurs .null w := by
  intro v w
  obtain ⟨-, -, -, hwritten, hshape⟩ := json_round_trip
  have h : (ofJson? v).map toJson = some w := rfl
  obtain ⟨d, -, hd⟩ := Option.map_eq_some_iff.mp h
  obtain ⟨hsame, hfixed⟩ := hwritten v w h
  exact ⟨h, hsame, hfixed, hd ▸ (hshape d).2⟩

end Description

end Workflow
