import Mathlib.Data.List.Forall2
import Workflow.Json

/-! Records as JSON: what the fields of a record are in a value, and the members that are written for
them. -/

namespace Workflow

section Keys

variable {α : Type} {members : List (String × α)} {key : String}

theorem forall_key_ne_iff : (∀ m ∈ members, ¬ m.1 = key) ↔ key ∉ members.map Prod.fst := by
  simp only [List.mem_map, not_exists, not_and]

theorem filter_key_eq_nil_iff :
    (members.filter fun m => m.1 == key) = [] ↔ key ∉ members.map Prod.fst := by
  simp only [List.filter_eq_nil_iff, beq_iff_eq, forall_key_ne_iff]

theorem filter_key_eq_singleton_iff {m : String × α} :
    (members.filter fun m => m.1 == key) = [m] ↔ ∃ before after, members = before ++ m :: after ∧
      key ∉ before.map Prod.fst ∧ m.1 = key ∧ key ∉ after.map Prod.fst := by
  simp only [List.filter_eq_cons_iff, beq_iff_eq, forall_key_ne_iff, filter_key_eq_nil_iff]

end Keys

namespace Json

/-- The first value is the second one, or stands somewhere in it. -/
inductive Occurs (v : Json) : Json → Prop
  | self : Occurs v v
  | item {items : List Json} {w : Json} (hw : w ∈ items) (h : Occurs v w) : Occurs v (array items)
  | member {members : List (String × Json)} {key : String} {w : Json} (hw : (key, w) ∈ members)
      (h : Occurs v w) : Occurs v (object members)

/-- The key is absent, or it is there once and has the value. -/
inductive Holds (members : List (String × Json)) (key : String) : Option Json → Prop
  | absent (h : key ∉ members.map Prod.fst) : Holds members key none
  | present {before after : List (String × Json)} {value : Json}
      (hmembers : members = before ++ (key, value) :: after) (hbefore : key ∉ before.map Prod.fst)
      (hafter : key ∉ after.map Prod.fst) : Holds members key (some value)

/-- The fields of a record, each with its value if it has one: an object, where further members do not
matter, or an array of exactly the fields. -/
inductive Shows (keys : List String) : Json → List (Option Json) → Prop
  | object {members : List (String × Json)} {fields : List (Option Json)}
      (h : List.Forall₂ (Holds members) keys fields) : Shows keys (object members) fields
  | array {items : List Json} (h : items.length = keys.length) :
      Shows keys (array items) (items.map some)

structure IsRecord (keys : List String) (v : Json) (fields : List (Option Json)) : Prop where
  exists_members : ∃ members, v = object members ∧ List.Forall₂ (Holds members) keys fields ∧
    (members.map Prod.fst).Sublist keys

def given (fields : List (String × Option Json)) : List (String × Json) :=
  fields.filterMap fun field => field.2.map (field.1, ·)

section Fields

variable {members : List (String × Json)} {fields : List (String × Option Json)} {key : String}
  {keys : List String} {values : List (Option Json)} {v : Json}

theorem member?_eq_some_iff {value : Option Json} :
    member? members key = some value ↔ Holds members key value := by
  constructor
  · intro h
    rw [member?] at h
    split at h
    next hnone =>
      obtain rfl := Option.some.inj h
      exact .absent (filter_key_eq_nil_iff.mp hnone)
    next m hone =>
      obtain rfl := Option.some.inj h
      obtain ⟨before, after, hmembers, hbefore, rfl, hafter⟩ := filter_key_eq_singleton_iff.mp hone
      exact .present hmembers hbefore hafter
    next => cases h
  · intro h
    cases h with
    | absent h => rw [member?, filter_key_eq_nil_iff.mpr h]
    | present hmembers hbefore hafter =>
      rw [member?, filter_key_eq_singleton_iff.mpr ⟨_, _, hmembers, hbefore, rfl, hafter⟩]

theorem given_cons (field : String × Option Json) :
    given (field :: fields) = (field.2.map (field.1, ·)).toList ++ given fields := by
  obtain ⟨key, _ | value⟩ := field <;> rfl

theorem keys_given_sublist : ((given fields).map Prod.fst).Sublist (fields.map Prod.fst) := by
  induction fields with
  | nil => exact .refl []
  | cons field fields ih =>
    obtain ⟨key, _ | value⟩ := field
    · exact ih.cons key
    · exact ih.cons_cons key

theorem holds_given (h : (fields.map Prod.fst).Nodup) {field : String × Option Json}
    (hfield : field ∈ fields) : Holds (given fields) field.1 field.2 := by
  obtain ⟨before, after, rfl⟩ := List.append_of_mem hfield
  have hkey : field.1 ∉ before.map Prod.fst ++ after.map Prod.fst := by
    rw [List.map_append, List.map_cons, List.perm_middle.nodup_iff, List.nodup_cons] at h
    exact h.1
  have hkey : field.1 ∉ (given before).map Prod.fst ++ (given after).map Prod.fst := fun hmem =>
    hkey ((keys_given_sublist.append keys_given_sublist).subset hmem)
  have hsplit : given (before ++ field :: after) =
      given before ++ ((field.2.map (field.1, ·)).toList ++ given after) := by
    rw [← given_cons]
    exact List.filterMap_append
  rw [hsplit]
  obtain ⟨key, _ | value⟩ := field
  · exact .absent (by simpa using hkey)
  · rw [List.mem_append, not_or] at hkey
    exact .present rfl hkey.1 hkey.2

theorem isRecord_given (h : (fields.map Prod.fst).Nodup) :
    IsRecord (fields.map Prod.fst) (object (given fields)) (fields.map Prod.snd) := by
  refine ⟨given fields, rfl, ?_, keys_given_sublist⟩
  rw [List.forall₂_map_left_iff, List.forall₂_map_right_iff, List.forall₂_same]
  exact fun field hfield => holds_given h hfield

theorem IsRecord.shows (h : IsRecord keys v values) : Shows keys v values := by
  obtain ⟨members, rfl, hvalues, -⟩ := h.exists_members
  exact .object hvalues

end Fields

section Null

theorem not_occurs_null_string (s : String) : ¬ Occurs null (string s) := nofun

theorem not_occurs_null_array {items : List Json} (h : ∀ item ∈ items, ¬ Occurs null item) :
    ¬ Occurs null (array items) := by
  intro hnull
  cases hnull with
  | item hitem hnull => exact h _ hitem hnull

theorem not_occurs_null_given {fields : List (String × Option Json)}
    (h : ∀ field ∈ fields, ∀ value ∈ field.2, ¬ Occurs null value) :
    ¬ Occurs null (object (given fields)) := by
  intro hnull
  cases hnull with
  | member hmember hnull =>
    obtain ⟨field, hfield, hgiven⟩ := List.mem_filterMap.mp hmember
    obtain ⟨value, hvalue, hsame⟩ := Option.map_eq_some_iff.mp hgiven
    cases hsame
    exact h field hfield _ hvalue hnull

end Null

end Json

end Workflow
