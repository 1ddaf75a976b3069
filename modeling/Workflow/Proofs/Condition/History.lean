import Mathlib.Data.Finset.Card
import Workflow.Condition.Call
import Workflow.Proofs.Condition.Footprint

/-! Registries over time. What they hold is the default condition and what has been interned so far,
and a handle stays the handle of its registry and name. -/

namespace Workflow

namespace Registries

variable {rs rs' : Registries} {id : RegistryId} {name : String}

theorem get_initial (id : RegistryId) : ({} : Registries).get id = .fresh := by
  rw [get, List.getD_eq_getElem?_getD, List.getElem?_singleton]
  by_cases h : id.index = 0
  · simp [h]
  · simp [h]

theorem get_create (rs : Registries) (id : RegistryId) : rs.create.2.get id = rs.get id := by
  simp only [create, get, List.getD_eq_getElem?_getD, List.getElem?_append]
  by_cases h : id.index < rs.tables.length
  · rw [if_pos h]
  · have hnone : rs.tables[id.index]? = none := List.getElem?_eq_none (by omega)
    rw [if_neg h, hnone, List.getElem?_singleton]
    split <;> rfl

theorem extends_of_get_eq (h : ∀ id, rs'.get id = rs.get id) : rs.Extends rs' := by
  intro id name c hc
  rw [lookup?, h]
  exact hc

theorem exists_lookup?_iff :
    (∃ c, rs.lookup? id name = some c) ↔ (rs.get id).contains name = true := by
  have hslot : (rs.get id).slot? name ≠ none ↔ name ∈ (rs.get id).names := by
    rw [Ne, Registry.slot?, List.idxOf?_eq_none_iff, not_not]
  rw [Registry.contains_iff_mem, ← hslot, ← Option.ne_none_iff_exists', lookup?, Ne, Option.map_eq_none_iff]

@[simp] theorem follow_nil (rs : Registries) : rs.follow [] = rs := rfl

theorem follow_cons (rs : Registries) (call : Call) (calls : List Call) :
    rs.follow (call :: calls) = (call.perform rs).2.follow calls := rfl

theorem follow_append (rs : Registries) (calls calls' : List Call) :
    rs.follow (calls ++ calls') = (rs.follow calls).follow calls' := List.foldl_append

theorem follow_interns (rs : Registries) (requests : List (RegistryId × String)) :
    rs.follow (requests.map fun request => .intern request.1 request.2) = rs.internAll requests :=
  List.foldl_map

end Registries

namespace Call

theorem get_perform (rs : Registries) (call : Call) (id : RegistryId) :
    (call.perform rs).2.get id =
      match call.interned? id with
      | some name => ((rs.get id).intern name).2
      | none => rs.get id := by
  cases call with
  | create => exact rs.get_create id
  | label l id' => rfl
  | intern id' name =>
    simp only [perform, interned?, Registries.get_intern]
    by_cases h : id' = id
    · subst h
      simp only [if_true]
    · simp only [if_neg h]
  | lookup id' name => rfl
  | contains id' name => rfl
  | size id' => rfl

theorem extends_perform (rs : Registries) (call : Call) : rs.Extends (call.perform rs).2 := by
  cases call with
  | create => exact Registries.extends_of_get_eq rs.get_create
  | label l id => exact Registries.extends_of_get_eq fun _ => rfl
  | intern id name => exact rs.extends_intern id name
  | lookup id name => exact .refl rs
  | contains id name => exact .refl rs
  | size id => exact .refl rs

theorem perform_of_isQuery {call : Call} (h : call.isQuery = true) (rs : Registries) :
    (call.perform rs).2 = rs := by
  cases call <;> first | rfl | simp [isQuery] at h

/-- A handle that is given out is what its name gives from then on. -/
theorem lookup?_perform {call : Call} {id : RegistryId} {name : String} {c : Condition}
    {rs : Registries} (hasks : call.asks? = some (id, name))
    (hc : (call.perform rs).1 = .handle (some c)) :
    (call.perform rs).2.lookup? id name = some c := by
  cases call with
  | intern id' name' =>
    cases hasks
    have hhandle : (rs.intern id name).1 = c := by simpa [perform] using hc
    exact hhandle ▸ rs.lookup?_intern_self id name
  | lookup id' name' =>
    cases hasks
    simpa [perform] using hc
  | create => simp [asks?] at hasks
  | label l id' => simp [asks?] at hasks
  | contains id' name' => simp [asks?] at hasks
  | size id' => simp [asks?] at hasks

end Call

namespace Registries

variable {rs : Registries} {id : RegistryId} {name : String} {calls : List Call}

theorem extends_follow (rs : Registries) (calls : List Call) : rs.Extends (rs.follow calls) := by
  induction calls generalizing rs with
  | nil => exact .refl rs
  | cons call calls ih => exact (call.extends_perform rs).trans (ih _)

theorem mem_names_follow :
    name ∈ ((rs.follow calls).get id).names ↔
      name ∈ (rs.get id).names ∨ name ∈ calls.filterMap (Call.interned? id) := by
  induction calls generalizing rs with
  | nil => simp
  | cons call calls ih =>
    rw [follow_cons, ih, Call.get_perform]
    cases hcall : call.interned? id with
    | none => rw [List.filterMap_cons_none hcall]
    | some name' => rw [List.filterMap_cons_some hcall, Registry.mem_names_intern, List.mem_cons, or_assoc]

theorem nodup_names_follow (h : (rs.get id).names.Nodup) (calls : List Call) :
    ((rs.follow calls).get id).names.Nodup := by
  induction calls generalizing rs with
  | nil => exact h
  | cons call calls ih =>
    apply ih
    rw [Call.get_perform]
    cases call.interned? id with
    | none => exact h
    | some name => exact Registry.nodup_names_intern h name

theorem nodup_names_follow_initial (calls : List Call) (id : RegistryId) :
    ((({} : Registries).follow calls).get id).names.Nodup := by
  have hfresh : (({} : Registries).get id).names.Nodup := by
    rw [get_initial]
    exact List.nodup_singleton _
  exact nodup_names_follow hfresh calls

theorem mem_names_follow_initial :
    name ∈ ((({} : Registries).follow calls).get id).names ↔
      name ∈ Condition.defaultName :: calls.filterMap (Call.interned? id) := by
  rw [mem_names_follow, get_initial, List.mem_cons]
  exact or_congr_left List.mem_singleton

theorem length_put (rs : Registries) (id : RegistryId) (table : Registry) :
    (rs.put id table).tables.length = max (id.index + 1) rs.tables.length := by
  rw [put, List.length_set, List.rightpad, List.length_append, List.length_replicate]
  omega

theorem length_tables_follow (rs : Registries) (calls : List Call) :
    rs.tables.length ≤ (rs.follow calls).tables.length := by
  induction calls generalizing rs with
  | nil => exact Nat.le_refl _
  | cons call calls ih =>
    have hcall : rs.tables.length ≤ (call.perform rs).2.tables.length := by
      cases call with
      | create => simp [Call.perform, create]
      | intern id name => exact length_put rs id _ ▸ Nat.le_max_right _ _
      | label l id => exact Nat.le_refl _
      | lookup id name => exact Nat.le_refl _
      | contains id name => exact Nat.le_refl _
      | size id => exact Nat.le_refl _
    exact hcall.trans (ih _)

theorem index_lt_of_interned? {call : Call} (hcall : call ∈ calls)
    (hname : call.interned? id = some name) : id.index < (rs.follow calls).tables.length := by
  obtain ⟨before, rest, rfl⟩ := List.append_of_mem hcall
  have htable : id.index < (call.perform (rs.follow before)).2.tables.length := by
    cases call with
    | intern id' name' =>
      obtain ⟨rfl, -⟩ := Option.ite_none_right_eq_some.mp hname
      have hlength := length_put (rs.follow before) id' (((rs.follow before).get id').intern name').2
      exact hlength ▸ Nat.lt_of_lt_of_le (Nat.lt_succ_self _) (Nat.le_max_left _ _)
    | _ => simp [Call.interned?] at hname
  rw [follow_append, follow_cons]
  exact Nat.lt_of_lt_of_le htable (length_tables_follow _ rest)

theorem created_is_new (before : List Call) :
    ∃ id, (Call.create.perform (({} : Registries).follow before)).1 = .created id ∧ id ≠ .shared ∧
      (∀ earlier ∈ before, earlier.interned? id = none) ∧
      ∀ first middle, before = first ++ .create :: middle →
        (Call.create.perform (({} : Registries).follow first)).1 ≠ .created id := by
  refine ⟨_, rfl, ?_, fun earlier hearlier => ?_, ?_⟩
  · intro hshared
    have hlength : 1 ≤ (({} : Registries).follow before).tables.length := length_tables_follow {} before
    have hzero : (({} : Registries).follow before).tables.length = 0 := congrArg RegistryId.index hshared
    omega
  · refine Option.eq_none_iff_forall_not_mem.mpr fun name hname => ?_
    exact Nat.lt_irrefl _ (index_lt_of_interned? hearlier hname)
  · rintro first middle rfl hsame
    have hindex : (({} : Registries).follow first).tables.length =
        (({} : Registries).follow (first ++ .create :: middle)).tables.length := by
      simpa [Call.perform, create] using hsame
    have hlength := length_tables_follow (({} : Registries).follow first).create.2 middle
    rw [follow_append] at hindex
    have hcreated : (({} : Registries).follow first).create.2.tables.length =
        (({} : Registries).follow first).tables.length + 1 := by
      simp [create]
    have hafter : (({} : Registries).follow first).follow (.create :: middle) =
        (({} : Registries).follow first).create.2.follow middle := rfl
    rw [hafter] at hindex
    omega

/-- What registries hold after calls: the default condition and what these have interned. -/
structure Records (calls : List Call) (rs : Registries) : Prop where
  contains_default : ∀ id, (rs.get id).contains Condition.defaultName = true
  contains_iff : ∀ id name, (rs.get id).contains name = true ↔
    name = Condition.defaultName ∨ .intern id name ∈ calls
  lookup?_iff : ∀ id name, (∃ c, rs.lookup? id name = some c) ↔
    name = Condition.defaultName ∨ .intern id name ∈ calls
  size_eq : ∀ id, (rs.get id).size =
    (Condition.defaultName :: calls.filterMap (Call.interned? id)).toFinset.card

theorem mem_interned_iff :
    name ∈ calls.filterMap (Call.interned? id) ↔ .intern id name ∈ calls := by
  rw [List.mem_filterMap]
  constructor
  · rintro ⟨call, hcall, hname⟩
    cases call with
    | intern id' name' =>
      obtain ⟨rfl, hsame⟩ := Option.ite_none_right_eq_some.mp hname
      exact Option.some.inj hsame ▸ hcall
    | _ => simp [Call.interned?] at hname
  · intro h
    exact ⟨_, h, by simp [Call.interned?]⟩

theorem records_follow (calls : List Call) : Records calls (({} : Registries).follow calls) := by
  have hcontains : ∀ id name, ((({} : Registries).follow calls).get id).contains name = true ↔
      name = Condition.defaultName ∨ .intern id name ∈ calls := by
    intro id name
    rw [Registry.contains_iff_mem, mem_names_follow_initial, List.mem_cons, mem_interned_iff]
  refine ⟨fun id => (hcontains id _).mpr (.inl rfl), hcontains, fun id name => ?_, fun id => ?_⟩
  · rw [exists_lookup?_iff, hcontains]
  · have hsame : ((({} : Registries).follow calls).get id).names.toFinset =
        (Condition.defaultName :: calls.filterMap (Call.interned? id)).toFinset := by
      ext name
      rw [List.mem_toFinset, List.mem_toFinset, mem_names_follow_initial]
    rw [Registry.size, ← hsame, List.toFinset_card_of_nodup (nodup_names_follow_initial calls id)]

/-- One of the calls gives `c` for the name in the registry. -/
def Gives (calls : List Call) (id : RegistryId) (name : String) (c : Condition) : Prop :=
  ∃ before call rest, calls = before ++ call :: rest ∧ call.asks? = some (id, name) ∧
    (call.perform (({} : Registries).follow before)).1 = .handle (some c)

theorem lookup?_of_gives {c : Condition} (h : Gives calls id name c) :
    (({} : Registries).follow calls).lookup? id name = some c := by
  obtain ⟨before, call, rest, rfl, hentry, hc⟩ := h
  rw [follow_append, follow_cons]
  exact extends_follow _ rest _ _ _ (Call.lookup?_perform hentry hc)

theorem sameEntry_iff {id' : RegistryId} {name' : String} {c c' : Condition}
    (h : rs.lookup? id name = some c) (h' : rs.lookup? id' name' = some c') :
    c.sameEntry c' = true ↔ id = id' ∧ name = name' := by
  obtain ⟨slot, hslot, rfl⟩ := Option.map_eq_some_iff.mp h
  obtain ⟨slot', hslot', rfl⟩ := Option.map_eq_some_iff.mp h'
  simp only [Condition.sameEntry, Bool.and_eq_true, beq_iff_eq]
  constructor
  · rintro ⟨rfl, rfl⟩
    exact ⟨rfl, Registry.eq_of_slot?_eq hslot hslot'⟩
  · rintro ⟨rfl, rfl⟩
    exact ⟨rfl, Option.some.inj (hslot.symm.trans hslot')⟩

theorem equal_iff {id' : RegistryId} {name' : String} {c c' : Condition}
    (h : rs.lookup? id name = some c) (h' : rs.lookup? id' name' = some c') :
    c.equal c' = true ↔ name = name' := by
  have hsame := sameEntry_iff h h'
  obtain ⟨slot, -, rfl⟩ := Option.map_eq_some_iff.mp h
  obtain ⟨slot', -, rfl⟩ := Option.map_eq_some_iff.mp h'
  simp only [Condition.equal, Bool.or_eq_true, beq_iff_eq, hsame]
  exact ⟨fun h => h.elim And.right fun hname => hname, .inr⟩

theorem name_of_lookup? {c : Condition} (h : rs.lookup? id name = some c) :
    c.registry = id ∧ c.name = name := by
  obtain ⟨slot, -, rfl⟩ := Option.map_eq_some_iff.mp h
  exact ⟨rfl, rfl⟩

end Registries

end Workflow
