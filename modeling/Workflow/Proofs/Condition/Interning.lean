import Mathlib.Data.List.Basic
import Workflow.Hook

/-! Interning over time. What a registry gives for a name it gives for good, whatever is interned
afterwards, here or in other registries. -/

namespace Workflow

namespace Registry

variable {r : Registry} {name other : String} {slot : Nat}

theorem slot?_append (h : r.slot? other = some slot) (rest : List String) :
    (⟨r.names ++ rest⟩ : Registry).slot? other = some slot := by
  obtain ⟨hslot, hget, hfirst⟩ := List.idxOf?_eq_some_iff.mp h
  refine List.idxOf?_eq_some_iff.mpr ⟨by rw [List.length_append]; omega, ?_, fun j hj => ?_⟩
  · rw [List.getElem_append_left hslot, hget]
  · rw [List.getElem_append_left (by omega)]
    exact hfirst j hj

theorem slot?_intern_self (r : Registry) (name : String) :
    (r.intern name).2.slot? name = some (r.intern name).1 := by
  unfold intern
  split
  · assumption
  · rename_i hnone
    have hnew : name ∉ r.names := List.idxOf?_eq_none_iff.mp hnone
    refine List.idxOf?_eq_some_iff.mpr ⟨by simp [size], by simp [size], fun j hj hname => hnew ?_⟩
    have hj : j < r.names.length := hj
    rw [List.getElem_append_left hj] at hname
    exact hname ▸ List.getElem_mem hj

theorem slot?_intern (h : r.slot? other = some slot) (name : String) :
    (r.intern name).2.slot? other = some slot := by
  unfold intern
  split
  · exact h
  · exact slot?_append h _

theorem eq_of_slot?_eq (h : r.slot? name = some slot) (h' : r.slot? other = some slot) :
    name = other := by
  obtain ⟨hslot, hname, -⟩ := List.idxOf?_eq_some_iff.mp h
  obtain ⟨hslot', hother, -⟩ := List.idxOf?_eq_some_iff.mp h'
  exact hname.symm.trans hother

end Registry

namespace Registries

theorem get_put_self (rs : Registries) (id : RegistryId) (table : Registry) :
    (rs.put id table).get id = table := by
  have hlength : id.index < (rs.tables.rightpad (id.index + 1) Registry.fresh).length := by
    simp only [List.rightpad, List.length_append, List.length_replicate]
    omega
  rw [get, put, List.getD_eq_getElem?_getD, List.getElem?_set_self hlength, Option.getD_some]

theorem get_put_of_ne (rs : Registries) {id id' : RegistryId} (table : Registry) (h : id ≠ id') :
    (rs.put id table).get id' = rs.get id' := by
  have hindex : id.index ≠ id'.index := fun hi => h (by cases id; cases id'; simp_all)
  simp only [get, put, List.getD_eq_getElem?_getD, List.getElem?_set_ne hindex, List.rightpad]
  by_cases hold : id'.index < rs.tables.length
  · rw [List.getElem?_append_left hold]
  · rw [List.getElem?_append_right (by omega), List.getElem?_eq_none (by omega : _ ≤ id'.index)]
    by_cases hpad : id'.index - rs.tables.length < id.index + 1 - rs.tables.length
    · simp [hpad]
    · rw [List.getElem?_eq_none (by simpa using hpad)]

/-- Every handle of `rs` is still the handle of its name in `rs'`. -/
def Extends (rs rs' : Registries) : Prop :=
  ∀ id name c, rs.lookup? id name = some c → rs'.lookup? id name = some c

namespace Extends

theorem refl (rs : Registries) : rs.Extends rs := fun _ _ _ h => h

theorem trans {rs rs' rs'' : Registries} (h : rs.Extends rs') (h' : rs'.Extends rs'') :
    rs.Extends rs'' := fun id name c hc => h' id name c (h id name c hc)

end Extends

theorem lookup?_intern_self (rs : Registries) (id : RegistryId) (name : String) :
    (rs.intern id name).2.lookup? id name = some (rs.intern id name).1 := by
  simp only [lookup?, intern, get_put_self, Registry.slot?_intern_self, Option.map_some]

theorem extends_intern (rs : Registries) (id : RegistryId) (name : String) :
    rs.Extends (rs.intern id name).2 := by
  intro id' other c h
  obtain ⟨slot, hslot, rfl⟩ := Option.map_eq_some_iff.mp h
  refine Option.map_eq_some_iff.mpr ⟨slot, ?_, rfl⟩
  by_cases hid : id = id'
  · subst hid
    simpa only [intern, get_put_self] using Registry.slot?_intern hslot name
  · simpa only [intern, get_put_of_ne rs _ hid] using hslot

/-- The condition is what its own name gives in the registry. -/
def Canonical (rs : Registries) (id : RegistryId) (c : Condition) : Prop :=
  rs.lookup? id c.name = some c

theorem Canonical.mono {rs rs' : Registries} {id : RegistryId} {c : Condition}
    (h : rs.Canonical id c) (hrs : rs.Extends rs') : rs'.Canonical id c := hrs _ _ _ h

theorem canonical_intern (rs : Registries) (id : RegistryId) (name : String) :
    (rs.intern id name).2.Canonical id (rs.intern id name).1 := lookup?_intern_self rs id name

theorem Canonical.equal_iff {rs : Registries} {id : RegistryId} {a b : Condition}
    (ha : rs.Canonical id a) (hb : rs.Canonical id b) : a.equal b = true ↔ a.name = b.name := by
  obtain ⟨slot, hslot, ha⟩ := Option.map_eq_some_iff.mp ha
  obtain ⟨slot', hslot', hb⟩ := Option.map_eq_some_iff.mp hb
  simp only [Condition.equal, Bool.or_eq_true, beq_iff_eq]
  refine ⟨fun h => h.elim (fun hentry => ?_) fun hname => hname, .inr⟩
  have hsame : a.slot = b.slot := by
    simp only [Condition.sameEntry, Bool.and_eq_true, beq_iff_eq] at hentry
    exact hentry.2
  rw [← ha, ← hb] at hsame
  have hsame : slot = slot' := hsame
  exact Registry.eq_of_slot?_eq hslot (hsame ▸ hslot')

end Registries

namespace Effect

theorem extends_perform (rs : Registries) (e : Effect) : rs.Extends (e.perform rs) := by
  cases e with
  | write line => exact .refl rs
  | intern label name =>
    simp only [perform]
    split
    · exact rs.extends_intern _ name
    · exact .refl rs

theorem extends_foldl_perform (rs : Registries) (es : List Effect) :
    rs.Extends (es.foldl perform rs) := by
  induction es generalizing rs with
  | nil => exact .refl rs
  | cons e es ih => exact (e.extends_perform rs).trans (ih _)

end Effect

namespace BoundHook

theorem extends_callAll (rs : Registries) (bs : List BoundHook) :
    rs.Extends (callAll bs rs).registries := by
  induction bs generalizing rs with
  | nil => exact .refl rs
  | cons b bs ih =>
    have hcall : rs.Extends (b.call rs).registries := Effect.extends_foldl_perform rs _
    simp only [callAll]
    split
    · exact hcall
    · exact hcall.trans (ih _)

end BoundHook

end Workflow
