import Mathlib.Data.List.Nodup
import Workflow.Proofs.Condition.Interning
import Workflow.Proofs.Condition.Map
import Workflow.TransitionTable

/-! Transition tables in which the two records of a transition, by condition and in order, are kept
in step. -/

namespace Workflow

namespace TransitionTable

/-- The conditions declared and the keys of the table are the same and of different names. All are of a
kind that names tell apart. -/
structure InStep (P : Condition → Prop) (t : TransitionTable) : Prop where
  equal_iff : ∀ a b, P a → P b → (a.equal b = true ↔ a.name = b.name)
  kind : ∀ c ∈ t.order, P c
  nodup : (t.order.map Condition.name).Nodup
  keys : t.targets.keys = t.order

structure Sound (rs : Registries) (registry : RegistryId) (t : TransitionTable) : Prop where
  canonical : ∀ c ∈ t.order, rs.Canonical registry c
  nodup : (t.order.map Condition.name).Nodup
  keys : t.targets.keys = t.order

def listing (t : TransitionTable) : List (String × Option StateId) :=
  t.entries.map fun e => (e.1.name, some e.2)

theorem get?_insertNew? {t t' : TransitionTable} {c : Condition} {target : StateId}
    (h : t.insertNew? c target = some t') (name : String) :
    t'.get? name = (t.get? name).or (if c.name = name then some target else none) := by
  rw [get?, ConditionMap.get?_eq_find?, entries_insertNew? h, List.find?_append, Option.map_or,
    ← ConditionMap.get?_eq_find?, List.find?_singleton]
  by_cases hname : c.name = name <;> simp [get?, hname]

theorem order_insertNew? {t t' : TransitionTable} {c : Condition} {target : StateId}
    (h : t.insertNew? c target = some t') : t'.order = t.order ++ [c] := by
  unfold insertNew? at h
  split at h
  · simp at h
  · cases h
    rfl

namespace InStep

variable {P : Condition → Prop} {t t' : TransitionTable} {c : Condition} {target : StateId}

theorem empty (hequal : ∀ a b, P a → P b → (a.equal b = true ↔ a.name = b.name)) :
    ({} : TransitionTable).InStep P where
  equal_iff := hequal
  kind := by simp
  nodup := by simp
  keys := rfl

theorem equal_iff_of_mem_keys (h : t.InStep P) (hc : P c) :
    ∀ k ∈ t.targets.keys, k.equal c = true ↔ k.name = c.name := fun k hk =>
  h.equal_iff k c (h.kind k (h.keys ▸ hk)) hc

theorem value?_of_mem (h : t.InStep P) {e : Condition × StateId} (he : e ∈ t.targets.entries) :
    t.targets.value? e.1 = some e.2 := by
  have hkey : P e.1 := h.kind e.1 (h.keys ▸ List.mem_map_of_mem he)
  have hnodup : (t.targets.entries.map fun x => x.1.name).Nodup := by
    have := h.nodup
    rwa [← h.keys, ConditionMap.keys, List.map_map] at this
  rw [ConditionMap.value?_eq_get? (h.equal_iff_of_mem_keys hkey), ConditionMap.get?_eq_find?,
    (find?_eq_some_iff_of_nodup hnodup).mpr ⟨he, rfl⟩, Option.map_some]

/-- No transition is lost when the conditions are looked up again. -/
theorem entries_eq (h : t.InStep P) : t.entries = t.targets.entries := by
  have hlookup : ∀ e ∈ t.targets.entries,
      ((t.targets.value? e.1).map fun target => (e.1, target)) = some e := fun e he => by
    rw [h.value?_of_mem he, Option.map_some]
  rw [entries, ← h.keys, ConditionMap.keys, List.filterMap_map]
  calc t.targets.entries.filterMap ((fun c => (t.targets.value? c).map (c, ·)) ∘ Prod.fst)
      = t.targets.entries.filterMap some := List.filterMap_congr hlookup
    _ = t.targets.entries := List.filterMap_some

theorem map_fst_entries (h : t.InStep P) : t.entries.map Prod.fst = t.order := by
  rw [h.entries_eq, ← h.keys, ConditionMap.keys]

theorem get?_eq_none_iff (h : t.InStep P) {name : String} :
    t.get? name = none ↔ name ∉ t.order.map Condition.name := by
  rw [get?, ConditionMap.get?_eq_none_iff, h.keys]

theorem insertNew?_eq_none_iff (h : t.InStep P) (hc : P c) :
    t.insertNew? c target = none ↔ c.name ∈ t.order.map Condition.name := by
  rw [← h.keys, ← ConditionMap.hasKey_iff (h.equal_iff_of_mem_keys hc), insertNew?]
  split <;> simp_all

theorem insertNew? (h : t.InStep P) (hc : P c) (hinsert : t.insertNew? c target = some t') :
    t'.InStep P := by
  have hnew : c.name ∉ t.order.map Condition.name := fun hmem => by
    rw [(h.insertNew?_eq_none_iff hc).mpr hmem] at hinsert
    simp at hinsert
  have horder := order_insertNew? hinsert
  refine ⟨h.equal_iff, fun x hx => ?_, ?_, ?_⟩
  · rcases List.mem_append.mp (horder ▸ hx) with hx | hx
    · exact h.kind x hx
    · exact List.mem_singleton.mp hx ▸ hc
  · rw [horder, List.map_append, List.nodup_append]
    refine ⟨h.nodup, by simp, fun a ha b hb => ?_⟩
    rw [List.map_singleton, List.mem_singleton] at hb
    exact fun hab => hnew (hb ▸ hab ▸ ha)
  · rw [ConditionMap.keys, entries_insertNew? hinsert, List.map_append, horder, ← h.keys]
    rfl

theorem entries_insertNew? (h : t.InStep P) (hc : P c) (hinsert : t.insertNew? c target = some t') :
    t'.entries = t.entries ++ [(c, target)] := by
  rw [(h.insertNew? hc hinsert).entries_eq, h.entries_eq, TransitionTable.entries_insertNew? hinsert]

end InStep

variable {rs rs' : Registries} {registry : RegistryId} {t t' : TransitionTable} {c : Condition}
  {target : StateId}

theorem sound_iff_inStep : t.Sound rs registry ↔ t.InStep (rs.Canonical registry) :=
  ⟨fun h => ⟨fun _ _ ha hb => ha.equal_iff hb, h.canonical, h.nodup, h.keys⟩,
    fun h => ⟨h.kind, h.nodup, h.keys⟩⟩

theorem sound_empty (rs : Registries) (registry : RegistryId) :
    ({} : TransitionTable).Sound rs registry :=
  sound_iff_inStep.mpr (.empty fun _ _ ha hb => ha.equal_iff hb)

namespace Sound

variable (h : t.Sound rs registry)
include h

theorem inStep : t.InStep (rs.Canonical registry) := sound_iff_inStep.mp h

theorem mono (hrs : rs.Extends rs') : t.Sound rs' registry where
  canonical c hc := (h.canonical c hc).mono hrs
  nodup := h.nodup
  keys := h.keys

theorem entries_eq : t.entries = t.targets.entries := h.inStep.entries_eq

theorem get?_eq_find? (name : String) :
    t.get? name = (t.listing.find? fun e => e.1 == name).bind Prod.snd := by
  simp only [listing, h.entries_eq, get?, ConditionMap.get?_eq_find?, List.find?_map, Option.bind_map,
    Function.comp_def]
  cases t.targets.entries.find? fun e => e.1.name == name <;> rfl

theorem map_name_order : t.order.map Condition.name = t.listing.map Prod.fst := by
  rw [listing, ← h.inStep.map_fst_entries, List.map_map, List.map_map]
  rfl

theorem insertNew?_eq_none_iff (hc : rs.Canonical registry c) :
    t.insertNew? c target = none ↔ c.name ∈ t.order.map Condition.name :=
  h.inStep.insertNew?_eq_none_iff hc

theorem sound_insertNew? (hc : rs.Canonical registry c)
    (hinsert : t.insertNew? c target = some t') : t'.Sound rs registry :=
  sound_iff_inStep.mpr (h.inStep.insertNew? hc hinsert)

theorem listing_insertNew? (hc : rs.Canonical registry c)
    (hinsert : t.insertNew? c target = some t') :
    t'.listing = t.listing ++ [(c.name, some target)] := by
  rw [listing, h.inStep.entries_insertNew? hc hinsert, List.map_append]
  rfl

end Sound

end TransitionTable

end Workflow
