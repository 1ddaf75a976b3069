import Mathlib.Data.List.Forall2
import Mathlib.Data.List.Nodup
import Workflow.Proofs.Bindings
import Workflow.StateGraph

/-! Outlines: every declaration has its state at its own position, found by its name, with the hooks
it names. -/

namespace Workflow

namespace NameIndex

def Exact (index : NameIndex) (names : List String) : Prop :=
  ∀ (name : String) (id : Nat), index.get? name = some id ↔ names[id]? = some name

variable {index : NameIndex} {names : List String} {name : String}

theorem exact_empty : ({} : NameIndex).Exact [] := by
  simp [Exact, get?]

theorem Exact.contains_iff (h : index.Exact names) : index.contains name = true ↔ name ∈ names := by
  rw [contains, Option.isSome_iff_exists, List.mem_iff_getElem?]
  exact exists_congr fun id => h name id

theorem Exact.nodup (h : index.Exact names) : names.Nodup := by
  refine List.pairwise_iff_getElem.mpr fun i j hi hj hij heq => ?_
  have hi' := (h names[i] i).mpr (List.getElem?_eq_getElem hi)
  have hj' := (h names[i] j).mpr (heq ▸ List.getElem?_eq_getElem hj)
  have hsame : i = j := Option.some.inj (hi'.symm.trans hj')
  omega

theorem Exact.insert (h : index.Exact names) (hnew : name ∉ names) :
    (index.insert name names.length).Exact (names ++ [name]) := by
  intro other id
  rw [get?_insert, List.getElem?_append]
  by_cases hother : other = name
  · subst hother
    rw [if_pos rfl, Option.some.injEq]
    change names.length = id ↔ _
    split
    · rename_i hid
      have hne : names.length ≠ id := by omega
      exact iff_of_false hne fun hget => hnew (List.mem_of_getElem? hget)
    · rw [List.getElem?_singleton]
      split <;> simp <;> omega
  · rw [if_neg hother, h other id]
    split
    · rfl
    · rename_i hid
      have hout : names[id]? = none := List.getElem?_eq_none (by omega)
      rw [hout, List.getElem?_singleton]
      split <;> simp [Ne.symm hother]

end NameIndex

namespace Bindings

def Binds (bindings : Bindings) (method : Option String) (hook : Option BoundHook) : Prop :=
  hook.map BoundHook.name = method ∧ ∀ b ∈ hook, bindings.get? b.name = some b

theorem bindHook_eq_ok_iff {bindings : Bindings} {state : String} {method : Option String}
    {hook : Option BoundHook} :
    Outline.bindHook bindings state method = .ok hook ↔ bindings.Binds method hook := by
  cases method with
  | none => cases hook <;> simp [Outline.bindHook, Binds]
  | some method =>
    simp only [Outline.bindHook]
    cases hget : bindings.get? method with
    | none =>
      simp only [reduceCtorEq, false_iff, Binds, not_and]
      intro hname hbound
      obtain ⟨b, rfl, hb⟩ := Option.map_eq_some_iff.mp hname
      simp [hb, hget] at hbound
    | some b =>
      simp only [Except.ok.injEq, Binds]
      constructor
      · rintro rfl
        simp [name_of_get? hget, hget]
      · rintro ⟨hname, hbound⟩
        obtain ⟨b', rfl, hb'⟩ := Option.map_eq_some_iff.mp hname
        have := hbound b' rfl
        rw [hb', hget] at this
        exact this

theorem Binds.eq_bind {bindings : Bindings} {method : Option String} {hook : Option BoundHook}
    (h : bindings.Binds method hook) : hook = method.bind bindings.get? := by
  obtain ⟨hname, hbound⟩ := h
  cases hook with
  | none => rw [← hname, Option.map_none, Option.bind_none]
  | some b => rw [← hname, Option.map_some, Option.bind_some, hbound b rfl]

theorem exists_binds_iff {bindings : Bindings} {method : Option String} :
    (∃ hook, bindings.Binds method hook) ↔
      ∀ name ∈ method, name ∈ bindings.hooks.map BoundHook.name := by
  cases method with
  | none => exact ⟨fun _ => by simp, fun _ => ⟨none, by simp [Binds]⟩⟩
  | some method =>
    simp only [Option.mem_some_iff, forall_eq']
    rw [← Decidable.not_not (p := method ∈ _), ← get?_eq_none_iff]
    constructor
    · rintro ⟨hook, hname, hbound⟩
      obtain ⟨b, rfl, rfl⟩ := Option.map_eq_some_iff.mp hname
      simp [hbound b rfl]
    · intro hsome
      obtain ⟨b, hb⟩ := Option.ne_none_iff_exists'.mp hsome
      refine ⟨some b, by simp [name_of_get? hb], ?_⟩
      simp [name_of_get? hb, hb]

end Bindings

namespace State

structure Outlines (bindings : Bindings) (d : Declaration) (s : State) : Prop where
  name : s.name = d.name
  onEnter : bindings.Binds d.onEnter s.onEnter
  onLeave : bindings.Binds d.onLeave s.onLeave

end State

namespace Outline

/-- The outline consists of the states of the declarations, in their order. -/
structure Draws (bindings : Bindings) (ds : List Declaration) (o : Outline) : Prop where
  exact : o.index.Exact (ds.map Declaration.name)
  ids : o.states.map State.id = List.range ds.length
  states : List.Forall₂ (State.Outlines bindings) ds o.states
  blank : ∀ s ∈ o.states, s.transitions = {}

variable {bindings : Bindings} {ds rest : List Declaration} {d : Declaration} {o o' : Outline}
  {onEnter onLeave : Option BoundHook}

theorem draws_empty (bindings : Bindings) : ({} : Outline).Draws bindings [] where
  exact := NameIndex.exact_empty
  ids := rfl
  states := .nil
  blank := by simp

theorem Draws.add (h : o.Draws bindings ds) (hnew : o.index.contains d.name = false)
    (henter : bindings.Binds d.onEnter onEnter) (hleave : bindings.Binds d.onLeave onLeave) :
    (o.add d.name onEnter onLeave).Draws bindings (ds ++ [d]) := by
  have hnext : o.next = ds.length := h.states.length_eq.symm
  have hnot : d.name ∉ ds.map Declaration.name := fun hmem =>
    Bool.eq_false_iff.mp hnew (h.exact.contains_iff.mpr hmem)
  refine ⟨?_, ?_, ?_, ?_⟩
  · have hexact := h.exact.insert hnot
    rw [List.length_map, ← hnext] at hexact
    simpa [Outline.add] using hexact
  · rw [List.length_append, List.length_singleton, List.range_succ, ← h.ids, Outline.add, hnext]
    simp
  · exact List.rel_append h.states (.cons ⟨rfl, henter, hleave⟩ .nil)
  · intro s hs
    rcases List.mem_append.mp hs with hs | hs
    · exact h.blank s hs
    · exact List.mem_singleton.mp hs ▸ rfl

theorem draws_extend (h : o.Draws bindings ds) (hextend : o.extend bindings rest = .ok o') :
    o'.Draws bindings (ds ++ rest) := by
  induction rest generalizing ds o with
  | nil =>
    cases hextend
    simpa using h
  | cons d rest ih =>
    simp only [extend] at hextend
    split at hextend
    · simp at hextend
    · rename_i hnew
      split at hextend
      · simp at hextend
      · simp at hextend
      · rename_i henter hleave
        have hadd := h.add (by simpa using hnew) (Bindings.bindHook_eq_ok_iff.mp henter)
          (Bindings.bindHook_eq_ok_iff.mp hleave)
        simpa using ih hadd hextend

theorem exists_extend_eq_ok (h : o.Draws bindings ds)
    (hnames : ((ds ++ rest).map Declaration.name).Nodup)
    (hhooks : ∀ d ∈ rest, ∀ hook ∈ d.hooks, hook ∈ bindings.hooks.map BoundHook.name) :
    ∃ o', o.extend bindings rest = .ok o' := by
  induction rest generalizing ds o with
  | nil => exact ⟨o, rfl⟩
  | cons d rest ih =>
    have hnot : d.name ∉ ds.map Declaration.name := by
      rw [List.map_append, List.nodup_append] at hnames
      exact fun hmem => hnames.2.2 d.name hmem d.name (by simp) rfl
    have hnew : o.index.contains d.name = false :=
      Bool.eq_false_iff.mpr fun hmem => hnot (h.exact.contains_iff.mp hmem)
    obtain ⟨onEnter, henter⟩ := Bindings.exists_binds_iff.mpr fun hook hmem =>
      hhooks d List.mem_cons_self hook (List.mem_append_left _ (Option.mem_toList.mpr hmem))
    obtain ⟨onLeave, hleave⟩ := Bindings.exists_binds_iff.mpr fun hook hmem =>
      hhooks d List.mem_cons_self hook (List.mem_append_right _ (Option.mem_toList.mpr hmem))
    have hadd := h.add hnew henter hleave
    obtain ⟨o', ho'⟩ := ih hadd (by simpa using hnames)
      fun x hx => hhooks x (List.mem_cons_of_mem d hx)
    refine ⟨o', ?_⟩
    rw [extend, Bindings.bindHook_eq_ok_iff.mpr henter, Bindings.bindHook_eq_ok_iff.mpr hleave]
    simpa [hnew] using ho'

end Outline

end Workflow
