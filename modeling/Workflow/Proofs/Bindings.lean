import Mathlib.Data.List.Nodup
import Workflow.Hook

/-! Bindings hold every registration of the hosts, and hold a name once. -/

namespace Workflow

theorem Host.map_name_registrations (hosts : List Host) :
    (hosts.flatMap Host.registrations).map BoundHook.name = hosts.flatMap Host.hookNames := by
  rw [List.map_flatMap]
  refine congrArg (hosts.flatMap ·) (funext fun h => ?_)
  simp [registrations, hookNames, Function.comp_def]

namespace Bindings

variable {b b' : Bindings} {hook : BoundHook} {name : String}

theorem name_of_get? (h : b.get? name = some hook) : hook.name = name := by
  simpa using List.find?_some h

theorem mem_of_get? (h : b.get? name = some hook) : hook ∈ b.hooks := List.mem_of_find?_eq_some h

theorem get?_eq_none_iff : b.get? name = none ↔ name ∉ b.hooks.map BoundHook.name := by
  simp [get?]

theorem register_eq_ok_iff {hs : List BoundHook} :
    b.register hs = .ok b' ↔
      b' = ⟨b.hooks ++ hs⟩ ∧ (hs.map BoundHook.name).Nodup ∧ ∀ h ∈ hs, b.get? h.name = none := by
  induction hs generalizing b with
  | nil => simp [register, eq_comm]
  | cons h hs ih =>
    have hadd : ∀ x : BoundHook, (⟨b.hooks ++ [h]⟩ : Bindings).get? x.name = none ↔
        b.get? x.name = none ∧ x.name ≠ h.name := by
      intro x
      simp only [get?_eq_none_iff, List.map_append, List.mem_append, List.map_singleton,
        List.mem_singleton, not_or, ne_eq]
    simp only [register]
    split
    · rename_i first hfirst
      simp [hfirst]
    · rename_i hnone
      simp only [ih, hadd, List.append_assoc, List.singleton_append, List.map_cons,
        List.nodup_cons, List.forall_mem_cons, hnone, true_and, List.mem_map, not_exists, not_and]
      constructor
      · rintro ⟨hb, hnodup, hhs⟩
        exact ⟨hb, ⟨fun x hx => (hhs x hx).2, hnodup⟩, fun x hx => (hhs x hx).1⟩
      · rintro ⟨hb, ⟨hne, hnodup⟩, hhs⟩
        exact ⟨hb, hnodup, fun x hx => ⟨hhs x hx, hne x hx⟩⟩

theorem ofHosts_eq_ok_iff {hosts : List Host} :
    ofHosts hosts = .ok b ↔
      b = ⟨hosts.flatMap Host.registrations⟩ ∧ (hosts.flatMap Host.hookNames).Nodup := by
  rw [ofHosts, register_eq_ok_iff, Host.map_name_registrations]
  simp [get?]

end Bindings

end Workflow
