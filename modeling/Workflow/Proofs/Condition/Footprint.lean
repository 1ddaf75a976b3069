import Mathlib.Data.List.Nodup
import Workflow.Proofs.Condition.Interning
import Workflow.Proofs.Hooks

/-! Names interned one after the other. What registries hold in the end is what they held before and
what was asked for, each name once; hooks ask for the names they intern, up to the first hook that
fails. -/

namespace Workflow

namespace Registry

variable {r : Registry} {name other : String}

theorem contains_iff_mem : r.contains name = true ↔ name ∈ r.names := List.contains_iff_mem

theorem names_intern_of_mem (h : name ∈ r.names) : (r.intern name).2.names = r.names := by
  have hslot : r.slot? name ≠ none := fun hnone => List.idxOf?_eq_none_iff.mp hnone h
  obtain ⟨slot, hslot⟩ := Option.ne_none_iff_exists'.mp hslot
  simp only [intern, hslot]

theorem names_intern_of_not_mem (h : name ∉ r.names) :
    (r.intern name).2.names = r.names ++ [name] := by
  have hslot : r.slot? name = none := List.idxOf?_eq_none_iff.mpr h
  simp only [intern, hslot]

theorem mem_names_intern : other ∈ (r.intern name).2.names ↔ other ∈ r.names ∨ other = name := by
  by_cases h : name ∈ r.names
  · rw [names_intern_of_mem h]
    exact ⟨.inl, fun hother => hother.elim id fun heq => heq ▸ h⟩
  · rw [names_intern_of_not_mem h, List.mem_append, List.mem_singleton]

theorem names_prefix_intern (r : Registry) (name : String) : r.names <+: (r.intern name).2.names := by
  by_cases h : name ∈ r.names
  · exact (names_intern_of_mem h).symm ▸ List.prefix_refl r.names
  · rw [names_intern_of_not_mem h]
    exact List.prefix_append r.names [name]

theorem nodup_names_intern (h : r.names.Nodup) (name : String) : (r.intern name).2.names.Nodup := by
  by_cases hname : name ∈ r.names
  · rwa [names_intern_of_mem hname]
  · rw [names_intern_of_not_mem hname]
    exact List.nodup_append.mpr ⟨h, by simp, fun a ha b hb => by
      rw [List.mem_singleton.mp hb]
      exact fun hab => hname (hab ▸ ha)⟩

end Registry

namespace Registries

variable {rs rs' : Registries} {id : RegistryId} {name : String}
  {requests : List (RegistryId × String)}

theorem get_intern (rs : Registries) (id other : RegistryId) (name : String) :
    (rs.intern id name).2.get other =
      if id = other then ((rs.get id).intern name).2 else rs.get other := by
  by_cases h : id = other
  · subst h
    rw [if_pos rfl]
    exact get_put_self rs id _
  · rw [if_neg h]
    exact get_put_of_ne rs _ h

def internAll (rs : Registries) (requests : List (RegistryId × String)) : Registries :=
  requests.foldl (fun rs request => (rs.intern request.1 request.2).2) rs

@[simp] theorem internAll_nil (rs : Registries) : rs.internAll [] = rs := rfl

theorem internAll_cons (rs : Registries) (id : RegistryId) (name : String)
    (requests : List (RegistryId × String)) :
    rs.internAll ((id, name) :: requests) = (rs.intern id name).2.internAll requests := rfl

theorem internAll_append (rs : Registries) (requests requests' : List (RegistryId × String)) :
    rs.internAll (requests ++ requests') = (rs.internAll requests).internAll requests' :=
  List.foldl_append

@[simp] theorem labels_internAll (rs : Registries) (requests : List (RegistryId × String)) :
    (rs.internAll requests).labels = rs.labels := by
  induction requests generalizing rs with
  | nil => rfl
  | cons request requests ih => exact ih (rs.intern request.1 request.2).2

theorem extends_internAll (rs : Registries) (requests : List (RegistryId × String)) :
    rs.Extends (rs.internAll requests) := by
  induction requests generalizing rs with
  | nil => exact .refl rs
  | cons request requests ih => exact (rs.extends_intern request.1 request.2).trans (ih _)

theorem mem_names_internAll :
    name ∈ ((rs.internAll requests).get id).names ↔
      name ∈ (rs.get id).names ∨ (id, name) ∈ requests := by
  induction requests generalizing rs with
  | nil => simp
  | cons request requests ih =>
    obtain ⟨id', name'⟩ := request
    have hhead : name ∈ ((rs.intern id' name').2.get id).names ↔
        name ∈ (rs.get id).names ∨ (id, name) = (id', name') := by
      rw [get_intern, Prod.mk.injEq]
      by_cases hid : id' = id
      · subst hid
        rw [if_pos rfl, Registry.mem_names_intern, eq_self, true_and]
      · rw [if_neg hid]
        exact ⟨.inl, fun h => h.elim (fun h => h) fun h => absurd h.1.symm hid⟩
    rw [internAll_cons, ih, hhead, List.mem_cons, or_assoc]

theorem names_prefix_internAll (rs : Registries) (requests : List (RegistryId × String))
    (id : RegistryId) : (rs.get id).names <+: ((rs.internAll requests).get id).names := by
  induction requests generalizing rs with
  | nil => exact List.prefix_refl _
  | cons request requests ih =>
    have hhead : (rs.get id).names <+: ((rs.intern request.1 request.2).2.get id).names := by
      by_cases hid : request.1 = id
      · rw [get_intern, if_pos hid, hid]
        exact (rs.get id).names_prefix_intern request.2
      · have hsame : (rs.intern request.1 request.2).2.get id = rs.get id := by
          rw [get_intern, if_neg hid]
        exact hsame ▸ List.prefix_refl _
    exact hhead.trans (ih _)

theorem nodup_names_internAll (h : (rs.get id).names.Nodup) (requests : List (RegistryId × String)) :
    ((rs.internAll requests).get id).names.Nodup := by
  induction requests generalizing rs with
  | nil => exact h
  | cons request requests ih =>
    apply ih
    rw [get_intern]
    by_cases hid : request.1 = id
    · rw [if_pos hid, hid]
      exact Registry.nodup_names_intern h request.2
    · rwa [if_neg hid]

theorem get_internAll_of_ne (h : ∀ request ∈ requests, request.1 ≠ id) :
    (rs.internAll requests).get id = rs.get id := by
  induction requests generalizing rs with
  | nil => rfl
  | cons request requests ih =>
    obtain ⟨hne, hrest⟩ := List.forall_mem_cons.mp h
    have hhead : (rs.intern request.1 request.2).2.get id = rs.get id := by
      rw [get_intern, if_neg hne]
    exact (ih hrest).trans hhead

end Registries

namespace Effect

/-- The name that an effect interns, with the registry that has its label. -/
def request? (rs : Registries) : Effect → Option (RegistryId × String)
  | write _ => none
  | intern label name => (rs.labelled? label).map fun id => (id, name)

theorem request?_congr {rs rs' : Registries} (h : rs.labels = rs'.labels) : request? rs = request? rs' := by
  funext e
  cases e with
  | write line => rfl
  | intern label name => simp only [request?, Registries.labelled?, h]

theorem perform_eq_internAll (rs : Registries) (e : Effect) :
    e.perform rs = rs.internAll (e.request? rs).toList := by
  cases e with
  | write line => rfl
  | intern label name =>
    simp only [perform, request?]
    cases rs.labelled? label <;> rfl

theorem foldl_perform_eq_internAll (rs : Registries) (es : List Effect) :
    es.foldl perform rs = rs.internAll (es.filterMap (request? rs)) := by
  induction es generalizing rs with
  | nil => rfl
  | cons e es ih =>
    have hlabels : request? (e.perform rs) = request? rs := request?_congr (e.labels_perform rs)
    have hsplit : (e :: es).filterMap (request? rs) =
        (e.request? rs).toList ++ es.filterMap (request? rs) := by
      cases he : e.request? rs <;> simp [he]
    rw [List.foldl_cons, ih, hlabels, perform_eq_internAll, hsplit, Registries.internAll_append]

end Effect

namespace BoundHook

def requests (rs : Registries) (b : BoundHook) : List (RegistryId × String) :=
  b.hook.effects.filterMap (Effect.request? rs)

theorem requests_congr {rs rs' : Registries} (h : rs.labels = rs'.labels) : requests rs = requests rs' := by
  unfold requests
  rw [Effect.request?_congr h]

theorem mem_requests_iff {rs : Registries} {b : BoundHook} {id : RegistryId} {name : String} :
    (id, name) ∈ b.requests rs ↔
      ∃ label, Effect.intern label name ∈ b.hook.effects ∧ rs.labelled? label = some id := by
  rw [requests, List.mem_filterMap]
  constructor
  · rintro ⟨e, he, hrequest⟩
    cases e with
    | write line => simp [Effect.request?] at hrequest
    | intern label name' =>
      obtain ⟨id', hid, hpair⟩ := Option.map_eq_some_iff.mp hrequest
      cases hpair
      exact ⟨label, he, hid⟩
  · rintro ⟨label, he, hid⟩
    exact ⟨.intern label name, he, by rw [Effect.request?, hid, Option.map_some]⟩

theorem registries_callAll (bs : List BoundHook) (rs : Registries) :
    (callAll bs rs).registries = rs.internAll ((attempted bs).flatMap (requests rs)) := by
  induction bs generalizing rs with
  | nil => rfl
  | cons b bs ih =>
    have hcall : (b.call rs).registries = rs.internAll (b.requests rs) :=
      Effect.foldl_perform_eq_internAll rs b.hook.effects
    cases hb : b.hook.failure with
    | some text =>
      have hfirst : (callAll (b :: bs) rs).registries = (b.call rs).registries := by
        simp [callAll, call, hb]
      simp [hfirst, hcall, attempted, hb]
    | none =>
      have hrest : (callAll (b :: bs) rs).registries = (callAll bs (b.call rs).registries).registries := by
        simp [callAll, call, hb]
      have hlabels : requests (rs.internAll (b.requests rs)) = requests rs :=
        requests_congr (Registries.labels_internAll _ _)
      simp [hrest, ih, hcall, hlabels, attempted, hb, Registries.internAll_append]

end BoundHook

end Workflow
