import Workflow.Proofs.Condition.Footprint
import Workflow.Proofs.Definition.Rejection
import Workflow.Proofs.StateGraph.Compilation

/-! Compilation that fails. Each pass reports the first fault of what it goes through, and the
conditions interned are those of the transitions up to there. -/

namespace Workflow

/-- The error of an attempt, if it has failed. -/
def errorOf? {ε α : Type} : Except ε α → Option ε
  | .ok _ => none
  | .error e => some e

theorem errorOf?_eq_some_iff {ε α : Type} {x : Except ε α} {e : ε} :
    errorOf? x = some e ↔ x = .error e := by
  cases x <;> simp [errorOf?]

theorem errorOf?_map {ε α β : Type} (f : α → β) (x : Except ε α) : errorOf? (x.map f) = errorOf? x := by
  cases x <;> rfl

namespace Definition

/-- What is asked of a registry when conditions have been passed and a fault may have been found. -/
def requests (registry : RegistryId) (passed : List String) (fault : Option DefinitionError) :
    List (RegistryId × String) :=
  (passed ++ (fault.bind DefinitionError.repeated?).toList).map fun name => (registry, name)

theorem requests_append (registry : RegistryId) (passed passed' : List String)
    (fault : Option DefinitionError) :
    requests registry (passed ++ passed') fault =
      requests registry passed none ++ requests registry passed' fault := by
  simp [requests]

end Definition

namespace Bindings

theorem errorOf?_register (b : Bindings) (hs : List BoundHook) :
    errorOf? (b.register hs) =
      (examine (fun earlier => BoundHook.fault? (b.hooks ++ earlier)) hs).2 := by
  induction hs generalizing b with
  | nil => rfl
  | cons h hs ih =>
    have hfault : BoundHook.fault? (b.hooks ++ []) h =
        (b.get? h.name).map fun first => .duplicateBinding h.name first.host h.host := by
      rw [List.append_nil]
      rfl
    cases hget : b.get? h.name with
    | some first =>
      rw [hget, Option.map_some] at hfault
      simp only [register, hget, examine, hfault, errorOf?]
    | none =>
      rw [hget, Option.map_none] at hfault
      simp only [register, hget, examine, hfault, ih, List.append_assoc, List.singleton_append]

theorem errorOf?_ofHosts (hosts : List Host) :
    errorOf? (ofHosts hosts) =
      (examine BoundHook.fault? (hosts.flatMap Host.registrations)).2 :=
  errorOf?_register {} _

end Bindings

namespace Outline

variable {bindings : Bindings}

theorem errorOf?_bindHook (bindings : Bindings) (state : String) (method : Option String) :
    errorOf? (bindHook bindings state method) =
      (method.toList.find? fun hook => hook ∉ bindings.hooks.map BoundHook.name).map
        (.missingMethod state) := by
  cases method with
  | none => rfl
  | some method =>
    cases hget : bindings.get? method with
    | none =>
      have hnot := Bindings.get?_eq_none_iff.mp hget
      simp only [bindHook, hget, errorOf?, Option.toList_some, List.find?_singleton, hnot,
        not_false_eq_true, decide_true, if_true, Option.map_some]
    | some b =>
      have hmem : method ∈ bindings.hooks.map BoundHook.name := by
        by_contra hnot
        simp [Bindings.get?_eq_none_iff.mpr hnot] at hget
      simp only [bindHook, hget, errorOf?, Option.toList_some, List.find?_singleton, hmem,
        not_true_eq_false, decide_false, Bool.false_eq_true, if_false, Option.map_none]

theorem errorOf?_extend {prior rest : List Declaration} {o : Outline} (h : o.Draws bindings prior) :
    errorOf? (o.extend bindings rest) =
      (examine (fun earlier =>
        Declaration.fault? (bindings.hooks.map BoundHook.name) (prior ++ earlier)) rest).2 := by
  induction rest generalizing prior o with
  | nil => rfl
  | cons d rest ih =>
    cases hcontains : o.index.contains d.name with
    | true =>
      have hmem := h.exact.contains_iff.mp hcontains
      have hfault : Declaration.fault? (bindings.hooks.map BoundHook.name) (prior ++ []) d =
          some (.duplicateState d.name) := by
        rw [List.append_nil, Declaration.fault?, if_pos hmem]
      simp only [extend, hcontains, if_true, examine, hfault, errorOf?]
    | false =>
      have hnew : d.name ∉ prior.map Declaration.name := fun hmem =>
        Bool.eq_false_iff.mp hcontains (h.exact.contains_iff.mpr hmem)
      have hfault : Declaration.fault? (bindings.hooks.map BoundHook.name) (prior ++ []) d =
          (errorOf? (bindHook bindings d.name d.onEnter)).or
            (errorOf? (bindHook bindings d.name d.onLeave)) := by
        rw [List.append_nil, Declaration.fault?, if_neg hnew, Declaration.hooks, List.find?_append,
          Option.map_or, errorOf?_bindHook, errorOf?_bindHook]
      simp only [extend, hcontains, Bool.false_eq_true, if_false, examine, hfault]
      cases henter : bindHook bindings d.name d.onEnter with
      | error e => simp only [errorOf?, Option.some_or]
      | ok onEnter =>
        cases hleave : bindHook bindings d.name d.onLeave with
        | error e => simp only [errorOf?, Option.none_or]
        | ok onLeave =>
          have hadd := h.add hcontains (Bindings.bindHook_eq_ok_iff.mp henter)
            (Bindings.bindHook_eq_ok_iff.mp hleave)
          simpa only [errorOf?, Option.none_or, List.append_assoc, List.singleton_append] using ih hadd

end Outline

/-- An attempt ends with the fault, if there is one, and has interned the conditions up to there. -/
structure Attempts {α : Type} (rs : Registries) (registry : RegistryId)
    (seen : List String × Option DefinitionError) (attempt : Except DefinitionError α × Registries) :
    Prop where
  fault : errorOf? attempt.1 = seen.2
  registries : attempt.2 = rs.internAll (Definition.requests registry seen.1 seen.2)

namespace Attempts

variable {α β : Type} {rs rs' : Registries} {registry : RegistryId} {names passed : List String}
  {earlier xs ys : List Placed} {e : DefinitionError} {fault : Option DefinitionError}
  {attempt : Except DefinitionError α × Registries}

theorem of_error (h : e.concernsTransition = false) :
    Attempts (α := α) rs registry ([], some e) (.error e, rs) where
  fault := rfl
  registries := by simp [Definition.requests, DefinitionError.repeated?_eq_none h]

theorem cons {name : String}
    (h : Attempts (rs.intern registry name).2 registry (passed, fault) attempt) :
    Attempts rs registry (name :: passed, fault) attempt where
  fault := h.fault
  registries := h.registries

theorem map_iff {f : α → β} : Attempts rs registry (passed, fault) (attempt.1.map f, attempt.2) ↔
    Attempts rs registry (passed, fault) attempt := by
  constructor
  · exact fun h => ⟨(errorOf?_map f attempt.1).symm.trans h.fault, h.registries⟩
  · exact fun h => ⟨(errorOf?_map f attempt.1).trans h.fault, h.registries⟩

theorem stop (h : Attempts (α := α) rs registry (Definition.seen names earlier xs) (.error e, rs'))
    (ys : List Placed) :
    Attempts (α := β) rs registry (Definition.seen names earlier (xs ++ ys)) (.error e, rs') := by
  rw [Definition.seen_append_of_some h.fault.symm]
  exact ⟨h.fault, h.registries⟩

theorem goOn {a : β} (h : Attempts rs registry (Definition.seen names earlier xs) (.ok a, rs'))
    (hrest : Attempts rs' registry (Definition.seen names (earlier ++ xs) ys) attempt) :
    Attempts rs registry (Definition.seen names earlier (xs ++ ys)) attempt := by
  have hfault : (Definition.seen names earlier xs).2 = none := h.fault.symm
  have hrs : rs' =
      rs.internAll (Definition.requests registry (Definition.seen names earlier xs).1 none) := by
    rw [← hfault]
    exact h.registries
  rw [Definition.seen_append_of_none hfault]
  refine ⟨hrest.fault, ?_⟩
  rw [hrest.registries, hrs, Definition.requests_append, Registries.internAll_append]

end Attempts

theorem NameIndex.Exact.get?_eq_none_iff {index : NameIndex} {names : List String} {name : String}
    (h : index.Exact names) : index.get? name = none ↔ name ∉ names := by
  rw [← h.contains_iff, contains, Option.isSome_iff_ne_none, not_not]

namespace State

variable {rs : Registries} {registry : RegistryId} {index : NameIndex} {names : List String}
  {s next : State} {earlier : List Placed} {c : Condition} {target : StateId}

/-- The conditions of the state are those of the earlier transitions placed in it. -/
def Passed (earlier : List Placed) (s : State) : Prop :=
  ∀ condition, condition ∈ s.transitions.order.map Condition.name ↔
    (s.name, condition) ∈ earlier.map Placed.key

theorem passed_of_blank (hblank : s.transitions = {}) (h : ∀ x ∈ earlier, x.1 ≠ s.name) :
    s.Passed earlier := by
  intro condition
  rw [hblank]
  refine iff_of_false (by simp) fun hmem => ?_
  obtain ⟨x, hx, hkey⟩ := List.mem_map.mp hmem
  exact h x hx (congrArg Prod.fst hkey)

theorem Passed.addTransition?_eq_none_iff (h : s.Passed earlier)
    (hs : s.transitions.Sound rs registry) (hc : rs.Canonical registry c) :
    s.addTransition? c target = none ↔ (s.name, c.name) ∈ earlier.map Placed.key := by
  rw [addTransition?, Option.map_eq_none_iff, hs.insertNew?_eq_none_iff hc]
  exact h c.name

theorem Passed.add (h : s.Passed earlier) (hs : s.transitions.Sound rs registry)
    (hc : rs.Canonical registry c) (hadd : s.addTransition? c target = some next) {t : Transition}
    (ht : c.name = t.condition) : next.Passed (earlier ++ [(s.name, t)]) := by
  obtain ⟨hframe, hnext, hlisting⟩ := wires_addTransition? hs hc hadd
  have hname : next.name = s.name := by rw [hframe]
  have horder : next.transitions.order.map Condition.name =
      s.transitions.order.map Condition.name ++ [t.condition] := by
    rw [hnext.map_name_order, hlisting, List.map_append, hs.map_name_order, ← ht]
    rfl
  intro condition
  rw [horder, hname, List.map_append, List.mem_append, List.mem_append, h condition]
  simp [Placed.key]

theorem fault?_of_unknown (hindex : index.Exact names) {t : Transition}
    (h : index.get? t.target = none) (state : String) :
    Transition.fault? names earlier (state, t) = some (.unknownTarget state t.condition t.target) := by
  rw [Transition.fault?, if_pos (hindex.get?_eq_none_iff.mp h)]

theorem Passed.fault?_of_known (h : s.Passed earlier) (hindex : index.Exact names)
    (hs : s.transitions.Sound rs registry) (hc : rs.Canonical registry c) {t : Transition}
    (ht : c.name = t.condition) (hknown : index.get? t.target = some target) :
    Transition.fault? names earlier (s.name, t) =
      if s.addTransition? c target = none then some (.duplicateCondition s.name t.condition)
      else none := by
  have htarget : ¬ t.target ∉ names := by
    rw [← hindex.get?_eq_none_iff, hknown]
    simp
  simp only [Transition.fault?, if_neg htarget, h.addTransition?_eq_none_iff hs hc, ht]

theorem attempts_wire {ts : List Transition} (hs : s.transitions.Sound rs registry)
    (hindex : index.Exact names) (hpassed : s.Passed earlier) :
    Attempts rs registry (Definition.seen names earlier (ts.map fun t => (s.name, t)))
      (s.wire index registry ts rs) := by
  induction ts generalizing s rs earlier with
  | nil => exact ⟨rfl, rfl⟩
  | cons t ts ih =>
    rw [List.map_cons]
    cases htarget : index.get? t.target with
    | none =>
      rw [Definition.seen_cons_of_some (fault?_of_unknown hindex htarget s.name)]
      simp only [wire, htarget]
      exact ⟨rfl, rfl⟩
    | some target =>
      have hsound := hs.mono (rs.extends_intern registry t.condition)
      have hcanonical := rs.canonical_intern registry t.condition
      have hfault := hpassed.fault?_of_known hindex hsound hcanonical rfl htarget
      cases hadd : s.addTransition? (rs.intern registry t.condition).1 target with
      | none =>
        rw [if_pos hadd] at hfault
        rw [Definition.seen_cons_of_some hfault]
        simp only [wire, htarget, hadd]
        exact ⟨rfl, rfl⟩
      | some next =>
        rw [hadd, if_neg (Option.some_ne_none next)] at hfault
        obtain ⟨hframe, hnext, -⟩ := wires_addTransition? hsound hcanonical hadd
        have hname : next.name = s.name := by rw [hframe]
        have hrest := ih hnext (hpassed.add hsound hcanonical hadd rfl)
        rw [hname] at hrest
        rw [Definition.seen_cons_of_none hfault]
        simp only [wire, htarget, hadd]
        exact hrest.cons

theorem attempts_wire_of_blank {d : Declaration} (hname : s.name = d.name)
    (hblank : s.transitions = {}) (hindex : index.Exact names) (hearlier : ∀ x ∈ earlier, x.1 ≠ d.name) :
    Attempts rs registry (Definition.seen names earlier d.placed)
      (s.wire index registry d.transitions rs) := by
  have hsound : s.transitions.Sound rs registry := hblank ▸ TransitionTable.sound_empty rs registry
  have hplaced : d.placed = d.transitions.map fun t => (s.name, t) := by
    rw [hname]
    rfl
  rw [hplaced]
  exact attempts_wire hsound hindex (passed_of_blank hblank (hname ▸ hearlier))

end State

namespace StateGraph

variable {rs : Registries} {registry : RegistryId} {index : NameIndex} {names : List String}

theorem attempts_wireAll {ds : List Declaration} {states : List State} {earlier : List Placed}
    (hindex : index.Exact names)
    (hstates : List.Forall₂ (fun d s => s.name = d.name ∧ s.transitions = {}) ds states)
    (hnames : (ds.map Declaration.name).Nodup)
    (hearlier : ∀ x ∈ earlier, x.1 ∉ ds.map Declaration.name) :
    Attempts rs registry (Definition.seen names earlier (Definition.placed ds))
      (wireAll index registry (states.zip (ds.map Declaration.transitions)) rs) := by
  induction hstates generalizing rs earlier with
  | nil => exact ⟨rfl, rfl⟩
  | @cons d s ds states hd _ ih =>
    obtain ⟨hname, hblank⟩ := hd
    obtain ⟨hnew, hrest⟩ := List.nodup_cons.mp hnames
    have hfirst : Attempts rs registry (Definition.seen names earlier d.placed)
        (s.wire index registry d.transitions rs) :=
      State.attempts_wire_of_blank hname hblank hindex fun x hx =>
        (List.ne_and_not_mem_of_not_mem_cons (hearlier x hx)).1
    have hlater : ∀ x ∈ earlier ++ d.placed, x.1 ∉ ds.map Declaration.name := by
      rw [List.forall_mem_append]
      refine ⟨fun x hx => (List.ne_and_not_mem_of_not_mem_cons (hearlier x hx)).2, fun x hx => ?_⟩
      obtain ⟨t, -, rfl⟩ := List.mem_map.mp hx
      exact hnew
    rw [Definition.placed, List.flatMap_cons, List.map_cons, List.zip_cons_cons]
    cases hwire : s.wire index registry d.transitions rs with
    | mk result rs' =>
      rw [hwire] at hfirst
      cases result with
      | error e =>
        rw [wireAll_cons_of_error hwire]
        exact hfirst.stop _
      | ok next =>
        rw [wireAll_cons_of_ok hwire]
        exact hfirst.goOn (Attempts.map_iff.mpr (ih hrest hlater))

theorem attempts_compile (bindings : Bindings) {ds : List Declaration} (hds : ds ≠ []) :
    Attempts rs registry (Definition.checked (bindings.hooks.map BoundHook.name) ds)
      (compile bindings registry ds rs) := by
  have hextend : errorOf? (({} : Outline).extend bindings ds) =
      (examine (Declaration.fault? (bindings.hooks.map BoundHook.name)) ds).2 :=
    Outline.errorOf?_extend (Outline.draws_empty bindings)
  rw [Definition.checked, ← hextend]
  cases hdrawn : ({} : Outline).extend bindings ds with
  | error e =>
    have hne : ds.isEmpty = false := by simpa using hds
    rw [hdrawn] at hextend
    obtain ⟨before, d, -, hfault⟩ := exists_of_examine hextend.symm
    simp only [compile, hne, Bool.false_eq_true, if_false, hdrawn]
    rcases Declaration.eq_of_fault? hfault with rfl | ⟨hook, -, rfl⟩
    · exact .of_error rfl
    · exact .of_error rfl
  | ok o =>
    have hdraws := Outline.draws_extend (Outline.draws_empty bindings) hdrawn
    rw [List.nil_append] at hdraws
    have hblank : List.Forall₂ (fun d s => s.name = d.name ∧ s.transitions = {}) ds o.states := by
      have hnames := hdraws.states
      rw [List.forall₂_iff_get] at hnames ⊢
      refine ⟨hnames.1, fun i hi hi' => ⟨(hnames.2 i hi hi').name, ?_⟩⟩
      exact hdraws.blank _ (List.get_mem o.states ⟨i, hi'⟩)
    rw [compile_of_extend hds hdrawn]
    exact Attempts.map_iff.mpr (attempts_wireAll hdraws.exact hblank hdraws.exact.nodup (by simp))

theorem attempts_build (bindings : Bindings) {ds : List Declaration} (hds : ds ≠ []) :
    Attempts rs registry (Definition.checked (bindings.hooks.map BoundHook.name) ds)
      (build bindings registry ds rs) := by
  have hcompile : Attempts rs registry (Definition.checked (bindings.hooks.map BoundHook.name) ds)
      (compile bindings registry ds rs) := attempts_compile bindings hds
  rw [← map_outline_build bindings registry ds rs] at hcompile
  exact Attempts.map_iff.mp hcompile

end StateGraph

end Workflow
