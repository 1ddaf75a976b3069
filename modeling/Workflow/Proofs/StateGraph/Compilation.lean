import Workflow.Proofs.StateGraph.Outline
import Workflow.Proofs.StateGraph.Transitions

/-! Compiled graphs: which declarations compile, and that every state says what its declaration
says, with targets by position in place of names. -/

namespace Workflow

variable {rs rs' : Registries} {registry : RegistryId} {index : NameIndex} {bindings : Bindings}

namespace TransitionTable

theorem isSome_of_mem_listing {t : TransitionTable} {e : String × Option StateId}
    (he : e ∈ t.listing) : e.2.isSome = true := by
  obtain ⟨x, -, rfl⟩ := List.mem_map.mp he
  rfl

end TransitionTable

namespace State

/-- `s'` is `s` with transitions added, in the order of the declaration. -/
structure Wires (index : NameIndex) (registry : RegistryId) (rs : Registries)
    (ts : List Transition) (s s' : State) : Prop where
  frame : s' = { s with transitions := s'.transitions }
  sound : s'.transitions.Sound rs registry
  listing : s'.transitions.listing =
    s.transitions.listing ++ ts.map fun t => (t.condition, index.get? t.target)

theorem Wires.mono {ts : List Transition} {s s' : State} (h : Wires index registry rs ts s s')
    (hrs : rs.Extends rs') : Wires index registry rs' ts s s' where
  frame := h.frame
  sound := h.sound.mono hrs
  listing := h.listing

variable {s s' : State} {c : Condition} {target : StateId}

theorem hasTransition_eq_isSome (s : State) (condition : String) :
    s.hasTransition condition = (s.target? condition).isSome :=
  s.transitions.targets.contains_eq_isSome condition

theorem wires_addTransition? (hs : s.transitions.Sound rs registry) (hc : rs.Canonical registry c)
    (h : s.addTransition? c target = some s') :
    s' = { s with transitions := s'.transitions } ∧ s'.transitions.Sound rs registry ∧
      s'.transitions.listing = s.transitions.listing ++ [(c.name, some target)] := by
  obtain ⟨t, ht, rfl⟩ := Option.map_eq_some_iff.mp h
  exact ⟨rfl, hs.sound_insertNew? hc ht, hs.listing_insertNew? hc ht⟩

theorem wires_of_wire {ts : List Transition} (hs : s.transitions.Sound rs registry)
    (h : s.wire index registry ts rs = (.ok s', rs')) :
    rs.Extends rs' ∧ Wires index registry rs' ts s s' := by
  induction ts generalizing s rs with
  | nil =>
    simp only [wire, Prod.mk.injEq, Except.ok.injEq] at h
    obtain ⟨rfl, rfl⟩ := h
    exact ⟨.refl rs, rfl, hs, by simp⟩
  | cons t ts ih =>
    simp only [wire] at h
    split at h
    · simp at h
    · rename_i target htarget
      split at h
      · simp at h
      · rename_i next hnext
        have hrs := rs.extends_intern registry t.condition
        obtain ⟨hframe, hsound, hlisting⟩ :=
          wires_addTransition? (hs.mono hrs) (rs.canonical_intern registry t.condition) hnext
        obtain ⟨hrs', hwires⟩ := ih hsound h
        refine ⟨hrs.trans hrs', ?_, hwires.sound, ?_⟩
        · rw [hwires.frame, hframe]
        · rw [hwires.listing, hlisting, List.map_cons, htarget, List.append_assoc]
          rfl

theorem exists_wire_eq_ok {ts : List Transition} (hs : s.transitions.Sound rs registry)
    (htargets : ∀ t ∈ ts, index.contains t.target = true)
    (hconditions : (s.transitions.listing.map Prod.fst ++ ts.map Transition.condition).Nodup) :
    ∃ s' rs', s.wire index registry ts rs = (.ok s', rs') := by
  induction ts generalizing s rs with
  | nil => exact ⟨s, rs, rfl⟩
  | cons t ts ih =>
    obtain ⟨target, htarget⟩ := Option.isSome_iff_exists.mp (htargets t List.mem_cons_self)
    have hsound := hs.mono (rs.extends_intern registry t.condition)
    have hcanonical := rs.canonical_intern registry t.condition
    have hnew : t.condition ∉ s.transitions.order.map Condition.name := by
      rw [hs.map_name_order]
      rw [List.nodup_append] at hconditions
      exact fun hmem => hconditions.2.2 _ hmem t.condition (by simp) rfl
    cases hnext : s.addTransition? (rs.intern registry t.condition).1 target with
    | none =>
      have hnone := Option.map_eq_none_iff.mp hnext
      exact absurd ((hsound.insertNew?_eq_none_iff hcanonical).mp hnone) hnew
    | some next =>
      obtain ⟨-, hnextsound, hlisting⟩ := wires_addTransition? hsound hcanonical hnext
      have hrest : (next.transitions.listing.map Prod.fst ++ ts.map Transition.condition).Nodup := by
        have hname : (rs.intern registry t.condition).1.name = t.condition := rfl
        rw [hlisting, hname]
        simpa using hconditions
      obtain ⟨s', rs', hs'⟩ := ih hnextsound (fun x hx => htargets x (List.mem_cons_of_mem t hx)) hrest
      exact ⟨s', rs', by simp only [wire, htarget, hnext, hs']⟩

/-- The state says what the declaration says. -/
structure Realizes (bindings : Bindings) (index : NameIndex) (registry : RegistryId)
    (rs : Registries) (d : Declaration) (s : State) : Prop extends Outlines bindings d s where
  sound : s.transitions.Sound rs registry
  listing : s.transitions.listing = d.transitions.map fun t => (t.condition, index.get? t.target)

namespace Realizes

variable {d : Declaration}

theorem target?_eq (h : Realizes bindings index registry rs d s) (condition : String) :
    s.target? condition =
      (d.transitions.find? fun t => t.condition == condition).bind fun t => index.get? t.target := by
  rw [target?, h.sound.get?_eq_find?, h.listing, List.find?_map, Option.bind_map]
  rfl

theorem contains_target (h : Realizes bindings index registry rs d s) :
    ∀ t ∈ d.transitions, index.contains t.target = true := by
  intro t ht
  have hmem : (t.condition, index.get? t.target) ∈ s.transitions.listing :=
    h.listing ▸ List.mem_map_of_mem ht
  exact TransitionTable.isSome_of_mem_listing hmem

theorem nodup_conditions (h : Realizes bindings index registry rs d s) :
    (d.transitions.map Transition.condition).Nodup := by
  have hnodup := h.sound.nodup
  rwa [h.sound.map_name_order, h.listing, List.map_map] at hnodup

end Realizes

end State

namespace StateGraph

theorem wires_of_wireAll {todo : List (State × List Transition)} {states : List State}
    (htodo : ∀ x ∈ todo, x.1.transitions = {})
    (h : wireAll index registry todo rs = (.ok states, rs')) :
    rs.Extends rs' ∧
      List.Forall₂ (fun x s => State.Wires index registry rs' x.2 x.1 s) todo states := by
  induction todo generalizing states rs with
  | nil =>
    obtain ⟨rfl, rfl⟩ := wireAll_nil_eq_ok_iff.mp h
    exact ⟨.refl _, .nil⟩
  | cons x todo ih =>
    obtain ⟨s, ts⟩ := x
    obtain ⟨next, between, later, hwire, hlater, rfl⟩ := wireAll_cons_eq_ok_iff.mp h
    have hblank : s.transitions = {} := htodo (s, ts) List.mem_cons_self
    obtain ⟨hrs, hwires⟩ :=
      State.wires_of_wire (hblank ▸ TransitionTable.sound_empty rs registry) hwire
    obtain ⟨hrs', hall⟩ := ih (fun y hy => htodo y (List.mem_cons_of_mem _ hy)) hlater
    exact ⟨hrs.trans hrs', .cons (hwires.mono hrs') hall⟩

theorem exists_wireAll_eq_ok {todo : List (State × List Transition)}
    (htodo : ∀ x ∈ todo, x.1.transitions = {})
    (htargets : ∀ x ∈ todo, ∀ t ∈ x.2, index.contains t.target = true)
    (hconditions : ∀ x ∈ todo, (x.2.map Transition.condition).Nodup) :
    ∃ states rs', wireAll index registry todo rs = (.ok states, rs') := by
  induction todo generalizing rs with
  | nil => exact ⟨[], rs, rfl⟩
  | cons x todo ih =>
    obtain ⟨s, ts⟩ := x
    simp only [List.forall_mem_cons] at htodo htargets hconditions
    have hblank : s.transitions = {} := htodo.1
    have hnodup : (s.transitions.listing.map Prod.fst ++ ts.map Transition.condition).Nodup := by
      rw [hblank]
      exact hconditions.1
    have hsound : s.transitions.Sound rs registry :=
      hblank ▸ TransitionTable.sound_empty rs registry
    obtain ⟨s', rs₁, hwire⟩ := State.exists_wire_eq_ok hsound htargets.1 hnodup
    obtain ⟨states, rs', hrest⟩ : ∃ states rs', wireAll index registry todo rs₁ = (.ok states, rs') :=
      ih htodo.2 htargets.2 hconditions.2
    exact ⟨s' :: states, rs', wireAll_cons_eq_ok_iff.mpr ⟨s', rs₁, states, hwire, hrest, rfl⟩⟩

end StateGraph

namespace Outline

/-- The outline is complete: every state says what its declaration says, at its position. -/
structure Compiles (bindings : Bindings) (registry : RegistryId) (rs : Registries)
    (ds : List Declaration) (o : Outline) : Prop where
  exact : o.index.Exact (ds.map Declaration.name)
  ids : o.states.map State.id = List.range ds.length
  states : List.Forall₂ (State.Realizes bindings o.index registry rs) ds o.states

variable {ds : List Declaration} {o : Outline}

theorem realizes_of_wires {states states' : List State}
    (hstates : List.Forall₂ (State.Outlines bindings) ds states)
    (hblank : ∀ s ∈ states, s.transitions = {})
    (hwires : List.Forall₂ (fun x s => State.Wires index registry rs x.2 x.1 s)
      (states.zip (ds.map Declaration.transitions)) states') :
    List.Forall₂ (State.Realizes bindings index registry rs) ds states' ∧
      states'.map State.id = states.map State.id := by
  induction hstates generalizing states' with
  | nil =>
    cases hwires
    exact ⟨.nil, rfl⟩
  | @cons d s ds states hd _ ih =>
    obtain ⟨hs, hrest⟩ := List.forall_mem_cons.mp hblank
    rw [List.map_cons, List.zip_cons_cons] at hwires
    cases hwires with
    | cons hwire hwires =>
      obtain ⟨hall, hids⟩ := ih hrest hwires
      refine ⟨.cons ⟨?_, hwire.sound, ?_⟩ hall, ?_⟩
      · rw [hwire.frame]
        exact ⟨hd.name, hd.onEnter, hd.onLeave⟩
      · rw [hwire.listing, hs]
        rfl
      · rw [List.map_cons, List.map_cons, hids, hwire.frame]

end Outline

namespace StateGraph

variable {ds : List Declaration} {o : Outline}

theorem compiles_of_compile (h : compile bindings registry ds rs = (.ok o, rs')) :
    ds ≠ [] ∧ rs.Extends rs' ∧ o.Compiles bindings registry rs' ds := by
  obtain ⟨hds, drawn, states, hdrawn, hwired, rfl⟩ := compile_eq_ok_iff.mp h
  obtain ⟨hexact, hids, hstates, hblank⟩ := Outline.draws_extend (Outline.draws_empty bindings) hdrawn
  rw [List.nil_append] at hexact hids hstates
  obtain ⟨hrs, hwires⟩ := wires_of_wireAll (fun x hx => hblank x.1 (List.of_mem_zip hx).1) hwired
  obtain ⟨hall, hsame⟩ := Outline.realizes_of_wires hstates hblank hwires
  exact ⟨hds, hrs, hexact, hsame.trans hids, hall⟩

theorem exists_compile_eq_ok (hds : ds ≠ []) (hnames : (ds.map Declaration.name).Nodup)
    (hhooks : ∀ d ∈ ds, ∀ hook ∈ d.hooks, hook ∈ bindings.hooks.map BoundHook.name)
    (htargets : ∀ d ∈ ds, ∀ t ∈ d.transitions, t.target ∈ ds.map Declaration.name)
    (hconditions : ∀ d ∈ ds, (d.transitions.map Transition.condition).Nodup) :
    ∃ o rs', compile bindings registry ds rs = (.ok o, rs') := by
  obtain ⟨o, ho⟩ := Outline.exists_extend_eq_ok (Outline.draws_empty bindings) (by simpa using hnames)
    hhooks
  obtain ⟨hexact, -, -, hblank⟩ := Outline.draws_extend (Outline.draws_empty bindings) ho
  rw [List.nil_append] at hexact
  have hdeclared : ∀ x ∈ o.states.zip (ds.map Declaration.transitions),
      ∃ d ∈ ds, d.transitions = x.2 := fun x hx => List.mem_map.mp (List.of_mem_zip hx).2
  obtain ⟨states, rs', hwire⟩ : ∃ states rs', wireAll o.index registry
      (o.states.zip (ds.map Declaration.transitions)) rs = (.ok states, rs') := by
    refine exists_wireAll_eq_ok (fun x hx => hblank x.1 (List.of_mem_zip hx).1) ?_ ?_
    · intro x hx t ht
      obtain ⟨d, hd, hx⟩ := hdeclared x hx
      exact hexact.contains_iff.mpr (htargets d hd t (hx ▸ ht))
    · intro x hx
      obtain ⟨d, hd, hx⟩ := hdeclared x hx
      exact hx ▸ hconditions d hd
  exact ⟨{ o with states }, rs', compile_eq_ok_iff.mpr ⟨hds, o, states, ho, hwire, rfl⟩⟩

end StateGraph

end Workflow
