import Workflow.Machine.View
import Workflow.Proofs.StateGraph.Positions

/-! Compilation against two different registries: it fails with the same error, or it leads to
graphs that show the same. -/

namespace Workflow

/-- Both fail with one error, or succeed with results that are related. -/
inductive SameOutcome {ε α β : Type} (R : α → β → Prop) : Except ε α → Except ε β → Prop
  | error (e : ε) : SameOutcome R (.error e) (.error e)
  | ok {a : α} {b : β} (h : R a b) : SameOutcome R (.ok a) (.ok b)

theorem SameOutcome.map {ε α β α' β' : Type} {R : α → β → Prop} {R' : α' → β' → Prop} {f : α → α'}
    {f' : β → β'} {x : Except ε α} {y : Except ε β} (h : SameOutcome R x y)
    (hR : ∀ a b, R a b → R' (f a) (f' b)) : SameOutcome R' (x.map f) (y.map f') := by
  cases h with
  | error e => exact .error e
  | ok h => exact .ok (hR _ _ h)

variable {rs rs' : Registries} {registry registry' : RegistryId} {index : NameIndex}
  {bindings : Bindings} {ds : List Declaration} {g g' : StateGraph}

namespace StateView

/-- Adds a transition at the end, unless its condition is taken. -/
def extend? (v : StateView) (condition : String) (target : StateId) : Option StateView :=
  if condition ∈ v.transitions.map Prod.fst then none
  else some {
    v with
    transitions := v.transitions ++ [(condition, target)]
    targets := v.targets ++ [(condition, target)] }

end StateView

namespace State

variable {s s' : State} {c : Condition} {target : StateId}

theorem map_fst_transitions_view (h : s.transitions.Sound rs registry) :
    s.view.transitions.map Prod.fst = s.transitions.order.map Condition.name := by
  rw [h.map_name_order, TransitionTable.listing, view, byName, List.map_map, List.map_map]
  rfl

theorem map_view_addTransition? (hs : s.transitions.Sound rs registry) (hc : rs.Canonical registry c) :
    (s.addTransition? c target).map view = s.view.extend? c.name target := by
  have htaken : s.transitions.insertNew? c target = none ↔
      c.name ∈ s.view.transitions.map Prod.fst := by
    rw [map_fst_transitions_view hs]
    exact hs.insertNew?_eq_none_iff hc
  rw [addTransition?, StateView.extend?]
  cases hinsert : s.transitions.insertNew? c target with
  | none => rw [if_pos (htaken.mp hinsert)]; rfl
  | some t =>
    have hnew : c.name ∉ s.view.transitions.map Prod.fst := mt htaken.mpr (by simp [hinsert])
    have htargets := TransitionTable.entries_insertNew? hinsert
    have hentries := hs.inStep.entries_insertNew? hc hinsert
    rw [if_neg hnew, Option.map_some, Option.map_some]
    simp only [view, hentries, htargets, byName, List.map_append, List.map_singleton]

theorem sameOutcome_wire (hs : s.transitions.Sound rs registry)
    (hs' : s'.transitions.Sound rs' registry') (h : s.view = s'.view) (ts : List Transition) :
    SameOutcome (fun s s' => s.view = s'.view) (s.wire index registry ts rs).1
      (s'.wire index registry' ts rs').1 := by
  induction ts generalizing s s' rs rs' with
  | nil => exact .ok h
  | cons t ts ih =>
    have hname : s.name = s'.name := congrArg StateView.name h
    simp only [wire]
    cases index.get? t.target with
    | none => exact hname ▸ .error _
    | some target =>
      have hsound := hs.mono (rs.extends_intern registry t.condition)
      have hsound' := hs'.mono (rs'.extends_intern registry' t.condition)
      have hc := rs.canonical_intern registry t.condition
      have hc' := rs'.canonical_intern registry' t.condition
      have hviews : (s.addTransition? (rs.intern registry t.condition).1 target).map view =
          (s'.addTransition? (rs'.intern registry' t.condition).1 target).map view := by
        rw [map_view_addTransition? hsound hc, map_view_addTransition? hsound' hc', h]
        rfl
      cases hadd : s.addTransition? (rs.intern registry t.condition).1 target with
      | none =>
        cases hadd' : s'.addTransition? (rs'.intern registry' t.condition).1 target with
        | none =>
          simp only [hadd, hadd', hname]
          exact .error _
        | some next' => simp [hadd, hadd'] at hviews
      | some next =>
        cases hadd' : s'.addTransition? (rs'.intern registry' t.condition).1 target with
        | none => simp [hadd, hadd'] at hviews
        | some next' =>
          rw [hadd, hadd'] at hviews
          simp only [hadd, hadd']
          exact ih (wires_addTransition? hsound hc hadd).2.1
            (wires_addTransition? hsound' hc' hadd').2.1 (Option.some.inj hviews)

end State

namespace StateGraph

theorem sameOutcome_wireAll (index : NameIndex) (registry registry' : RegistryId)
    {todo : List (State × List Transition)} (htodo : ∀ x ∈ todo, x.1.transitions = {}) (rs rs' : Registries) :
    SameOutcome (fun ss ss' => ss.map State.view = ss'.map State.view)
      (wireAll index registry todo rs).1 (wireAll index registry' todo rs').1 := by
  induction todo generalizing rs rs' with
  | nil => exact .ok rfl
  | cons x todo ih =>
    obtain ⟨s, ts⟩ := x
    obtain ⟨hblank, htodo⟩ := List.forall_mem_cons.mp htodo
    have hblank : s.transitions = {} := hblank
    have hwire : SameOutcome (fun s s' => s.view = s'.view) (s.wire index registry ts rs).1
        (s.wire index registry' ts rs').1 :=
      State.sameOutcome_wire (hblank ▸ TransitionTable.sound_empty rs registry)
        (hblank ▸ TransitionTable.sound_empty rs' registry') rfl ts
    cases hwired : s.wire index registry ts rs with
    | mk result rs₁ =>
      cases hwired' : s.wire index registry' ts rs' with
      | mk result' rs₁' =>
        rw [hwired, hwired'] at hwire
        cases hwire with
        | error e =>
          rw [wireAll_cons_of_error hwired, wireAll_cons_of_error hwired']
          exact .error e
        | ok hview =>
          rw [wireAll_cons_of_ok hwired, wireAll_cons_of_ok hwired']
          exact (ih htodo rs₁ rs₁').map fun _ _ hviews => congrArg₂ List.cons hview hviews

theorem sameOutcome_compile (bindings : Bindings) (registry registry' : RegistryId)
    (ds : List Declaration) (rs rs' : Registries) :
    SameOutcome (fun o o' => o.states.map State.view = o'.states.map State.view ∧ o.index = o'.index)
      (compile bindings registry ds rs).1 (compile bindings registry' ds rs').1 := by
  by_cases hds : ds = []
  · subst hds
    exact .error _
  · cases hdrawn : ({} : Outline).extend bindings ds with
    | error e =>
      have hne : ds.isEmpty = false := by simpa using hds
      simp only [compile, hne, Bool.false_eq_true, if_false, hdrawn]
      exact .error e
    | ok o =>
      obtain ⟨-, -, -, hblank⟩ := Outline.draws_extend (Outline.draws_empty bindings) hdrawn
      have htodo : ∀ x ∈ o.states.zip (ds.map Declaration.transitions), x.1.transitions = {} :=
        fun x hx => hblank x.1 (List.of_mem_zip hx).1
      rw [compile_of_extend hds hdrawn, compile_of_extend hds hdrawn]
      exact (sameOutcome_wireAll o.index registry registry' htodo rs rs').map fun _ _ hviews => ⟨hviews, rfl⟩

structure Alike (g g' : StateGraph) : Prop where
  states : g.states.map State.view = g'.states.map State.view
  index : g.index = g'.index
  initial : g.initial.val = g'.initial.val

theorem sameOutcome_build (bindings : Bindings) (registry registry' : RegistryId)
    (ds : List Declaration) (rs rs' : Registries) :
    SameOutcome Alike (build bindings registry ds rs).1 (build bindings registry' ds rs').1 := by
  have hcompile := sameOutcome_compile bindings registry registry' ds rs rs'
  rw [← map_outline_build, ← map_outline_build] at hcompile
  cases hbuild : build bindings registry ds rs with
  | mk result rs₁ =>
    cases hbuild' : build bindings registry' ds rs' with
    | mk result' rs₁' =>
      rw [hbuild, hbuild'] at hcompile
      cases result with
      | error e =>
        cases result' with
        | error e' => cases hcompile; exact .error e
        | ok g' => cases hcompile
      | ok g =>
        cases result' with
        | error e' => cases hcompile
        | ok g' =>
          cases hcompile with
          | ok h =>
            have hinitial := (represents_of_build hbuild).2.2.initial
            have hinitial' := (represents_of_build hbuild').2.2.initial
            exact .ok ⟨h.1, h.2, hinitial.trans hinitial'.symm⟩

end StateGraph

end Workflow
