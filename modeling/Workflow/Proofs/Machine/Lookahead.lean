import Mathlib.Tactic.TFAE
import Workflow.Proofs.Definition.Arrangement
import Workflow.Proofs.Machine.Failure
import Workflow.Proofs.Machine.Moves

/-! Looking ahead. Where a condition leads is the same in the table of transitions, in their list, in the
description of the machine, and when the move is made. -/

namespace Workflow

namespace TransitionTable

variable {rs : Registries} {registry : RegistryId} {t : TransitionTable} {name : String}
  {target : StateId}

theorem Sound.nodup_names (h : t.Sound rs registry) : (t.entries.map fun e => e.1.name).Nodup := by
  have hnodup := h.nodup
  rwa [h.map_name_order, listing, List.map_map] at hnodup

theorem Sound.get?_eq_some_iff (h : t.Sound rs registry) :
    t.get? name = some target ↔ ∃ c, c.name = name ∧ (c, target) ∈ t.entries := by
  have hnodup := h.nodup_names
  rw [h.entries_eq] at hnodup ⊢
  simp only [get?, ConditionMap.get?_eq_find?, Option.map_eq_some_iff]
  constructor
  · rintro ⟨e, he, rfl⟩
    obtain ⟨hmem, hname⟩ := (find?_eq_some_iff_of_nodup hnodup).mp he
    exact ⟨e.1, hname, hmem⟩
  · rintro ⟨c, hname, hmem⟩
    exact ⟨(c, target), (find?_eq_some_iff_of_nodup hnodup).mpr ⟨hmem, hname⟩, rfl⟩

end TransitionTable

namespace Machine

variable {rs rs' : Registries} {m : Machine} {s : State} {c : String}

theorem current_mem_states (m : Machine) : m.current ∈ m.graph.states := List.getElem_mem m.position.isLt

namespace WellFormed

variable (h : m.WellFormed rs)
include h

theorem id_state (p : m.graph.Position) : (m.graph.state p).id = p.val :=
  StateGraph.id_state_of_ids h.ids_eq p

theorem exists_position (hs : s ∈ m.graph.states) : ∃ p, m.graph.state p = s ∧ p.val = s.id := by
  obtain ⟨i, hi, rfl⟩ := List.mem_iff_getElem.mp hs
  exact ⟨⟨i, hi⟩, rfl, (h.id_state ⟨i, hi⟩).symm⟩

theorem eq_of_name_eq {s' : State} (hs : s ∈ m.graph.states) (hs' : s' ∈ m.graph.states)
    (hname : s.name = s'.name) : s = s' := List.inj_on_of_nodup_map h.names_distinct hs hs' hname

theorem stateAt?_eq_some_iff {id : StateId} (hs : s ∈ m.graph.states) :
    m.stateAt? id = some s ↔ id = s.id := by
  obtain ⟨p, rfl, hp⟩ := h.exists_position hs
  constructor
  · intro hid
    obtain ⟨hlt, hstate⟩ := List.getElem?_eq_some_iff.mp hid
    have hsame : (m.graph.state ⟨id, hlt⟩).id = (m.graph.state p).id := congrArg State.id hstate
    rwa [h.id_state] at hsame
  · rintro rfl
    rw [← hp]
    exact m.stateAt?_val p

theorem next?_eq_some_iff {p : m.graph.Position} :
    m.graph.next? m.position c = some p ↔ m.current.target? c = some (m.graph.state p).id := by
  rw [h.id_state, current, ← StateGraph.map_val_next?]
  cases m.graph.next? m.position c <;> simp [Fin.ext_iff]

theorem peek?_eq_some_iff (hs : s ∈ m.graph.states) :
    m.peek? c = some s ↔ m.current.target? c = some s.id := by
  obtain ⟨p, rfl, -⟩ := h.exists_position hs
  rw [← h.next?_eq_some_iff, peek?, Option.map_eq_some_iff]
  constructor
  · rintro ⟨q, hq, hstate⟩
    have hsame : q = p := Fin.ext (by rw [← h.id_state, ← h.id_state, hstate])
    exact hsame ▸ hq
  · exact fun hp => ⟨p, hp, rfl⟩

theorem target?_eq_some_iff {id : StateId} :
    m.current.target? c = some id ↔ ∃ k, k.name = c ∧ (k, id) ∈ m.current.transitions.entries :=
  (h.tables_sound _ m.current_mem_states).get?_eq_some_iff

theorem nodup_conditions : (m.conditions.map Condition.name).Nodup := by
  have hnodup := (h.tables_sound _ m.current_mem_states).nodup_names
  rwa [conditions, State.conditions, List.map_map]

theorem mem_describe_iff (hs : s ∈ m.graph.states) :
    (∃ d ∈ m.describe.states, d.name = m.describe.current ∧ ⟨c, s.name⟩ ∈ d.transitions) ↔
      ∃ k, k.name = c ∧ (k, s.id) ∈ m.current.transitions.entries := by
  have hcurrent : ∀ s' ∈ m.graph.states, s'.name = m.current.name → s' = m.current :=
    fun s' hs' => h.eq_of_name_eq hs' m.current_mem_states
  have htarget : ∀ e ∈ m.current.transitions.entries, m.targetName e.2 = s.name ↔ e.2 = s.id := by
    intro e he
    obtain ⟨target, hat, hname⟩ := h.closed.listed _ m.current_mem_states e he
    rw [hname, ← h.stateAt?_eq_some_iff hs, hat, Option.some.injEq]
    exact ⟨h.eq_of_name_eq (List.mem_of_getElem? hat) hs, fun hsame => hsame ▸ rfl⟩
  constructor
  · rintro ⟨d, hd, hname, ht⟩
    obtain ⟨s', hs', rfl⟩ := List.mem_map.mp hd
    rw [hcurrent s' hs' hname] at ht
    obtain ⟨e, he, ht⟩ := List.mem_map.mp ht
    obtain ⟨hc, htargetName⟩ := Transition.mk.inj ht
    exact ⟨e.1, hc, (htarget e he).mp htargetName ▸ he⟩
  · rintro ⟨k, rfl, hk⟩
    refine ⟨_, List.mem_map_of_mem m.current_mem_states, rfl, List.mem_map.mpr ⟨(k, s.id), hk, ?_⟩⟩
    exact congrArg (Transition.mk k.name) ((htarget _ hk).mpr rfl)

theorem changeByName_iff (hs : s ∈ m.graph.states) (hreturns : (m.changeByName c rs').isFailed = false) :
    ((m.changeByName c rs').outcome = .ok (some s) ∧ (m.changeByName c rs').machine.current = s) ↔
      m.current.target? c = some s.id := by
  have hsettled := m.settled_changeByName c rs'
  rw [← h.peek?_eq_some_iff hs, peek?]
  cases hnext : m.graph.next? m.position c with
  | none =>
    rw [hnext] at hsettled
    cases hsettled with
    | refused hmachine houtcome => simp [houtcome]
  | some p =>
    rw [hnext] at hsettled
    obtain ⟨hmachine, houtcome⟩ := hsettled.made_of_not_failed hreturns
    have hcurrent : ({ m with position := p } : Machine).current = m.graph.state p := rfl
    rw [houtcome, hmachine, hcurrent]
    simp

end WellFormed

def HooksReturn (m : Machine) : Prop :=
  ∀ s ∈ m.graph.states, ∀ b ∈ s.onEnter.toList ++ s.onLeave.toList, b.hook.failure = none

instance (m : Machine) : Decidable m.HooksReturn := List.decidableBAll _ _

theorem HooksReturn.failure?_crossing (h : m.HooksReturn) (target : Option m.graph.Position) :
    BoundHook.failure? (m.crossing target) = none := by
  cases target with
  | none => rfl
  | some p =>
    refine BoundHook.failure?_eq_none_iff.mpr fun b hb => ?_
    rcases List.mem_append.mp hb with hb | hb
    · exact h _ m.current_mem_states b (List.mem_append_right _ hb)
    · exact h _ (List.getElem_mem p.isLt) b (List.mem_append_left _ hb)

theorem HooksReturn.not_isFailed_changeByName (h : m.HooksReturn) (c : String) (rs : Registries) :
    (m.changeByName c rs).isFailed = false :=
  (m.cutShort_follow c _).not_isFailed_of_returns (h.failure?_crossing _)

theorem changeByName_of_peek?_eq_none (hpeek : m.peek? c = none) (rs : Registries) :
    (m.changeByName c rs).outcome = .ok none ∧ (m.changeByName c rs).trail.callbacks = [] ∧
      (m.changeByName c rs).machine = m := by
  have hnext : m.graph.next? m.position c = none := Option.map_eq_none_iff.mp hpeek
  have hcut := m.cutShort_follow c (rs.intern m.registry c).2
  have hsettled := m.settled_changeByName c rs
  rw [hnext] at hcut hsettled
  cases hsettled with
  | refused hmachine houtcome => exact ⟨houtcome, hcut.callbacks, hmachine⟩

theorem peek?_eq_none_of_forall (hnone : ∀ s ∈ m.graph.states, m.peek? c ≠ some s) :
    m.peek? c = none := by
  rw [Option.eq_none_iff_forall_ne_some]
  intro s hs
  obtain ⟨p, -, rfl⟩ := Option.map_eq_some_iff.mp hs
  exact hnone _ (List.getElem_mem p.isLt) hs

/-- Looking ahead agrees with moving. Whatever a machine has been through, a condition leads to a state in
all ways to ask for it or in none: by its name and by any handle, in the table and in the list of
transitions, in the description, and when the move is made. Where it leads nowhere, the move changes
nothing. -/
theorem build_run_looks_ahead (text : String) (hosts : List Host) (registry : RegistryId)
    (rs : Registries) (m₀ : Machine) (hbuild : (build text hosts registry rs).outcome = .ok m₀)
    (hreturn : m₀.HooksReturn) :
    ∀ m, m₀.Reachable m → ∀ (c : String) (rs' : Registries),
      (∀ s ∈ m.graph.states, ∀ handle : Condition, handle.name = c → List.TFAE [
        (Inspection.peekByName c).answer m = .state (some s),
        (Inspection.peek handle).answer m = .state (some s),
        m.current.hasTransition c = true ∧ m.current.target? c = some s.id,
        ∃ own : Condition, own.name = c ∧ (own, s.id) ∈ m.current.transitions.entries,
        (∃ own ∈ m.conditions, own.name = c) ∧
          ∃ d ∈ m.describe.states, d.name = m.describe.current ∧ ⟨c, s.name⟩ ∈ d.transitions,
        (m.changeByName c rs').outcome = .ok (some s) ∧
          (m.changeByName c rs').machine.current = s]) ∧
      ((∀ s ∈ m.graph.states, m.peek? c ≠ some s) →
        (m.changeByName c rs').outcome = .ok none ∧ (m.changeByName c rs').trail.callbacks = [] ∧
          (m.changeByName c rs').machine = m) ∧
      (m.conditions.map Condition.name).Nodup ∧
      ∀ x : Inspection, let s := (Operation.inspect x).perform m rs'
        s.machine = m ∧ s.registries = rs' ∧ s.trail = [] ∧ s.outcome = .ok (x.answer m) := by
  rintro m hreachable c rs'
  obtain ⟨p, rfl⟩ := hreachable.eq_moved
  have h : ({ m₀ with position := p } : Machine).WellFormed (build text hosts registry rs).registries :=
    (wellFormed_of_build hbuild).moved (.refl _) p
  have hreturn : ({ m₀ with position := p } : Machine).HooksReturn := hreturn
  generalize ({ m₀ with position := p } : Machine) = m at h hreturn ⊢
  refine ⟨?_, fun hnone => changeByName_of_peek?_eq_none (peek?_eq_none_of_forall hnone) rs',
    h.nodup_conditions, fun x => ⟨rfl, rfl, rfl, rfl⟩⟩
  rintro s hs handle rfl
  tfae_have 1 ↔ 2 := Iff.rfl
  tfae_have 1 ↔ 3 := by
    simp only [Inspection.answer, Answer.state.injEq]
    rw [h.peek?_eq_some_iff hs, State.hasTransition_eq_isSome]
    exact ⟨fun htarget => ⟨by rw [htarget]; rfl, htarget⟩, And.right⟩
  tfae_have 1 ↔ 4 := by
    simp only [Inspection.answer, Answer.state.injEq]
    rw [h.peek?_eq_some_iff hs, h.target?_eq_some_iff]
  tfae_have 4 ↔ 5 := by
    rw [h.mem_describe_iff hs]
    have hlisted (htransition : ∃ own : Condition, own.name = handle.name ∧
        (own, s.id) ∈ m.current.transitions.entries) : ∃ own ∈ m.conditions, own.name = handle.name := by
      obtain ⟨own, hname, hown⟩ := htransition
      exact ⟨own, List.mem_map_of_mem hown, hname⟩
    exact ⟨fun htransition => ⟨hlisted htransition, htransition⟩, And.right⟩
  tfae_have 1 ↔ 6 := by
    simp only [Inspection.answer, Answer.state.injEq]
    rw [h.changeByName_iff hs (hreturn.not_isFailed_changeByName handle.name rs'), h.peek?_eq_some_iff hs]
  tfae_finish

/-- A machine that has moved, with a state that leads to itself, a hook that interns and another that would
fail but is not called by any state. -/
theorem build_run_looks_ahead_after_move :
    let text := "(A) -> \x7bgo: B\x7d; (B, in) -> \x7bagain: B, back: A\x7d"
    let hosts : List Host := [⟨"h", [("in", ⟨[.intern "own" "again"], none⟩),
      ("spare", ⟨[], some "failed"⟩)]⟩]
    let rs : Registries := ({} : Registries).label "own" .shared
    ∃ m, (build text hosts .shared rs).outcome = .ok m ∧ m.HooksReturn ∧
      let n := ((Operation.move (.changeByName "go")).perform m rs).machine
      ∃ s ∈ n.graph.states, s.name = "A" ∧ n.peek? "back" = some s ∧
        (Inspection.peek ⟨⟨7⟩, 3, "back"⟩).answer n = .state (some s) ∧
        (n.changeByName "back" rs).outcome = .ok (some s) ∧
        (n.changeByName "back" rs).machine.current = s ∧
        (n.changeByName "go" rs).outcome = .ok none ∧ (n.changeByName "go" rs).machine = n ∧
        (n.conditions.map Condition.name).Nodup := by
  intro text hosts rs
  have hrun : (build text hosts .shared rs).outcome.toOption.map (fun m =>
      let n := ((Operation.move (.changeByName "go")).perform m rs).machine
      (decide m.HooksReturn, (n.peek? "back").map State.name, (n.peek? "go").isNone)) =
      some (true, some "A", true) := by
    decide +kernel
  cases hm : (build text hosts .shared rs).outcome with
  | error e => simp [hm, Except.toOption] at hrun
  | ok m =>
    simp only [hm, Except.toOption, Option.map_some, Option.some.injEq, Prod.mk.injEq] at hrun
    obtain ⟨hreturn, hback, hgo⟩ := hrun
    have hreturn : m.HooksReturn := of_decide_eq_true hreturn
    refine ⟨m, rfl, hreturn, ?_⟩
    let n := ((Operation.move (.changeByName "go")).perform m rs).machine
    have hreachable : m.Reachable n := .single ⟨.move (.changeByName "go"), rs, rfl⟩
    have hahead := build_run_looks_ahead text hosts .shared rs m hm hreturn n hreachable
    obtain ⟨s, hpeek, hname⟩ := Option.map_eq_some_iff.mp hback
    obtain ⟨p, -, hp⟩ := Option.map_eq_some_iff.mp hpeek
    have hs : s ∈ n.graph.states := hp ▸ List.getElem_mem p.isLt
    have hviews := (hahead "back" rs).1 s hs ⟨⟨7⟩, 3, "back"⟩ rfl
    have hanswer : (Inspection.peekByName "back").answer n = .state (some s) := congrArg Answer.state hpeek
    have hmove := (hviews.out 0 5).mp hanswer
    have hnone : ∀ s ∈ n.graph.states, n.peek? "go" ≠ some s := fun s _ hpeek => by
      have hgo : (n.peek? "go").isNone = true := hgo
      simp [hpeek] at hgo
    obtain ⟨hrefused, -, hsame⟩ := (hahead "go" rs).2.1 hnone
    exact ⟨s, hs, hname, hpeek, (hviews.out 0 1).mp hanswer, hmove.1, hmove.2, hrefused, hsame,
      (hahead "go" rs).2.2.1⟩

end Machine

end Workflow
