import Mathlib.Data.List.Forall2
import Workflow.Proofs.Machine.Construction
import Workflow.Proofs.StateGraph.View

/-! Machines that show the same go on to show the same, whatever their registries hold. Those built of
the same text with the same hosts do. -/

namespace Workflow

namespace State

variable {s s' : State}

theorem target?_eq_view (s : State) (condition : String) :
    s.target? condition = (s.view.targets.find? fun e => e.1 == condition).map Prod.snd := by
  simp only [target?, TransitionTable.get?, ConditionMap.get?_eq_find?, view, byName, List.find?_map,
    Option.map_map, Function.comp_def]

theorem map_name_conditions (s : State) :
    s.conditions.map Condition.name = s.view.transitions.map Prod.fst := by
  simp only [conditions, view, byName, List.map_map, Function.comp_def]

theorem describe_eq_of_view_eq (h : s.view = s'.view) {targetName targetName' : StateId → String}
    (hnames : ∀ id, targetName id = targetName' id) : s.describe targetName = s'.describe targetName' := by
  have htransitions : ∀ s : State, (s.transitions.entries.map fun e =>
      (⟨e.1.name, targetName e.2⟩ : Transition)) =
        s.view.transitions.map fun e => ⟨e.1, targetName e.2⟩ := by
    intro s
    simp only [view, byName, List.map_map, Function.comp_def]
  have hname : s.name = s'.name := congrArg StateView.name h
  have henter : s.onEnter = s'.onEnter := congrArg StateView.onEnter h
  have hleave : s.onLeave = s'.onLeave := congrArg StateView.onLeave h
  rw [← funext hnames]
  simp only [describe, hname, henter, hleave, htransitions, h]

end State

/-- The operations differ in nothing but handles. A condition goes by its name, and so does a
state. -/
inductive Operation.Alike : Operation → Operation → Prop
  | same (x : Operation) : Alike x x
  | change {c c' : Condition} (h : c.name = c'.name) :
      Alike (.move (.change c)) (.move (.change c'))
  | peek {c c' : Condition} (h : c.name = c'.name) :
      Alike (.inspect (.peek c)) (.inspect (.peek c'))
  | isInState {s s' : State} (h : s.name = s'.name) :
      Alike (.inspect (.isInState s)) (.inspect (.isInState s'))

theorem Operation.Alike.perform_eq {x x' : Operation} (h : x.Alike x') (m : Machine)
    (rs : Registries) : x.perform m rs = x'.perform m rs := by
  cases h with
  | same => rfl
  | change h => simp only [Operation.perform, Move.perform, Machine.change, h]
  | peek h => simp only [Operation.perform, Inspection.answer, h]
  | isInState h => simp only [Operation.perform, Inspection.answer, h]

namespace Machine

abbrev SamePosition {n n' : Nat} : Option (Fin n) → Option (Fin n') → Prop :=
  Option.Rel fun p p' => p.val = p'.val

theorem samePosition_of_map_val_eq {n n' : Nat} {o : Option (Fin n)} {o' : Option (Fin n')}
    (h : o.map Fin.val = o'.map Fin.val) : SamePosition o o' := by
  cases o with
  | none =>
    cases o' with
    | none => exact .none
    | some p' => simp at h
  | some p =>
    cases o' with
    | none => simp at h
    | some p' => exact .some (Option.some.inj h)

theorem getElem?_map_view (m : Machine) (p : m.graph.Position) :
    (m.graph.states.map State.view)[p.val]? = some (m.graph.state p).view := by
  rw [List.getElem?_map, List.getElem?_eq_getElem p.isLt]
  rfl

theorem view_moved (m : Machine) (p : m.graph.Position) :
    ({ m with position := p } : Machine).view = { m.view with position := p.val } := rfl

/-- The machines show the same. -/
structure Alike (m m' : Machine) : Prop where
  view : m.view = m'.view

theorem alike_of_view_eq {s s' : Step Answer} (h : s.view = s'.view) : Alike s.machine s'.machine :=
  ⟨congrArg StepView.machine h⟩

namespace Alike

variable {m m' : Machine} {p : m.graph.Position} {p' : m'.graph.Position}

theorem map_view_states (h : Alike m m') :
    m.graph.states.map State.view = m'.graph.states.map State.view :=
  congrArg MachineView.states h.view

theorem view_state (h : Alike m m') (hp : p.val = p'.val) :
    (m.graph.state p).view = (m'.graph.state p').view := by
  have hget : (m.graph.states.map State.view)[p.val]? = (m'.graph.states.map State.view)[p'.val]? := by
    rw [h.map_view_states, hp]
  rw [getElem?_map_view, getElem?_map_view] at hget
  exact Option.some.inj hget

theorem moved (h : Alike m m') (hp : p.val = p'.val) :
    Alike { m with position := p } { m' with position := p' } := by
  constructor
  simp only [view_moved, h.view, hp]

theorem position_val (h : Alike m m') : m.position.val = m'.position.val :=
  congrArg MachineView.position h.view

theorem size_eq (h : Alike m m') : m.size = m'.size := by
  have hlength := congrArg List.length h.map_view_states
  rwa [List.length_map, List.length_map] at hlength

theorem checksum_eq (h : Alike m m') : m.checksum = m'.checksum :=
  congrArg MachineView.checksum h.view

theorem view_current (h : Alike m m') : m.current.view = m'.current.view :=
  h.view_state h.position_val

theorem name_current (h : Alike m m') : m.current.name = m'.current.name :=
  congrArg StateView.name h.view_current

theorem onEnter_eq (h : Alike m m') (hp : p.val = p'.val) :
    (m.graph.state p).onEnter = (m'.graph.state p').onEnter :=
  congrArg StateView.onEnter (h.view_state hp)

theorem onLeave_current (h : Alike m m') : m.current.onLeave = m'.current.onLeave :=
  congrArg StateView.onLeave h.view_current

theorem view_initial (h : Alike m m') : m.initial.view = m'.initial.view :=
  h.view_state (congrArg MachineView.initial h.view)

theorem map_view_stateAt? (h : Alike m m') (id : StateId) :
    (m.stateAt? id).map State.view = (m'.stateAt? id).map State.view := by
  simp only [stateAt?, ← List.getElem?_map, h.map_view_states]

theorem targetName_eq (h : Alike m m') (id : StateId) : m.targetName id = m'.targetName id := by
  have hname : ∀ m : Machine, m.targetName id =
      (((m.stateAt? id).map State.view).map StateView.name).getD "?" := by
    intro m
    unfold targetName
    cases m.stateAt? id <;> rfl
  rw [hname, hname, h.map_view_stateAt?]

theorem next? (h : Alike m m') (condition : String) :
    SamePosition (m.graph.next? m.position condition) (m'.graph.next? m'.position condition) := by
  refine samePosition_of_map_val_eq ?_
  have hview : (m.graph.state m.position).view = (m'.graph.state m'.position).view := h.view_current
  rw [StateGraph.map_val_next?, StateGraph.map_val_next?, State.target?_eq_view,
    State.target?_eq_view, hview]

theorem find? (h : Alike m m') (name : String) :
    SamePosition (m.graph.find? name) (m'.graph.find? name) := by
  have hindex : m.graph.index.entries = m'.graph.index.entries := congrArg MachineView.index h.view
  refine samePosition_of_map_val_eq ?_
  rw [StateGraph.map_val_find?, StateGraph.map_val_find?, NameIndex.get?, NameIndex.get?, hindex]

theorem map_view_of_samePosition (h : Alike m m') {o : Option m.graph.Position}
    {o' : Option m'.graph.Position} (ho : SamePosition o o') :
    (o.map m.graph.state).map State.view = (o'.map m'.graph.state).map State.view := by
  cases ho with
  | none => rfl
  | some hp => exact congrArg some (h.view_state hp)

theorem forcedTarget? (h : Alike m m') (name : String) :
    SamePosition (m.forcedTarget? name) (m'.forcedTarget? name) := by
  unfold Machine.forcedTarget?
  have hfind := h.find? name
  generalize m.graph.find? name = o at hfind ⊢
  generalize m'.graph.find? name = o' at hfind ⊢
  cases hfind with
  | none => exact .none
  | @some p p' hp =>
    have hsame : p = m.position ↔ p' = m'.position := by
      rw [Fin.ext_iff, Fin.ext_iff, hp, h.position_val]
    simp only [Option.filter_some, bne_iff_ne, ne_eq, hsame]
    split
    · exact .some hp
    · exact .none

theorem refusal_eq (h : Alike m m') (name : String) : m.refusal name = m'.refusal name := by
  unfold Machine.refusal
  have hfind := h.find? name
  generalize m.graph.find? name = o at hfind ⊢
  generalize m'.graph.find? name = o' at hfind ⊢
  cases hfind <;> rfl

theorem viewBy_follow (h : Alike m m') (condition : String) (rs rs' : Registries) :
    (m.follow condition rs).viewBy (Option.map State.view) =
      (m'.follow condition rs').viewBy (Option.map State.view) := by
  have hnext := h.next? condition
  unfold Machine.follow
  generalize m.graph.next? m.position condition = o at hnext ⊢
  generalize m'.graph.next? m'.position condition = o' at hnext ⊢
  cases hnext with
  | none => simp only [Step.viewBy, h.view, h.name_current, Except.map]
  | @some p p' hp =>
    have hname : (m.graph.state p).name = (m'.graph.state p').name :=
      congrArg StateView.name (h.view_state hp)
    simp only [BoundHook.failure_callAll, BoundHook.trail_callAll, h.onLeave_current,
      h.onEnter_eq hp]
    split
    · simp only [Step.viewBy, h.view, h.name_current, hname, Except.map]
    · simp only [Step.viewBy, (h.moved hp).view, h.name_current, hname, h.view_state hp,
        Except.map, Option.map_some]

theorem viewBy_set (h : Alike m m') (name : String) (rs rs' : Registries) :
    (m.set name rs).viewBy id = (m'.set name rs').viewBy id := by
  have htarget := h.forcedTarget? name
  unfold Machine.set
  generalize m.forcedTarget? name = o at htarget ⊢
  generalize m'.forcedTarget? name = o' at htarget ⊢
  cases htarget with
  | none => simp only [Step.viewBy, h.view, h.refusal_eq]
  | @some p p' hp =>
    simp only [BoundHook.failure_callAll, BoundHook.trail_callAll, h.onLeave_current,
      h.onEnter_eq hp, h.name_current]
    split
    · simp only [Step.viewBy, h.view]
    · simp only [Step.viewBy, (h.moved hp).view]

theorem viewBy_sync (h : Alike m m') (name : String) (rs rs' : Registries) :
    (m.sync name rs).viewBy id = (m'.sync name rs').viewBy id := by
  have htarget := h.forcedTarget? name
  unfold Machine.sync
  generalize m.forcedTarget? name = o at htarget ⊢
  generalize m'.forcedTarget? name = o' at htarget ⊢
  cases htarget with
  | none => simp only [Step.viewBy, h.view, h.refusal_eq]
  | some hp => simp only [Step.viewBy, (h.moved hp).view, h.name_current]

theorem map_states_eq (h : Alike m m') {α : Type} {f f' : State → α}
    (hf : ∀ s s', s.view = s'.view → f s = f' s') :
    m.graph.states.map f = m'.graph.states.map f' := by
  have hstates := h.map_view_states
  rw [← List.forall₂_eq_eq_eq, List.forall₂_map_left_iff, List.forall₂_map_right_iff] at hstates ⊢
  exact hstates.imp hf

theorem describe_eq (h : Alike m m') : m.describe = m'.describe := by
  have hinitial : m.initial.name = m'.initial.name := congrArg StateView.name h.view_initial
  have hstates := h.map_states_eq fun s s' hs => State.describe_eq_of_view_eq hs h.targetName_eq
  simp only [describe, hinitial, h.name_current, h.checksum_eq, hstates]

theorem listing_eq (h : Alike m m') : m.listing = m'.listing := by
  unfold listing
  refine congrArg String.join (h.map_states_eq fun s s' hs => ?_)
  have hlines : ∀ s : State, s.transitions.entries.map (fun e =>
      "  " ++ e.1.name ++ " -> " ++ m.targetName e.2 ++ "\n") =
        s.view.transitions.map fun e => "  " ++ e.1 ++ " -> " ++ m.targetName e.2 ++ "\n" := by
    intro s
    simp only [State.view, State.byName, List.map_map, Function.comp_def]
  have hname : s.name = s'.name := congrArg StateView.name hs
  change s.name ++ "\n" ++ String.join (s.transitions.entries.map fun e =>
    "  " ++ e.1.name ++ " -> " ++ m.targetName e.2 ++ "\n") = _
  simp only [← h.targetName_eq, hlines, hs, hname]

theorem detail_eq (h : Alike m m') : m.detail = m'.detail := by
  unfold detail
  rw [h.name_current, h.size_eq, h.checksum_eq]

theorem view_answer (h : Alike m m') (x : Inspection) :
    (x.answer m).view m.registry = (x.answer m').view m'.registry := by
  cases x with
  | peek c => exact congrArg AnswerView.state (h.map_view_of_samePosition (h.next? c.name))
  | peekByName c => exact congrArg AnswerView.state (h.map_view_of_samePosition (h.next? c))
  | isIn name => simp only [Inspection.answer, Answer.view, isIn, h.name_current]
  | isInState s => simp only [Inspection.answer, Answer.view, isIn, h.name_current]
  | current => simp only [Inspection.answer, Answer.view, Option.map_some, h.view_current]
  | initial => simp only [Inspection.answer, Answer.view, Option.map_some, h.view_initial]
  | state name => exact congrArg AnswerView.state (h.map_view_of_samePosition (h.find? name))
  | stateAt id => exact congrArg AnswerView.state (h.map_view_stateAt? id)
  | states => exact congrArg AnswerView.states h.map_view_states
  | size => exact congrArg AnswerView.size h.size_eq
  | isEmpty =>
    have hempty := congrArg List.isEmpty h.map_view_states
    rw [List.isEmpty_map, List.isEmpty_map] at hempty
    exact congrArg AnswerView.flag hempty
  | conditions =>
    simp only [Inspection.answer, Answer.view, Machine.conditions, State.map_name_conditions,
      h.view_current]
  | checksum => exact congrArg AnswerView.text h.checksum_eq
  | registry => simp only [Inspection.answer, Answer.view, beq_self_eq_true]
  | description => exact congrArg AnswerView.description h.describe_eq
  | listing => exact congrArg AnswerView.text h.listing_eq
  | detail => exact congrArg AnswerView.text h.detail_eq

theorem perform (h : Alike m m') {x x' : Operation} (hx : x.Alike x') (rs rs' : Registries) :
    (x.perform m rs).view = (x'.perform m' rs').view := by
  rw [hx.perform_eq]
  cases x' with
  | inspect x => simp only [Operation.perform, Step.view, Step.viewBy, Except.map, h.view, h.view_answer]
  | move x =>
    have hmoved : ∀ s : Step (Option State), ((s.map Reply.moved).map Answer.reply).view =
        (s.viewBy (Option.map State.view)).map fun o => .reply (.moved o) := by
      intro s
      rw [← Step.viewBy_comp, Step.view, Step.viewBy_map, Step.viewBy_map]
      rfl
    have hforced : ∀ s : Step Bool, ((s.map Reply.forced).map Answer.reply).view =
        (s.viewBy id).map fun made => .reply (.forced made) := by
      intro s
      rw [← Step.viewBy_comp, Step.view, Step.viewBy_map, Step.viewBy_map]
      rfl
    cases x with
    | change c =>
      simp only [Operation.perform, Move.perform, hmoved, change, h.viewBy_follow c.name rs rs']
    | changeByName name =>
      have hfollow := h.viewBy_follow name (rs.intern m.registry name).2 (rs'.intern m'.registry name).2
      exact (hmoved _).trans ((congrArg _ hfollow).trans (hmoved _).symm)
    | set name => simp only [Operation.perform, Move.perform, hforced, h.viewBy_set name rs rs']
    | sync name => simp only [Operation.perform, Move.perform, hforced, h.viewBy_sync name rs rs']

theorem runOperations (h : Alike m m') {xs xs' : List Operation}
    (hxs : List.Forall₂ Operation.Alike xs xs') (rs rs' : Registries) :
    (m.runOperations rs xs).map Step.view = (m'.runOperations rs' xs').map Step.view := by
  induction hxs generalizing m m' rs rs' with
  | nil => rfl
  | @cons x x' xs xs' hx _ ih =>
    have hstep := h.perform hx rs rs'
    have hnext := ih (alike_of_view_eq hstep) (x.perform m rs).registries
      (x'.perform m' rs').registries
    simp only [Machine.runOperations, run, List.map_cons] at hnext ⊢
    rw [hstep, hnext]

end Alike

theorem sameOutcome_compile (text : String) (hosts : List Host) (registry registry' : RegistryId)
    (rs rs' : Registries) :
    SameOutcome Alike (compile text hosts registry rs).1 (compile text hosts registry' rs').1 := by
  unfold compile
  cases Definition.parse text with
  | error e => exact .error e
  | ok ds =>
    cases Bindings.ofHosts hosts with
    | error e => exact .error e
    | ok bindings =>
      have hgraph := StateGraph.sameOutcome_build bindings registry registry' ds rs rs'
      dsimp only
      generalize StateGraph.build bindings registry ds rs = built at hgraph ⊢
      generalize StateGraph.build bindings registry' ds rs' = built' at hgraph ⊢
      obtain ⟨result, rs₁⟩ := built
      obtain ⟨result', rs₁'⟩ := built'
      cases hgraph with
      | error e => exact .error e
      | ok h => exact .ok ⟨by simp only [view, h.states, h.index, h.initial]⟩

theorem view_build (text : String) (hosts : List Host) (registry registry' : RegistryId)
    (rs rs' : Registries) :
    (build text hosts registry rs).view = (build text hosts registry' rs').view := by
  have hcompile := sameOutcome_compile text hosts registry registry' rs rs'
  unfold build
  generalize compile text hosts registry rs = compiled at hcompile ⊢
  generalize compile text hosts registry' rs' = compiled' at hcompile ⊢
  obtain ⟨result, rs₁⟩ := compiled
  obtain ⟨result', rs₁'⟩ := compiled'
  cases hcompile with
  | error e => rfl
  | @ok m m' h =>
    have henter : m.current.onEnter = m'.current.onEnter := congrArg StateView.onEnter h.view_current
    simp only [Construction.view, BoundHook.failure_callAll, BoundHook.trail_callAll, henter,
      h.size_eq, h.name_current, h.checksum_eq]
    split
    · rfl
    · simp only [Except.map, h.view]

theorem sameOutcome_of_view_eq {c c' : Construction} (h : c.view = c'.view) :
    SameOutcome Alike c.outcome c'.outcome := by
  have houtcome : c.outcome.map view = c'.outcome.map view := congrArg ConstructionView.outcome h
  generalize c.outcome = result at houtcome ⊢
  generalize c'.outcome = result' at houtcome ⊢
  cases result with
  | error e =>
    cases result' with
    | error e' => exact Except.error.inj houtcome ▸ .error e
    | ok m' => cases houtcome
  | ok m =>
    cases result' with
    | error e' => cases houtcome
    | ok m' => exact .ok ⟨Except.ok.inj houtcome⟩

end Machine

end Workflow
