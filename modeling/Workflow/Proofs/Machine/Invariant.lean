import Workflow.Machine.Operation
import Workflow.Proofs.Definition.Image
import Workflow.Proofs.Machine.Construction

/-! The invariant of machines. It is established by compilation, and kept by every operation, also
by one that a failing hook cuts short. -/

namespace Workflow

namespace Step

variable {α β : Type} {m : Machine} {rs : Registries} {s : Step α}

/-- Of the machine only the position may differ, and the registries have lost no handle. -/
structure Keeps (m : Machine) (rs : Registries) (s : Step α) : Prop where
  machine : ∃ p, s.machine = { m with position := p }
  registries : rs.Extends s.registries

theorem Keeps.map (h : s.Keeps m rs) (f : α → β) : (s.map f).Keeps m rs where
  machine := h.machine
  registries := h.registries

theorem Keeps.mono {rs' : Registries} (h : s.Keeps m rs') (hrs : rs.Extends rs') :
    s.Keeps m rs where
  machine := h.machine
  registries := hrs.trans h.registries

end Step

namespace Machine

open Registries (Extends)

theorem keeps_follow (m : Machine) (condition : String) (rs : Registries) :
    (m.follow condition rs).Keeps m rs := by
  unfold follow
  split
  · exact ⟨⟨m.position, rfl⟩, Extends.refl rs⟩
  · rename_i target _
    have hhooks := BoundHook.extends_callAll rs
      (m.current.onLeave.toList ++ (m.graph.state target).onEnter.toList)
    dsimp only
    split
    · exact ⟨⟨m.position, rfl⟩, hhooks⟩
    · exact ⟨⟨target, rfl⟩, hhooks⟩

theorem keeps_set (m : Machine) (name : String) (rs : Registries) :
    (m.set name rs).Keeps m rs := by
  unfold set
  split
  · exact ⟨⟨m.position, rfl⟩, Extends.refl rs⟩
  · rename_i target _
    have hleaving := BoundHook.extends_callAll rs m.current.onLeave.toList
    dsimp only
    split
    · exact ⟨⟨m.position, rfl⟩, hleaving⟩
    · exact ⟨⟨target, rfl⟩, hleaving.trans (BoundHook.extends_callAll _ _)⟩

theorem keeps_sync (m : Machine) (name : String) (rs : Registries) :
    (m.sync name rs).Keeps m rs := by
  unfold sync
  split
  · exact ⟨⟨m.position, rfl⟩, Extends.refl rs⟩
  · rename_i target _
    exact ⟨⟨target, rfl⟩, Extends.refl rs⟩

theorem keeps_move (m : Machine) (rs : Registries) (x : Move) : (x.perform m rs).Keeps m rs := by
  cases x with
  | change condition => exact (m.keeps_follow condition.name rs).map Reply.moved
  | changeByName name =>
    have hrs := rs.extends_intern m.registry name
    exact ((m.keeps_follow name _).mono hrs).map Reply.moved
  | set name => exact (m.keeps_set name rs).map Reply.forced
  | sync name => exact (m.keeps_sync name rs).map Reply.forced

theorem keeps_perform (m : Machine) (rs : Registries) (x : Operation) :
    (x.perform m rs).Keeps m rs := by
  cases x with
  | move x => exact (m.keeps_move rs x).map Answer.reply
  | inspect x => exact ⟨⟨m.position, rfl⟩, Extends.refl rs⟩

/-- All that holds of a machine and the registries at any time. -/
structure WellFormed (rs : Registries) (m : Machine) : Prop where
  size_pos : 0 < m.size
  position_lt : m.position.val < m.size
  initial_lt : m.graph.initial.val < m.size
  names_ne_empty : ∀ s ∈ m.graph.states, s.name ≠ ""
  names_distinct : (m.graph.states.map State.name).Nodup
  index_exact : m.graph.index.Exact (m.graph.states.map State.name)
  ids_eq : m.graph.states.map State.id = List.range m.size
  targets_lt : ∀ s ∈ m.graph.states, s.transitions.Below m.size
  tables_sound : ∀ s ∈ m.graph.states, s.transitions.Sound rs m.registry

/-- Wherever a state is looked up by its position, there is one. -/
structure Closed (m : Machine) : Prop where
  current : m.stateAt? m.position.val = some m.current
  initial : m.stateAt? m.graph.initial.val = some m.initial
  named : ∀ name id, m.graph.index.get? name = some id →
    ∃ s, m.stateAt? id = some s ∧ m.state? name = some s
  next : ∀ condition id, m.current.target? condition = some id →
    ∃ s, m.stateAt? id = some s ∧ m.peek? condition = some s
  listed : ∀ s ∈ m.graph.states, ∀ e ∈ s.transitions.entries,
    ∃ target, m.stateAt? e.2 = some target ∧ m.targetName e.2 = target.name

namespace WellFormed

variable {rs rs' : Registries} {m : Machine}

theorem moved (h : m.WellFormed rs) (hrs : rs.Extends rs') (p : m.graph.Position) :
    ({ m with position := p } : Machine).WellFormed rs' where
  size_pos := h.size_pos
  position_lt := p.isLt
  initial_lt := h.initial_lt
  names_ne_empty := h.names_ne_empty
  names_distinct := h.names_distinct
  index_exact := h.index_exact
  ids_eq := h.ids_eq
  targets_lt := h.targets_lt
  tables_sound s hs := (h.tables_sound s hs).mono hrs

theorem exists_stateAt? (m : Machine) {id : Nat} (hid : id < m.size) :
    ∃ s, m.stateAt? id = some s := ⟨m.graph.states[id], List.getElem?_eq_getElem hid⟩

theorem closed (h : m.WellFormed rs) : m.Closed where
  current := List.getElem?_eq_getElem h.position_lt
  initial := List.getElem?_eq_getElem h.initial_lt
  named name id hget := by
    obtain ⟨p, hp, rfl⟩ := StateGraph.exists_find?_of_get? hget
    exact ⟨m.graph.state p, m.stateAt?_val p, by rw [state?, hp, Option.map_some]⟩
  next condition id hget := by
    obtain ⟨p, hp, rfl⟩ := StateGraph.exists_next?_of_target? hget
    exact ⟨m.graph.state p, m.stateAt?_val p, by rw [peek?, hp, Option.map_some]⟩
  listed s hs e he := by
    have hentries := (h.tables_sound s hs).entries_eq
    obtain ⟨target, htarget⟩ := exists_stateAt? m (h.targets_lt s hs e (hentries ▸ he))
    exact ⟨target, htarget, by rw [targetName, htarget]⟩

end WellFormed

variable {hosts : List Host} {rs : Registries} {ds : List Declaration} {m : Machine}

theorem Represents.wellFormed (h : m.Represents hosts rs ds)
    (hnames : ∀ d ∈ ds, d.name ≠ "") : m.WellFormed rs := by
  have hlength : m.size = ds.length := h.graph.length_eq
  refine ⟨m.position.pos, m.position.isLt, m.graph.initial.isLt, fun s hs => ?_, ?_, ?_, ?_,
    m.graph.targets_below, fun s hs => ?_⟩
  · obtain ⟨d, hd, hs⟩ := h.graph.exists_realizes hs
    exact hs.name ▸ hnames d hd
  · exact h.graph.map_name_states ▸ h.graph.compiles.exact.nodup
  · exact h.graph.map_name_states ▸ h.graph.compiles.exact
  · exact hlength ▸ h.graph.compiles.ids
  · obtain ⟨d, -, hs⟩ := h.graph.exists_realizes hs
    exact hs.sound

theorem wellFormed_of_build {text : String} {registry : RegistryId}
    (h : (build text hosts registry rs).outcome = .ok m) :
    m.WellFormed (build text hosts registry rs).registries := by
  obtain ⟨rs', hcompile, -⟩ := compile_of_build h
  obtain ⟨ds, hparse, -, -, hrepresents, -⟩ := represents_of_compile hcompile
  have hnames : ∀ d ∈ ds, d.name ≠ "" := fun d hd =>
    (Definition.legible_of_parse hparse d hd).name.1
  have hentering : rs'.Extends (m.entering rs').registries := BoundHook.extends_callAll rs' _
  rw [build_eq_of_compile hcompile]
  exact (hrepresents.wellFormed hnames).moved hentering m.position

/-- The invariant holds of a machine that has been built and after every step of every run, whatever
its hooks do. Only the position ever changes, and it always is that of a state. -/
theorem build_run_wellFormed (text : String) (hosts : List Host) (registry : RegistryId)
    (rs : Registries) (m : Machine) (hbuild : (build text hosts registry rs).outcome = .ok m) :
    let rs' := (build text hosts registry rs).registries
    (m.WellFormed rs' ∧ m.Closed) ∧
      ∀ xs, ∀ step ∈ m.runOperations rs' xs,
        step.machine.WellFormed step.registries ∧ step.machine.Closed ∧
          ∃ p, step.machine = { m with position := p } := by
  intro rs'
  have hm : m.WellFormed rs' := wellFormed_of_build hbuild
  have hstep : ∀ (m' : Machine) (rs₁ : Registries) (x : Operation),
      (m'.WellFormed rs₁ ∧ ∃ p, m' = { m with position := p }) →
        (x.perform m' rs₁).machine.WellFormed (x.perform m' rs₁).registries ∧
          ∃ p, (x.perform m' rs₁).machine = { m with position := p } := by
    rintro m' rs₁ x ⟨hm', p, rfl⟩
    obtain ⟨⟨q, hq⟩, hrs⟩ := keeps_perform { m with position := p } rs₁ x
    exact ⟨hq ▸ hm'.moved hrs q, q, hq⟩
  refine ⟨⟨hm, hm.closed⟩, fun xs step hmem => ?_⟩
  obtain ⟨hwell, hsame⟩ := forall_mem_run hstep ⟨hm, m.position, rfl⟩ xs step hmem
  exact ⟨hwell, hwell.closed, hsame⟩

/-- A run in which a leave hook fails before its state is left and an enter hook after its state is
entered, and hooks intern conditions. -/
theorem build_run_wellFormed_failing_hooks :
    let text := "(A, , out) -> \x7bgo: B, on: A\x7d; (B, in, note) -> \x7bgo: A\x7d; (C) -> \x7b\x7d"
    let hosts : List Host := [⟨"h", [("in", ⟨[.intern "own" "own"], some "in failed"⟩),
      ("out", ⟨[], some "out failed"⟩), ("note", ⟨[.intern "own" "noted"], none⟩)]⟩]
    let rs : Registries := ({} : Registries).label "own" .shared
    let xs : List Operation := [.move (.changeByName "go"), .move (.sync "C"), .move (.set "B"),
      .move (.change ⟨⟨7⟩, 0, "go"⟩), .inspect .listing]
    ∃ m, (build text hosts .shared rs).outcome = .ok m ∧
      ((m.runOperations (build text hosts .shared rs).registries xs).map fun step =>
        (step.machine.current.name, step.isFailed)) =
        [("A", true), ("C", false), ("B", true), ("A", false), ("A", false)] ∧
      ∀ step ∈ m.runOperations (build text hosts .shared rs).registries xs,
        step.machine.WellFormed step.registries ∧ step.machine.graph.states = m.graph.states := by
  intro text hosts rs xs
  have hrun : (build text hosts .shared rs).outcome.toOption.map (fun m =>
      (m.runOperations (build text hosts .shared rs).registries xs).map fun step =>
        (step.machine.current.name, step.isFailed)) =
      some [("A", true), ("C", false), ("B", true), ("A", false), ("A", false)] := by
    decide +kernel
  cases hm : (build text hosts .shared rs).outcome with
  | error e => simp [hm, Except.toOption] at hrun
  | ok m =>
    rw [hm] at hrun
    refine ⟨m, rfl, Option.some.inj hrun, fun step hstep => ?_⟩
    obtain ⟨hwell, -, p, hp⟩ := (build_run_wellFormed text hosts .shared rs m hm).2 xs step hstep
    exact ⟨hwell, by rw [hp]⟩

end Machine

end Workflow
