import Workflow.Machine
import Workflow.Proofs.Definition.Reading
import Workflow.Proofs.Hooks
import Workflow.Proofs.StateGraph.Positions

/-! How a machine comes about: the text is read, the hooks are bound, the graph is compiled, and the
enter hook of the first state is called. -/

namespace Workflow

namespace Machine

/-- The machine goes by the declarations, with the hooks of the hosts. -/
structure Represents (hosts : List Host) (rs : Registries) (ds : List Declaration)
    (m : Machine) : Prop where
  graph : m.graph.Represents ⟨hosts.flatMap Host.registrations⟩ m.registry rs ds

variable {text : String} {hosts : List Host} {registry : RegistryId} {rs rs' : Registries}
  {ds : List Declaration} {m : Machine}

theorem stateAt?_val (m : Machine) (p : m.graph.Position) :
    m.stateAt? p.val = some (m.graph.state p) := List.getElem?_eq_getElem p.isLt

theorem represents_of_compile (h : compile text hosts registry rs = (.ok m, rs')) :
    ∃ ds, Definition.parse text = .ok ds ∧ (hosts.flatMap Host.hookNames).Nodup ∧
      rs.Extends rs' ∧ m.Represents hosts rs' ds ∧ m.position = m.graph.initial := by
  unfold compile at h
  split at h
  · simp at h
  · rename_i ds hparse
    split at h
    · simp at h
    · rename_i bindings hbindings
      obtain ⟨rfl, hnodup⟩ := Bindings.ofHosts_eq_ok_iff.mp hbindings
      split at h
      · simp at h
      · rename_i graph registries hgraph
        simp only [Prod.mk.injEq, Except.ok.injEq] at h
        obtain ⟨rfl, rfl⟩ := h
        obtain ⟨-, hrs, hrepresents⟩ := StateGraph.represents_of_build hgraph
        exact ⟨ds, hparse, hnodup, hrs, ⟨hrepresents⟩, rfl⟩

theorem exists_compile_eq_ok (hparse : Definition.parse text = .ok ds)
    (hhosts : (hosts.flatMap Host.hookNames).Nodup) {o : Outline}
    (hcompile : StateGraph.compile ⟨hosts.flatMap Host.registrations⟩ registry ds rs = (.ok o, rs')) :
    ∃ m, compile text hosts registry rs = (.ok m, rs') := by
  have hbindings := Bindings.ofHosts_eq_ok_iff.mpr ⟨rfl, hhosts⟩
  obtain ⟨graph, hgraph⟩ := StateGraph.exists_build_eq_ok hcompile
  let checksum := Checksum.ofBytes (Definition.normalize text).toUTF8.data.toList
  exact ⟨{ graph, registry, checksum, position := graph.initial },
    by simp only [compile, hparse, hbindings, hgraph, checksum]⟩

theorem checksum_of_compile (h : compile text hosts registry rs = (.ok m, rs')) :
    m.checksum = Checksum.ofBytes (Definition.normalize text).toUTF8.data.toList := by
  unfold compile at h
  split at h
  · simp at h
  · split at h
    · simp at h
    · split at h
      · simp at h
      · simp only [Prod.mk.injEq, Except.ok.injEq] at h
        rw [← h.1]

def entering (m : Machine) (registries : Registries) : HookRun :=
  BoundHook.callAll m.current.onEnter.toList registries

theorem build_eq_of_compile (h : compile text hosts registry rs = (.ok m, rs')) :
    build text hosts registry rs =
      { registries := (m.entering rs').registries
        trail := .event (.built m.size m.current.name m.checksum) :: (m.entering rs').trail
        outcome := match (m.entering rs').failure with
          | some text => .error (.hookFailed text)
          | none => .ok m } := by
  rw [build, h]
  rfl

theorem compile_of_build (h : (build text hosts registry rs).outcome = .ok m) :
    ∃ rs', compile text hosts registry rs = (.ok m, rs') ∧ (m.entering rs').failure = none := by
  cases hcompile : compile text hosts registry rs with
  | mk result rs' =>
    cases result with
    | error e => simp [build, hcompile] at h
    | ok made =>
      rw [build_eq_of_compile hcompile] at h
      simp only at h
      split at h
      · simp at h
      · rename_i hfailure
        cases h
        exact ⟨rs', rfl, hfailure⟩

namespace Represents

theorem ne_nil (h : m.Represents hosts rs ds) : ds ≠ [] := by
  have hpos := m.position.pos
  rw [h.graph.length_eq] at hpos
  exact List.length_pos_iff.mp hpos

theorem getElem?_initial (h : m.Represents hosts rs ds) :
    ds[m.graph.initial.val]? = ds.head? := by
  rw [h.graph.initial, List.head?_eq_getElem?]

end Represents

end Machine

end Workflow
