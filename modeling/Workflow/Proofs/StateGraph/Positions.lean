import Workflow.Proofs.StateGraph.Compilation

/-! Graphs by position and by name. A position of a graph is a place in the list of declarations,
and its ways out are those of the declaration there. -/

namespace Workflow.StateGraph

variable {rs rs' : Registries} {registry : RegistryId} {bindings : Bindings}
  {ds : List Declaration} {d : Declaration} {g : StateGraph} {name : String}

theorem exists_find?_of_get? {id : StateId} (h : g.index.get? name = some id) :
    ∃ p, g.find? name = some p ∧ p.val = id := by
  rw [← map_val_find?] at h
  exact Option.map_eq_some_iff.mp h

theorem exists_next?_of_target? {p : g.Position} {condition : String} {id : StateId}
    (h : (g.state p).target? condition = some id) :
    ∃ target, g.next? p condition = some target ∧ target.val = id := by
  rw [← map_val_next?] at h
  exact Option.map_eq_some_iff.mp h

theorem id_state_of_ids {n : Nat} (h : g.states.map State.id = List.range n) (p : g.Position) :
    (g.state p).id = p.val := by
  have hlength : g.states.length = n := by simpa using congrArg List.length h
  have hids : (g.states.map State.id)[p.val]? = (List.range n)[p.val]? := congrArg (·[p.val]?) h
  rw [List.getElem?_map, List.getElem?_eq_getElem p.isLt, List.getElem?_range (hlength ▸ p.isLt)] at hids
  exact Option.some.inj hids

/-- The graph is what the declarations compile to, and begins with the first. -/
structure Represents (bindings : Bindings) (registry : RegistryId) (rs : Registries)
    (ds : List Declaration) (g : StateGraph) : Prop where
  compiles : g.outline.Compiles bindings registry rs ds
  initial : g.initial.val = 0

theorem represents_of_build (h : build bindings registry ds rs = (.ok g, rs')) :
    ds ≠ [] ∧ rs.Extends rs' ∧ g.Represents bindings registry rs' ds := by
  have hinitial : g.initial.val = 0 := by
    unfold build at h
    split at h
    · simp at h
    · simp only [Prod.mk.injEq, Except.ok.injEq] at h
      rw [← h.1]
  have hcompile : compile bindings registry ds rs = (.ok g.outline, rs') := by
    rw [← map_outline_build, h]
    rfl
  obtain ⟨hds, hrs, hcompiles⟩ := compiles_of_compile hcompile
  exact ⟨hds, hrs, hcompiles, hinitial⟩

theorem exists_build_eq_ok {o : Outline} (h : compile bindings registry ds rs = (.ok o, rs')) :
    ∃ g, build bindings registry ds rs = (.ok g, rs') := by
  have hmap := map_outline_build bindings registry ds rs
  rw [h, Prod.mk.injEq] at hmap
  obtain ⟨hgraph, hregistries⟩ := hmap
  cases hbuild : build bindings registry ds rs with
  | mk result registries =>
    rw [hbuild] at hgraph hregistries
    cases result with
    | error e => simp [Except.map] at hgraph
    | ok g => exact ⟨g, hregistries ▸ rfl⟩

namespace Represents

theorem length_eq (h : g.Represents bindings registry rs ds) : g.states.length = ds.length :=
  h.compiles.states.length_eq.symm

theorem exists_declaration (h : g.Represents bindings registry rs ds) (p : g.Position) :
    ∃ d, ds[p.val]? = some d := by
  have hlt : p.val < ds.length := h.length_eq ▸ p.isLt
  exact ⟨ds[p.val], List.getElem?_eq_getElem hlt⟩

theorem exists_position (h : g.Represents bindings registry rs ds) (hd : d ∈ ds) :
    ∃ p : g.Position, ds[p.val]? = some d := by
  obtain ⟨i, hi, rfl⟩ := List.mem_iff_getElem.mp hd
  exact ⟨⟨i, h.length_eq ▸ hi⟩, List.getElem?_eq_getElem hi⟩

theorem realizes (h : g.Represents bindings registry rs ds) {p : g.Position}
    (hd : ds[p.val]? = some d) : State.Realizes bindings g.index registry rs d (g.state p) := by
  obtain ⟨hlt, rfl⟩ := List.getElem?_eq_some_iff.mp hd
  exact h.compiles.states.get hlt p.isLt

theorem exists_realizes (h : g.Represents bindings registry rs ds) {s : State}
    (hs : s ∈ g.states) : ∃ d ∈ ds, State.Realizes bindings g.index registry rs d s := by
  obtain ⟨i, hi, rfl⟩ := List.mem_iff_getElem.mp hs
  obtain ⟨d, hd⟩ := h.exists_declaration ⟨i, hi⟩
  exact ⟨d, List.mem_of_getElem? hd, h.realizes hd⟩

theorem id_state (h : g.Represents bindings registry rs ds) (p : g.Position) :
    (g.state p).id = p.val :=
  id_state_of_ids h.compiles.ids p

theorem map_name_states (h : g.Represents bindings registry rs ds) :
    g.states.map State.name = ds.map Declaration.name := by
  have hstates := h.compiles.states
  rw [← List.forall₂_eq_eq_eq, List.forall₂_map_left_iff, List.forall₂_map_right_iff]
  exact hstates.flip.imp fun _ _ hs => hs.name

theorem find?_eq_some_iff (h : g.Represents bindings registry rs ds) {p : g.Position} :
    g.find? name = some p ↔ ∃ d, ds[p.val]? = some d ∧ d.name = name := by
  have hval : g.find? name = some p ↔ g.index.get? name = some p.val := by
    rw [← map_val_find?]
    cases g.find? name <;> simp [Fin.ext_iff]
  have hexact : g.index.get? name = some p.val ↔ _ := h.compiles.exact name p.val
  rw [hval, hexact, List.getElem?_map, Option.map_eq_some_iff]

theorem find?_eq_none_iff (h : g.Represents bindings registry rs ds) :
    g.find? name = none ↔ name ∉ ds.map Declaration.name := by
  have hcontains : g.index.contains name = true ↔ _ := h.compiles.exact.contains_iff
  rw [← hcontains, NameIndex.contains, ← map_val_find?]
  cases g.find? name <;> simp

theorem next?_eq (h : g.Represents bindings registry rs ds) {p : g.Position}
    (hd : ds[p.val]? = some d) (condition : String) :
    g.next? p condition =
      (d.transitions.find? fun t => t.condition == condition).bind fun t => g.find? t.target := by
  apply Option.map_injective fun _ _ => Fin.ext
  rw [map_val_next?, (h.realizes hd).target?_eq, Option.map_bind]
  simp only [Function.comp_def, map_val_find?]

theorem find?_declaration (h : g.Represents bindings registry rs ds) (name : String) :
    (ds.find? fun d => d.name == name) = (g.find? name).bind fun p => ds[p.val]? := by
  cases hfind : g.find? name with
  | none =>
    have hnot := h.find?_eq_none_iff.mp hfind
    simp only [List.mem_map, not_exists, not_and] at hnot
    simpa using hnot
  | some p =>
    obtain ⟨d, hd, hname⟩ := h.find?_eq_some_iff.mp hfind
    rw [Option.bind_some, hd]
    cases hds : ds.find? fun d => d.name == name with
    | none => simpa [hname] using List.find?_eq_none.mp hds d (List.mem_of_getElem? hd)
    | some d' =>
      have hname' : d'.name = name := by simpa using List.find?_some hds
      have hsame : d' = d := List.inj_on_of_nodup_map h.compiles.exact.nodup
        (List.mem_of_find?_eq_some hds) (List.mem_of_getElem? hd) (hname'.trans hname.symm)
      rw [hsame]

end Represents

end Workflow.StateGraph
