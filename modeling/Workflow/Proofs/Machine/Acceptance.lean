import Mathlib.Tactic.MkIffOfInductiveProp
import Workflow.Description
import Workflow.Proofs.Machine.Construction

/-! Acceptance: which texts make a machine, and that the machine says all that the text says. -/

namespace Workflow

namespace Definition

/-- The conditions under which declarations are accepted with the hooks of the hosts. A target may
be declared anywhere. -/
@[mk_iff]
structure Accepted (hosts : List Host) (ds : List Declaration) : Prop where
  hooks_distinct : (hosts.flatMap Host.hookNames).Nodup
  names_distinct : (ds.map Declaration.name).Nodup
  hooks_offered : ∀ d ∈ ds, ∀ hook ∈ d.hooks, hook ∈ hosts.flatMap Host.hookNames
  targets_declared : ∀ d ∈ ds, ∀ t ∈ d.transitions, t.target ∈ ds.map Declaration.name
  conditions_distinct : ∀ d ∈ ds, (d.transitions.map Transition.condition).Nodup

instance (hosts : List Host) (ds : List Declaration) : Decidable (Accepted hosts ds) :=
  decidable_of_iff' _ (accepted_iff hosts ds)

/-- The hook bound to the enter name of the first state, if the text and the hosts are in order. -/
def enterHook? (text : String) (hosts : List Host) : Option BoundHook :=
  match parse text, Bindings.ofHosts hosts with
  | .ok (d :: _), .ok bindings => d.onEnter.bind bindings.get?
  | _, _ => none

end Definition

def Declaration.description (d : Declaration) : StateDescription where
  name := d.name
  onEnter := d.onEnter
  onLeave := d.onLeave
  transitions := d.transitions

namespace Machine

open Definition (Accepted enterHook?)

variable {text : String} {hosts : List Host} {registry : RegistryId} {rs rs' : Registries}
  {ds : List Declaration} {d : Declaration} {m : Machine}

namespace Represents

theorem targetName_of_get? (h : m.Represents hosts rs ds) {name : String} {id : StateId}
    (hget : m.graph.index.get? name = some id) : m.targetName id = name := by
  have hid := m.graph.index_below name id hget
  obtain ⟨d, hd, hname⟩ := Option.map_eq_some_iff.mp
    (List.getElem?_map .. ▸ (h.graph.compiles.exact name id).mp hget)
  have hstate : m.stateAt? id = some (m.graph.state ⟨id, hid⟩) := m.stateAt?_val ⟨id, hid⟩
  rw [targetName, hstate]
  exact (h.graph.realizes hd).name.trans hname

theorem describe_state (h : m.Represents hosts rs ds) {p : m.graph.Position}
    (hd : ds[p.val]? = some d) : (m.graph.state p).describe m.targetName = d.description := by
  have hr := h.graph.realizes hd
  have htarget : ∀ t ∈ d.transitions,
      (⟨t.condition, ((m.graph.index.get? t.target).map m.targetName).getD "?"⟩ : Transition) =
        t := by
    intro t ht
    obtain ⟨id, hid⟩ := Option.isSome_iff_exists.mp (hr.contains_target t ht)
    rw [hid, Option.map_some, Option.getD_some, h.targetName_of_get? hid]
  have htransitions : (m.graph.state p).transitions.entries.map
      (fun e => (⟨e.1.name, m.targetName e.2⟩ : Transition)) = d.transitions := by
    calc (m.graph.state p).transitions.entries.map
          (fun e => (⟨e.1.name, m.targetName e.2⟩ : Transition))
        = (m.graph.state p).transitions.listing.map
            fun e => ⟨e.1, (e.2.map m.targetName).getD "?"⟩ := by
          rw [TransitionTable.listing, List.map_map]
          rfl
      _ = d.transitions.map
            fun t => ⟨t.condition, ((m.graph.index.get? t.target).map m.targetName).getD "?"⟩ := by
          rw [hr.listing, List.map_map]
          rfl
      _ = d.transitions.map id := List.map_congr_left htarget
      _ = d.transitions := List.map_id _
  simp only [State.describe, Declaration.description, hr.name, hr.onEnter.1, hr.onLeave.1]
  rw [← htransitions]

theorem describe_states (h : m.Represents hosts rs ds) :
    m.describe.states = ds.map Declaration.description := by
  refine List.ext_getElem ?_ fun i hi hi' => ?_
  · simp [describe, h.graph.length_eq]
  · have hi : i < m.graph.states.length := by simpa [describe] using hi
    have hi' : i < ds.length := by simpa using hi'
    have hd : ds[(⟨i, hi⟩ : m.graph.Position).val]? = some ds[i] := List.getElem?_eq_getElem hi'
    simp only [describe, List.getElem_map]
    exact h.describe_state hd

theorem state?_eq (h : m.Represents hosts rs ds) {p : m.graph.Position} (hd : ds[p.val]? = some d) :
    m.state? d.name = some (m.graph.state p) := by
  have hfind := h.graph.find?_eq_some_iff.mpr ⟨d, hd, rfl⟩
  rw [state?, hfind, Option.map_some]

theorem exists_state_at (h : m.Represents hosts rs ds) {i : Nat} (hd : ds[i]? = some d) :
    ∃ s, m.state? d.name = some s ∧ m.stateAt? i = some s ∧ s.id = i ∧
      s.describe m.targetName = d.description := by
  have hi : i < m.graph.states.length := by
    rw [h.graph.length_eq]
    exact (List.getElem?_eq_some_iff.mp hd).1
  let p : m.graph.Position := ⟨i, hi⟩
  have hp : ds[p.val]? = some d := hd
  exact ⟨m.graph.state p, h.state?_eq hp, m.stateAt?_val p, h.graph.id_state p,
    h.describe_state hp⟩

theorem accepted (h : m.Represents hosts rs ds) (hhosts : (hosts.flatMap Host.hookNames).Nodup) :
    Accepted hosts ds where
  hooks_distinct := hhosts
  names_distinct := h.graph.compiles.exact.nodup
  hooks_offered d hd hook hhook := by
    obtain ⟨p, hp⟩ := h.graph.exists_position hd
    obtain ⟨-, henter, hleave⟩ := (h.graph.realizes hp).toOutlines
    rw [← Host.map_name_registrations]
    rcases List.mem_append.mp hhook with hhook | hhook
    · exact Bindings.exists_binds_iff.mp ⟨_, henter⟩ hook (Option.mem_toList.mp hhook)
    · exact Bindings.exists_binds_iff.mp ⟨_, hleave⟩ hook (Option.mem_toList.mp hhook)
  targets_declared d hd t ht := by
    obtain ⟨p, hp⟩ := h.graph.exists_position hd
    exact h.graph.compiles.exact.contains_iff.mp ((h.graph.realizes hp).contains_target t ht)
  conditions_distinct d hd := by
    obtain ⟨p, hp⟩ := h.graph.exists_position hd
    exact (h.graph.realizes hp).nodup_conditions

end Represents

theorem compile_of_accepted (hparse : Definition.parse text = .ok ds) (h : Accepted hosts ds) :
    ∃ m rs', compile text hosts registry rs = (.ok m, rs') := by
  have hds := (Definition.parse_eq_ok_iff.mp hparse).1
  have hoffered : ∀ d ∈ ds, ∀ hook ∈ d.hooks,
      hook ∈ (hosts.flatMap Host.registrations).map BoundHook.name := by
    rw [Host.map_name_registrations]
    exact h.hooks_offered
  have hgraph : ∃ o rs', StateGraph.compile ⟨hosts.flatMap Host.registrations⟩ registry ds rs =
      (.ok o, rs') :=
    StateGraph.exists_compile_eq_ok hds h.names_distinct hoffered h.targets_declared
      h.conditions_distinct
  obtain ⟨o, rs', hcompile⟩ := hgraph
  obtain ⟨m, hm⟩ := exists_compile_eq_ok hparse h.hooks_distinct hcompile
  exact ⟨m, rs', hm⟩

theorem onEnter_of_compile (h : compile text hosts registry rs = (.ok m, rs')) :
    m.current.onEnter = enterHook? text hosts := by
  obtain ⟨ds, hparse, hhosts, -, hm, hposition⟩ := represents_of_compile h
  have hbindings := Bindings.ofHosts_eq_ok_iff.mpr ⟨rfl, hhosts⟩
  obtain ⟨d, hd⟩ := hm.graph.exists_declaration m.position
  obtain ⟨-, henter, -⟩ := (hm.graph.realizes hd).toOutlines
  have hfirst : ds.head? = some d := by rw [← hm.getElem?_initial, ← hposition, hd]
  obtain ⟨rest, rfl⟩ := List.head?_eq_some_iff.mp hfirst
  simp only [enterHook?, hparse, hbindings]
  exact henter.eq_bind

theorem entering_eq_of_compile (h : compile text hosts registry rs = (.ok m, rs')) :
    (m.entering rs').failure = BoundHook.failure? (enterHook? text hosts).toList ∧
      (m.entering rs').trail = (enterHook? text hosts).toList.flatMap BoundHook.trail := by
  rw [entering, BoundHook.failure_callAll, BoundHook.trail_callAll, BoundHook.attempted_toList,
    onEnter_of_compile h]
  exact ⟨rfl, rfl⟩

theorem entering_of_compile (h : compile text hosts registry rs = (.ok m, rs'))
    (hreturns : ∀ b ∈ enterHook? text hosts, b.hook.failure = none) :
    (m.entering rs').failure = none ∧
      (m.entering rs').trail = (enterHook? text hosts).toList.flatMap BoundHook.trail := by
  obtain ⟨hfailure, htrail⟩ := entering_eq_of_compile h
  refine ⟨hfailure.trans (BoundHook.failure?_eq_none_iff.mpr fun b hb => ?_), htrail⟩
  exact hreturns b (Option.mem_toList.mp hb)

/-- With an enter hook that returns, a machine is built of exactly the texts whose declarations are
accepted. It says what they say, word for word, and has called that hook only. -/
theorem build_accepts_iff (text : String) (hosts : List Host) (registry : RegistryId)
    (rs : Registries) (hreturns : ∀ b ∈ enterHook? text hosts, b.hook.failure = none) :
    let built := build text hosts registry rs
    ((∃ m, built.outcome = .ok m) ↔
        ∃ ds, Definition.parse text = .ok ds ∧ Accepted hosts ds) ∧
      ∀ m, built.outcome = .ok m →
        ∃ first rest, Definition.parse text = .ok (first :: rest) ∧
          m.describe.states = (first :: rest).map Declaration.description ∧
          m.initial.describe m.targetName = first.description ∧ m.initial.id = 0 ∧
          m.current = m.initial ∧
          (∀ i d, (first :: rest)[i]? = some d → ∃ s, m.state? d.name = some s ∧
            m.stateAt? i = some s ∧ s.id = i ∧ s.describe m.targetName = d.description) ∧
          (enterHook? text hosts).map BoundHook.name = first.onEnter ∧
          built.trail = .event (.built (first :: rest).length first.name m.checksum) ::
            (enterHook? text hosts).toList.flatMap BoundHook.trail := by
  refine ⟨⟨fun ⟨m, hm⟩ => ?_, fun ⟨ds, hparse, hds⟩ => ?_⟩, fun m hm => ?_⟩
  · obtain ⟨rs', hcompile, -⟩ := compile_of_build hm
    obtain ⟨ds, hparse, hhosts, -, hrepresents, -⟩ := represents_of_compile hcompile
    exact ⟨ds, hparse, hrepresents.accepted hhosts⟩
  · obtain ⟨m, rs', hcompile⟩ : ∃ m rs', compile text hosts registry rs = (.ok m, rs') :=
      compile_of_accepted hparse hds
    refine ⟨m, ?_⟩
    rw [build_eq_of_compile hcompile, (entering_of_compile hcompile hreturns).1]
  · obtain ⟨rs', hcompile, -⟩ := compile_of_build hm
    obtain ⟨ds, hparse, -, -, hrepresents, hposition⟩ := represents_of_compile hcompile
    obtain ⟨first, rest, rfl⟩ := List.exists_cons_of_ne_nil hrepresents.ne_nil
    have hfirst : (first :: rest)[m.graph.initial.val]? = some first :=
      hrepresents.getElem?_initial
    have hcurrent : m.current = m.initial := congrArg m.graph.state hposition
    have hname : m.current.name = first.name := hcurrent ▸ (hrepresents.graph.realizes hfirst).name
    refine ⟨first, rest, hparse, hrepresents.describe_states, hrepresents.describe_state hfirst,
      ?_, hcurrent, fun i d hd => hrepresents.exists_state_at hd, ?_, ?_⟩
    · exact (hrepresents.graph.id_state m.graph.initial).trans hrepresents.graph.initial
    · rw [← onEnter_of_compile hcompile, hcurrent]
      exact (hrepresents.graph.realizes hfirst).onEnter.1
    · rw [build_eq_of_compile hcompile, (entering_of_compile hcompile hreturns).2, hname]
      simp only [size, hrepresents.graph.length_eq]

/-- Names may be shared by states, conditions and hooks, a state may lead to itself or to a later
one, and a hook that is not called may fail. -/
theorem build_accepts_shared_names :
    let text := "(A, in) -> \x7bgo: go, A: A\x7d; (go, , A) -> \x7bgo: A\x7d"
    let hosts : List Host := [⟨"h", [("in", ⟨[.write "entered"], none⟩)]⟩,
      ⟨"k", [("A", ⟨[], some "left"⟩)]⟩]
    ∃ m, (build text hosts .shared {}).outcome = .ok m ∧
      m.describe.states = [⟨"A", some "in", none, [⟨"go", "go"⟩, ⟨"A", "A"⟩]⟩,
        ⟨"go", none, some "A", [⟨"go", "A"⟩]⟩] ∧
      (build text hosts .shared {}).trail.callbacks =
        [.event (.invoking "in" "h"), .line "entered"] := by
  intro text hosts
  have hparse : Definition.parse text = .ok [⟨"A", some "in", none, [⟨"go", "go"⟩, ⟨"A", "A"⟩]⟩,
      ⟨"go", none, some "A", [⟨"go", "A"⟩]⟩] := by
    simp only [text]
    rfl
  have hbuild := build_accepts_iff text hosts .shared {} (by decide +kernel)
  obtain ⟨m, hm⟩ := hbuild.1.mpr ⟨_, hparse, by decide +kernel⟩
  obtain ⟨first, rest, hfirst, hdescribe, -, -, -, -, -, htrail⟩ := hbuild.2 m hm
  rw [hparse, Except.ok.injEq, List.cons.injEq] at hfirst
  obtain ⟨rfl, rfl⟩ := hfirst
  have hhook : enterHook? text hosts = some ⟨"in", "h", ⟨[.write "entered"], none⟩⟩ := by
    decide +kernel
  refine ⟨m, hm, hdescribe, ?_⟩
  rw [htrail, hhook]
  rfl

end Machine

end Workflow
