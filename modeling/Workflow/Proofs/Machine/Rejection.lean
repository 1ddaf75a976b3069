import Workflow.Proofs.Machine.Construction
import Workflow.Proofs.StateGraph.Rejection

/-! Machines that do not come about. The first fault is what is reported, no hook is called, and of
the registries only the chosen one has changed, by the conditions before the fault. -/

namespace Workflow.Machine

open Definition (Rejected examined examined_eq_some_iff)

variable {text : String} {hosts : List Host} {registry : RegistryId} {rs rs' : Registries}
  {e : DefinitionError} {interned : List String}

theorem attempts_compile (text : String) (hosts : List Host) (registry : RegistryId)
    (rs : Registries) :
    Attempts rs registry (examined text hosts) (compile text hosts registry rs) := by
  cases hparse : Definition.parse text with
  | error e =>
    have hplain := DefinitionError.concernsTransition_of_isSyntactic (Definition.isSyntactic_of_parse hparse)
    simp only [examined, compile, hparse]
    exact .of_error hplain
  | ok ds =>
    have hds := (Definition.parse_eq_ok_iff.mp hparse).1
    have hhosts := Bindings.errorOf?_ofHosts hosts
    simp only [examined, compile, hparse, ← hhosts]
    cases hbindings : Bindings.ofHosts hosts with
    | error e =>
      rw [hbindings] at hhosts
      obtain ⟨earlier, b, -, hfault⟩ := exists_of_examine hhosts.symm
      obtain ⟨first, -, rfl⟩ := BoundHook.eq_of_fault? hfault
      exact .of_error rfl
    | ok bindings =>
      have hbound := (Bindings.ofHosts_eq_ok_iff.mp hbindings).1
      have hoffered : bindings.hooks.map BoundHook.name = hosts.flatMap Host.hookNames := by
        rw [hbound, Host.map_name_registrations]
      have hbuild : Attempts rs registry (Definition.checked (hosts.flatMap Host.hookNames) ds)
          (StateGraph.build bindings registry ds rs) := by
        rw [← hoffered]
        exact StateGraph.attempts_build bindings hds
      simp only [errorOf?]
      generalize StateGraph.build bindings registry ds rs = built at hbuild ⊢
      obtain ⟨result, rs'⟩ := built
      cases result <;> exact ⟨hbuild.fault, hbuild.registries⟩

theorem build_eq_of_rejected (h : compile text hosts registry rs = (.error e, rs')) :
    build text hosts registry rs = { registries := rs', outcome := .error (.rejected e) } := by
  rw [build, h]

theorem compile_of_rejected (h : (build text hosts registry rs).outcome = .error (.rejected e)) :
    ∃ rs', compile text hosts registry rs = (.error e, rs') := by
  cases hcompile : compile text hosts registry rs with
  | mk result rs' =>
    cases result with
    | error e' =>
      rw [build_eq_of_rejected hcompile, Except.error.injEq, BuildError.rejected.injEq] at h
      exact ⟨rs', h ▸ rfl⟩
    | ok m =>
      rw [build_eq_of_compile hcompile] at h
      cases hfailure : (m.entering rs').failure <;> simp [hfailure] at h

theorem outcome_eq_rejected_iff :
    (build text hosts registry rs).outcome = .error (.rejected e) ↔
      ∃ interned, Rejected text hosts e interned := by
  have hattempts := attempts_compile text hosts registry rs
  constructor
  · intro h
    obtain ⟨rs', hcompile⟩ := compile_of_rejected h
    have hfault : (examined text hosts).2 = some e := by
      rw [← hattempts.fault, hcompile]
      rfl
    exact ⟨(examined text hosts).1, examined_eq_some_iff.mp (Prod.ext rfl hfault)⟩
  · rintro ⟨interned, h⟩
    have hexamined := examined_eq_some_iff.mpr h
    have hfault : errorOf? (compile text hosts registry rs).1 = some e := by
      rw [hattempts.fault, hexamined]
    have hcompile := errorOf?_eq_some_iff.mp hfault
    rw [build_eq_of_rejected (Prod.ext hcompile rfl)]

theorem build_of_rejected (h : Rejected text hosts e interned) :
    (build text hosts registry rs).trail = [] ∧ (build text hosts registry rs).registries =
      rs.internAll (Definition.requests registry interned (some e)) := by
  obtain ⟨rs', hcompile⟩ : ∃ rs', compile text hosts registry rs = (.error e, rs') :=
    compile_of_rejected (outcome_eq_rejected_iff.mpr ⟨interned, h⟩)
  have hregistries := (attempts_compile text hosts registry rs).registries
  rw [hcompile, examined_eq_some_iff.mpr h] at hregistries
  rw [build_eq_of_rejected hcompile]
  exact ⟨rfl, hregistries⟩

theorem mem_requests_of_rejected (h : Rejected text hosts e interned) {id : RegistryId}
    {name : String} :
    (id, name) ∈ Definition.requests registry interned (some e) ↔ id = registry ∧ name ∈ interned := by
  have hmem : ∀ other, other ∈ interned ++ e.repeated?.toList ↔ other ∈ interned := by
    intro other
    rw [List.mem_append, Option.mem_toList]
    exact ⟨fun hother => hother.elim (fun hseen => hseen) h.mem_of_repeated?, .inl⟩
  simp only [Definition.requests, Option.bind_some, List.mem_map, hmem, Prod.mk.injEq]
  constructor
  · rintro ⟨_, hname, rfl, rfl⟩
    exact ⟨rfl, hname⟩
  · rintro ⟨rfl, hname⟩
    exact ⟨name, hname, rfl, rfl⟩

/-- The first fault is what a failed build reports. It has called nothing by then, and has interned the
conditions of the transitions before that fault, in its own registry. -/
theorem build_reports_first_fault (text : String) (hosts : List Host) (registry : RegistryId)
    (rs : Registries) :
    let built := build text hosts registry rs
    (∀ e, built.outcome = .error (.rejected e) ↔ ∃ interned, Rejected text hosts e interned) ∧
      ∀ e interned, Rejected text hosts e interned →
        built.trail = [] ∧
        (e.isSyntactic = true ↔ ∃ e', Definition.parse text = .error e') ∧
        (∀ name, (built.registries.get registry).contains name = true ↔
          (rs.get registry).contains name = true ∨ name ∈ interned) ∧
        (∀ id, id ≠ registry → built.registries.get id = rs.get id) ∧
        rs.Extends built.registries ∧
        (e.concernsTransition = false → built.registries = rs) := by
  refine ⟨fun e => outcome_eq_rejected_iff, fun e interned h => ?_⟩
  obtain ⟨htrail, hregistries⟩ : (build text hosts registry rs).trail = [] ∧
      (build text hosts registry rs).registries =
        rs.internAll (Definition.requests registry interned (some e)) := build_of_rejected h
  rw [hregistries]
  refine ⟨htrail, h.isSyntactic_iff, fun name => ?_, fun id hid => ?_,
    rs.extends_internAll _, fun he => ?_⟩
  · rw [Registry.contains_iff_mem, Registry.contains_iff_mem, Registries.mem_names_internAll,
      mem_requests_of_rejected h]
    simp
  · apply Registries.get_internAll_of_ne
    rintro ⟨id', name⟩ hrequest
    have hsame := (mem_requests_of_rejected h).mp hrequest
    exact fun heq => hid (heq.symm.trans hsame.1)
  · rw [h.interned_eq_nil he]
    simp [Definition.requests, DefinitionError.repeated?_eq_none he]

/-- The third transition is at fault twice, and there are faults behind it. -/
theorem build_reports_first_fault_of_several :
    let text := "(A) -> \x7bgo: B, no: A, no: C, on: D\x7d; (B) -> \x7bup: E\x7d"
    let built := build text [] .shared {}
    built.outcome = .error (.rejected (.unknownTarget "A" "no" "C")) ∧ built.trail = [] ∧
      ∀ name, (built.registries.get .shared).contains name = true ↔
        name ∈ ["DEFAULT", "go", "no"] := by
  intro text built
  have hfaults := build_reports_first_fault text [] .shared {}
  have hrejected : Rejected text [] (.unknownTarget "A" "no" "C") ["go", "no"] := by
    apply examined_eq_some_iff.mp
    decide +kernel
  obtain ⟨htrail, -, hnames, -⟩ := hfaults.2 _ _ hrejected
  refine ⟨(hfaults.1 _).mpr ⟨_, hrejected⟩, htrail, fun name => ?_⟩
  rw [hnames name, Registry.contains_iff_mem]
  have hfresh : ((({} : Registries).get .shared).names) = ["DEFAULT"] := rfl
  rw [hfresh, ← List.mem_append]
  rfl

end Workflow.Machine
