import Workflow.Machine.Operation
import Workflow.Proofs.CommandLine.Names
import Workflow.Proofs.Machine.Acceptance
import Workflow.Proofs.Machine.Rejection

/-! Hooks bound by name. The names to bind never clash, and binding more of them than a definition
needs changes nothing. -/

namespace Workflow

section Agreement

variable {bindings bindings' : Bindings} {ds : List Declaration}

/-- The bindings give the same hook for every name in the declarations. -/
def Bindings.Agree (bindings bindings' : Bindings) (ds : List Declaration) : Prop :=
  ∀ d ∈ ds, ∀ hook ∈ d.hooks, bindings.get? hook = bindings'.get? hook

theorem Outline.bindHook_congr {method : Option String}
    (h : ∀ hook ∈ method, bindings.get? hook = bindings'.get? hook) (state : String) :
    bindHook bindings state method = bindHook bindings' state method := by
  cases method with
  | none => rfl
  | some hook => simp only [bindHook, h hook rfl]

theorem Outline.extend_congr (h : bindings.Agree bindings' ds) (o : Outline) :
    o.extend bindings ds = o.extend bindings' ds := by
  induction ds generalizing o with
  | nil => rfl
  | cons d ds ih =>
    obtain ⟨hd, hds⟩ := List.forall_mem_cons.mp h
    have henter : bindHook bindings d.name d.onEnter = bindHook bindings' d.name d.onEnter :=
      bindHook_congr (fun hook hhook => hd hook (List.mem_append_left _ (Option.mem_toList.mpr hhook))) _
    have hleave : bindHook bindings d.name d.onLeave = bindHook bindings' d.name d.onLeave :=
      bindHook_congr (fun hook hhook => hd hook (List.mem_append_right _ (Option.mem_toList.mpr hhook))) _
    simp only [extend, henter, hleave, ih hds]

theorem StateGraph.compile_congr (h : bindings.Agree bindings' ds) (registry : RegistryId)
    (rs : Registries) : compile bindings registry ds rs = compile bindings' registry ds rs := by
  simp only [compile, Outline.extend_congr h]

theorem StateGraph.build_congr (h : bindings.Agree bindings' ds) (registry : RegistryId)
    (rs : Registries) : build bindings registry ds rs = build bindings' registry ds rs := by
  have hcompile := compile_congr h registry rs
  unfold build
  grind

theorem Machine.build_congr {text : String} {hosts hosts' : List Host}
    (hparse : Definition.parse text = .ok ds) (hhosts : Bindings.ofHosts hosts = .ok bindings)
    (hhosts' : Bindings.ofHosts hosts' = .ok bindings') (h : bindings.Agree bindings' ds)
    (registry : RegistryId) (rs : Registries) :
    build text hosts registry rs = build text hosts' registry rs := by
  have hcompile : compile text hosts registry rs = compile text hosts' registry rs := by
    simp only [compile, hparse, hhosts, hhosts', StateGraph.build_congr h]
  rw [build, build, hcompile]

end Agreement

namespace CommandLine

open Definition (Accepted)

variable {definition name : String} {configured asked names names' : List String} {autoBind : Bool}
  {ds : List Declaration} {e : DefinitionError}

theorem boundNames_eq_error_iff :
    boundNames definition configured asked autoBind = .error e ↔
      autoBind = true ∧ Definition.parse definition = .error e := by
  unfold boundNames
  cases autoBind with
  | false => simp
  | true => cases Definition.parse definition <;> simp [Except.map]

theorem nodup_of_boundNames (h : boundNames definition configured asked autoBind = .ok names) :
    names.Nodup := by
  cases autoBind with
  | false => exact Except.ok.inj h ▸ (FirstOccurrences.foldl_addName _).nodup
  | true =>
    cases hparse : Definition.parse definition with
    | error e => simp [boundNames, hparse, Except.map] at h
    | ok ds =>
      rw [boundNames_true hparse, Except.ok.injEq] at h
      exact h ▸ (FirstOccurrences.foldl_addName _).nodup

theorem mem_of_boundNames_true (hparse : Definition.parse definition = .ok ds)
    (h : boundNames definition configured asked true = .ok names) :
    name ∈ names ↔ name ∈ configured ++ asked ∨ ∃ d ∈ ds, name ∈ d.hooks := by
  rw [boundNames_true hparse, Except.ok.injEq] at h
  rw [← h, (FirstOccurrences.foldl_addName _).mem_iff, List.mem_append, mem_hookNames]

theorem exists_boundNames_true_iff :
    (∃ names, boundNames definition configured asked true = .ok names) ↔
      ∃ ds, Definition.parse definition = .ok ds := by
  cases hparse : Definition.parse definition <;> simp [boundNames, hparse, Except.map]

def echo (name : String) : BoundHook := ⟨name, "cli", { effects := [.write name] }⟩

theorem registrations_echoHost (names : List String) :
    [echoHost names].flatMap Host.registrations = names.map echo := by
  simp [Host.registrations, echoHost, Function.comp_def, echo]

theorem hookNames_echoHost (names : List String) :
    [echoHost names].flatMap Host.hookNames = names := by
  simp [Host.hookNames, echoHost, Function.comp_def]

theorem get?_map_echo (names : List String) (name : String) :
    (⟨names.map echo⟩ : Bindings).get? name = if name ∈ names then some (echo name) else none := by
  by_cases h : name ∈ names
  · obtain ⟨b, hb⟩ : ∃ b, (⟨names.map echo⟩ : Bindings).get? name = some b := by
      rw [← Option.ne_none_iff_exists', ne_eq, Bindings.get?_eq_none_iff]
      simpa [echo, Function.comp_def] using h
    obtain ⟨other, -, rfl⟩ := List.mem_map.mp (Bindings.mem_of_get? hb)
    have hname : other = name := Bindings.name_of_get? hb
    rw [hb, if_pos h, hname]
  · rw [if_neg h, Bindings.get?_eq_none_iff]
    simpa [echo, Function.comp_def] using h

theorem ofHosts_echoHost (h : names.Nodup) :
    Bindings.ofHosts [echoHost names] = .ok ⟨names.map echo⟩ :=
  Bindings.ofHosts_eq_ok_iff.mpr ⟨by rw [registrations_echoHost], by rwa [hookNames_echoHost]⟩

theorem enterHook?_returns (definition : String) (h : names.Nodup) :
    ∀ b ∈ Definition.enterHook? definition [echoHost names], b.hook.failure = none := by
  intro b hb
  have hmem : b ∈ names.map echo := by
    unfold Definition.enterHook? at hb
    rw [ofHosts_echoHost h] at hb
    split at hb
    · rename_i d _ bindings _ hbindings
      cases hbindings
      obtain ⟨name, -, hget⟩ := Option.bind_eq_some_iff.mp hb
      exact Bindings.mem_of_get? hget
    · simp at hb
  obtain ⟨name, -, rfl⟩ := List.mem_map.mp hmem
  rfl

theorem exists_buildMachine_eq_ok_iff (h : names.Nodup) :
    (∃ m, (buildMachine definition names).outcome = .ok m) ↔
      ∃ ds, Definition.parse definition = .ok ds ∧ Accepted [echoHost names] ds := by
  constructor
  · rintro ⟨m, hm⟩
    obtain ⟨rs, hcompile, -⟩ := Machine.compile_of_build hm
    obtain ⟨ds, hparse, hhosts, -, hrepresents, -⟩ := Machine.represents_of_compile hcompile
    exact ⟨ds, hparse, hrepresents.accepted hhosts⟩
  · rintro ⟨ds, hparse, hds⟩
    obtain ⟨m, rs, hcompile⟩ :
        ∃ m rs, Machine.compile definition [echoHost names] .shared {} = (.ok m, rs) :=
      Machine.compile_of_accepted hparse hds
    refine ⟨m, ?_⟩
    rw [buildMachine, Machine.build_eq_of_compile hcompile,
      (Machine.entering_of_compile hcompile (enterHook?_returns definition h)).1]

/-- The names suffice for the hooks of the declarations. -/
def Covers (names : List String) (ds : List Declaration) : Prop :=
  ∀ d ∈ ds, ∀ hook ∈ d.hooks, hook ∈ names

theorem covers_of_boundNames (hparse : Definition.parse definition = .ok ds)
    (h : boundNames definition configured asked true = .ok names) : Covers names ds :=
  fun d hd _ hhook => (mem_of_boundNames_true hparse h).mpr (.inr ⟨d, hd, hhook⟩)

theorem covers_of_accepted (h : Accepted [echoHost names] ds) : Covers names ds := by
  intro d hd hook hhook
  have hoffered := h.hooks_offered d hd hook hhook
  rwa [hookNames_echoHost] at hoffered

theorem accepted_of_covers (hnodup : names.Nodup) (h : Covers names ds)
    (hnames : (ds.map Declaration.name).Nodup)
    (htargets : ∀ d ∈ ds, ∀ t ∈ d.transitions, t.target ∈ ds.map Declaration.name)
    (hconditions : ∀ d ∈ ds, (d.transitions.map Transition.condition).Nodup) :
    Accepted [echoHost names] ds where
  hooks_distinct := by rwa [hookNames_echoHost]
  names_distinct := hnames
  hooks_offered := by rwa [hookNames_echoHost]
  targets_declared := htargets
  conditions_distinct := hconditions

theorem buildMachine_eq_of_covers (hparse : Definition.parse definition = .ok ds)
    (hnodup : names.Nodup) (hnodup' : names'.Nodup) (h : Covers names ds) (h' : Covers names' ds) :
    buildMachine definition names = buildMachine definition names' := by
  refine Machine.build_congr hparse (ofHosts_echoHost hnodup) (ofHosts_echoHost hnodup') ?_ .shared {}
  intro d hd hook hhook
  rw [get?_map_echo, get?_map_echo, if_pos (h d hd hook hhook), if_pos (h' d hd hook hhook)]

theorem outcome_ne_duplicateBinding (h : names.Nodup) (definition method first second : String) :
    (buildMachine definition names).outcome ≠
      .error (.rejected (.duplicateBinding method first second)) := by
  intro hrejected
  obtain ⟨interned, hrejected⟩ := Machine.outcome_eq_rejected_iff.mp hrejected
  cases hrejected with
  | unreadable hparse => simpa [DefinitionError.isSyntactic] using Definition.isSyntactic_of_parse hparse
  | hosts _ hfault =>
    have hexamined := examine_eq_some_iff.mpr hfault
    have hnone := Bindings.errorOf?_ofHosts [echoHost names]
    rw [ofHosts_echoHost h, hexamined] at hnone
    simp [errorOf?] at hnone
  | states _ _ hfault =>
    obtain ⟨d, after, -, hd⟩ := hfault.next
    rcases Declaration.eq_of_fault? hd with heq | ⟨hook, -, heq⟩ <;> cases heq
  | transitions _ _ _ hfault =>
    obtain ⟨x, after, -, hx⟩ := hfault.next
    rcases Definition.eq_of_transition_fault? hx with heq | ⟨heq, -⟩ <;> cases heq

theorem outcome_ne_missingMethod (hparse : Definition.parse definition = .ok ds)
    (h : Covers names ds) (state method : String) :
    (buildMachine definition names).outcome ≠ .error (.rejected (.missingMethod state method)) := by
  intro hrejected
  obtain ⟨interned, hrejected⟩ := Machine.outcome_eq_rejected_iff.mp hrejected
  cases hrejected with
  | unreadable hfails => simp [hparse] at hfails
  | hosts _ hfault =>
    obtain ⟨b, after, -, hb⟩ := hfault.next
    obtain ⟨first, -, heq⟩ := BoundHook.eq_of_fault? hb
    cases heq
  | @states ds' before _ hparse' _ hfault =>
    obtain rfl : ds = ds' := Except.ok.inj (hparse.symm.trans hparse')
    obtain ⟨d, after, rfl, hd⟩ := hfault.next
    rw [hookNames_echoHost] at hd
    unfold Declaration.fault? at hd
    split at hd
    · simp at hd
    · obtain ⟨hook, hhook, -⟩ := Option.map_eq_some_iff.mp hd
      have hmissing : hook ∉ names := by simpa using List.find?_some hhook
      exact hmissing (h d (by simp) hook (List.mem_of_find?_eq_some hhook))
  | transitions _ _ _ hfault =>
    obtain ⟨x, after, -, hx⟩ := hfault.next
    rcases Definition.eq_of_transition_fault? hx with heq | ⟨heq, -⟩ <;> cases heq

/-- The names to bind are distinct, so that binding them never clashes. If all hooks of a definition are
bound then none is missing, and whether it is accepted is not a matter of hooks. What is accepted with
some hooks bound is accepted with all of them, and the machine says and does the same. -/
theorem binding_by_name (definition : String) (configured asked : List String) :
    (∀ autoBind e, boundNames definition configured asked autoBind = .error e ↔
      autoBind = true ∧ Definition.parse definition = .error e) ∧
    (∀ autoBind names, boundNames definition configured asked autoBind = .ok names →
      names.Nodup ∧ ∀ method first second, (buildMachine definition names).outcome ≠
        .error (.rejected (.duplicateBinding method first second))) ∧
    (∀ names, boundNames definition configured asked true = .ok names → ∀ state method,
      (buildMachine definition names).outcome ≠ .error (.rejected (.missingMethod state method))) ∧
    ((∃ names m, boundNames definition configured asked true = .ok names ∧
        (buildMachine definition names).outcome = .ok m) ↔
      ∃ ds, Definition.parse definition = .ok ds ∧ (ds.map Declaration.name).Nodup ∧
        (∀ d ∈ ds, ∀ t ∈ d.transitions, t.target ∈ ds.map Declaration.name) ∧
        ∀ d ∈ ds, (d.transitions.map Transition.condition).Nodup) ∧
    ∀ names m, boundNames definition configured asked false = .ok names →
      (buildMachine definition names).outcome = .ok m →
      ∃ names' m', boundNames definition configured asked true = .ok names' ∧
        let built := buildMachine definition names
        let built' := buildMachine definition names'
        built'.outcome = .ok m' ∧ m'.describe = m.describe ∧
          built'.trail.callbacks = built.trail.callbacks ∧
          ∀ xs, ((m'.runOperations built'.registries xs).map fun step =>
              (step.machine.current.name, step.trail.callbacks)) =
            (m.runOperations built.registries xs).map fun step =>
              (step.machine.current.name, step.trail.callbacks) := by
  refine ⟨fun autoBind e => boundNames_eq_error_iff, fun autoBind names h => ?_, fun names h => ?_,
    ⟨?_, ?_⟩, ?_⟩
  · have hnodup := nodup_of_boundNames h
    exact ⟨hnodup, outcome_ne_duplicateBinding hnodup definition⟩
  · obtain ⟨ds, hparse⟩ := exists_boundNames_true_iff.mp ⟨names, h⟩
    exact outcome_ne_missingMethod hparse (covers_of_boundNames hparse h)
  · rintro ⟨names, m, h, hm⟩
    obtain ⟨ds, hparse, hds⟩ :=
      (exists_buildMachine_eq_ok_iff (nodup_of_boundNames h)).mp ⟨m, hm⟩
    exact ⟨ds, hparse, hds.names_distinct, hds.targets_declared, hds.conditions_distinct⟩
  · rintro ⟨ds, hparse, hnames, htargets, hconditions⟩
    obtain ⟨names, h⟩ : ∃ names, boundNames definition configured asked true = .ok names :=
      exists_boundNames_true_iff.mpr ⟨ds, hparse⟩
    have hnodup := nodup_of_boundNames h
    have hcovers := covers_of_boundNames hparse h
    have hds := accepted_of_covers hnodup hcovers hnames htargets hconditions
    obtain ⟨m, hm⟩ := (exists_buildMachine_eq_ok_iff hnodup).mpr ⟨ds, hparse, hds⟩
    exact ⟨names, m, h, hm⟩
  · intro names m h hm
    have hnodup := nodup_of_boundNames h
    obtain ⟨ds, hparse, hds⟩ := (exists_buildMachine_eq_ok_iff hnodup).mp ⟨m, hm⟩
    obtain ⟨names', h'⟩ : ∃ names, boundNames definition configured asked true = .ok names :=
      exists_boundNames_true_iff.mpr ⟨ds, hparse⟩
    have hsame := buildMachine_eq_of_covers hparse (nodup_of_boundNames h') hnodup
      (covers_of_boundNames hparse h') (covers_of_accepted hds)
    refine ⟨names', m, h', ?_⟩
    rw [hsame]
    exact ⟨hm, rfl, rfl, fun xs => rfl⟩

/-- Names are given twice, and one of them names no hook at all. Two hooks are missing if only the names
asked for are bound. -/
theorem binding_by_name_repeated :
    let definition := "(A, in, out) -> \x7bgo: B\x7d; (B, in) -> \x7bgo: A\x7d"
    boundNames definition ["in", "in", "x y"] ["out", "x y"] false = .ok ["in", "x y", "out"] ∧
      (∃ m m', (buildMachine definition ["in", "x y", "out"]).outcome = .ok m ∧
        (∃ names', boundNames definition ["in", "in", "x y"] ["out", "x y"] true = .ok names' ∧
          (buildMachine definition names').outcome = .ok m') ∧ m'.describe = m.describe) ∧
      (buildMachine definition ["x y"]).outcome = .error (.rejected (.missingMethod "A" "in")) ∧
      ∃ names m, boundNames definition [] ["x y"] true = .ok names ∧
        (buildMachine definition names).outcome = .ok m := by
  intro definition
  have hparse : Definition.parse definition =
      .ok [⟨"A", some "in", some "out", [⟨"go", "B"⟩]⟩, ⟨"B", some "in", none, [⟨"go", "A"⟩]⟩] := by
    simp only [definition]
    rfl
  have hnames : boundNames definition ["in", "in", "x y"] ["out", "x y"] false =
      .ok ["in", "x y", "out"] := rfl
  have hbuilt : ∃ m, (buildMachine definition ["in", "x y", "out"]).outcome = .ok m :=
    (exists_buildMachine_eq_ok_iff (by decide)).mpr ⟨_, hparse, by decide +kernel⟩
  obtain ⟨m, hm⟩ := hbuilt
  obtain ⟨-, -, -, -, hmonotone⟩ := binding_by_name definition ["in", "in", "x y"] ["out", "x y"]
  obtain ⟨names', m', hnames', hm', hdescribe, -⟩ := hmonotone _ m hnames hm
  refine ⟨hnames, ⟨m, m', hm, ⟨names', hnames', hm'⟩, hdescribe⟩, ?_, ?_⟩
  · apply Machine.outcome_eq_rejected_iff.mpr
    exact ⟨[], Definition.examined_eq_some_iff.mp (by decide +kernel)⟩
  · obtain ⟨-, -, -, haccepts, -⟩ := binding_by_name definition [] ["x y"]
    exact haccepts.mpr ⟨_, hparse, by decide +kernel⟩

end CommandLine

end Workflow
