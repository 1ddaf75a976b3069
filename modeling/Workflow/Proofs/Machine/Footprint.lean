import Mathlib.Data.Set.Card
import Workflow.Proofs.Condition.History
import Workflow.Proofs.Machine.Failure
import Workflow.Proofs.Machine.Rejection

/-! What machines leave behind in registries: conditions as they are built, names they are asked to
follow, and what the hooks intern that they call. -/

namespace Workflow

open Definition (examined enterHook?)

namespace Host

def shown (hosts : List Host) (t : Trail) : List BoundHook :=
  (hosts.flatMap registrations).filter fun b => .event (.invoking b.name b.host) ∈ t

variable {hosts : List Host} {b : BoundHook} {bs : List BoundHook} {t t' : Trail}

theorem mem_shown_iff :
    b ∈ shown hosts t ↔
      b ∈ hosts.flatMap registrations ∧ .event (.invoking b.name b.host) ∈ t := by
  simp only [shown, List.mem_filter, decide_eq_true_eq]

theorem mem_shown_append : b ∈ shown hosts (t ++ t') ↔ b ∈ shown hosts t ∨ b ∈ shown hosts t' := by
  simp only [mem_shown_iff, List.mem_append, and_or_left]

theorem invoking_mem_flatMap_trail_iff {name host : String} :
    .event (.invoking name host) ∈ bs.flatMap BoundHook.trail ↔
      ∃ b ∈ bs, b.name = name ∧ b.host = host := by
  have hone : ∀ b : BoundHook, .event (.invoking name host) ∈ b.trail ↔ b.name = name ∧ b.host = host := by
    intro b
    simp [BoundHook.trail, eq_comm]
  simp only [List.mem_flatMap, hone]

/-- Names of hooks tell them apart, so that the trail shows which have been called. -/
theorem mem_shown_iff_mem (hnodup : (hosts.flatMap hookNames).Nodup)
    (hbs : ∀ b ∈ bs, b ∈ hosts.flatMap registrations) (ht : t.callbacks = bs.flatMap BoundHook.trail) :
    b ∈ shown hosts t ↔ b ∈ bs := by
  have hcallback : .event (.invoking b.name b.host) ∈ t ↔
      .event (.invoking b.name b.host) ∈ bs.flatMap BoundHook.trail := by
    rw [← ht, Trail.callbacks, List.mem_filter]
    exact (and_iff_left rfl).symm
  rw [mem_shown_iff, hcallback, invoking_mem_flatMap_trail_iff]
  constructor
  · rintro ⟨hb, b', hb', hname, -⟩
    rw [← map_name_registrations] at hnodup
    exact List.inj_on_of_nodup_map hnodup (hbs b' hb') hb hname ▸ hb'
  · intro hb
    exact ⟨hbs b hb, b, hb, rfl, rfl⟩

end Host

theorem BoundHook.mem_of_mem_attempted {b : BoundHook} {bs : List BoundHook} (h : b ∈ attempted bs) :
    b ∈ bs := by
  induction bs with
  | nil => exact h
  | cons x bs ih =>
    by_cases hx : x.hook.failure.isSome = true
    · rw [attempted, if_pos hx, List.mem_singleton] at h
      exact h ▸ List.mem_cons_self
    · rw [attempted, if_neg hx] at h
      rcases List.mem_cons.mp h with rfl | h
      · exact List.mem_cons_self
      · exact List.mem_cons_of_mem x (ih h)

namespace Operation

def asked? : Operation → Option String
  | move (.changeByName name) => some name
  | _ => none

theorem asked?_eq_some_iff {x : Operation} {name : String} :
    x.asked? = some name ↔ x = .move (.changeByName name) := by
  cases x with
  | move x => cases x <;> simp [asked?]
  | inspect x => simp [asked?]

/-- All that an operation interns: the name it is asked to follow, and then what its hooks intern. -/
def requests (m : Machine) (rs : Registries) (x : Operation) : List (RegistryId × String) :=
  x.asked?.toList.map (fun name => (m.registry, name)) ++
    (BoundHook.attempted (m.crossing (x.target? m))).flatMap (BoundHook.requests rs)

end Operation

namespace Machine

variable {text : String} {hosts : List Host} {registry : RegistryId} {rs rs' : Registries}
  {ds : List Declaration} {m : Machine}

def buildRequests (text : String) (hosts : List Host) (registry : RegistryId) (rs : Registries) :
    List (RegistryId × String) :=
  Definition.requests registry (examined text hosts).1 (examined text hosts).2 ++
    if (examined text hosts).2.isNone then
      (enterHook? text hosts).toList.flatMap (BoundHook.requests rs)
    else []

theorem registries_build (text : String) (hosts : List Host) (registry : RegistryId)
    (rs : Registries) :
    (build text hosts registry rs).registries = rs.internAll (buildRequests text hosts registry rs) := by
  have hattempts := attempts_compile text hosts registry rs
  rw [buildRequests, Registries.internAll_append]
  cases hcompile : compile text hosts registry rs with
  | mk result rs' =>
    rw [hcompile] at hattempts
    have hrs' : rs' = rs.internAll (Definition.requests registry (examined text hosts).1
        (examined text hosts).2) := hattempts.registries
    rw [← hrs']
    cases result with
    | error e =>
      have hfault : (examined text hosts).2 = some e := hattempts.fault.symm
      rw [build_eq_of_rejected hcompile, hfault]
      rfl
    | ok m =>
      have hfault : (examined text hosts).2 = none := hattempts.fault.symm
      have hlabels : BoundHook.requests rs' = BoundHook.requests rs :=
        BoundHook.requests_congr (hrs' ▸ Registries.labels_internAll _ _)
      rw [build_eq_of_compile hcompile, hfault, entering, BoundHook.registries_callAll,
        BoundHook.attempted_toList, onEnter_of_compile hcompile, hlabels]
      rfl

theorem registries_follow (m : Machine) (condition : String) (rs : Registries) :
    (m.follow condition rs).registries = rs.internAll
      ((BoundHook.attempted (m.crossing (m.graph.next? m.position condition))).flatMap
        (BoundHook.requests rs)) := by
  unfold follow
  cases m.graph.next? m.position condition with
  | none => rfl
  | some target =>
    have hhooks := BoundHook.registries_callAll (m.crossing (some target)) rs
    rw [← hhooks, crossing]
    dsimp only
    split <;> rfl

theorem registries_set (m : Machine) (name : String) (rs : Registries) :
    (m.set name rs).registries = rs.internAll
      ((BoundHook.attempted (m.crossing (m.forcedTarget? name))).flatMap (BoundHook.requests rs)) := by
  unfold set
  cases m.forcedTarget? name with
  | none => rfl
  | some target =>
    have hleaving := BoundHook.registries_callAll m.current.onLeave.toList rs
    simp only [BoundHook.failure_callAll, crossing]
    cases hleave : BoundHook.failure? m.current.onLeave.toList with
    | some text =>
      rw [BoundHook.attempted_append_of_some hleave]
      exact hleaving
    | none =>
      have hentering := BoundHook.registries_callAll (m.graph.state target).onEnter.toList
        (BoundHook.callAll m.current.onLeave.toList rs).registries
      have hlabels : BoundHook.requests (BoundHook.callAll m.current.onLeave.toList rs).registries =
          BoundHook.requests rs :=
        BoundHook.requests_congr (hleaving ▸ Registries.labels_internAll _ _)
      rw [BoundHook.attempted_append_of_none hleave, List.flatMap_append, Registries.internAll_append]
      rw [BoundHook.attempted_eq_self hleave] at hleaving
      rw [hlabels, hleaving] at hentering
      exact hleaving ▸ hentering

/-- One step: an operation interns what it asks for and what its hooks ask for, and nothing else. -/
theorem registries_perform (m : Machine) (rs : Registries) (x : Operation) :
    (x.perform m rs).registries = rs.internAll (x.requests m rs) := by
  cases x with
  | inspect x => rfl
  | move x =>
    cases x with
    | change condition => exact m.registries_follow condition.name rs
    | changeByName name =>
      have hlabels : BoundHook.requests (rs.intern m.registry name).2 = BoundHook.requests rs :=
        BoundHook.requests_congr rfl
      have hfollow := m.registries_follow name (rs.intern m.registry name).2
      rw [hlabels] at hfollow
      exact hfollow
    | set name => exact m.registries_set name rs
    | sync name =>
      have hnothing : (m.sync name rs).registries = rs := by
        unfold sync
        split <;> rfl
      exact hnothing

namespace Represents

theorem mem_registrations_of_state (h : m.Represents hosts rs ds) (p : m.graph.Position) :
    (∀ b ∈ (m.graph.state p).onEnter.toList, b ∈ hosts.flatMap Host.registrations) ∧
      ∀ b ∈ (m.graph.state p).onLeave.toList, b ∈ hosts.flatMap Host.registrations := by
  obtain ⟨d, hd⟩ := h.graph.exists_declaration p
  obtain ⟨-, henter, hleave⟩ := (h.graph.realizes hd).toOutlines
  constructor
  · intro b hb
    exact Bindings.mem_of_get? (henter.2 b (Option.mem_toList.mp hb))
  · intro b hb
    exact Bindings.mem_of_get? (hleave.2 b (Option.mem_toList.mp hb))

theorem mem_registrations_of_crossing (h : m.Represents hosts rs ds)
    (target : Option m.graph.Position) :
    ∀ b ∈ m.crossing target, b ∈ hosts.flatMap Host.registrations := by
  intro b hb
  cases target with
  | none => simp [crossing] at hb
  | some p =>
    rcases List.mem_append.mp hb with hb | hb
    · exact (h.mem_registrations_of_state m.position).2 b hb
    · exact (h.mem_registrations_of_state p).1 b hb

end Represents

variable {name : String}

/-- A hook that the trail shows to be called interns the name in the registry. -/
def HookInterns (hosts : List Host) (rs : Registries) (registry : RegistryId) (t : Trail)
    (name : String) : Prop :=
  ∃ b ∈ Host.shown hosts t, ∃ label, .intern label name ∈ b.hook.effects ∧
    rs.labelled? label = some registry

theorem hookInterns_append {t t' : Trail} :
    HookInterns hosts rs registry (t ++ t') name ↔
      HookInterns hosts rs registry t name ∨ HookInterns hosts rs registry t' name := by
  simp only [HookInterns, Host.mem_shown_append, or_and_right, exists_or]

theorem hookInterns_iff (hnodup : (hosts.flatMap Host.hookNames).Nodup) {bs : List BoundHook}
    (hbs : ∀ b ∈ bs, b ∈ hosts.flatMap Host.registrations) {t : Trail}
    (ht : t.callbacks = bs.flatMap BoundHook.trail) :
    HookInterns hosts rs registry t name ↔ (registry, name) ∈ bs.flatMap (BoundHook.requests rs) := by
  simp only [HookInterns, Host.mem_shown_iff_mem hnodup hbs ht, List.mem_flatMap,
    BoundHook.mem_requests_iff]

theorem HookInterns.congr (h : rs.labels = rs'.labels) :
    HookInterns hosts rs = HookInterns hosts rs' := by
  unfold HookInterns Registries.labelled?
  rw [h]

theorem mem_names_perform (hnodup : (hosts.flatMap Host.hookNames).Nodup)
    (hm : m.Represents hosts rs' ds) (rs : Registries) (x : Operation) :
    name ∈ ((x.perform m rs).registries.get m.registry).names ↔
      name ∈ (rs.get m.registry).names ∨ x = .move (.changeByName name) ∨
        HookInterns hosts rs m.registry (x.perform m rs).trail name := by
  have hcalled : ∀ b ∈ BoundHook.attempted (m.crossing (x.target? m)),
      b ∈ hosts.flatMap Host.registrations := fun b hb =>
    hm.mem_registrations_of_crossing _ b (BoundHook.mem_of_mem_attempted hb)
  have hhooks : HookInterns hosts rs m.registry (x.perform m rs).trail name ↔ (m.registry, name) ∈
      (BoundHook.attempted (m.crossing (x.target? m))).flatMap (BoundHook.requests rs) :=
    hookInterns_iff hnodup hcalled (cutShort_perform m x rs).callbacks
  have hasked : (m.registry, name) ∈ x.asked?.toList.map (fun name => (m.registry, name)) ↔
      x = .move (.changeByName name) := by
    rw [← Operation.asked?_eq_some_iff]
    simp
  rw [registries_perform, Registries.mem_names_internAll, Operation.requests, List.mem_append, hasked,
    hhooks]

def registriesAfter (m : Machine) (rs : Registries) (xs : List Operation) : Registries :=
  ((m.runOperations rs xs).map Step.registries).getLastD rs

theorem registriesAfter_cons (m : Machine) (rs : Registries) (x : Operation) (xs : List Operation) :
    m.registriesAfter rs (x :: xs) =
      (x.perform m rs).machine.registriesAfter (x.perform m rs).registries xs :=
  List.getLastD_cons ..

theorem mem_names_registriesAfter (hnodup : (hosts.flatMap Host.hookNames).Nodup)
    (hm : m.Represents hosts rs' ds) (rs : Registries) (xs : List Operation) :
    name ∈ ((m.registriesAfter rs xs).get m.registry).names ↔
      name ∈ (rs.get m.registry).names ∨ .move (.changeByName name) ∈ xs ∨
        HookInterns hosts rs m.registry ((m.runOperations rs xs).flatMap Step.trail) name := by
  induction xs generalizing m rs with
  | nil => simp [registriesAfter, runOperations, run, HookInterns, Host.shown]
  | cons x xs ih =>
    obtain ⟨p, hp⟩ := (keeps_perform m rs x).machine
    have hnext : (x.perform m rs).machine.Represents hosts rs' ds := hp ▸ ⟨hm.graph⟩
    have hregistry : (x.perform m rs).machine.registry = m.registry := by rw [hp]
    have hlabels : (x.perform m rs).registries.labels = rs.labels := by
      rw [registries_perform, Registries.labels_internAll]
    have htrail : (m.runOperations rs (x :: xs)).flatMap Step.trail = (x.perform m rs).trail ++
        ((x.perform m rs).machine.runOperations (x.perform m rs).registries xs).flatMap Step.trail :=
      List.flatMap_cons
    have hrest := ih hnext (x.perform m rs).registries
    rw [hregistry, HookInterns.congr hlabels, mem_names_perform hnodup hm] at hrest
    rw [registriesAfter_cons, hrest, htrail, hookInterns_append, List.mem_cons]
    grind

theorem nodup_names_registriesAfter {id : RegistryId} (h : (rs.get id).names.Nodup) (m : Machine)
    (xs : List Operation) : ((m.registriesAfter rs xs).get id).names.Nodup := by
  induction xs generalizing m rs with
  | nil => exact h
  | cons x xs ih =>
    rw [registriesAfter_cons]
    apply ih
    rw [registries_perform]
    exact Registries.nodup_names_internAll h _

theorem isChain_size (m : Machine) (rs : Registries) (xs : List Operation) (id : RegistryId) :
    List.IsChain (fun a b : Registries => (a.get id).size ≤ (b.get id).size)
      (rs :: (m.runOperations rs xs).map Step.registries) := by
  induction xs generalizing m rs with
  | nil => exact .singleton rs
  | cons x xs ih =>
    have hstep : (rs.get id).size ≤ ((x.perform m rs).registries.get id).size := by
      rw [registries_perform]
      exact (rs.names_prefix_internAll _ id).length_le
    exact .cons_cons hstep (ih _ _)

theorem registries_perform_of_silent (m : Machine) (rs : Registries) {x : Operation}
    (hasked : ∀ name, x ≠ .move (.changeByName name))
    (hsilent : (x.perform m rs).trail.callbacks = []) : (x.perform m rs).registries = rs := by
  have hnone : x.asked? = none :=
    Option.eq_none_iff_forall_not_mem.mpr fun name h => hasked name (Operation.asked?_eq_some_iff.mp h)
  have hcalled : BoundHook.attempted (m.crossing (x.target? m)) = [] := by
    rw [(cutShort_perform m x rs).callbacks, List.flatMap_eq_nil_iff] at hsilent
    refine List.eq_nil_iff_forall_not_mem.mpr fun b hb => ?_
    have htrail := hsilent b hb
    simp [BoundHook.trail] at htrail
  rw [registries_perform, Operation.requests, hnone, hcalled]
  rfl

section Build

variable (h : compile text hosts registry rs = (.ok m, rs'))
include h

theorem registry_of_compile : m.registry = registry := by
  unfold compile at h
  split at h
  · simp at h
  · split at h
    · simp at h
    · split at h
      · simp at h
      · simp only [Prod.mk.injEq, Except.ok.injEq] at h
        exact h.1 ▸ rfl

theorem mem_names_build (hparse : Definition.parse text = .ok ds) :
    name ∈ ((build text hosts registry rs).registries.get registry).names ↔
      name ∈ (rs.get registry).names ∨ (∃ d ∈ ds, ∃ t ∈ d.transitions, t.condition = name) ∨
        HookInterns hosts rs registry (build text hosts registry rs).trail name := by
  have hfault : (examined text hosts).2 = none := by
    rw [← (attempts_compile text hosts registry rs).fault, h]
    rfl
  obtain ⟨ds', hparse', hpassed⟩ := Definition.exists_of_examined_eq_none hfault
  obtain rfl : ds = ds' := Except.ok.inj (hparse.symm.trans hparse')
  obtain ⟨ds', -, hnodup, -, hm, -⟩ := represents_of_compile h
  have hconditions : (registry, name) ∈
      Definition.requests registry (Definition.conditions (Definition.placed ds)) none ↔
        ∃ d ∈ ds, ∃ t ∈ d.transitions, t.condition = name := by
    simp [Definition.requests, Definition.conditions, Definition.placed, Declaration.placed,
      ← exists_and_right, exists_comm, and_assoc]
  have hcalled : ∀ b ∈ (enterHook? text hosts).toList, b ∈ hosts.flatMap Host.registrations := by
    rw [← onEnter_of_compile h]
    exact (hm.mem_registrations_of_state m.position).1
  have htrail : (build text hosts registry rs).trail.callbacks =
      (enterHook? text hosts).toList.flatMap BoundHook.trail := by
    rw [build_eq_of_compile h, (entering_eq_of_compile h).2]
    exact callbacks_report rfl _
  rw [registries_build, Registries.mem_names_internAll, buildRequests, hfault, hpassed,
    List.mem_append, hconditions, hookInterns_iff hnodup hcalled htrail]
  rfl

end Build

/-- In the end a registry holds the names it held before, the conditions declared, the names that its
machine was asked to follow and those interned by the hooks that were called: each once, and none is
ever lost. Whatever else a machine is asked adds nothing. -/
theorem build_run_interns_exactly (past : List Call) (text : String) (hosts : List Host)
    (registry : RegistryId) (m : Machine)
    (hbuild : (build text hosts registry (({} : Registries).follow past)).outcome = .ok m)
    (xs : List Operation) :
    let rs := ({} : Registries).follow past
    let built := build text hosts registry rs
    let steps := m.runOperations built.registries xs
    let final := (m.registriesAfter built.registries xs).get registry
    (∃ ds, Definition.parse text = .ok ds ∧
      let names : Set String := {name | (rs.get registry).contains name = true ∨
        (∃ d ∈ ds, ∃ t ∈ d.transitions, t.condition = name) ∨
        .move (.changeByName name) ∈ xs ∨
        HookInterns hosts rs registry (built.trail ++ steps.flatMap Step.trail) name}
      (∀ name, final.contains name = true ↔ name ∈ names) ∧ final.size = names.ncard) ∧
    ((rs :: built.registries :: steps.map Step.registries).map
      fun rs => (rs.get registry).size).Pairwise (· ≤ ·) ∧
    ∀ (m' : Machine) (rs' : Registries) (x : Operation), (∀ name, x ≠ .move (.changeByName name)) →
      (x.perform m' rs').trail.callbacks = [] → (x.perform m' rs').registries = rs' := by
  intro rs built steps final
  obtain ⟨rs', hcompile, -⟩ := compile_of_build hbuild
  obtain ⟨ds, hparse, hnodup, -, hm, -⟩ := represents_of_compile hcompile
  have hregistry : m.registry = registry := registry_of_compile hcompile
  have hgrown : built.registries = rs.internAll (buildRequests text hosts registry rs) :=
    registries_build ..
  have hlabels : built.registries.labels = rs.labels := by rw [hgrown, Registries.labels_internAll]
  refine ⟨⟨ds, hparse, ?_⟩, ?_, fun m' rs' x => registries_perform_of_silent m' rs'⟩
  · intro names
    have hmem : ∀ name, name ∈ final.names ↔ name ∈ names := by
      intro name
      have hrun : name ∈ ((m.registriesAfter built.registries xs).get m.registry).names ↔ _ :=
        mem_names_registriesAfter hnodup hm built.registries xs
      rw [hregistry, HookInterns.congr hlabels, mem_names_build hcompile hparse] at hrun
      have hsplit : HookInterns hosts rs registry (built.trail ++ steps.flatMap Step.trail) name ↔
          HookInterns hosts rs registry built.trail name ∨
            HookInterns hosts rs registry (steps.flatMap Step.trail) name := hookInterns_append
      simp only [names, Set.mem_ofPred_eq, Registry.contains_iff_mem, hsplit]
      grind
    have hdistinct : final.names.Nodup := by
      apply nodup_names_registriesAfter
      rw [hgrown]
      exact Registries.nodup_names_internAll (Registries.nodup_names_follow_initial past registry) _
    refine ⟨fun name => Registry.contains_iff_mem.trans (hmem name), ?_⟩
    have hset : names = ↑final.names.toFinset := by
      ext name
      rw [List.coe_toFinset]
      exact (hmem name).symm
    rw [hset, Set.ncard_coe_finset, List.toFinset_card_of_nodup hdistinct, Registry.size]
  · have hchain := isChain_size m built.registries xs registry
    have hfirst : (rs.get registry).size ≤ (built.registries.get registry).size := by
      rw [hgrown]
      exact (rs.names_prefix_internAll _ registry).length_le
    rw [← List.isChain_iff_pairwise, List.isChain_map]
    exact .cons_cons hfirst hchain

/-- Names are interned by a condition that is ignored and by one whose move fails, and by hooks, also in
another registry; a handle, a forced move and a look ahead intern nothing. -/
theorem build_run_interns_exactly_failing_hook :
    let text := "(A, , out) -> \x7bgo: B\x7d; (B, in) -> \x7bgo: A\x7d"
    let hosts : List Host := [⟨"h", [("out", ⟨[.intern "own" "left"], none⟩),
      ("in", ⟨[.intern "own" "entered", .intern "other" "elsewhere"], some "in failed"⟩)]⟩]
    let past : List Call := [.intern .shared "old", .create, .label "own" .shared, .label "other" ⟨1⟩]
    let xs : List Operation := [.move (.changeByName "nowhere"), .move (.changeByName "go"),
      .move (.change ⟨⟨1⟩, 7, "absent"⟩), .inspect (.peekByName "unseen"), .move (.sync "B")]
    let built := build text hosts .shared (({} : Registries).follow past)
    ∃ m, built.outcome = .ok m ∧
      ((m.registriesAfter built.registries xs).get .shared).names =
        ["DEFAULT", "old", "go", "nowhere", "left", "entered"] ∧
      ((m.registriesAfter built.registries xs).get ⟨1⟩).names = ["DEFAULT", "elsewhere"] ∧
      ∃ ds, Definition.parse text = .ok ds ∧
        ∀ name, name ∈ ["DEFAULT", "old", "go", "nowhere", "left", "entered"] ↔
          ((({} : Registries).follow past).get .shared).contains name = true ∨
          (∃ d ∈ ds, ∃ t ∈ d.transitions, t.condition = name) ∨
          .move (.changeByName name) ∈ xs ∨ HookInterns hosts (({} : Registries).follow past) .shared
            (built.trail ++ (m.runOperations built.registries xs).flatMap Step.trail) name := by
  intro text hosts past xs built
  have hnames : built.outcome.toOption.map (fun m =>
      (((m.registriesAfter built.registries xs).get .shared).names,
        ((m.registriesAfter built.registries xs).get ⟨1⟩).names)) =
      some (["DEFAULT", "old", "go", "nowhere", "left", "entered"], ["DEFAULT", "elsewhere"]) := by
    decide +kernel
  cases hm : built.outcome with
  | error e => simp [hm, Except.toOption] at hnames
  | ok m =>
    rw [hm] at hnames
    obtain ⟨hown, hother⟩ := Prod.mk.inj (Option.some.inj hnames)
    obtain ⟨⟨ds, hparse, hexact, -⟩, -⟩ := build_run_interns_exactly past text hosts .shared m hm xs
    refine ⟨m, rfl, hown, hother, ds, hparse, fun name => ?_⟩
    rw [← hown, ← Registry.contains_iff_mem]
    exact hexact name

end Machine

end Workflow
