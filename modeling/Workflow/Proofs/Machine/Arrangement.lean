import Mathlib.Data.Multiset.Defs
import Workflow.Proofs.Definition.Arrangement
import Workflow.Proofs.Machine.Refinement

/-! Machines of one definition in two arrangements. By name they answer the same and call the same hooks
over every run; positions, listings and checksums are their own. -/

namespace Workflow

open Definition (Accepted)

/-- What an answer says by names, whatever their order. -/
inductive NamedAnswer
  | reply (reply : Reply String)
  | state (name : Option String)
  | flag (value : Bool)
  | size (value : Nat)
  | names (names : Multiset String)

def Answer.named? : Answer → Option NamedAnswer
  | reply r => some (.reply (r.map State.name))
  | state s => some (.state (s.map State.name))
  | flag value => some (.flag value)
  | size value => some (.size value)
  | states ss => some (.names (ss.map State.name))
  | conditions cs => some (.names (cs.map Condition.name))
  | text _ | description _ | registry _ => none

/-- What a step shows by names: its answer and callbacks, the state it leads to and the conditions that
are available there. -/
structure NamedStep where
  outcome : Except String (Option NamedAnswer)
  callbacks : Trail
  current : String
  conditions : Multiset String

def Machine.conditionNames (m : Machine) : Multiset String := m.conditions.map Condition.name

def Step.named (s : Step Answer) : NamedStep where
  outcome := s.outcome.map Answer.named?
  callbacks := s.trail.callbacks
  current := s.machine.current.name
  conditions := s.machine.conditionNames

def Operation.isByName : Operation → Bool
  | inspect (.stateAt _) => false
  | _ => true

variable {hosts hosts' : List Host} {ds ds' : List Declaration}

theorem Definition.Accepted.rearranged (hds : Shuffled Declaration.Rearranges ds ds')
    (hhosts : Shuffled Host.Rearranges hosts hosts') (h : Accepted hosts ds) : Accepted hosts' ds' where
  hooks_distinct := (Host.hookNames_perm hhosts).nodup_iff.mp h.hooks_distinct
  names_distinct := (hds.map_perm fun _ _ hd => hd.name).nodup_iff.mp h.names_distinct
  hooks_offered d' hd' hook hhook := by
    obtain ⟨d, hd, hsame⟩ := hds.exists_left hd'
    rw [Declaration.hooks, ← hsame.onEnter, ← hsame.onLeave] at hhook
    exact (Host.hookNames_perm hhosts).mem_iff.mp (h.hooks_offered d hd hook hhook)
  targets_declared d' hd' t ht := by
    obtain ⟨d, hd, hsame⟩ := hds.exists_left hd'
    have htarget := h.targets_declared d hd t (hsame.transitions.mem_iff.mpr ht)
    exact (hds.map_perm fun _ _ hd => hd.name).mem_iff.mp htarget
  conditions_distinct d' hd' := by
    obtain ⟨d, hd, hsame⟩ := hds.exists_left hd'
    exact (hsame.transitions.map _).nodup_iff.mp (h.conditions_distinct d hd)

theorem Host.callbacks_eq (hhosts : Shuffled Rearranges hosts hosts')
    (hnodup : (hosts.flatMap hookNames).Nodup) : callbacks hosts = callbacks hosts' := by
  rw [← map_name_registrations] at hnodup
  funext names
  have hfind := find?_eq_of_perm (registrations_perm hhosts) hnodup
  simp only [callbacks, hfind]

theorem Host.Return.rearranged (hhosts : Shuffled Rearranges hosts hosts') (h : Return hosts) :
    Return hosts' := fun b hb => h b ((registrations_perm hhosts).mem_iff.mpr hb)

namespace Interpreter

variable {i i' : Interpreter}

/-- The declarations are the same but for their arrangement, and so are the current ones. -/
structure Rearranges (i i' : Interpreter) : Prop where
  declarations : Reordered Declaration.Rearranges i.declarations i'.declarations
  names_distinct : (i.declarations.map Declaration.name).Nodup
  current : i.current.Rearranges i'.current
  conditions_distinct : ∀ d ∈ i.declarations, (d.transitions.map Transition.condition).Nodup
  current_mem : i.current ∈ i.declarations

namespace Rearranges

variable (h : i.Rearranges i')
include h

theorem names_distinct' : (i'.declarations.map Declaration.name).Nodup :=
  (h.declarations.shuffled.map_perm fun _ _ hd => hd.name).nodup_iff.mp h.names_distinct

theorem declared? (name : String) :
    Option.Rel (fun d d' => d.Rearranges d' ∧ d ∈ i.declarations) (i.declared? name) (i'.declared? name) := by
  unfold Interpreter.declared?
  cases hd' : i'.declarations.find? fun d => d.name == name with
  | none =>
    cases hd : i.declarations.find? fun d => d.name == name with
    | none => exact .none
    | some d =>
      obtain ⟨hmem, hname⟩ := (find?_eq_some_iff_of_nodup h.names_distinct).mp hd
      have hback := h.declarations.shuffled.symm Declaration.Rearranges.symm
      obtain ⟨d', hmem', hsame⟩ := hback.exists_left hmem
      have hfound := (find?_eq_some_iff_of_nodup h.names_distinct').mpr ⟨hmem', hsame.name.trans hname⟩
      simp [hd'] at hfound
  | some d' =>
    obtain ⟨hmem', hname'⟩ := (find?_eq_some_iff_of_nodup h.names_distinct').mp hd'
    obtain ⟨d, hmem, hsame⟩ := h.declarations.shuffled.exists_left hmem'
    have hd := (find?_eq_some_iff_of_nodup h.names_distinct).mpr ⟨hmem, hsame.name.trans hname'⟩
    rw [hd]
    exact .some ⟨hsame, hmem⟩

theorem next? (condition : String) :
    Option.Rel (fun d d' => d.Rearranges d' ∧ d ∈ i.declarations) (i.next? condition)
      (i'.next? condition) := by
  have hfind := find?_eq_of_perm h.current.transitions
    (h.conditions_distinct i.current h.current_mem) condition
  unfold Interpreter.next?
  rw [hfind]
  cases i'.current.transitions.find? fun t => t.condition == condition with
  | none => exact .none
  | some t => exact h.declared? t.target

theorem moved {d d' : Declaration} (hd : d.Rearranges d') (hmem : d ∈ i.declarations) :
    ({ i with current := d } : Interpreter).Rearranges { i' with current := d' } where
  declarations := h.declarations
  names_distinct := h.names_distinct
  current := hd
  conditions_distinct := h.conditions_distinct
  current_mem := hmem

theorem crossing {d d' : Declaration} (hd : d.Rearranges d') : i.crossing d = i'.crossing d' := by
  rw [Interpreter.crossing, Interpreter.crossing, h.current.onLeave, hd.onEnter]

end Rearranges

end Interpreter

structure Turn.Rearranges (t t' : Turn) : Prop where
  reply : t.reply = t'.reply
  hooks : t.hooks = t'.hooks
  interpreter : t.interpreter.Rearranges t'.interpreter

namespace Interpreter.Rearranges

variable {i i' : Interpreter} (h : i.Rearranges i')
include h

theorem follow (condition : String) : (i.follow condition).Rearranges (i'.follow condition) := by
  have hnext := h.next? condition
  unfold Interpreter.follow
  generalize i.next? condition = o at hnext ⊢
  generalize i'.next? condition = o' at hnext ⊢
  cases hnext with
  | none => exact ⟨rfl, rfl, h⟩
  | some hd =>
    obtain ⟨hsame, hmem⟩ := hd
    exact ⟨congrArg (Reply.moved ∘ some) hsame.name, h.crossing hsame, h.moved hsame hmem⟩

theorem force (name : String) (hooks : Bool) :
    (i.force name hooks).Rearranges (i'.force name hooks) := by
  have hdeclared := h.declared? name
  unfold Interpreter.force
  rw [h.current.name]
  generalize i.declared? name = o at hdeclared ⊢
  generalize i'.declared? name = o' at hdeclared ⊢
  cases hdeclared with
  | none => exact ⟨rfl, rfl, h⟩
  | some hd =>
    obtain ⟨hsame, hmem⟩ := hd
    by_cases hcurrent : name = i'.current.name
    · simp only [if_pos hcurrent]
      exact ⟨rfl, rfl, h⟩
    · simp only [if_neg hcurrent, h.crossing hsame]
      exact ⟨rfl, rfl, h.moved hsame hmem⟩

theorem perform (x : Move) : (i.perform x).Rearranges (i'.perform x) := by
  cases x with
  | change condition => exact h.follow condition.name
  | changeByName name => exact h.follow name
  | set name => exact h.force name true
  | sync name => exact h.force name false

end Interpreter.Rearranges

theorem Turn.Rearranges.report_eq {t t' : Turn} (h : t.Rearranges t')
    (hcallbacks : Host.callbacks hosts = Host.callbacks hosts') : t.report hosts = t'.report hosts' := by
  rw [Turn.report, Turn.report, h.reply, h.hooks, h.interpreter.current.name, hcallbacks]

namespace Machine

namespace Refines

variable {rs : Registries} {i : Interpreter} {m : Machine} (h : m.Refines hosts rs i)
include h

theorem conditionNames_eq : m.conditionNames = ↑(i.current.transitions.map Transition.condition) := by
  have hlisting := congrArg (List.map Prod.fst) (h.represents.graph.realizes h.current).listing
  rw [TransitionTable.listing, List.map_map, List.map_map] at hlisting
  have hnames : m.conditions.map Condition.name = i.current.transitions.map Transition.condition := by
    rw [conditions, State.conditions, List.map_map]
    exact hlisting
  rw [conditionNames, hnames]

theorem map_name_peek? (condition : String) :
    (m.peek? condition).map State.name = (i.next? condition).map Declaration.name := by
  rw [h.next?_eq, peek?]
  cases m.graph.next? m.position condition with
  | none => rfl
  | some p =>
    obtain ⟨d, hd⟩ := h.represents.graph.exists_declaration p
    rw [Option.bind_some, hd]
    exact congrArg some (h.represents.graph.realizes hd).name

theorem map_name_state? (name : String) :
    (m.state? name).map State.name = (i.declared? name).map Declaration.name := by
  rw [state?]
  cases hfind : m.graph.find? name with
  | none => rw [h.declared?_of_find? hfind]; rfl
  | some p =>
    obtain ⟨d, hd, -, hdeclared⟩ := h.exists_of_find? hfind
    rw [hdeclared]
    exact congrArg some (h.represents.graph.realizes hd).name

theorem name_initial : i.declarations.head?.map Declaration.name = some m.initial.name := by
  obtain ⟨d, hd⟩ := h.represents.graph.exists_declaration m.graph.initial
  rw [← h.represents.getElem?_initial, hd]
  exact congrArg some (h.represents.graph.realizes hd).name.symm

end Refines

/-- Both machines go by interpreters of one definition, in two arrangements. -/
structure Corresponds (hosts hosts' : List Host) (m m' : Machine) (i i' : Interpreter) : Prop where
  refines : ∃ rs, m.Refines hosts rs i
  refines' : ∃ rs, m'.Refines hosts' rs i'
  interpreters : i.Rearranges i'

namespace Corresponds

variable {m m' : Machine} {i i' : Interpreter} (h : Corresponds hosts hosts' m m' i i')
include h

theorem conditionNames_eq : m.conditionNames = m'.conditionNames := by
  obtain ⟨⟨rs, hm⟩, ⟨rs', hm'⟩, hi⟩ := h
  rw [hm.conditionNames_eq, hm'.conditionNames_eq]
  exact Multiset.coe_eq_coe.mpr (hi.current.transitions.map _)

theorem name_current : m.current.name = m'.current.name := by
  obtain ⟨⟨rs, hm⟩, ⟨rs', hm'⟩, hi⟩ := h
  rw [hm.name_current, hm'.name_current, hi.current.name]

theorem name_initial : m.initial.name = m'.initial.name := by
  obtain ⟨⟨rs, hm⟩, ⟨rs', hm'⟩, hi⟩ := h
  have hfirst := hm.name_initial
  have hfirst' := hm'.name_initial
  have hds := hi.declarations
  generalize i.declarations = ds at hfirst hds
  generalize i'.declarations = ds' at hfirst' hds
  cases hds with
  | nil => simp at hfirst
  | cons hd _ =>
    rw [List.head?_cons, Option.map_some, Option.some.injEq] at hfirst hfirst'
    rw [← hfirst, ← hfirst', hd.name]

theorem names_perm : (m.graph.states.map State.name).Perm (m'.graph.states.map State.name) := by
  obtain ⟨⟨rs, hm⟩, ⟨rs', hm'⟩, hi⟩ := h
  rw [hm.represents.graph.map_name_states, hm'.represents.graph.map_name_states]
  exact hi.declarations.shuffled.map_perm fun _ _ hd => hd.name

theorem size_eq : m.size = m'.size := by
  have hlength := h.names_perm.length_eq
  rwa [List.length_map, List.length_map] at hlength

theorem map_name_peek? (condition : String) :
    (m.peek? condition).map State.name = (m'.peek? condition).map State.name := by
  obtain ⟨⟨rs, hm⟩, ⟨rs', hm'⟩, hi⟩ := h
  rw [hm.map_name_peek?, hm'.map_name_peek?]
  have hnext := hi.next? condition
  generalize i.next? condition = o at hnext ⊢
  generalize i'.next? condition = o' at hnext ⊢
  cases hnext with
  | none => rfl
  | some hd => exact congrArg some hd.1.name

theorem map_name_state? (name : String) :
    (m.state? name).map State.name = (m'.state? name).map State.name := by
  obtain ⟨⟨rs, hm⟩, ⟨rs', hm'⟩, hi⟩ := h
  rw [hm.map_name_state?, hm'.map_name_state?]
  have hdeclared := hi.declared? name
  generalize i.declared? name = o at hdeclared ⊢
  generalize i'.declared? name = o' at hdeclared ⊢
  cases hdeclared with
  | none => rfl
  | some hd => exact congrArg some hd.1.name

theorem named?_answer {x : Inspection} (hx : (Operation.inspect x).isByName = true) :
    (x.answer m).named? = (x.answer m').named? := by
  have hcurrent := h.name_current
  have hsize := h.size_eq
  cases x with
  | peek condition => exact congrArg (some ∘ NamedAnswer.state) (h.map_name_peek? condition.name)
  | peekByName condition => exact congrArg (some ∘ NamedAnswer.state) (h.map_name_peek? condition)
  | isIn name => simp only [Inspection.answer, Answer.named?, isIn, hcurrent]
  | isInState s => simp only [Inspection.answer, Answer.named?, isIn, hcurrent]
  | current => simp only [Inspection.answer, Answer.named?, Option.map_some, hcurrent]
  | initial => simp only [Inspection.answer, Answer.named?, Option.map_some, h.name_initial]
  | state name => exact congrArg (some ∘ NamedAnswer.state) (h.map_name_state? name)
  | stateAt id => simp [Operation.isByName] at hx
  | states =>
    exact congrArg (some ∘ NamedAnswer.names) (Multiset.coe_eq_coe.mpr h.names_perm)
  | size => simp only [Inspection.answer, Answer.named?, hsize]
  | isEmpty =>
    have hempty : m.graph.states.isEmpty = m'.graph.states.isEmpty := by
      rw [Bool.eq_iff_iff, List.isEmpty_iff_length_eq_zero, List.isEmpty_iff_length_eq_zero]
      exact iff_of_eq (congrArg (· = 0) hsize)
    simp only [Inspection.answer, Answer.named?, hempty]
  | conditions => exact congrArg (some ∘ NamedAnswer.names) h.conditionNames_eq
  | checksum => simp only [Inspection.answer, Answer.named?]
  | registry => simp only [Inspection.answer, Answer.named?]
  | description => simp only [Inspection.answer, Answer.named?]
  | listing => simp only [Inspection.answer, Answer.named?]
  | detail => simp only [Inspection.answer, Answer.named?]

end Corresponds

theorem named_of_report {s s' : Step (Reply State)} (hreport : s.report = s'.report)
    (hconditions : s.machine.conditionNames = s'.machine.conditionNames) :
    (s.map Answer.reply).named = (s'.map Answer.reply).named := by
  have hnamed : ∀ s : Step (Reply State), (s.map Answer.reply).named =
      { outcome := s.report.outcome.map (some ∘ NamedAnswer.reply), callbacks := s.report.callbacks,
        current := s.report.current, conditions := s.machine.conditionNames } := by
    intro s
    simp only [Step.named, Step.map, Step.report]
    cases s.outcome <;> rfl
  rw [hnamed, hnamed, hreport, hconditions]

theorem Corresponds.perform {m m' : Machine} {i i' : Interpreter}
    (h : Corresponds hosts hosts' m m' i i') (hhosts : Shuffled Host.Rearranges hosts hosts')
    (hnodup : (hosts.flatMap Host.hookNames).Nodup) (hreturn : Host.Return hosts) {x : Operation}
    (hx : x.isByName = true) (rs₁ rs₂ : Registries) :
    (x.perform m rs₁).named = (x.perform m' rs₂).named ∧
      ∃ j j', Corresponds hosts hosts' (x.perform m rs₁).machine (x.perform m' rs₂).machine j j' := by
  cases x with
  | inspect x =>
    refine ⟨?_, i, i', h⟩
    simp only [Operation.perform, Step.named, Except.map, h.named?_answer hx, h.name_current,
      h.conditionNames_eq]
  | move x =>
    obtain ⟨⟨rs, hm⟩, ⟨rs', hm'⟩, hi⟩ := h
    obtain ⟨hreport, hnext⟩ := hm.perform hreturn x rs₁
    obtain ⟨hreport', hnext'⟩ := hm'.perform (hreturn.rearranged hhosts) x rs₂
    have hturn := hi.perform x
    have hcorresponds : Corresponds hosts hosts' (x.perform m rs₁).machine (x.perform m' rs₂).machine
        (i.perform x).interpreter (i'.perform x).interpreter :=
      ⟨⟨rs, hnext⟩, ⟨rs', hnext'⟩, hturn.interpreter⟩
    refine ⟨named_of_report ?_ hcorresponds.conditionNames_eq, _, _, hcorresponds⟩
    rw [hreport, hreport', hturn.report_eq (Host.callbacks_eq hhosts hnodup)]

theorem Corresponds.runOperations {m m' : Machine} {i i' : Interpreter}
    (h : Corresponds hosts hosts' m m' i i') (hhosts : Shuffled Host.Rearranges hosts hosts')
    (hnodup : (hosts.flatMap Host.hookNames).Nodup) (hreturn : Host.Return hosts)
    {xs : List Operation} (hxs : ∀ x ∈ xs, x.isByName = true) (rs₁ rs₂ : Registries) :
    (m.runOperations rs₁ xs).map Step.named = (m'.runOperations rs₂ xs).map Step.named := by
  induction xs generalizing m m' i i' rs₁ rs₂ with
  | nil => rfl
  | cons x xs ih =>
    obtain ⟨hx, hrest⟩ := List.forall_mem_cons.mp hxs
    obtain ⟨hnamed, j, j', hnext⟩ := h.perform hhosts hnodup hreturn hx rs₁ rs₂
    have htail := ih hnext hrest (x.perform m rs₁).registries (x.perform m' rs₂).registries
    exact congrArg₂ List.cons hnamed htail

section Build

variable {text text' : String} {registry registry' : RegistryId} {rs rs' rs₁ rs₁' : Registries}
  {m m' : Machine}

theorem refines_of_compile (h : compile text hosts registry rs = (.ok m, rs')) :
    ∃ ds first, Definition.parse text = .ok ds ∧ ds.head? = some first ∧ Accepted hosts ds ∧
      m.Refines hosts rs' ⟨ds, first⟩ := by
  obtain ⟨ds, hparse, hhosts, -, hrepresents, hposition⟩ := represents_of_compile h
  obtain ⟨first, hfirst⟩ := hrepresents.graph.exists_declaration m.position
  have hhead : ds.head? = some first := by
    rw [← hrepresents.getElem?_initial, ← hposition, hfirst]
  exact ⟨ds, first, hparse, hhead, hrepresents.accepted hhosts, hrepresents, hfirst⟩

theorem outcome_of_compile (hreturn : Host.Return hosts)
    (h : compile text hosts registry rs = (.ok m, rs')) :
    (build text hosts registry rs).outcome = .ok m := by
  obtain ⟨ds, first, -, -, -, hrefines⟩ := refines_of_compile h
  have hreturned : (m.entering rs').failure = none :=
    (hrefines.callAll_onEnter hreturn hrefines.current rs').1
  rw [build_eq_of_compile h, hreturned]

theorem callbacks_of_compile (hreturn : Host.Return hosts)
    (h : compile text hosts registry rs = (.ok m, rs')) {i : Interpreter}
    (hrefines : m.Refines hosts rs' i) :
    (build text hosts registry rs).trail.callbacks =
      Host.callbacks hosts i.current.onEnter.toList := by
  rw [build_eq_of_compile h]
  exact (hrefines.callAll_onEnter hreturn hrefines.current rs').2

theorem exists_outcome_of_rearranges (htext : Definition.Rearranges text text')
    (hhosts : Shuffled Host.Rearranges hosts hosts') (hreturn : Host.Return hosts')
    (h : (build text hosts registry rs).outcome = .ok m) :
    ∃ m', (build text' hosts' registry' rs').outcome = .ok m' := by
  obtain ⟨rs₁, hcompile, -⟩ := compile_of_build h
  obtain ⟨ds, first, hparse, -, haccepted, -⟩ := refines_of_compile hcompile
  obtain ⟨ds', hparse', hds⟩ := htext.exists_parse_eq_ok hparse
  have haccepted' : Accepted hosts' ds' := haccepted.rearranged hds.shuffled hhosts
  obtain ⟨m', rs₂, hcompile'⟩ : ∃ m' rs₂, compile text' hosts' registry' rs' = (.ok m', rs₂) :=
    compile_of_accepted hparse' haccepted'
  exact ⟨m', outcome_of_compile hreturn hcompile'⟩

theorem corresponds_of_compile (htext : Definition.Rearranges text text')
    (h : compile text hosts registry rs = (.ok m, rs₁))
    (h' : compile text' hosts' registry' rs' = (.ok m', rs₁')) :
    ∃ i i', m.Refines hosts rs₁ i ∧ m'.Refines hosts' rs₁' i' ∧ i.Rearranges i' := by
  obtain ⟨ds, first, hparse, hfirst, haccepted, hrefines⟩ := refines_of_compile h
  obtain ⟨ds', first', hparse', hfirst', -, hrefines'⟩ := refines_of_compile h'
  obtain ⟨es, hes, hds⟩ := htext.exists_parse_eq_ok hparse
  obtain rfl : ds' = es := Except.ok.inj (hparse'.symm.trans hes)
  have hsame : first.Rearranges first' := by
    cases hds with
    | nil => simp at hfirst
    | cons hd _ => exact Option.some.inj hfirst ▸ Option.some.inj hfirst' ▸ hd
  have hinterpreters : (⟨ds, first⟩ : Interpreter).Rearranges ⟨ds', first'⟩ :=
    { declarations := hds, names_distinct := haccepted.names_distinct, current := hsame
      conditions_distinct := haccepted.conditions_distinct
      current_mem := List.mem_of_head? hfirst }
  exact ⟨_, _, hrefines, hrefines', hinterpreters⟩

end Build

/-- The arrangement of a definition and of its hosts decides on positions, listings and the checksum
only, as long as hooks return and the first state stays the first. A machine is built of one arrangement
if it is of the other, and by names both show the same over every run. -/
theorem build_run_rearranged (text text' : String) (hosts hosts' : List Host)
    (registry registry' : RegistryId) (rs rs' : Registries)
    (htext : Definition.Rearranges text text') (hhosts : Shuffled Host.Rearranges hosts hosts')
    (hreturn : Host.Return hosts) :
    let built := build text hosts registry rs
    let built' := build text' hosts' registry' rs'
    ((∃ m, built.outcome = .ok m) ↔ ∃ m', built'.outcome = .ok m') ∧
      ∀ m m', built.outcome = .ok m → built'.outcome = .ok m' →
        built.trail.callbacks = built'.trail.callbacks ∧ m.current.name = m'.current.name ∧
        m.conditionNames = m'.conditionNames ∧
        ∀ xs, (∀ x ∈ xs, Operation.isByName x = true) → ∀ rs₁ rs₂,
          (m.runOperations rs₁ xs).map Step.named = (m'.runOperations rs₂ xs).map Step.named := by
  intro built built'
  have hreturn' : Host.Return hosts' := hreturn.rearranged hhosts
  have hback : Shuffled Host.Rearranges hosts' hosts := hhosts.symm Host.Rearranges.symm
  refine ⟨⟨fun ⟨m, hm⟩ => exists_outcome_of_rearranges htext hhosts hreturn' hm,
    fun ⟨m', hm'⟩ => exists_outcome_of_rearranges htext.symm hback hreturn hm'⟩, ?_⟩
  intro m m' hm hm'
  obtain ⟨rs₁, hcompile, -⟩ := compile_of_build hm
  obtain ⟨rs₂, hcompile', -⟩ := compile_of_build hm'
  obtain ⟨-, -, hnodup, -, -⟩ := represents_of_compile hcompile
  obtain ⟨i, i', hrefines, hrefines', hi⟩ := corresponds_of_compile htext hcompile hcompile'
  have hcorresponds : Corresponds hosts hosts' m m' i i' := ⟨⟨rs₁, hrefines⟩, ⟨rs₂, hrefines'⟩, hi⟩
  refine ⟨?_, hcorresponds.name_current, hcorresponds.conditionNames_eq, fun xs hxs rs₁ rs₂ =>
    hcorresponds.runOperations hhosts hnodup hreturn hxs rs₁ rs₂⟩
  rw [callbacks_of_compile hreturn hcompile hrefines, callbacks_of_compile hreturn' hcompile' hrefines',
    hi.current.onEnter, Host.callbacks_eq hhosts hnodup]

/-- Two states change places, and so do transitions in two states, hosts and the hooks of a host. -/
theorem build_run_rearranged_three_states :
    let text := "(A, in) -> \x7bgo: B, on: C\x7d; (B, , out) -> \x7bup: C, go: A\x7d; (C) -> \x7b\x7d"
    let text' := "(A, in) -> \x7bon: C, go: B\x7d; (C) -> \x7b\x7d; (B, , out) -> \x7bgo: A, up: C\x7d"
    let entered : Hook := ⟨[.write "entered"], none⟩
    let hosts : List Host := [⟨"h", [("in", entered), ("no", ⟨[], none⟩)]⟩, ⟨"k", [("out", ⟨[], none⟩)]⟩]
    let hosts' : List Host := [⟨"k", [("out", ⟨[], none⟩)]⟩, ⟨"h", [("no", ⟨[], none⟩), ("in", entered)]⟩]
    let xs : List Operation := [.move (.changeByName "go"), .inspect .conditions, .move (.set "A"),
      .inspect (.peekByName "on"), .move (.sync "C"), .inspect .states]
    ∃ m m', (build text hosts .shared {}).outcome = .ok m ∧
      (build text' hosts' ⟨1⟩ {}).outcome = .ok m' ∧ m.listing ≠ m'.listing ∧
      (m.runOperations {} xs).map (fun s => s.machine.current.name) = ["B", "B", "A", "A", "C", "C"] ∧
      (m.runOperations {} xs).map Step.named = (m'.runOperations {} xs).map Step.named := by
  intro text text' entered hosts hosts' xs
  have hcut : ∀ {fragment header body : String}, Definition.arrowParts fragment.toList =
      [header.toList, body.toList] →
      Definition.CutsOnce fragment.toList header.toList body.toList := Definition.arrowParts_eq_pair_iff.mp
  have hfragments : Definition.fragments text = ["(A,in)->\x7bgo:B,on:C\x7d".toList,
      "(B,,out)->\x7bup:C,go:A\x7d".toList, "(C)->\x7b\x7d".toList] := by
    decide +kernel
  have hfragments' : Definition.fragments text' = ["(A,in)->\x7bon:C,go:B\x7d".toList,
      "(C)->\x7b\x7d".toList, "(B,,out)->\x7bgo:A,up:C\x7d".toList] := by
    decide +kernel
  have hA : Definition.SameState "(A,in)->\x7bgo:B,on:C\x7d".toList "(A,in)->\x7bon:C,go:B\x7d".toList :=
    .inr ⟨"(A,in)".toList, "\x7bgo:B,on:C\x7d".toList, "(A,in)".toList, "\x7bon:C,go:B\x7d".toList,
      hcut (by decide +kernel), hcut (by decide +kernel), rfl, by decide +kernel⟩
  have hB : Definition.SameState "(B,,out)->\x7bup:C,go:A\x7d".toList "(B,,out)->\x7bgo:A,up:C\x7d".toList :=
    .inr ⟨"(B,,out)".toList, "\x7bup:C,go:A\x7d".toList, "(B,,out)".toList, "\x7bgo:A,up:C\x7d".toList,
      hcut (by decide +kernel), hcut (by decide +kernel), rfl, by decide +kernel⟩
  have htext : Definition.Rearranges text text' := by
    rw [Definition.Rearranges, hfragments, hfragments']
    exact .cons hA ⟨_, .swap _ _ _, .cons (.inl rfl) (.cons hB .nil)⟩
  have hhosts : Shuffled Host.Rearranges hosts hosts' :=
    ⟨_, .swap _ _ _, .cons ⟨rfl, .refl _⟩ (.cons ⟨rfl, .swap _ _ _⟩ .nil)⟩
  have hrun : (build text hosts .shared {}).outcome.toOption.map (fun m =>
      (m.listing, (m.runOperations {} xs).map fun s => s.machine.current.name)) =
      some ("A\n  go -> B\n  on -> C\nB\n  up -> C\n  go -> A\nC\n", ["B", "B", "A", "A", "C", "C"]) := by
    decide +kernel
  have hlisting : (build text' hosts' ⟨1⟩ {}).outcome.toOption.map Machine.listing =
      some "A\n  on -> C\n  go -> B\nC\nB\n  go -> A\n  up -> C\n" := by
    decide +kernel
  have hsame := build_run_rearranged text text' hosts hosts' .shared ⟨1⟩ {} {} htext hhosts
    (by decide +kernel)
  cases hm : (build text hosts .shared {}).outcome with
  | error e => simp [hm, Except.toOption] at hrun
  | ok m =>
    obtain ⟨m', hm'⟩ := hsame.1.mp ⟨m, hm⟩
    rw [hm] at hrun
    rw [hm'] at hlisting
    obtain ⟨hlisted, hstates⟩ := Prod.mk.inj (Option.some.inj hrun)
    have hlisted' := Option.some.inj hlisting
    refine ⟨m, m', rfl, hm', ?_, hstates, (hsame.2 m m' hm hm').2.2.2 xs (by decide) {} {}⟩
    rw [hlisted, hlisted']
    decide

end Machine

end Workflow
