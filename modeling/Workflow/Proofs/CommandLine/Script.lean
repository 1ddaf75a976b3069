import Workflow.Proofs.CommandLine.Binding
import Workflow.Proofs.CommandLine.Listing
import Workflow.Proofs.CommandLine.Session
import Workflow.Proofs.Machine.Moves

/-! Scripts. A step of a run does what a line of a session does that asks for the same move, and the lines
about the steps of a run lead on from one another. -/

namespace Workflow

/-- The steps do the same, whatever they answer. -/
structure Step.Same {α β : Type} (s : Step α) (t : Step β) : Prop where
  machine : s.machine = t.machine
  registries : s.registries = t.registries
  trail : s.trail = t.trail
  failed : s.isFailed = t.isFailed

theorem Step.same_map {α β γ : Type} (s : Step α) (f : α → β) (g : α → γ) : (s.map f).Same (s.map g) where
  machine := rfl
  registries := rfl
  trail := rfl
  failed := by rw [isFailed_map, isFailed_map]

namespace CommandLine

open Text (Palette)

section Blanks

def blanks (text : String) : Nat := text.toList.countP Text.isBlank

variable {a source target : String}

theorem blanks_append (a b : String) : blanks (a ++ b) = blanks a + blanks b := by
  rw [blanks, String.toList_append, List.countP_append]
  rfl

theorem blanks_eq_zero_iff : blanks a = 0 ↔ ∀ c ∈ a.toList, Text.isBlank c = false := by
  simp [blanks, List.countP_eq_zero]

theorem blanks_paint (palette : Palette) (style : Text.Style) (h : blanks a = 0) :
    blanks (palette.paint style a) = 0 :=
  blanks_eq_zero_iff.mpr (palette.isBlank_paint style (blanks_eq_zero_iff.mp h))

/-- The lines about a step that was made and about a refused one differ in the number of their words. -/
theorem madeLine_ne_refusedLine (palette : Palette) (force : Bool) (hsource : blanks source = 0)
    (ha : blanks a = 0) (htarget : blanks target = 0) :
    madeLine palette force source a target ≠ refusedLine palette force source a := by
  have hcyan := blanks_paint palette .cyan htarget
  have hgreen : ∀ text, blanks text = 0 → blanks (palette.paint .green text) = 0 :=
    fun text => blanks_paint palette .green
  have hyellow : ∀ text, blanks text = 0 → blanks (palette.paint .yellow text) = 0 :=
    fun text => blanks_paint palette .yellow
  have hmade : blanks (madeLine palette force source a target) = 3 := by
    unfold madeLine
    split
    · simp only [blanks_append, hcyan, hsource, hgreen "set" rfl]
      rfl
    · simp only [blanks_append, hcyan, hsource, ha, hgreen "moved" rfl]
      rfl
  have hrefused : blanks (refusedLine palette force source a) = 5 := by
    unfold refusedLine
    split
    · simp only [blanks_append, ha, hyellow "unchanged" rfl]
      rfl
    · simp only [blanks_append, hsource, ha, hyellow "ignored" rfl]
      rfl
  intro h
  simp [h, hrefused] at hmade

theorem Instruction.madeLine_ne_refusedLine (palette : Palette) (force : Bool)
    (hsource : blanks source = 0) (ha : blanks a = 0) (htarget : blanks target = 0) :
    madeLine palette source target ≠ refusedLine palette force source a := by
  have hgreen := blanks_paint palette .green htarget
  have hyellow : ∀ text, blanks text = 0 → blanks (palette.paint .yellow text) = 0 :=
    fun text => blanks_paint palette .yellow
  have hmade : blanks (madeLine palette source target) = 2 := by
    simp only [madeLine, blanks_append, hsource, hgreen]
    rfl
  have hrefused : blanks (refusedLine palette force source a) = 6 := by
    unfold refusedLine
    split
    · simp only [blanks_append, ha, hyellow "Unchanged:" rfl]
      rfl
    · simp only [blanks_append, hsource, ha, hyellow "Ignored:" rfl]
      rfl
  intro h
  simp [h, hrefused] at hmade

end Blanks

def commandWords (force : Bool) : List String := if force then ["set", "s"] else ["change", "c"]

def instructionOf (a : String) (force : Bool) : Instruction := if force then .set a else .change a

def stepTarget? (m : Machine) (a : String) (force : Bool) : Option m.graph.Position :=
  if force then m.forcedTarget? a else m.graph.next? m.position a

variable {palette palette' : Palette} {m : Machine} {rs rs' : Registries} {hosts : List Host}
  {ds : List Declaration} {a w : String} {force : Bool}

theorem ofLine_command (hw : w ∈ commandWords force) (ha : IsWord a) :
    Instruction.ofLine (w ++ " " ++ a) = some (instructionOf a force) := by
  have hlower : ∀ w ∈ ["set", "s", "change", "c"], IsWord w ∧ Text.lower w = w := by decide
  have hmem : w ∈ ["set", "s", "change", "c"] := by
    cases force with
    | true => exact List.mem_append_left ["change", "c"] hw
    | false => exact List.mem_append_right ["set", "s"] hw
  obtain ⟨hword, hsame⟩ := hlower w hmem
  have hcommand : command? (w ++ " " ++ a) = some w := by
    rw [command?, lineWords_pair hword ha, List.head?_cons, Option.map_some, hsame]
  have hargument : argument? (w ++ " " ++ a) = some a := by
    rw [argument?, lineWords_pair hword ha]
    rfl
  rw [Instruction.ofLine, hcommand, hargument, Option.map_some]
  cases force with
  | true =>
    have hw : w = "set" ∨ w = "s" := by simpa [commandWords] using hw
    rcases hw with rfl | rfl <;> rfl
  | false =>
    have hw : w = "change" ∨ w = "c" := by simpa [commandWords] using hw
    rcases hw with rfl | rfl <;> rfl

theorem settled_runStep (h : m.Represents hosts rs ds) (palette : Palette) (rs' : Registries) (a : String)
    (force : Bool) :
    (runStep palette m rs' a force).Settled m
      (fun p => madeLine palette force m.current.name a (m.graph.state p).name)
      (refusedLine palette force m.current.name a) (stepTarget? m a force) := by
  cases force with
  | true =>
    refine (m.settled_set a rs').map _ (fun p hp => ?_) rfl
    rw [h.name_of_forcedTarget? hp]
    rfl
  | false => exact (m.settled_changeByName a rs').map _ (fun _ _ => rfl) rfl

theorem exists_execute_same (palette : Palette) (m : Machine) (rs : Registries) (a : String) (force : Bool) :
    ∃ s, (instructionOf a force).execute palette m rs = some s ∧
      ∀ palette', s.Same (runStep palette' m rs a force) := by
  cases force with
  | true => exact ⟨_, rfl, fun palette' => Step.same_map _ _ _⟩
  | false => exact ⟨_, rfl, fun palette' => Step.same_map _ _ _⟩

theorem settled_execute (h : m.Represents hosts rs ds) {s : Step String}
    (hs : (instructionOf a force).execute palette m rs' = some s) :
    s.Settled m (fun p => Instruction.madeLine palette m.current.name (m.graph.state p).name)
      (Instruction.refusedLine palette force m.current.name a) (stepTarget? m a force) := by
  cases force with
  | true =>
    cases hs
    refine (m.settled_set a rs').map _ (fun p hp => ?_) rfl
    rw [h.name_of_forcedTarget? hp]
    rfl
  | false =>
    cases hs
    exact (m.settled_changeByName a rs').map _ (fun _ _ => rfl) rfl

/-- The steps of a script one after the other, each a condition or, if it is to be forced, a state. A hook
that fails ends the script. -/
def runScript (palette : Palette) (m : Machine) (rs : Registries) :
    List (String × Bool) → List (Step String)
  | [] => []
  | (a, force) :: steps =>
    let step := runStep palette m rs a force
    step :: if step.isFailed then [] else runScript palette step.machine step.registries steps

theorem runSteps_eq_runScript (palette : Palette) (force : Bool) (m : Machine) (rs : Registries)
    (names : List String) :
    runSteps palette force m rs names = runScript palette m rs (names.map fun a => (a, force)) := by
  induction names generalizing m rs with
  | nil => rfl
  | cons a names ih => simp only [runSteps, runScript, List.map_cons, ih]

def Says (step : String × Bool) (line : String) : Prop :=
  IsWord step.1 ∧ ∃ w ∈ commandWords step.2, line = w ++ " " ++ step.1

theorem Repl.ending_of_says (r : Repl) {steps : List (String × Bool)} {lines : List String}
    (h : List.Forall₂ Says steps lines) (palette : Palette) :
    r.ending (lines.map some) =
      Ending.ofSteps r.machine r.registries (runScript palette r.machine r.registries steps) := by
  induction h generalizing r with
  | nil => rfl
  | @cons step line steps lines hsays _ ih =>
    obtain ⟨a, force⟩ := step
    obtain ⟨ha, w, hw, rfl⟩ := hsays
    obtain ⟨s, hs, hsame⟩ := exists_execute_same r.reporter.palette r.machine r.registries a force
    have hexecute : r.execute (w ++ " " ++ a) = some s :=
      (r.execute_of_ofLine (ofLine_command hw ha)).trans hs
    have hsame := hsame palette
    have hrest := ih (r.next s)
    rw [List.map_cons, ending_cons hexecute, runScript, ← hsame.failed]
    simp only [Repl.next, hsame.machine, hsame.registries] at hrest ⊢
    by_cases hfailed : s.isFailed = true
    · simp only [hfailed, if_true, Ending.ofSteps, Ending.after, hsame.trail]
    · simp only [hfailed, Bool.false_eq_true, if_false, Ending.ofSteps, Ending.after, hsame.trail, hrest]

/-- The lines about the steps of a run that leads from one state to another. A step that was made leads
on from where the last has led, and one that was refused leads nowhere. -/
inductive Chain (palette : Palette) : Bool → String → List String → List String → String → Prop
  | nil (force : Bool) (source : String) : Chain palette force source [] [] source
  | moved {source condition target final : String} {steps lines : List String}
      (h : Chain palette false target steps lines final) :
      Chain palette false source (condition :: steps)
        ((palette.paint .green "moved" ++ " " ++ source ++ " --" ++ condition ++ "--> " ++
          palette.paint .cyan target) :: lines) final
  | set {source state final : String} {steps lines : List String}
      (h : Chain palette true state steps lines final) :
      Chain palette true source (state :: steps)
        ((palette.paint .green "set" ++ " " ++ source ++ " -> " ++ palette.paint .cyan state) :: lines) final
  | ignored {source condition final : String} {steps lines : List String}
      (h : Chain palette false source steps lines final) :
      Chain palette false source (condition :: steps)
        ((palette.paint .yellow "ignored" ++ " '" ++ condition ++ "' not declared in " ++ source) :: lines)
        final
  | unchanged {source state final : String} {steps lines : List String}
      (h : Chain palette true source steps lines final) :
      Chain palette true source (state :: steps)
        ((palette.paint .yellow "unchanged" ++ " " ++ state ++ " (unknown or already current)") :: lines)
        final

namespace Chain

variable {source step target final : String} {steps lines : List String}

theorem made (hforced : force = true → target = step) (h : Chain palette force target steps lines final) :
    Chain palette force source (step :: steps) (madeLine palette force source step target :: lines)
      final := by
  cases force with
  | true => exact hforced rfl ▸ h.set
  | false => exact h.moved

theorem refused (h : Chain palette force source steps lines final) :
    Chain palette force source (step :: steps) (refusedLine palette force source step :: lines) final := by
  cases force with
  | true => exact h.unchanged
  | false => exact h.ignored

end Chain

theorem lastMachine_cons (m : Machine) (step : Step String) (steps : List (Step String)) :
    lastMachine m (step :: steps) = lastMachine step.machine steps := by
  cases steps with
  | nil => rfl
  | cons next steps => simp [lastMachine, List.getLast?_cons]

theorem chain_runSteps (h : m.Represents hosts rs ds) (palette : Palette) (force : Bool)
    (rs' : Registries) (names : List String)
    (hreturn : ∀ step ∈ runSteps palette force m rs' names, step.isFailed = false) :
    ∃ lines, (runSteps palette force m rs' names).map Step.outcome = lines.map .ok ∧
      Chain palette force m.current.name names lines
        (lastMachine m (runSteps palette force m rs' names)).current.name := by
  induction names generalizing m rs' with
  | nil => exact ⟨[], rfl, .nil _ _⟩
  | cons a names ih =>
    let step := runStep palette m rs' a force
    have hfailed : step.isFailed = false := hreturn step List.mem_cons_self
    have hsteps : runSteps palette force m rs' (a :: names) =
        step :: runSteps palette force step.machine step.registries names := by
      simp only [runSteps, step, hfailed, Bool.false_eq_true, if_false]
    rw [hsteps] at hreturn ⊢
    obtain ⟨-, hrest⟩ := List.forall_mem_cons.mp hreturn
    have hsettled := settled_runStep h palette rs' a force
    rw [lastMachine_cons]
    cases htarget : stepTarget? m a force with
    | none =>
      rw [htarget] at hsettled
      cases hsettled with
      | refused hmachine houtcome =>
        have hmachine : step.machine = m := hmachine
        rw [hmachine] at hrest ⊢
        obtain ⟨lines, hlines, hchain⟩ := ih h _ hrest
        refine ⟨refusedLine palette force m.current.name a :: lines, ?_, .refused hchain⟩
        rw [List.map_cons, List.map_cons, hlines]
        exact congrArg (· :: _) houtcome
    | some p =>
      rw [htarget] at hsettled
      obtain ⟨hmachine, houtcome⟩ := hsettled.made_of_not_failed hfailed
      have hmachine : step.machine = { m with position := p } := hmachine
      rw [hmachine] at hrest ⊢
      have hmoved : ({ m with position := p } : Machine).Represents hosts rs ds := ⟨h.graph⟩
      obtain ⟨lines, hlines, hchain⟩ := ih hmoved _ hrest
      have hforced : force = true → (m.graph.state p).name = a := by
        rintro rfl
        exact h.name_of_forcedTarget? htarget
      refine ⟨madeLine palette force m.current.name a (m.graph.state p).name :: lines, ?_,
        .made hforced hchain⟩
      rw [List.map_cons, List.map_cons, hlines]
      exact congrArg (· :: _) houtcome

theorem isFailed_runStep (h : m.Represents hosts rs ds) (hreturn : Host.Return hosts) (palette : Palette)
    (rs' : Registries) (a : String) (force : Bool) : (runStep palette m rs' a force).isFailed = false := by
  cases force with
  | true =>
    have hset := h.not_isFailed hreturn (.set a) rs'
    rw [Move.perform, Step.isFailed_map] at hset
    exact (Step.isFailed_map _ _).trans hset
  | false =>
    have hchange := h.not_isFailed hreturn (.changeByName a) rs'
    rw [Move.perform, Step.isFailed_map] at hchange
    exact (Step.isFailed_map _ _).trans hchange

theorem isFailed_runSteps (h : m.Represents hosts rs ds) (hreturn : Host.Return hosts)
    (palette : Palette) (force : Bool) (rs' : Registries) (names : List String) :
    ∀ step ∈ runSteps palette force m rs' names, step.isFailed = false := by
  induction names generalizing m rs' with
  | nil => simp [runSteps]
  | cons a names ih =>
    have hstep := isFailed_runStep h hreturn palette rs' a force
    obtain ⟨p, hp⟩ : ∃ p, (runStep palette m rs' a force).machine = { m with position := p } := by
      cases force with
      | true => exact (m.keeps_set a rs').machine
      | false => exact (m.keeps_move rs' (.changeByName a)).machine
    have hmoved : ({ m with position := p } : Machine).Represents hosts rs ds := ⟨h.graph⟩
    rw [runSteps, List.forall_mem_cons]
    refine ⟨hstep, ?_⟩
    simp only [hstep, Bool.false_eq_true, if_false, hp]
    exact ih hmoved _

theorem return_echoHost (names : List String) : Host.Return [echoHost names] := by
  intro b hb
  rw [registrations_echoHost] at hb
  obtain ⟨name, -, rfl⟩ := List.mem_map.mp hb
  rfl

theorem Reporter.on_out_steps (r : Reporter) {steps : List (Step String)} {lines : List String}
    (h : steps.map Step.outcome = lines.map .ok) :
    Output.on .out (steps.flatMap r.step) = String.join (lines.map fun line => line ++ "\n") := by
  induction steps generalizing lines with
  | nil =>
    cases lines with
    | nil => rfl
    | cons line lines => simp at h
  | cons step steps ih =>
    cases lines with
    | nil => simp at h
    | cons line lines =>
      obtain ⟨houtcome, hrest⟩ := List.cons.inj h
      have hline : Output.on .out (r.step step) = line ++ "\n" := by
        rw [Reporter.step, Output.on_append, Output.on_out_eq_empty (r.trail_err step.trail), houtcome,
          String.empty_append]
        exact Output.on_outLine line
      rw [List.flatMap_cons, Output.on_append, hline, ih hrest, List.map_cons, String.join_cons]

theorem Setting.run_prints_chain {s : Setting} {argument : String} {m : Machine} {rs : Registries}
    (h : s.machine? argument = some (m, rs)) (names : List String) (force : Bool) :
    ∃ lines final, Chain s.reporter.palette force m.current.name names lines final ∧
      (s.run argument names force).exitCode = 0 ∧
      (s.run argument names force).output.on .out = String.join
        (([s.reporter.paint .dimmed "start" ++ " " ++ s.reporter.paint .cyan m.current.name] ++ lines ++
          [s.reporter.paint .bold "Final state:" ++ " " ++ s.reporter.paint .cyan final]).map
            fun line => line ++ "\n") := by
  obtain ⟨definition, hooks, hm, -⟩ := buildMachine_of_machine? h
  obtain ⟨rs₁, hcompile, -⟩ := Machine.compile_of_build hm
  obtain ⟨ds, -, -, -, hrepresents, -⟩ := Machine.represents_of_compile hcompile
  have hreturn := isFailed_runSteps hrepresents (return_echoHost hooks) s.reporter.palette force rs names
  obtain ⟨lines, hlines, hchain⟩ := chain_runSteps hrepresents s.reporter.palette force rs names hreturn
  let steps := runSteps s.reporter.palette force m rs names
  have hnone : steps.any Step.isFailed = false := by
    rw [List.any_eq_false]
    exact fun step hstep => by simp [hreturn step hstep]
  rcases s.withMachine_cases argument with ⟨m', rs', t, hmachine, hnext⟩ | ⟨o, hmachine, -⟩
  · obtain ⟨rfl, rfl⟩ := Prod.mk.inj (Option.some.inj (h.symm.trans hmachine))
    refine ⟨lines, (lastMachine m steps).current.name, hchain, ?_⟩
    simp only [run, hnext, steps, hnone, Bool.false_eq_true, if_false, Outcome.after, true_and]
    rw [Output.on_append, Output.on_out_eq_empty (s.reporter.trail_err t), String.empty_append,
      Output.on_append, Output.on_append, Output.on_outLine, s.reporter.on_out_steps hlines, ending,
      Output.on_outLine]
    simp [String.join_append, String.join_cons, String.append_assoc]
  · simp [h] at hmachine

end CommandLine

namespace Machine

variable {hosts : List Host} {rs : Registries} {ds : List Declaration} {m : Machine}

open CommandLine (IsWord)

theorem isWord_of_legible (h : m.describe.Legible) :
    ∀ s ∈ m.graph.states, IsWord s.name ∧ ∀ c ∈ s.conditions, IsWord c.name := by
  intro s hs
  have hlegible := h.states (s.describe m.targetName) (List.mem_map_of_mem hs)
  refine ⟨⟨hlegible.name.1, hlegible.name.isBlank⟩, fun c hc => ?_⟩
  obtain ⟨e, he, rfl⟩ := List.mem_map.mp hc
  have hcondition := (hlegible.transitions ⟨e.1.name, m.targetName e.2⟩ (List.mem_map_of_mem he)).1
  exact ⟨hcondition.1, hcondition.isBlank⟩

namespace Represents

theorem next?_of_mem_conditions (h : m.Represents hosts rs ds) {c : Condition} (hc : c ∈ m.conditions) :
    ∃ t ∈ (m.current.describe m.targetName).transitions, t.condition = c.name ∧
      ∃ p, m.graph.next? m.position c.name = some p ∧ (m.graph.state p).name = t.target := by
  obtain ⟨d, hd⟩ := h.graph.exists_declaration m.position
  have hdescribe : m.current.describe m.targetName = d.description := h.describe_state hd
  have hrealizes := h.graph.realizes hd
  obtain ⟨e, he, rfl⟩ := List.mem_map.mp hc
  let t : Transition := ⟨e.1.name, m.targetName e.2⟩
  have ht : t ∈ (m.current.describe m.targetName).transitions := List.mem_map_of_mem he
  have htd : t ∈ d.transitions := by rwa [hdescribe] at ht
  have hfind : (d.transitions.find? fun x => x.condition == t.condition) = some t := by
    cases hfound : d.transitions.find? fun x => x.condition == t.condition with
    | none => simpa using List.find?_eq_none.mp hfound t htd
    | some t' =>
      have hsame : t'.condition = t.condition := by simpa using List.find?_some hfound
      rw [List.inj_on_of_nodup_map hrealizes.nodup_conditions (List.mem_of_find?_eq_some hfound) htd hsame]
  obtain ⟨id, hid⟩ := Option.isSome_iff_exists.mp (hrealizes.contains_target t htd)
  obtain ⟨p, hp, -⟩ := StateGraph.exists_find?_of_get? hid
  obtain ⟨target, htarget, hname⟩ := h.graph.find?_eq_some_iff.mp hp
  refine ⟨t, ht, rfl, p, ?_, (h.graph.realizes htarget).name.trans hname⟩
  rw [h.graph.next?_eq hd]
  exact (congrArg (Option.bind · _) hfind).trans hp

theorem forcedTarget?_of_ne_current (h : m.Represents hosts rs ds) {s : State}
    (hs : s ∈ m.graph.states) (hne : s.name ≠ m.current.name) :
    ∃ p, m.forcedTarget? s.name = some p ∧ (m.graph.state p).name = s.name := by
  have hknown : m.graph.find? s.name ≠ none := by
    rw [ne_eq, h.graph.find?_eq_none_iff, not_not, ← h.graph.map_name_states]
    exact List.mem_map_of_mem hs
  obtain ⟨p, hp⟩ := Option.ne_none_iff_exists'.mp hknown
  obtain ⟨d, hd, hname⟩ := h.graph.find?_eq_some_iff.mp hp
  have hstate : (m.graph.state p).name = s.name := (h.graph.realizes hd).name.trans hname
  have hmoves : (p != m.position) = true := by
    rw [bne_iff_ne]
    rintro rfl
    exact hne hstate.symm
  exact ⟨p, Option.filter_eq_some_iff.mpr ⟨hp, hmoves⟩, hstate⟩

end Represents

end Machine

namespace CommandLine

open Text (Palette)

variable {hosts : List Host} {rs rs' : Registries} {ds : List Declaration} {n : Machine}
  {palette palette' : Palette} {a w : String} {force : Bool}

theorem executeLine_command (hw : w ∈ commandWords force) (ha : IsWord a) :
    Instruction.executeLine palette n rs (w ++ " " ++ a) = (instructionOf a force).execute palette n rs := by
  rw [Instruction.executeLine, ofLine_command hw ha]

theorem executeLine_agrees (h : n.Represents hosts rs ds) (hlegible : n.describe.Legible)
    (palette palette' : Palette) (rs' : Registries) (ha : IsWord a) (hw : w ∈ commandWords force) :
    ∃ s, Instruction.executeLine palette n rs' (w ++ " " ++ a) = some s ∧
      s.Same (runStep palette' n rs' a force) ∧
      (s.outcome = .ok (Instruction.refusedLine palette force n.current.name a) ↔
        (runStep palette' n rs' a force).outcome = .ok (refusedLine palette' force n.current.name a)) ∧
      ((runStep palette' n rs' a force).outcome = .ok (refusedLine palette' force n.current.name a) ↔
        stepTarget? n a force = none) := by
  obtain ⟨s, hs, hsame⟩ := exists_execute_same palette n rs' a force
  refine ⟨s, (executeLine_command hw ha).trans hs, hsame palette', ?_⟩
  have hstate : ∀ p : n.graph.Position, blanks (n.graph.state p).name = 0 := fun p =>
    blanks_eq_zero_iff.mpr (Machine.isWord_of_legible hlegible _ (List.getElem_mem p.isLt)).1.2
  have hword : blanks a = 0 := blanks_eq_zero_iff.mpr ha.2
  have hline := (settled_execute h hs).outcome_eq_refused_iff fun p _ =>
    Instruction.madeLine_ne_refusedLine palette force (hstate n.position) hword (hstate p)
  have hstep := (settled_runStep h palette' rs' a force).outcome_eq_refused_iff fun p _ =>
    madeLine_ne_refusedLine palette' force (hstate n.position) hword (hstate p)
  exact ⟨hline.trans hstep.symm, hstep⟩

theorem executeLine_makes (h : n.Represents hosts rs ds) (palette : Palette) (rs' : Registries)
    (ha : IsWord a) (hw : w ∈ commandWords force) {p : n.graph.Position}
    (hp : stepTarget? n a force = some p) :
    ∃ s, Instruction.executeLine palette n rs' (w ++ " " ++ a) = some s ∧
      (s.isFailed = false → s.machine.current.name = (n.graph.state p).name ∧
        s.outcome = .ok (Instruction.madeLine palette n.current.name (n.graph.state p).name)) := by
  obtain ⟨s, hs, -⟩ := exists_execute_same palette n rs' a force
  refine ⟨s, (executeLine_command hw ha).trans hs, fun hfailed => ?_⟩
  have hsettled := settled_execute h hs
  rw [hp] at hsettled
  obtain ⟨hmachine, houtcome⟩ := hsettled.made_of_not_failed hfailed
  refine ⟨?_, houtcome⟩
  rw [hmachine]
  rfl

theorem isFailed_of_executeLine (h : n.Represents hosts rs ds) (hreturn : Host.Return hosts)
    {line : String} {s : Step String} (hs : Instruction.executeLine palette n rs' line = some s) :
    s.isFailed = false := by
  rcases Instruction.executeLine_cases hs with ⟨text, rfl⟩ | ⟨x, report, rfl⟩
  · rfl
  · rw [Step.isFailed_map]
    exact h.not_isFailed hreturn x rs'

end CommandLine

end Workflow
