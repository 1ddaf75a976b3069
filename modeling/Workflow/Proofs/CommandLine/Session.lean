import Workflow.CommandLine.Binding
import Workflow.Proofs.CommandLine.Dispatch

/-! Sessions. What a session comes to is a matter of the lines that do something, up to the one that ends
it. -/

namespace Workflow.CommandLine

/-- What an activity comes to: the machine, the registries, and what its hooks have shown. -/
structure Ending where
  machine : Machine
  registries : Registries
  callbacks : Trail := []

namespace Ending

def after {α : Type} (e : Ending) (step : Step α) : Ending :=
  { e with callbacks := step.trail.callbacks ++ e.callbacks }

def ofSteps {α : Type} (m : Machine) (rs : Registries) : List (Step α) → Ending
  | [] => { machine := m, registries := rs }
  | step :: steps => (ofSteps step.machine step.registries steps).after step

end Ending

/-- The steps of lines one after the other, up to the first that ends the session, or in which a hook
fails. -/
def executeLines (palette : Text.Palette) (m : Machine) (rs : Registries) :
    List String → List (Step String)
  | [] => []
  | line :: lines =>
    match Instruction.executeLine palette m rs line with
    | none => []
    | some step =>
      step :: if step.isFailed then [] else executeLines palette step.machine step.registries lines

def isExit (line : String) : Bool := ["quit", "exit", "q"].any fun word => command? line = some word

def delivered (lines : List (Option String)) : List String :=
  (lines.takeWhile Option.isSome).filterMap id

/-- The lines that a session carries out: those that are not blank, before the first that ends it. -/
def script (lines : List (Option String)) : List String :=
  ((delivered lines).filter fun line => !(lineWords line).isEmpty).takeWhile fun line => !isExit line

section Script

variable {line : String} {lines : List (Option String)}

theorem script_cons_of_blank (h : lineWords line = []) : script (some line :: lines) = script lines := by
  simp [script, delivered, h]

theorem script_cons_of_exit (hblank : lineWords line ≠ []) (hexit : isExit line = true) :
    script (some line :: lines) = [] := by
  simp [script, delivered, hblank, hexit]

theorem script_cons (hblank : lineWords line ≠ []) (hexit : ¬ isExit line = true) :
    script (some line :: lines) = line :: script lines := by
  simp [script, delivered, hblank, hexit]

end Script

namespace Repl

variable {r : Repl} {line : String} {lines lines' : List (Option String)} {step : Step String}

def ending (r : Repl) (lines : List (Option String)) : Ending where
  machine := (r.course lines).repl.machine
  registries := (r.course lines).repl.registries
  callbacks := (r.course lines).trail.callbacks

def next {α : Type} (r : Repl) (step : Step α) : Repl :=
  { r with machine := step.machine, registries := step.registries }

def execute (r : Repl) (line : String) : Option (Step String) :=
  Instruction.executeLine r.reporter.palette r.machine r.registries line

theorem execute_of_ofLine (r : Repl) {i : Instruction} (h : Instruction.ofLine line = some i) :
    r.execute line = i.execute r.reporter.palette r.machine r.registries := by
  rw [execute, Instruction.executeLine, h]

theorem execute_of_blank (r : Repl) (h : lineWords line = []) :
    r.execute line = some (Instruction.answer r.machine r.registries "") := by
  rw [execute, Instruction.executeLine, Instruction.ofLine, lineWords_eq_nil_iff.mp h]
  rfl

theorem feed_of_execute (r : Repl) (hblank : lineWords line ≠ []) :
    r.feed line = match r.execute line with
      | none => { output := [], repl := r, exitCode := some 0 }
      | some step =>
        { output := r.reporter.step (step.map fun text => text ++ "\n")
          trail := step.trail
          repl := r.next step
          exitCode := if step.isFailed then some Outcome.abortCode else none } := by
  have hwords : ¬ (lineWords line).isEmpty = true := by simpa using hblank
  rw [feed, if_neg hwords]
  rfl

theorem ending_of_exit (h : r.execute line = none) (lines : List (Option String)) :
    r.ending (some line :: lines) = { machine := r.machine, registries := r.registries } := by
  have hblank : lineWords line ≠ [] := fun hblank => by simp [r.execute_of_blank hblank] at h
  have hfeed : r.feed line = { output := [], repl := r, exitCode := some 0 } := by
    rw [r.feed_of_execute hblank, h]
  rw [ending, course, hfeed]
  rfl

theorem ending_cons (h : r.execute line = some step) (lines : List (Option String)) :
    r.ending (some line :: lines) =
      (if step.isFailed then { machine := step.machine, registries := step.registries }
        else (r.next step).ending lines).after step := by
  by_cases hblank : lineWords line = []
  · rw [r.execute_of_blank hblank] at h
    cases h
    have hfeed : r.feed line = { output := [], repl := r } := by
      rw [feed, hblank]
      rfl
    rw [ending, course, hfeed]
    rfl
  · have hfeed := r.feed_of_execute hblank
    rw [h] at hfeed
    by_cases hfailed : step.isFailed = true
    · simp only [hfailed, if_true] at hfeed ⊢
      rw [ending, course, hfeed, Ending.after, List.append_nil]
      rfl
    · simp only [hfailed, Bool.false_eq_true, if_false] at hfeed ⊢
      rw [ending, course, hfeed]
      simp only [Ending.after, ending, Trail.callbacks, List.filter_append]

theorem execute_eq_none_iff : r.execute line = none ↔ isExit line = true := by
  rw [execute, Instruction.executeLine_eq_none_iff]
  simp [isExit]

theorem ending_eq (r : Repl) (lines : List (Option String)) :
    r.ending lines = Ending.ofSteps r.machine r.registries
      (executeLines r.reporter.palette r.machine r.registries (script lines)) := by
  induction lines generalizing r with
  | nil => rfl
  | cons line lines ih =>
    cases line with
    | none => rfl
    | some line =>
      by_cases hblank : lineWords line = []
      · rw [script_cons_of_blank hblank, ending_cons (r.execute_of_blank hblank), ← ih r]
        rfl
      · cases hexecute : r.execute line with
        | none =>
          rw [ending_of_exit hexecute, script_cons_of_exit hblank (execute_eq_none_iff.mp hexecute)]
          rfl
        | some step =>
          have hexit : ¬ isExit line = true := fun hexit => by
            simp [execute_eq_none_iff.mpr hexit] at hexecute
          have hline : Instruction.executeLine r.reporter.palette r.machine r.registries line =
              some step := hexecute
          rw [script_cons hblank hexit, executeLines, hline, ending_cons hexecute, ih (r.next step)]
          by_cases hfailed : step.isFailed = true
          · simp only [hfailed, if_true, Ending.ofSteps]
          · simp only [hfailed, Ending.ofSteps]
            rfl

/-- The lines with some taken out that make no difference: blank ones, ones that change nothing, and any
behind the one that ends the session. -/
inductive Pruned : Repl → List (Option String) → List (Option String) → Prop
  | same (r : Repl) (lines : List (Option String)) : Pruned r lines lines
  | keep {r : Repl} {line : String} {lines lines' : List (Option String)} {step : Step String}
      (h : r.execute line = some step) (hrest : Pruned (r.next step) lines lines') :
      Pruned r (some line :: lines) (some line :: lines')
  | blank {r : Repl} {line : String} {lines lines' : List (Option String)}
      (h : lineWords line = []) (hrest : Pruned r lines lines') :
      Pruned r (some line :: lines) lines'
  | idle {r : Repl} {line : String} {lines lines' : List (Option String)} {step : Step String}
      (h : r.execute line = some step) (hmachine : step.machine = r.machine)
      (hregistries : step.registries = r.registries) (hcallbacks : step.trail.callbacks = [])
      (hrest : Pruned r lines lines') : Pruned r (some line :: lines) lines'
  | exit {r : Repl} {line : String} (h : r.execute line = none) (lines lines' : List (Option String)) :
      Pruned r (some line :: lines) (some line :: lines')

theorem ending_of_idle (h : r.execute line = some step) (hmachine : step.machine = r.machine)
    (hregistries : step.registries = r.registries) (hcallbacks : step.trail.callbacks = [])
    (lines : List (Option String)) : r.ending (some line :: lines) = r.ending lines := by
  have hfailed : step.isFailed = false := Instruction.not_isFailed_of_callbacks h hcallbacks
  have hnext : r.next step = r := by rw [next, hmachine, hregistries]
  rw [ending_cons h, hfailed, hnext, Ending.after, hcallbacks]
  rfl

theorem Pruned.ending_eq (h : r.Pruned lines lines') : r.ending lines = r.ending lines' := by
  induction h with
  | same r lines => rfl
  | keep h _ ih => rw [ending_cons h, ending_cons h, ih]
  | @blank r line lines lines' h _ ih =>
    rw [ending_of_idle (r.execute_of_blank h) rfl rfl rfl, ih]
  | idle h hmachine hregistries hcallbacks _ ih =>
    rw [ending_of_idle h hmachine hregistries hcallbacks, ih]
  | exit h lines lines' => rw [ending_of_exit h, ending_of_exit h]

end Repl

/-- The words of a line decide what it does. It ends the session if its first word says so, and it does
more than answer only if that names a move and there is a second word; to sync calls no hook and interns
nothing. What a session comes to is what its lines come to up to the one that ends it, and lines without
effect can be left out. -/
theorem session_dispatch (r : Repl) :
    (∀ line, r.execute line = none ↔ ∃ word ∈ ["quit", "exit", "q"], command? line = some word) ∧
    (∀ line step, r.execute line = some step →
      (¬ ((∃ word ∈ ["change", "c", "set", "s", "sync"], command? line = some word) ∧
          (argument? line).isSome) →
        step.machine = r.machine ∧ step.registries = r.registries ∧ step.trail = []) ∧
      (command? line = some "sync" → step.registries = r.registries ∧ step.trail.callbacks = [])) ∧
    (∀ line line', command? line = command? line' → argument? line = argument? line' →
      r.execute line = r.execute line' ∧ r.feed line = r.feed line') ∧
    (∀ lines, r.ending lines = Ending.ofSteps r.machine r.registries
      (executeLines r.reporter.palette r.machine r.registries (script lines))) ∧
    ∀ lines lines', r.Pruned lines lines' → r.ending lines = r.ending lines' := by
  refine ⟨fun line => Instruction.executeLine_eq_none_iff, fun line step hstep => ⟨fun hanswers => ?_, ?_⟩,
    fun line line' hcommand hargument => ⟨?_, ?_⟩, r.ending_eq, fun lines lines' h => h.ending_eq⟩
  · obtain ⟨text, rfl⟩ := Instruction.eq_answer_of_executeLine hstep hanswers
    exact ⟨rfl, rfl, rfl⟩
  · exact Instruction.executeLine_sync hstep
  · exact Instruction.executeLine_congr _ _ _ hcommand hargument
  · exact r.feed_congr hcommand hargument

/-- A session with a blank line, a question, and a line behind the one that ends it. -/
theorem session_dispatch_pruned :
    let definition := "(A, , out) -> \x7bgo: B\x7d; (B, in) -> \x7bgo: A\x7d"
    ∃ m, (buildMachine definition ["in", "out"]).outcome = .ok m ∧
      let r : Repl := ⟨⟨.plain, fun _ => false⟩, none, m, {}⟩
      let lines := [" ", "Change go now", "is A", "QUIT", "set A"].map some
      let ending := r.ending (["Change go now", "QUIT"].map some)
      r.ending lines = ending ∧ ending.machine.current.name = "B" ∧
        ending.callbacks = [.event (.invoking "out" "cli"), .line "out", .event (.invoking "in" "cli"),
          .line "in"] := by
  intro definition
  let callbacks : Trail := [.event (.invoking "out" "cli"), .line "out",
    .event (.invoking "in" "cli"), .line "in"]
  have hrun : (buildMachine definition ["in", "out"]).outcome.toOption.map (fun m =>
      let ending := (⟨⟨.plain, fun _ => false⟩, none, m, {}⟩ : Repl).ending (["Change go now", "QUIT"].map some)
      (ending.machine.current.name, ending.callbacks)) = some ("B", callbacks) := by
    decide +kernel
  cases hm : (buildMachine definition ["in", "out"]).outcome with
  | error e => simp [hm, Except.toOption] at hrun
  | ok m =>
    simp only [hm, Except.toOption, Option.map_some, Option.some.injEq, Prod.mk.injEq] at hrun
    refine ⟨m, rfl, ?_, hrun⟩
    have hchange : Instruction.ofLine "Change go now" = some (.change "go") := by decide +kernel
    have his : Instruction.ofLine "is A" = some (.is "A") := by decide +kernel
    have hquit : Instruction.ofLine "QUIT" = some .quit := by decide +kernel
    obtain ⟨-, -, -, -, hpruned⟩ := session_dispatch ⟨⟨.plain, fun _ => false⟩, none, m, {}⟩
    apply hpruned
    refine .blank (by decide +kernel) (.keep (Repl.execute_of_ofLine _ hchange) ?_)
    exact .idle (Repl.execute_of_ofLine _ his) rfl rfl rfl (.exit (Repl.execute_of_ofLine _ hquit) _ _)

end Workflow.CommandLine
