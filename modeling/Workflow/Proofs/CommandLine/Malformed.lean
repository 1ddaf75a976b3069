import Workflow.Proofs.CommandLine.Reporting
import Workflow.Proofs.Machine.Rejection

/-! Definitions that cannot be read. The error ends every command, whether it is met while the hooks to bind
are listed or while the machine is built; only a session tells the two apart. -/

namespace Workflow

namespace Filter

variable {f : Filter} {r : Record} {d : Directive}

theorem mem_of_directive? (h : f.directive? r = some d) : d ∈ f.directives := by
  refine List.foldlRecOn (motive := fun best => ∀ d, best = some d → d ∈ f.directives) _ _ ?_ ?_ d h
  · simp
  intro best ih x hx d hd
  have hmem : x ∈ f.directives := List.mem_of_mem_filter hx
  cases best with
  | none => exact Option.some.inj hd ▸ hmem
  | some b =>
    by_cases hyields : b.yieldsTo x = true
    · exact Option.some.inj ((if_pos hyields).symm.trans hd) ▸ hmem
    · exact ih d ((if_neg hyields).symm.trans hd)

theorem allows_of_verbosity_eq_zero (h : ∀ d ∈ f.directives, d.verbosity = 0) (r : Record) :
    f.allows r = false := by
  have hlevel : 0 < r.level.verbosity := by cases r.level <;> decide
  rw [allows, Option.any_eq_false]
  intro d hd
  rw [h d (mem_of_directive? hd), decide_eq_false_iff_not]
  exact Nat.not_le_of_gt hlevel

end Filter

namespace CommandLine

variable {s : Setting} {argument definition : String} {e : DefinitionError}

/-- No record is shown. -/
def Reporter.Silent (r : Reporter) : Prop := ∀ x, r.allows x = false

theorem outcome_of_error (hparse : Definition.parse definition = .error e) (names : List String) :
    (buildMachine definition names).outcome = .error (.rejected e) :=
  Machine.outcome_eq_rejected_iff.mpr ⟨[], .unreadable hparse⟩

namespace Command

/-- What a command writes about a definition that cannot be read. A session that lists the hooks of the
definition first is not said to be about an invalid one. -/
def complaint (r : Reporter) (autoBind : Bool) (e : DefinitionError) : Command → Output
  | .check _ _ | .run _ _ _ => Output.errLine (r.complaint "Error" e.message)
  | .repl _ =>
    (if autoBind then [] else Output.errLine (r.complaint "Invalid definition" e.message)) ++
      Output.errLine ("Error: " ++ e.detail)

/-- The commands that go on with lines of input. -/
def opensSession : Command → Bool
  | .repl _ => true
  | _ => false

theorem complaint_err (c : Command) (r : Reporter) (autoBind : Bool) (e : DefinitionError) :
    ∀ piece ∈ c.complaint r autoBind e, piece.1 = .err := by
  cases c <;> cases autoBind <;> simp [complaint, Output.errLine]

theorem on_err_complaint_eq_iff (c : Command) (r : Reporter) (autoBind autoBind' : Bool)
    (e : DefinitionError) :
    (c.complaint r autoBind e).on .err = (c.complaint r autoBind' e).on .err ↔
      (c.opensSession = true → autoBind = autoBind') := by
  cases c with
  | check => simp [complaint, opensSession]
  | run => simp [complaint, opensSession]
  | repl argument =>
    have hlonger (rest : String) :
        Output.on .err (Output.errLine (r.complaint "Invalid definition" e.message)) ++ rest ≠ rest := by
      intro heq
      have hlength := congrArg String.length heq
      simp [Output.on, Output.errLine] at hlength
    have hlonger' := fun rest => (hlonger rest).symm
    cases autoBind <;> cases autoBind' <;>
      simp [complaint, opensSession, Output.on_append, hlonger, hlonger']

end Command

namespace Setting

theorem prepare_of_error (hload : loadDefinition s.files argument = .ok definition)
    (hparse : Definition.parse definition = .error e) :
    s.prepare argument = if s.config.hooks.autoBind then .error (.rejected e)
      else .ok (definition, (s.config.hooks.names ++ s.hooks).foldl addName []) := by
  rw [prepare, hload]
  cases s.config.hooks.autoBind with
  | true =>
    simp only [boundNames, hparse, if_true]
    rfl
  | false => rfl

theorem rejection_of_silent (hsilent : s.reporter.Silent) (e : DefinitionError) :
    s.rejection e = [] := by
  rw [rejection, Reporter.record, hsilent]
  rfl

theorem withMachine_of_error (hload : loadDefinition s.files argument = .ok definition)
    (hparse : Definition.parse definition = .error e) (hsilent : s.reporter.Silent)
    (next : Machine → Registries → Outcome) : s.withMachine argument next = s.failed e.message := by
  rw [withMachine, prepare_of_error hload hparse]
  cases s.config.hooks.autoBind with
  | true => rfl
  | false =>
    simp only [Bool.false_eq_true, if_false, outcome_of_error hparse, rejection_of_silent hsilent]
    rfl

theorem repl_of_error (hload : loadDefinition s.files argument = .ok definition)
    (hparse : Definition.parse definition = .error e) (hsilent : s.reporter.Silent)
    (env : Environment) : s.repl env argument =
      .done ⟨1, (Command.repl argument).complaint s.reporter s.config.hooks.autoBind e⟩ := by
  rw [repl, prepare_of_error hload hparse]
  cases s.config.hooks.autoBind with
  | true => rfl
  | false =>
    simp only [Bool.false_eq_true, if_false, outcome_of_error hparse, rejection_of_silent hsilent]
    rfl

end Setting

theorem Reporting.remarks_err (reporting : Reporting) (env : Environment) (logging : LoggingConfig) :
    ∀ piece ∈ reporting.remarks env logging, piece.1 = .err := by
  intro piece hpiece
  obtain ⟨text, -, hpiece⟩ := List.mem_flatMap.mp hpiece
  rw [List.mem_singleton.mp hpiece]

section Start

variable {read : String → Except String Config} {reporting : Reporting} {files : Files}
  {env : Environment} {i : Invocation} {config : Config}

theorem Invocation.startBy_of_error (hconfig : i.loadConfigBy read files env = .ok config)
    (hload : loadDefinition files i.command.definition = .ok definition)
    (hparse : Definition.parse definition = .error e)
    (hsilent : (reporting.reporter env config.logging).Silent) :
    i.startBy read reporting files env = .done ⟨1, reporting.remarks env config.logging ++
      i.command.complaint (reporting.reporter env config.logging) config.hooks.autoBind e⟩ := by
  rw [startBy, hconfig]
  cases hcommand : i.command with
  | check argument json =>
    rw [hcommand] at hload
    dsimp only
    rw [Setting.check, Setting.withMachine_of_error hload hparse hsilent]
    rfl
  | run argument steps force =>
    rw [hcommand] at hload
    dsimp only
    rw [Setting.run, Setting.withMachine_of_error hload hparse hsilent]
    rfl
  | repl argument =>
    rw [hcommand] at hload
    dsimp only
    rw [Setting.repl_of_error hload hparse hsilent]
    rfl

/-- A definition that cannot be read ends every command with its error and without an answer, however
styles are shown and the log is filtered. Whether hooks are bound automatically shows in sessions only. -/
theorem malformed_definition_reported (hconfig : i.loadConfigBy read files env = .ok config)
    (hload : loadDefinition files i.command.definition = .ok definition)
    (hparse : Definition.parse definition = .error e)
    (hsilent : (reporting.reporter env config.logging).Silent) :
    let output := reporting.remarks env config.logging ++
      i.command.complaint (reporting.reporter env config.logging) config.hooks.autoBind e
    i.startBy read reporting files env = .done ⟨1, output⟩ ∧ output.on .out = "" ∧
      ∀ (i' : Invocation) (config' : Config), i'.command = i.command →
        i'.loadConfigBy read files env = .ok config' → config'.logging = config.logging →
        ∃ output' : Output, i'.startBy read reporting files env = .done ⟨1, output'⟩ ∧
          output'.on .out = "" ∧ (output'.on .err = output.on .err ↔
            (i.command.opensSession = true → config'.hooks.autoBind = config.hooks.autoBind)) := by
  have hout (c : Command) (config : Config) (autoBind : Bool) :
      Output.on .out (reporting.remarks env config.logging ++
        c.complaint (reporting.reporter env config.logging) autoBind e) = "" := by
    refine Output.on_out_eq_empty fun piece hpiece => ?_
    rcases List.mem_append.mp hpiece with hpiece | hpiece
    · exact reporting.remarks_err env config.logging piece hpiece
    · exact c.complaint_err _ _ e piece hpiece
  refine ⟨Invocation.startBy_of_error hconfig hload hparse hsilent, hout _ _ _, ?_⟩
  intro i' config' hcommand hconfig' hlogging
  have hstart := Invocation.startBy_of_error hconfig' (hcommand ▸ hload) hparse
    (by rw [hlogging]; exact hsilent)
  refine ⟨_, hstart, hout _ _ _, ?_⟩
  rw [hcommand, hlogging, Output.on_append, Output.on_append, String.append_right_inj,
    Command.on_err_complaint_eq_iff]

/-- A definition without a table of targets is reported alike by `check`, with nothing logged. -/
theorem malformed_definition_reported_by_check :
    let env : Environment := ⟨[("RUST_LOG", "off")]⟩
    let files : Files := fun _ => .error .notFound
    let checking (autoBind : Bool) : Invocation := ⟨none, ["open"], autoBind, .check "(A)" false⟩
    let output := Output.errLine "Error: malformed state definition '(A)': expected exactly one '->'"
    (checking false).start files env = .done ⟨1, output⟩ ∧ output.on .out = "" ∧
      ∃ output' : Output, (checking true).start files env = .done ⟨1, output'⟩ ∧
        output'.on .out = "" ∧ output'.on .err = output.on .err := by
  intro env files checking output
  have hload : loadDefinition files "(A)" = .ok "(A)" := by cbv
  have hparse : Definition.parse "(A)" = .error (.malformedState "(A)") := by cbv
  have hsilent : (Reporting.standard.reporter env {}).Silent :=
    Filter.allows_of_verbosity_eq_zero (f := filterOf env {}) (by decide +kernel)
  have hconfig : (checking false).loadConfigBy Config.ofText files env = .ok {} := rfl
  obtain ⟨hstart, hout, hothers⟩ :=
    malformed_definition_reported (i := checking false) hconfig hload hparse hsilent
  obtain ⟨output', hstart', hout', herr⟩ := hothers (checking true) _ rfl rfl rfl
  exact ⟨hstart, hout, output', hstart', hout', herr.mpr fun hsession => absurd hsession Bool.false_ne_true⟩

end Start

/-- In a session the line about the invalid definition is lost if hooks are bound automatically. -/
theorem invalid_definition_line_lost :
    let env : Environment := ⟨[("RUST_LOG", "off")]⟩
    let files : Files := fun _ => .error .notFound
    let session (autoBind : Bool) : Invocation := ⟨none, [], autoBind, .repl "(A)"⟩
    let detail := Output.errLine "Error: MalformedStateDefinition \x7b fragment: \"(A)\" \x7d"
    (session false).start files env = .done ⟨1, Output.errLine
      "Invalid definition: malformed state definition '(A)': expected exactly one '->'" ++ detail⟩ ∧
      (session true).start files env = .done ⟨1, detail⟩ := by
  intro env files session detail
  have hload : loadDefinition files "(A)" = .ok "(A)" := by cbv
  have hparse : Definition.parse "(A)" = .error (.malformedState "(A)") := by cbv
  have hsilent : (Reporting.standard.reporter env {}).Silent :=
    Filter.allows_of_verbosity_eq_zero (f := filterOf env {}) (by decide +kernel)
  have hoff : (session false).loadConfigBy Config.ofText files env = .ok {} := rfl
  have hon : (session true).loadConfigBy Config.ofText files env =
      .ok { hooks := { autoBind := true } } := rfl
  constructor
  · rw [Invocation.start, Invocation.startBy_of_error hoff hload hparse hsilent]
    exact congrArg (fun report => Start.done ⟨1, report⟩) (by decide +kernel)
  · rw [Invocation.start, Invocation.startBy_of_error hon hload hparse hsilent]
    exact congrArg (fun report => Start.done ⟨1, report⟩) (by decide +kernel)

end CommandLine

end Workflow
