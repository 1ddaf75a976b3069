import Workflow.CommandLine.Arguments
import Workflow.CommandLine.Repl
import Workflow.CommandLine.Setting
import Workflow.Description

/-! The program: from arguments, environment and files to what is written and the exit code. -/

namespace Workflow.CommandLine

def fatal (detail : String) : Outcome := ⟨1, Output.errLine ("Error: " ++ detail)⟩

namespace Setting

def withMachine (s : Setting) (argument : String) (next : Machine → Registries → Outcome) :
    Outcome :=
  match s.prepare argument with
  | .error e => s.failed e.message
  | .ok (definition, names) =>
    let built := buildMachine definition names
    let trail := s.reporter.trail built.trail
    match built.outcome with
    | .ok m => (next m built.registries).after trail
    | .error (.rejected e) => (s.failed e.message).after (s.rejection e)
    | .error (.hookFailed _) => ⟨Outcome.abortCode, trail⟩

def summary (s : Setting) (json : Bool) (m : Machine) : String :=
  if json then m.describe.toJson.pretty 0
  else
    s.reporter.paint .green "Valid" ++ " " ++ toString m.size ++ " states, initial " ++
      s.reporter.paint .cyan m.initial.name ++ " (checksum: " ++ m.checksum ++ ")\n" ++
      listing s.reporter.palette m

def check (s : Setting) (argument : String) (json : Bool) : Outcome :=
  s.withMachine argument fun m _ => ⟨0, Output.outLine (s.summary json m)⟩

def ending (s : Setting) (m : Machine) : Output :=
  Output.outLine (s.reporter.paint .bold "Final state:" ++ " " ++
    s.reporter.paint .cyan m.current.name)

def run (s : Setting) (argument : String) (names : List String) (force : Bool) : Outcome :=
  s.withMachine argument fun m registries =>
    let steps := runSteps s.reporter.palette force m registries names
    let shown := Output.outLine (s.reporter.paint .dimmed "start" ++ " " ++
      s.reporter.paint .cyan m.current.name) ++ steps.flatMap s.reporter.step
    if steps.any Step.isFailed then ⟨Outcome.abortCode, shown⟩
    else ⟨0, shown ++ s.ending (lastMachine m steps)⟩

end Setting

inductive Start
  | done (outcome : Outcome)
  | interactive (output : Output) (repl : Repl)

/-- Terminals that cannot edit a line, so that the prompt is printed. -/
def isPlainTerminal (env : Environment) : Bool :=
  (env.get? "TERM").any fun term => ["dumb", "cons25", "emacs"].contains term.toLower

namespace Setting

def repl (s : Setting) (env : Environment) (argument : String) : Start :=
  match s.prepare argument with
  | .error e => .done (fatal e.detail)
  | .ok (definition, names) =>
    let built := buildMachine definition names
    let trail := s.reporter.trail built.trail
    match built.outcome with
    | .ok machine =>
      let repl : Repl := {
        reporter := s.reporter
        prompt := if isPlainTerminal env then some s.config.repl.prompt else none
        machine, registries := built.registries }
      let history := (s.files (s.config.repl.historyPath env)).toOption
      .interactive (trail ++ repl.banner (history.elim [] History.complaints)) repl
    | .error (.rejected e) =>
      .done ((fatal e.detail).after (s.rejection e ++
        Output.errLine (s.reporter.complaint "Invalid definition" e.message)))
    | .error (.hookFailed _) => .done ⟨Outcome.abortCode, trail⟩

end Setting

namespace Start

def after (earlier : Output) : Start → Start
  | done outcome => done (outcome.after earlier)
  | interactive output repl => interactive (earlier ++ output) repl

def finish (lines : List (Option String)) : Start → Outcome
  | done outcome => outcome
  | interactive output repl => (repl.run lines).after output

end Start

def helpScreen : String :=
  "Compile and drive textual state machine definitions\n" ++
  "\n" ++
  "Usage: statewright [OPTIONS] <COMMAND>\n" ++
  "\n" ++
  "Commands:\n" ++
  "  check  Validate a definition and render its states\n" ++
  "  run    Build a machine and apply a sequence of conditions\n" ++
  "  repl   Start an interactive REPL on a machine\n" ++
  "  help   Print this message or the help of the given subcommand(s)\n" ++
  "\n" ++
  "Options:\n" ++
  "  -c, --config <CONFIG>  Path to a YAML config file [env: STATEWRIGHT_CONFIG=]\n" ++
  "      --hook <HOOKS>     Hook name to bind to a logging hook (repeatable)\n" ++
  "      --auto-bind        Bind every hook name referenced by the definition\n" ++
  "  -h, --help             Print help\n" ++
  "  -V, --version          Print version"

namespace Invocation

def paths (i : Invocation) : List String :=
  i.config.toList ++
    match i.command.definition.toList with
    | '@' :: path => [String.ofList path]
    | _ => []

def loadConfigBy (read : String → Except String Config) (files : Files) (env : Environment)
    (i : Invocation) : Except ConfigError Config :=
  (Config.loadBy read files env i.config).map fun c =>
    { c with hooks := { c.hooks with autoBind := i.autoBind || c.hooks.autoBind } }

def loadConfig (files : Files) (env : Environment) (i : Invocation) : Except ConfigError Config :=
  i.loadConfigBy Config.ofText files env

def historyPath? (files : Files) (env : Environment) (i : Invocation) : Option String :=
  (i.loadConfig files env).toOption.map fun config => config.repl.historyPath env

/-- Starts an invocation, which reads configurations with `read` and reports as `reporting` has it. -/
def startBy (read : String → Except String Config) (reporting : Reporting) (files : Files)
    (env : Environment) (i : Invocation) : Start :=
  match i.loadConfigBy read files env with
  | .error e => .done (fatal e.detail)
  | .ok config =>
    let reporter := reporting.reporter env config.logging
    let s : Setting := { files, config, hooks := i.hooks, reporter }
    let started : Start := match i.command with
      | .check definition json => .done (s.check definition json)
      | .run definition steps force => .done (s.run definition steps force)
      | .repl definition => s.repl env definition
    started.after (reporting.remarks env config.logging)

def start (files : Files) (env : Environment) (i : Invocation) : Start :=
  i.startBy Config.ofText .standard files env

end Invocation

def start (files : Files) (env : Environment) (words : List String) : Start :=
  match Request.ofWords env words with
  | .error e => .done ⟨2, Output.errLine ("error: " ++ e.message)⟩
  | .ok .help => .done ⟨0, Output.outLine helpScreen⟩
  | .ok .version => .done ⟨0, Output.outLine "statewright 0.1.0"⟩
  | .ok (.invoke i) => i.start files env

def run (files : Files) (env : Environment) (words : List String) (input : ByteArray) : Outcome :=
  (start files env words).finish (Text.lines input)

end Workflow.CommandLine
