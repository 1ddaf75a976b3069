import Workflow.CommandLine.History
import Workflow.CommandLine.Output
import Workflow.Text.LowerCase

/-! The interactive session: commands, one to a line, about one machine. -/

namespace Workflow.CommandLine

inductive Instruction
  | help
  | quit
  | change (condition : String)
  | set (state : String)
  | sync (state : String)
  | peek (condition : String)
  | current
  | is (state : String)
  | conditions
  | listing
  | incomplete (word : String)
  | unknown (word : String)
  deriving DecidableEq

namespace Instruction

def ofWords (word : String) (argument : Option String) : Instruction :=
  match word, argument with
  | "help", _ | "?", _ => help
  | "quit", _ | "exit", _ | "q", _ => quit
  | "change", some condition | "c", some condition => change condition
  | "set", some state | "s", some state => set state
  | "sync", some state => sync state
  | "peek", some condition | "p", some condition => peek condition
  | "current", _ | "cur", _ => current
  | "is", some state => is state
  | "conditions", _ | "conds", _ => conditions
  | "show", _ => listing
  | "change", none | "c", none | "set", none | "s", none | "sync", none | "peek", none
  | "p", none | "is", none => incomplete word
  | _, _ => unknown word

end Instruction

def lineWords (line : String) : List String := (Text.words line.toList).map String.ofList

def command? (line : String) : Option String := (lineWords line).head?.map Text.lower

def argument? (line : String) : Option String := (lineWords line)[1]?

/-- A blank line asks for nothing. Words after the second do not matter. -/
def Instruction.ofLine (line : String) : Option Instruction :=
  (command? line).map fun word => ofWords word (argument? line)

def helpText : String :=
  "\nAvailable commands:\n" ++
  "  help                    Show this help\n" ++
  "\n" ++
  "  change <condition>      Follow a declared transition (runs hooks)\n" ++
  "  set <state>             Force a transition by state name (runs hooks)\n" ++
  "  sync <state>            Force a transition without running hooks\n" ++
  "  peek <condition>        Show where a condition would lead\n" ++
  "\n" ++
  "  current                 Show the current state\n" ++
  "  is <state>              Check whether the machine is in a state\n" ++
  "  conditions              List conditions declared by the current state\n" ++
  "  show                    Render all states and transitions\n" ++
  "\n" ++
  "  quit, exit              Exit the REPL\n"

namespace Instruction

def madeLine (palette : Text.Palette) (source target : String) : String :=
  source ++ " -> " ++ palette.paint .green target

def refusedLine (palette : Text.Palette) (force : Bool) (source name : String) : String :=
  if force then palette.paint .yellow "Unchanged:" ++ " " ++ name ++ " is unknown or already current"
  else palette.paint .yellow "Ignored:" ++ " '" ++ name ++ "' is not declared in " ++ source

def forcedLine (palette : Text.Palette) (source state : String) (moved : Bool) : String :=
  if moved then madeLine palette source state else refusedLine palette true source state

def answer (m : Machine) (registries : Registries) (text : String) : Step String where
  machine := m
  registries := registries
  outcome := .ok text

/-- What an instruction does and prints; none if it ends the session. -/
def execute (palette : Text.Palette) (m : Machine) (registries : Registries) :
    Instruction → Option (Step String)
  | help => some (answer m registries helpText)
  | quit => none
  | change condition =>
    let source := m.current.name
    some ((m.changeByName condition registries).map fun
      | some target => madeLine palette source target.name
      | none => refusedLine palette false source condition)
  | set state => some ((m.set state registries).map (forcedLine palette m.current.name state))
  | sync state => some ((m.sync state registries).map (forcedLine palette m.current.name state))
  | peek condition =>
    some (answer m registries (match m.peek? condition with
      | some target => condition ++ " would lead to " ++ palette.paint .cyan target.name
      | none => condition ++ " is not declared in " ++ m.current.name))
  | current => some (answer m registries (palette.paint .cyan m.current.name))
  | is state =>
    some (answer m registries
      (if m.isIn state then palette.paint .green "yes" else palette.paint .red "no"))
  | conditions =>
    let names := m.conditions.map Condition.name
    some (answer m registries
      (if names.isEmpty then palette.paint .yellow "No outgoing transitions"
        else ", ".intercalate names))
  | listing => some (answer m registries (CommandLine.listing palette m))
  | incomplete word => some (answer m registries ("Usage: " ++ word ++ " <name>"))
  | unknown word =>
    some (answer m registries (palette.paint .red "Error" ++ ": unknown command '" ++ word ++
      "'. Type 'help' for available commands."))

def executeLine (palette : Text.Palette) (m : Machine) (registries : Registries) (line : String) :
    Option (Step String) :=
  match ofLine line with
  | none => some (answer m registries "")
  | some instruction => instruction.execute palette m registries

end Instruction

/-- A session that waits for its next line. The prompt shows on terminals that cannot edit lines. -/
structure Repl where
  reporter : Reporter
  prompt : Option String
  machine : Machine
  registries : Registries

namespace Repl

structure Response where
  output : Output
  trail : Trail := []
  repl : Repl
  exitCode : Option Nat := none

structure Course where
  outcome : Outcome
  trail : Trail := []
  repl : Repl

def banner (r : Repl) (complaints : List Record) : Output :=
  Output.outLine (r.reporter.paint .boldCyan "statewright REPL") ++
    Output.outLine ("Loaded " ++ toString r.machine.size ++ " states (checksum: " ++
      r.machine.checksum ++ "), current state " ++ r.reporter.paint .cyan r.machine.current.name) ++
    complaints.flatMap r.reporter.record ++
    Output.outLine "Type 'help' for available commands.\n"

def ask (r : Repl) : Output :=
  match r.prompt with
  | some prompt =>
    r.reporter.record ⟨.debug, .lineReader, "unsupported terminal"⟩ ++
      [(.out, r.reporter.paint .cyan prompt ++ " ")]
  | none => r.reporter.record ⟨.debug, .lineReader, "stdin is not a tty"⟩

/-- Does what a line says, unless it is blank. Each answer is followed by an empty line; a hook that
fails aborts the program. -/
def feed (r : Repl) (line : String) : Response :=
  if (lineWords line).isEmpty then { output := [], repl := r }
  else
    match Instruction.executeLine r.reporter.palette r.machine r.registries line with
    | none => { output := [], repl := r, exitCode := some 0 }
    | some step =>
      { output := r.reporter.step (step.map fun text => text ++ "\n")
        trail := step.trail
        repl := { r with machine := step.machine, registries := step.registries }
        exitCode := if step.isFailed then some Outcome.abortCode else none }

/-- The session ends at a line that is no text. -/
def unreadable (r : Repl) : Output :=
  Output.outLine (r.reporter.complaint "Error"
    "Io(Error \x7b kind: InvalidData, message: \"stream did not contain valid UTF-8\" \x7d)")

def close : Output := Output.outLine "^D"

def course (r : Repl) : List (Option String) → Course
  | [] => { outcome := ⟨0, r.ask ++ close⟩, repl := r }
  | none :: _ => { outcome := ⟨0, r.ask ++ r.unreadable⟩, repl := r }
  | some line :: lines =>
    let response := r.feed line
    match response.exitCode with
    | some exitCode =>
      { outcome := ⟨exitCode, r.ask ++ response.output⟩
        trail := response.trail
        repl := response.repl }
    | none =>
      let rest := response.repl.course lines
      { outcome := rest.outcome.after (r.ask ++ response.output)
        trail := response.trail ++ rest.trail
        repl := rest.repl }

def run (r : Repl) (lines : List (Option String)) : Outcome := (r.course lines).outcome

end Repl

end Workflow.CommandLine
