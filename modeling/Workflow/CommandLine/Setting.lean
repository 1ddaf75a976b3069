import Workflow.CommandLine.Binding
import Workflow.CommandLine.Output
import Workflow.Config.Loading

/-! What is settled before a command starts: the configuration, the hooks asked for, the look of the
output, the log filter and the definition. -/

namespace Workflow.CommandLine

inductive Failure
  | unreadable (error : ReadError)
  | rejected (error : DefinitionError)
  deriving DecidableEq

namespace Failure

def message : Failure → String
  | unreadable e => e.message
  | rejected e => e.message

def detail : Failure → String
  | unreadable e => e.detail
  | rejected e => e.detail

end Failure

structure Setting where
  files : Files
  config : Config
  hooks : List String
  reporter : Reporter

/-- How the program reports: how it shows styles, which records it shows, and what it has to say about the
filter it is given. -/
structure Reporting where
  palette : Environment → Text.Palette
  allows : Environment → LoggingConfig → Record → Bool
  complaints : Environment → LoggingConfig → List String

namespace Reporting

def reporter (reporting : Reporting) (env : Environment) (logging : LoggingConfig) : Reporter where
  palette := reporting.palette env
  allows := reporting.allows env logging

def remarks (reporting : Reporting) (env : Environment) (logging : LoggingConfig) : Output :=
  (reporting.complaints env logging).flatMap Output.errLine

end Reporting

/-- Colours are shown only if they are forced, since the output is not taken for a terminal. -/
def paletteOf (env : Environment) : Text.Palette :=
  if (env.get? "CLICOLOR_FORCE").any fun value => value ≠ "0" then .coloured else .plain

/-- The filter of the environment if it is well formed, or else the one configured. -/
def filterOf (env : Environment) (logging : LoggingConfig) : Filter :=
  ((env.get? "RUST_LOG").bind Filter.ofText?).getD (Filter.ofTextLossy logging.filter)

def filterComplaints (env : Environment) (logging : LoggingConfig) : List String :=
  if ((env.get? "RUST_LOG").bind Filter.ofText?).isSome then []
  else (Filter.malformed logging.filter).map fun (piece, e) =>
    "ignoring `" ++ piece ++ "`: " ++ e.message

def Reporting.standard : Reporting where
  palette := paletteOf
  allows env logging := (filterOf env logging).allows
  complaints := filterComplaints

def loadDefinition (files : Files) (argument : String) : Except ReadError String :=
  match argument.toList with
  | '@' :: path => files.text (String.ofList path)
  | _ => .ok argument

namespace Setting

def prepare (s : Setting) (argument : String) : Except Failure (String × List String) :=
  match loadDefinition s.files argument with
  | .error e => .error (.unreadable e)
  | .ok definition =>
    match boundNames definition s.config.hooks.names s.hooks s.config.hooks.autoBind with
    | .error e => .error (.rejected e)
    | .ok names => .ok (definition, names)

def rejection (s : Setting) (e : DefinitionError) : Output :=
  s.reporter.record ⟨.error, .commands,
    "definition rejected (" ++ e.code ++ "): " ++ e.message⟩

def failed (s : Setting) (message : String) : Outcome :=
  ⟨1, Output.errLine (s.reporter.complaint "Error" message)⟩

end Setting

end Workflow.CommandLine
