import Workflow.Environment
import Workflow.Text.LowerCase

/-! The configuration of the program, and the variables that override parts of it. -/

namespace Workflow

structure LoggingConfig where
  filter : String := "warn"
  deriving DecidableEq

structure HooksConfig where
  names : List String := []
  autoBind : Bool := false
  deriving DecidableEq

structure ReplConfig where
  historyFile : Option String := none
  prompt : String := "statewright>"
  deriving DecidableEq

structure Config where
  logging : LoggingConfig := {}
  hooks : HooksConfig := {}
  repl : ReplConfig := {}
  deriving DecidableEq

namespace LoggingConfig

def override (c : LoggingConfig) (env : Environment) : LoggingConfig where
  filter := (env.get? "STATEWRIGHT_LOG").getD c.filter

end LoggingConfig

namespace HooksConfig

/-- What a variable says for or against a setting, in letters of either case. -/
def switch? (value : String) : Option Bool :=
  match Text.lower value with
  | "1" | "true" | "yes" => some true
  | "0" | "false" | "no" => some false
  | _ => none

def override (c : HooksConfig) (env : Environment) : HooksConfig where
  names := c.names
  autoBind := ((env.get? "STATEWRIGHT_AUTO_BIND").bind switch?).getD c.autoBind

end HooksConfig

namespace ReplConfig

def override (c : ReplConfig) (env : Environment) : ReplConfig where
  historyFile := (env.get? "STATEWRIGHT_HISTORY").or c.historyFile
  prompt := c.prompt

/-- A file name inside a directory; the empty path is the working directory. -/
def join (directory name : String) : String :=
  if directory.isEmpty || directory.toList.getLast? = some '/' then directory ++ name
  else directory ++ "/" ++ name

def historyPath (c : ReplConfig) (env : Environment) : String :=
  let name := ".statewright_history"
  c.historyFile.getD ((env.get? "HOME").elim name fun home => join home name)

end ReplConfig

namespace Config

def override (c : Config) (env : Environment) : Config where
  logging := c.logging.override env
  hooks := c.hooks.override env
  repl := c.repl.override env

end Config

end Workflow
