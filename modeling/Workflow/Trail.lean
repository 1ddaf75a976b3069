/-! The trail of an activity: the events it reports and the lines that hooks write, in order. -/

namespace Workflow

inductive Level
  | error | warn | info | debug | trace
  deriving DecidableEq

namespace Level

def name : Level → String
  | error => "ERROR"
  | warn => "WARN"
  | info => "INFO"
  | debug => "DEBUG"
  | trace => "TRACE"

def verbosity : Level → Nat
  | error => 1
  | warn => 2
  | info => 3
  | debug => 4
  | trace => 5

end Level

inductive Source
  | machine | binding | commands | lineReader
  deriving DecidableEq

namespace Source

def name : Source → String
  | machine => "statewright_core::machine"
  | binding => "statewright_core::binding"
  | commands => "statewright::commands"
  | lineReader => "rustyline"

def fields : Source → List String
  | lineReader => ["message", "log.target", "log.module_path", "log.file", "log.line"]
  | _ => ["message"]

end Source

structure Record where
  level : Level
  source : Source
  message : String
  deriving DecidableEq

inductive Event
  | built (states : Nat) (initial checksum : String)
  | moved (state condition target : String)
  | ignored (state condition : String)
  | forced (state target : String) (hooks : Bool)
  | unknownState (name : String)
  | invoking (hook host : String)
  deriving DecidableEq

namespace Event

def record : Event → Record
  | built states initial checksum =>
    ⟨.debug, .machine,
      "built state machine: " ++ toString states ++ " states, initial '" ++ initial ++
        "', checksum " ++ checksum⟩
  | moved state condition target =>
    ⟨.debug, .machine,
      "'" ++ state ++ "' --" ++ condition ++ "--> '" ++ target ++ "'"⟩
  | ignored state condition =>
    ⟨.debug, .machine,
      "condition '" ++ condition ++ "' not declared for state '" ++ state ++ "', ignoring"⟩
  | forced state target hooks =>
    ⟨.debug, .machine,
      "forcing '" ++ state ++ "' -> '" ++ target ++ "' (hooks: " ++
        (if hooks then "true" else "false") ++ ")"⟩
  | unknownState name =>
    ⟨.debug, .machine, "cannot force unknown state '" ++ name ++ "'"⟩
  | invoking hook host =>
    ⟨.trace, .binding, "invoking hook " ++ hook ++ " on host " ++ host⟩

end Event

inductive Entry
  | event (event : Event)
  | line (text : String)
  deriving DecidableEq

abbrev Trail := List Entry

namespace Entry

def isCallback : Entry → Bool
  | event (.invoking _ _) => true
  | event _ => false
  | line _ => true

end Entry

namespace Trail

def callbacks (t : Trail) : Trail := t.filter Entry.isCallback

end Trail

end Workflow
