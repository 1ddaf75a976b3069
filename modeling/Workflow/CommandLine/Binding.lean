import Workflow.Machine

/-! Hooks on the command line: they are bound by name, and report that they were called. -/

namespace Workflow.CommandLine

/-- The names to bind, once each: those configured, then those asked for, and then all that the
definition mentions if every hook is to be bound. -/
def boundNames (definition : String) (configured asked : List String) (autoBind : Bool) :
    Except DefinitionError (List String) :=
  let named := (configured ++ asked).foldl addName []
  if autoBind then (Definition.parse definition).map fun ds => (hookNames ds).foldl addName named
  else .ok named

/-- A host whose hooks write their own names. -/
def echoHost (names : List String) : Host where
  name := "cli"
  hooks := names.map fun name => (name, { effects := [.write name] })

def buildMachine (definition : String) (names : List String) : Construction :=
  Machine.build definition [echoHost names] .shared {}

end Workflow.CommandLine
