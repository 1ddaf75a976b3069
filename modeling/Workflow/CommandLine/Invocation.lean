/-! What a command line asks the program to do, and why it may be refused. -/

namespace Workflow.CommandLine

/-- A definition is given as text, or as `@` and the path of a file that holds it. -/
inductive Command
  | check (definition : String) (json : Bool)
  | run (definition : String) (steps : List String) (force : Bool)
  | repl (definition : String)
  deriving DecidableEq

structure Invocation where
  config : Option String
  hooks : List String
  autoBind : Bool
  command : Command
  deriving DecidableEq

inductive Request
  | help
  | version
  | invoke (invocation : Invocation)
  deriving DecidableEq

inductive ArgumentError
  | unknownOption (text : String)
  | unknownCommand (name : String)
  | unexpected (text : String)
  | missingValue (option : String)
  | emptyValue (option : String)
  | unwantedValue (option : String)
  | repeated (option : String)
  | missingCommand
  | missingDefinition
  deriving DecidableEq

namespace ArgumentError

def message : ArgumentError → String
  | unknownOption text => "unexpected option '" ++ text ++ "' found"
  | unknownCommand name => "unrecognized subcommand '" ++ name ++ "'"
  | unexpected text => "unexpected argument '" ++ text ++ "' found"
  | missingValue option => "a value is required for '" ++ option ++ "' but none was supplied"
  | emptyValue option => "an empty value is not allowed for '" ++ option ++ "'"
  | unwantedValue option => "a value was given for '" ++ option ++ "' but none is expected"
  | repeated option => "the argument '" ++ option ++ "' cannot be used multiple times"
  | missingCommand => "a subcommand is required but one was not provided"
  | missingDefinition => "the definition is required but was not provided"

end ArgumentError

namespace Command

def definition : Command → String
  | check definition _ => definition
  | run definition _ _ => definition
  | repl definition => definition

end Command

end Workflow.CommandLine
