import Workflow.Text.Quoted

/-! Why a definition is rejected. -/

namespace Workflow

inductive DefinitionError
  | noStates
  | malformedState (fragment : String)
  | missingStateName (fragment : String)
  | malformedHeader (fragment : String)
  | malformedTransition (state token : String)
  | missingMethod (state method : String)
  | duplicateBinding (method firstHost secondHost : String)
  | duplicateState (state : String)
  | duplicateCondition (state condition : String)
  | unknownTarget (state condition target : String)
  deriving DecidableEq

namespace DefinitionError

def code : DefinitionError → String
  | noStates => "NO_STATES"
  | malformedState _ => "MALFORMED_STATE"
  | missingStateName _ => "MISSING_STATE_NAME"
  | malformedHeader _ => "MALFORMED_HEADER"
  | malformedTransition _ _ => "MALFORMED_TRANSITION"
  | missingMethod _ _ => "MISSING_METHOD"
  | duplicateBinding _ _ _ => "DUPLICATE_BINDING"
  | duplicateState _ => "DUPLICATE_STATE"
  | duplicateCondition _ _ => "DUPLICATE_CONDITION"
  | unknownTarget _ _ _ => "UNKNOWN_TARGET"

def message : DefinitionError → String
  | noStates => "no valid state found in definition"
  | malformedState fragment =>
    "malformed state definition '" ++ fragment ++ "': expected exactly one '->'"
  | missingStateName fragment => "no state name in state definition '" ++ fragment ++ "'"
  | malformedHeader fragment =>
    "malformed state header '" ++ fragment ++ "': expected name[,onEnter[,onLeave]]"
  | malformedTransition state token =>
    "malformed transition '" ++ token ++ "' in state '" ++ state ++
      "': expected condition:target"
  | missingMethod state method =>
    "no available method '" ++ method ++ "' for state '" ++ state ++ "'"
  | duplicateBinding method firstHost secondHost =>
    "duplicate method binding '" ++ method ++ "' (hosts '" ++ firstHost ++ "' and '" ++
      secondHost ++ "')"
  | duplicateState state => "duplicate state '" ++ state ++ "'"
  | duplicateCondition state condition =>
    "duplicate condition '" ++ condition ++ "' in state definition '" ++ state ++ "'"
  | unknownTarget state condition target =>
    "target state '" ++ target ++ "' does not exist (state '" ++ state ++ "', condition '" ++
      condition ++ "')"

/-- The text itself is malformed, as opposed to what it refers to. -/
def isSyntactic : DefinitionError → Bool
  | noStates | malformedState _ | missingStateName _ | malformedHeader _
  | malformedTransition _ _ => true
  | _ => false

def record (name : String) (fields : List (String × String)) : String :=
  name ++ " \x7b " ++ ", ".intercalate (fields.map fun (k, v) => k ++ ": " ++ Text.quote v) ++
    " \x7d"

/-- The error written out as a record of its parts. -/
def detail : DefinitionError → String
  | noStates => "NoStates"
  | malformedState fragment => record "MalformedStateDefinition" [("fragment", fragment)]
  | missingStateName fragment => record "MissingStateName" [("fragment", fragment)]
  | malformedHeader fragment => record "MalformedHeader" [("fragment", fragment)]
  | malformedTransition state token =>
    record "MalformedTransition" [("state", state), ("token", token)]
  | missingMethod state method => record "MissingMethod" [("state", state), ("method", method)]
  | duplicateBinding method firstHost secondHost =>
    record "DuplicateBinding"
      [("method", method), ("first_host", firstHost), ("second_host", secondHost)]
  | duplicateState state => record "DuplicateState" [("state", state)]
  | duplicateCondition state condition =>
    record "DuplicateCondition" [("state", state), ("condition", condition)]
  | unknownTarget state condition target =>
    record "UnknownTarget" [("state", state), ("condition", condition), ("target", target)]

end DefinitionError

end Workflow
