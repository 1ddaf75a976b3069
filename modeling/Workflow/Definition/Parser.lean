import Workflow.Text.Blank
import Workflow.Definition
import Workflow.Definition.Error

/-! Reading a definition text. White space means nothing; `;` separates states, `->` a state's
header from its transitions, and brackets are dropped wherever they stand. -/

namespace Workflow.Definition

def normalize (text : String) : String := String.ofList (Text.removeBlanks text.toList)

def arrowParts : List Char → List (List Char)
  | [] => [[]]
  | '-' :: '>' :: cs => [] :: arrowParts cs
  | c :: cs => (arrowParts cs).modifyHead (c :: ·)

def isRoundBracket (c : Char) : Bool := c = '(' || c = ')'
def isCurlyBracket (c : Char) : Bool := c = '{' || c = '}'

def pieces (separator : Char) (cs : List Char) : List (List Char) :=
  (cs.splitOn separator).filter fun piece => !piece.isEmpty

def optionalName : List Char → Option String
  | [] => none
  | c :: cs => some (String.ofList (c :: cs))

def parseTransition (state : String) (piece : List Char) : Except DefinitionError Transition :=
  match piece.splitOn ':' with
  | [c :: condition, t :: target] =>
    .ok ⟨String.ofList (c :: condition), String.ofList (t :: target)⟩
  | _ => .error (.malformedTransition state (String.ofList piece))

def parseTransitions (state : String) (body : List Char) :
    Except DefinitionError (List Transition) :=
  (pieces ',' (body.filter fun c => !isCurlyBracket c)).mapM (parseTransition state)

/-- The name and the optional hooks of a state. Too many fields are reported before a missing
name. -/
def parseHeader (fragment header : List Char) :
    Except DefinitionError (String × Option String × Option String) :=
  match (header.filter fun c => !isRoundBracket c).splitOn ',' with
  | _ :: _ :: _ :: _ :: _ => .error (.malformedHeader (String.ofList fragment))
  | (c :: name) :: hooks =>
    .ok (String.ofList (c :: name), hooks[0]?.bind optionalName, hooks[1]?.bind optionalName)
  | _ => .error (.missingStateName (String.ofList fragment))

def parseState (fragment : List Char) : Except DefinitionError Declaration :=
  match arrowParts fragment with
  | [header, body] => do
    let (name, onEnter, onLeave) ← parseHeader fragment header
    let transitions ← parseTransitions name body
    return { name, onEnter, onLeave, transitions }
  | _ => .error (.malformedState (String.ofList fragment))

def fragments (text : String) : List (List Char) := pieces ';' (Text.removeBlanks text.toList)

def parse (text : String) : Except DefinitionError (List Declaration) := do
  match ← (fragments text).mapM parseState with
  | [] => .error .noStates
  | ds => .ok ds

end Workflow.Definition
