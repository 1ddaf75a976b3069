import Workflow.Json
import Workflow.Machine

/-! Descriptions: a snapshot of a machine that can be written as JSON and read back. -/

namespace Workflow

structure StateDescription where
  name : String
  onEnter : Option String
  onLeave : Option String
  transitions : List Transition
  deriving DecidableEq

structure Description where
  initial : String
  current : String
  checksum : String
  states : List StateDescription
  deriving DecidableEq

namespace State

def describe (targetName : StateId → String) (s : State) : StateDescription where
  name := s.name
  onEnter := s.onEnter.map BoundHook.name
  onLeave := s.onLeave.map BoundHook.name
  transitions := s.transitions.entries.map fun (condition, target) =>
    ⟨condition.name, targetName target⟩

end State

namespace Machine

def describe (m : Machine) : Description where
  initial := m.initial.name
  current := m.current.name
  checksum := m.checksum
  states := m.graph.states.map (State.describe m.targetName)

end Machine

namespace Description

/-- The values of the fields of a record. It is written as an object, where other members are
ignored, or as an array of exactly these fields. -/
def fields? (keys : List String) : Json → Option (List (Option Json))
  | .object members => keys.mapM (Json.member? members)
  | .array items => if items.length = keys.length then some (items.map some) else none
  | _ => none

def required? {α : Type} (read : Json → Option α) (field : Option Json) : Option α :=
  field.bind read

def optional? {α : Type} (read : Json → Option α) : Option Json → Option (Option α)
  | none => some none
  | some .null => some none
  | some value => (read value).map some

def readTransition? (value : Json) : Option Transition := do
  match ← fields? ["condition", "target"] value with
  | [condition, target] =>
    return ⟨← required? Json.string? condition, ← required? Json.string? target⟩
  | _ => none

def readList? {α : Type} (read : Json → Option α) (value : Json) : Option (List α) := do
  (← value.items?).mapM read

def readState? (value : Json) : Option StateDescription := do
  match ← fields? ["name", "on_enter", "on_leave", "transitions"] value with
  | [name, onEnter, onLeave, transitions] =>
    return {
      name := ← required? Json.string? name
      onEnter := ← optional? Json.string? onEnter
      onLeave := ← optional? Json.string? onLeave
      transitions := ← required? (readList? readTransition?) transitions }
  | _ => none

def ofJson? (value : Json) : Option Description := do
  match ← fields? ["initial", "current", "checksum", "states"] value with
  | [initial, current, checksum, states] =>
    return {
      initial := ← required? Json.string? initial
      current := ← required? Json.string? current
      checksum := ← required? Json.string? checksum
      states := ← required? (readList? readState?) states }
  | _ => none

def transitionToJson (t : Transition) : Json :=
  .object [("condition", .string t.condition), ("target", .string t.target)]

def optionalMember (key : String) : Option String → List (String × Json)
  | none => []
  | some value => [(key, .string value)]

def stateToJson (s : StateDescription) : Json :=
  .object ([("name", .string s.name)] ++ optionalMember "on_enter" s.onEnter ++
    optionalMember "on_leave" s.onLeave ++
    [("transitions", .array (s.transitions.map transitionToJson))])

def toJson (d : Description) : Json :=
  .object [("initial", .string d.initial), ("current", .string d.current),
    ("checksum", .string d.checksum), ("states", .array (d.states.map stateToJson))]

end Description

end Workflow
