import Workflow.Checksum
import Workflow.Definition.Parser
import Workflow.StateGraph

/-! Machines: a state graph with a current position. A move calls the leave hook of the state it
leaves and the enter hook of the state it enters; a hook that fails ends the operation there. -/

namespace Workflow

structure Machine where
  graph : StateGraph
  registry : RegistryId
  checksum : String
  position : graph.Position

/-- What one operation leads to; the outcome is the text of a hook's failure, or the answer. -/
structure Step (α : Type) where
  machine : Machine
  registries : Registries
  trail : Trail := []
  outcome : Except String α

namespace Step

def map {α β : Type} (f : α → β) (s : Step α) : Step β where
  machine := s.machine
  registries := s.registries
  trail := s.trail
  outcome := s.outcome.map f

def isFailed {α : Type} (s : Step α) : Bool := s.outcome.toOption.isNone

theorem map_map {α β γ : Type} (f : α → β) (g : β → γ) (s : Step α) :
    (s.map f).map g = s.map (g ∘ f) := by
  unfold map
  cases s.outcome <;> rfl

@[simp] theorem isFailed_map {α β : Type} (f : α → β) (s : Step α) :
    (s.map f).isFailed = s.isFailed := by
  unfold isFailed map
  cases s.outcome <;> rfl

end Step

inductive BuildError
  | rejected (error : DefinitionError)
  | hookFailed (text : String)
  deriving DecidableEq

structure Construction where
  registries : Registries
  trail : Trail := []
  outcome : Except BuildError Machine

namespace Machine

def initial (m : Machine) : State := m.graph.state m.graph.initial

def current (m : Machine) : State := m.graph.state m.position

def state? (m : Machine) (name : String) : Option State := (m.graph.find? name).map m.graph.state

def stateAt? (m : Machine) (id : StateId) : Option State := m.graph.states[id]?

def size (m : Machine) : Nat := m.graph.states.length

def isIn (m : Machine) (name : String) : Bool := m.current.name == name

def conditions (m : Machine) : List Condition := m.current.conditions

def peek? (m : Machine) (condition : String) : Option State :=
  (m.graph.next? m.position condition).map m.graph.state

/-- A machine in its first state, before the enter hook of that state is called. -/
def compile (text : String) (hosts : List Host) (registry : RegistryId)
    (registries : Registries) : Except DefinitionError Machine × Registries :=
  match Definition.parse text with
  | .error e => (.error e, registries)
  | .ok ds =>
    match Bindings.ofHosts hosts with
    | .error e => (.error e, registries)
    | .ok bindings =>
      match StateGraph.build bindings registry ds registries with
      | (.error e, registries) => (.error e, registries)
      | (.ok graph, registries) =>
        let checksum := Checksum.ofBytes (Definition.normalize text).toUTF8.data.toList
        (.ok { graph, registry, checksum, position := graph.initial }, registries)

def build (text : String) (hosts : List Host) (registry : RegistryId) (registries : Registries) :
    Construction :=
  match compile text hosts registry registries with
  | (.error e, registries) => { registries, outcome := .error (.rejected e) }
  | (.ok m, registries) =>
    let entering := BoundHook.callAll m.current.onEnter.toList registries
    { registries := entering.registries
      trail := .event (.built m.size m.current.name m.checksum) :: entering.trail
      outcome := match entering.failure with
        | some text => .error (.hookFailed text)
        | none => .ok m }

/-- Follows the transition for a condition, if the current state has one. The move counts only once
both hooks have returned. -/
def follow (m : Machine) (condition : String) (registries : Registries) : Step (Option State) :=
  match m.graph.next? m.position condition with
  | none =>
    { machine := m, registries, outcome := .ok none
      trail := [.event (.ignored m.current.name condition)] }
  | some target =>
    let next := m.graph.state target
    let hooks := BoundHook.callAll (m.current.onLeave.toList ++ next.onEnter.toList) registries
    let trail := .event (.moved m.current.name condition next.name) :: hooks.trail
    match hooks.failure with
    | some text =>
      { machine := m, registries := hooks.registries, trail, outcome := .error text }
    | none =>
      { machine := { m with position := target }, registries := hooks.registries, trail
        outcome := .ok (some next) }

def change (m : Machine) (condition : Condition) (registries : Registries) :
    Step (Option State) :=
  m.follow condition.name registries

/-- The name is interned first, whether the current state declares it or not. -/
def changeByName (m : Machine) (name : String) (registries : Registries) : Step (Option State) :=
  let (condition, registries) := registries.intern m.registry name
  m.change condition registries

/-- The position a forced move leads to; none if the state is unknown or already current. -/
def forcedTarget? (m : Machine) (name : String) : Option m.graph.Position :=
  (m.graph.find? name).filter fun target => target != m.position

def refusal (m : Machine) (name : String) : Trail :=
  match m.graph.find? name with
  | some _ => []
  | none => [.event (.unknownState name)]

theorem callbacks_refusal (m : Machine) (name : String) : (m.refusal name).callbacks = [] := by
  unfold refusal
  split <;> rfl

/-- Forces a move to a named state and answers whether it was made. The position changes between
the two hooks. -/
def set (m : Machine) (name : String) (registries : Registries) : Step Bool :=
  match m.forcedTarget? name with
  | none => { machine := m, registries, trail := m.refusal name, outcome := .ok false }
  | some target =>
    let report : Entry := .event (.forced m.current.name name true)
    let leaving := BoundHook.callAll m.current.onLeave.toList registries
    match leaving.failure with
    | some text =>
      { machine := m, registries := leaving.registries, trail := report :: leaving.trail
        outcome := .error text }
    | none =>
      let entering :=
        BoundHook.callAll (m.graph.state target).onEnter.toList leaving.registries
      { machine := { m with position := target }
        registries := entering.registries
        trail := report :: (leaving.trail ++ entering.trail)
        outcome := match entering.failure with
          | some text => .error text
          | none => .ok true }

def sync (m : Machine) (name : String) (registries : Registries) : Step Bool :=
  match m.forcedTarget? name with
  | none => { machine := m, registries, trail := m.refusal name, outcome := .ok false }
  | some target =>
    { machine := { m with position := target }, registries, outcome := .ok true
      trail := [.event (.forced m.current.name name false)] }

def targetName (m : Machine) (target : StateId) : String :=
  match m.stateAt? target with
  | some s => s.name
  | none => "?"

def listing (m : Machine) : String :=
  String.join (m.graph.states.map fun s =>
    s.name ++ "\n" ++ String.join (s.transitions.entries.map fun (condition, target) =>
      "  " ++ condition.name ++ " -> " ++ m.targetName target ++ "\n"))

def detail (m : Machine) : String :=
  "StateMachine \x7b current: " ++ Text.quote m.current.name ++ ", states: " ++
    toString m.size ++ ", checksum: " ++ Text.quote m.checksum ++ " \x7d"

end Machine

end Workflow
