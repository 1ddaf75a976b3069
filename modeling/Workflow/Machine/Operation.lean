import Workflow.Description

/-! Everything that can be asked of a machine, one operation at a time, and runs of operations. A
hook that fails ends its operation but not the run. -/

namespace Workflow

inductive Move
  | change (condition : Condition)
  | changeByName (name : String)
  | set (name : String)
  | sync (name : String)
  deriving DecidableEq

inductive Inspection
  | peek (condition : Condition)
  | peekByName (condition : String)
  | isIn (name : String)
  | isInState (state : State)
  | current
  | initial
  | state (name : String)
  | stateAt (id : StateId)
  | states
  | size
  | isEmpty
  | conditions
  | checksum
  | registry
  | description
  | listing
  | detail

inductive Operation
  | move (move : Move)
  | inspect (inspection : Inspection)

inductive Reply (α : Type)
  | moved (target : Option α)
  | forced (made : Bool)
  deriving DecidableEq

namespace Reply

def map {α β : Type} (f : α → β) : Reply α → Reply β
  | moved target => moved (target.map f)
  | forced made => forced made

end Reply

inductive Answer
  | reply (reply : Reply State)
  | state (state : Option State)
  | flag (value : Bool)
  | states (states : List State)
  | size (value : Nat)
  | conditions (conditions : List Condition)
  | text (text : String)
  | registry (id : RegistryId)
  | description (description : Description)

namespace Move

def perform (m : Machine) (registries : Registries) : Move → Step (Reply State)
  | change condition => (m.change condition registries).map .moved
  | changeByName name => (m.changeByName name registries).map .moved
  | set name => (m.set name registries).map .forced
  | sync name => (m.sync name registries).map .forced

end Move

namespace Inspection

def answer (m : Machine) : Inspection → Answer
  | peek condition => .state (m.peek? condition.name)
  | peekByName condition => .state (m.peek? condition)
  | isIn name => .flag (m.isIn name)
  | isInState s => .flag (m.isIn s.name)
  | current => .state (some m.current)
  | initial => .state (some m.initial)
  | state name => .state (m.state? name)
  | stateAt id => .state (m.stateAt? id)
  | states => .states m.graph.states
  | size => .size m.size
  | isEmpty => .flag m.graph.states.isEmpty
  | conditions => .conditions m.conditions
  | checksum => .text m.checksum
  | registry => .registry m.registry
  | description => .description m.describe
  | listing => .text m.listing
  | detail => .text m.detail

end Inspection

namespace Operation

def perform (m : Machine) (registries : Registries) : Operation → Step Answer
  | move x => (x.perform m registries).map .reply
  | inspect x => { machine := m, registries, outcome := .ok (x.answer m) }

end Operation

namespace Machine

/-- The steps of a run, each from where the one before has led. -/
def run {α β : Type} (perform : Machine → Registries → α → Step β) (m : Machine)
    (registries : Registries) : List α → List (Step β)
  | [] => []
  | x :: xs =>
    let step := perform m registries x
    step :: run perform step.machine step.registries xs

def runMoves (m : Machine) (registries : Registries) (moves : List Move) :
    List (Step (Reply State)) :=
  m.run Move.perform registries moves

def runOperations (m : Machine) (registries : Registries) (operations : List Operation) :
    List (Step Answer) :=
  m.run Operation.perform registries operations

/-- What one step preserves, a run preserves: it holds after every step. -/
theorem forall_mem_run {α β : Type} {perform : Machine → Registries → α → Step β}
    {P : Machine → Registries → Prop}
    (hstep : ∀ m registries x, P m registries →
      P (perform m registries x).machine (perform m registries x).registries)
    {m : Machine} {registries : Registries} (hm : P m registries) (xs : List α) :
    ∀ step ∈ m.run perform registries xs, P step.machine step.registries := by
  induction xs generalizing m registries with
  | nil => simp [run]
  | cons x xs ih =>
    have hnext := hstep m registries x hm
    rw [run, List.forall_mem_cons]
    exact ⟨hnext, ih hnext⟩

end Machine

end Workflow
