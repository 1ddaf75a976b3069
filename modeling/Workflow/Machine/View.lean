import Workflow.Machine.Operation

/-! What shows of machines and of their operations: everything but registries and the handles that
registries give out. A condition shows by its name. -/

namespace Workflow

structure StateView where
  id : StateId
  name : String
  onEnter : Option BoundHook
  onLeave : Option BoundHook
  /-- The transitions as they are listed. -/
  transitions : List (String × StateId)
  /-- The transitions as they are looked up. -/
  targets : List (String × StateId)
  deriving DecidableEq

namespace State

def byName (entries : List (Condition × StateId)) : List (String × StateId) :=
  entries.map fun (condition, target) => (condition.name, target)

def view (s : State) : StateView where
  id := s.id
  name := s.name
  onEnter := s.onEnter
  onLeave := s.onLeave
  transitions := byName s.transitions.entries
  targets := byName s.transitions.targets.entries

end State

structure MachineView where
  states : List StateView
  index : List (String × StateId)
  initial : StateId
  position : StateId
  checksum : String
  deriving DecidableEq

def Machine.view (m : Machine) : MachineView where
  states := m.graph.states.map State.view
  index := m.graph.index.entries
  initial := m.graph.initial.val
  position := m.position.val
  checksum := m.checksum

inductive AnswerView
  | reply (reply : Reply StateView)
  | state (state : Option StateView)
  | flag (value : Bool)
  | states (states : List StateView)
  | size (value : Nat)
  | conditions (names : List String)
  | text (text : String)
  | registry (own : Bool)
  | description (description : Description)
  deriving DecidableEq

/-- Of a registry it only shows whether it is the machine's own. -/
def Answer.view (own : RegistryId) : Answer → AnswerView
  | reply r => .reply (r.map State.view)
  | state s => .state (s.map State.view)
  | flag value => .flag value
  | states ss => .states (ss.map State.view)
  | size value => .size value
  | conditions cs => .conditions (cs.map Condition.name)
  | text t => .text t
  | registry id => .registry (id == own)
  | description d => .description d

structure StepView (α : Type) where
  machine : MachineView
  trail : Trail
  outcome : Except String α

namespace StepView

def map {α β : Type} (f : α → β) (v : StepView α) : StepView β where
  machine := v.machine
  trail := v.trail
  outcome := v.outcome.map f

end StepView

namespace Step

def viewBy {α β : Type} (f : α → β) (s : Step α) : StepView β where
  machine := s.machine.view
  trail := s.trail
  outcome := s.outcome.map f

def view (s : Step Answer) : StepView AnswerView := s.viewBy (Answer.view s.machine.registry)

theorem viewBy_map {α β γ : Type} (f : α → β) (g : β → γ) (s : Step α) :
    (s.map f).viewBy g = s.viewBy (g ∘ f) := by
  unfold viewBy map
  cases s.outcome <;> rfl

theorem viewBy_comp {α β γ : Type} (f : α → β) (g : β → γ) (s : Step α) :
    s.viewBy (g ∘ f) = (s.viewBy f).map g := by
  unfold viewBy StepView.map
  cases s.outcome <;> rfl

end Step

structure ConstructionView where
  trail : Trail
  outcome : Except BuildError MachineView

def Construction.view (c : Construction) : ConstructionView where
  trail := c.trail
  outcome := c.outcome.map Machine.view

end Workflow
