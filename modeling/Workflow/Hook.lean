import Workflow.Condition.Registry
import Workflow.Definition.Error
import Workflow.Trail

/-! Hooks, the hosts that offer them, and the bindings that a list of hosts amounts to. -/

namespace Workflow

/-- What a hook can do to its surroundings: write a line, or intern a name in the registry that has
the label at that moment, if one has it. -/
inductive Effect
  | write (line : String)
  | intern (label name : String)
  deriving DecidableEq

/-- What a hook does when it is called: its effects, one after the other. It may then fail with a
text. -/
structure Hook where
  effects : List Effect
  failure : Option String := none
  deriving DecidableEq

structure Host where
  name : String
  hooks : List (String × Hook)
  deriving DecidableEq

namespace Effect

def perform (registries : Registries) : Effect → Registries
  | write _ => registries
  | intern label name =>
    match registries.labelled? label with
    | some id => (registries.intern id name).2
    | none => registries

def line? : Effect → Option String
  | write line => some line
  | intern _ _ => none

@[simp] theorem labels_perform (registries : Registries) (e : Effect) :
    (e.perform registries).labels = registries.labels := by
  cases e with
  | write _ => rfl
  | intern label name =>
    simp only [perform]
    split <;> simp

end Effect

/-- A hook under the name and host it was registered with. -/
structure BoundHook where
  name : String
  host : String
  hook : Hook
  deriving DecidableEq

structure HookRun where
  registries : Registries
  trail : Trail := []
  failure : Option String := none

namespace BoundHook

def trail (b : BoundHook) : Trail :=
  .event (.invoking b.name b.host) :: (b.hook.effects.filterMap Effect.line?).map .line

def call (b : BoundHook) (registries : Registries) : HookRun where
  registries := b.hook.effects.foldl Effect.perform registries
  trail := b.trail
  failure := b.hook.failure

@[simp] theorem callbacks_trail (b : BoundHook) : Trail.callbacks b.trail = b.trail := by
  refine List.filter_eq_self.mpr fun e he => ?_
  rcases List.mem_cons.mp he with rfl | he
  · rfl
  · obtain ⟨line, -, rfl⟩ := List.mem_map.mp he
    rfl

/-- Calls hooks one after the other, up to and including the first that fails. -/
def callAll : List BoundHook → Registries → HookRun
  | [], registries => { registries }
  | b :: bs, registries =>
    let first := b.call registries
    match first.failure with
    | some _ => first
    | none =>
      let rest := callAll bs first.registries
      { rest with trail := first.trail ++ rest.trail }

def detail (b : BoundHook) : String :=
  "BoundHook \x7b name: " ++ Text.quote b.name ++ ", host: " ++ Text.quote b.host ++ " \x7d"

end BoundHook

namespace Host

def hookNames (h : Host) : List String := h.hooks.map Prod.fst

def registrations (h : Host) : List BoundHook :=
  h.hooks.map fun (name, hook) => ⟨name, h.name, hook⟩

def detail (h : Host) : String :=
  "Host \x7b name: " ++ Text.quote h.name ++ ", hooks: " ++ Text.quoteList h.hookNames ++ " \x7d"

end Host

structure Bindings where
  hooks : List BoundHook := []
  deriving DecidableEq

namespace Bindings

def get? (b : Bindings) (name : String) : Option BoundHook :=
  b.hooks.find? fun h => h.name == name

def contains (b : Bindings) (name : String) : Bool := (b.get? name).isSome

def size (b : Bindings) : Nat := b.hooks.length

def isEmpty (b : Bindings) : Bool := b.hooks.isEmpty

/-- Adds one registration after another; a name may be registered once only. -/
def register (b : Bindings) : List BoundHook → Except DefinitionError Bindings
  | [] => .ok b
  | h :: hs =>
    match b.get? h.name with
    | some first => .error (.duplicateBinding h.name first.host h.host)
    | none => register ⟨b.hooks ++ [h]⟩ hs

def ofHosts (hosts : List Host) : Except DefinitionError Bindings :=
  register {} (hosts.flatMap Host.registrations)

end Bindings

end Workflow
