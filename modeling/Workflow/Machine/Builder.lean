import Workflow.Machine

/-! The ways to a machine: hosts are offered one by one or together, and a registry may be chosen.
Without one the shared registry is used. -/

namespace Workflow

structure Builder where
  text : String
  hosts : List Host := []
  registry : Option RegistryId := none

namespace Builder

def addHost (b : Builder) (host : Host) : Builder := { b with hosts := b.hosts ++ [host] }

def addHosts (b : Builder) (hosts : List Host) : Builder := { b with hosts := b.hosts ++ hosts }

def chooseRegistry (b : Builder) (id : RegistryId) : Builder := { b with registry := some id }

def build (b : Builder) (registries : Registries) : Construction :=
  Machine.build b.text b.hosts (b.registry.getD .shared) registries

inductive Request
  | host (host : Host)
  | hosts (hosts : List Host)
  | registry (id : RegistryId)
  deriving DecidableEq

def apply (b : Builder) : Request → Builder
  | .host host => b.addHost host
  | .hosts hosts => b.addHosts hosts
  | .registry id => b.chooseRegistry id

def follow (b : Builder) (requests : List Request) : Builder := requests.foldl apply b

def ofRequests (text : String) (requests : List Request) : Builder :=
  ({ text } : Builder).follow requests

namespace Request

def offered : Request → List Host
  | .host h => [h]
  | .hosts hs => hs
  | .registry _ => []

end Request

@[simp] theorem text_apply (b : Builder) (request : Request) : (b.apply request).text = b.text := by
  cases request <;> rfl

theorem hosts_apply (b : Builder) (request : Request) :
    (b.apply request).hosts = b.hosts ++ request.offered := by
  cases request with
  | host _ => rfl
  | hosts _ => rfl
  | registry _ => exact (List.append_nil _).symm

@[simp] theorem text_follow (b : Builder) (requests : List Request) :
    (b.follow requests).text = b.text := by
  induction requests generalizing b with
  | nil => rfl
  | cons request requests ih => exact (ih (b.apply request)).trans (b.text_apply request)

theorem hosts_follow (b : Builder) (requests : List Request) :
    (b.follow requests).hosts = b.hosts ++ requests.flatMap Request.offered := by
  induction requests generalizing b with
  | nil => exact (List.append_nil _).symm
  | cons request requests ih =>
    rw [follow, List.foldl_cons, ← follow, ih, hosts_apply, List.append_assoc, List.flatMap_cons]

end Builder

namespace Machine

def new (text : String) (hosts : List Host) (registries : Registries) : Construction :=
  (Builder.ofRequests text [.hosts hosts]).build registries

end Machine

end Workflow
