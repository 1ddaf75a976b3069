import Workflow.Condition.Registry

/-! Calls on registries, whoever makes them, and what they answer. -/

namespace Workflow

inductive Call
  | create
  | label (label : String) (id : RegistryId)
  | intern (id : RegistryId) (name : String)
  | lookup (id : RegistryId) (name : String)
  | contains (id : RegistryId) (name : String)
  | size (id : RegistryId)
  deriving DecidableEq

inductive CallAnswer
  | created (id : RegistryId)
  | labelled
  | handle (condition : Option Condition)
  | flag (value : Bool)
  | count (value : Nat)
  deriving DecidableEq

namespace Call

def perform (rs : Registries) : Call → CallAnswer × Registries
  | create => (.created rs.create.1, rs.create.2)
  | label l id => (.labelled, rs.label l id)
  | intern id name => (.handle (some (rs.intern id name).1), (rs.intern id name).2)
  | lookup id name => (.handle (rs.lookup? id name), rs)
  | contains id name => (.flag ((rs.get id).contains name), rs)
  | size id => (.count (rs.get id).size, rs)

def asks? : Call → Option (RegistryId × String)
  | intern id name | lookup id name => some (id, name)
  | _ => none

def interned? (id : RegistryId) : Call → Option String
  | intern id' name => if id' = id then some name else none
  | _ => none

def isQuery : Call → Bool
  | lookup _ _ | contains _ _ | size _ => true
  | _ => false

end Call

def Registries.follow (rs : Registries) (calls : List Call) : Registries :=
  calls.foldl (fun rs call => (call.perform rs).2) rs

end Workflow
