import Workflow.Text.Hash
import Workflow.Text.Quoted

/-! Conditions: the labels of transitions. A condition is known by its name wherever it comes
from, and remembers the registry entry it was interned as. -/

namespace Workflow

structure RegistryId where
  index : Nat
  deriving DecidableEq

namespace RegistryId

def shared : RegistryId := ⟨0⟩

end RegistryId

/-- The name interned at `slot` of `registry`. -/
structure Condition where
  registry : RegistryId
  slot : Nat
  name : String
  deriving DecidableEq

namespace Condition

def defaultName : String := "DEFAULT"

def sameEntry (a b : Condition) : Bool := a.registry == b.registry && a.slot == b.slot

/-- Equality of conditions looks at the names; one entry is equal to itself without looking. -/
def equal (a b : Condition) : Bool := a.sameEntry b || a.name == b.name

/-- The code of a condition is that of its plain name, which may stand for it in a look-up. -/
def hashCode (c : Condition) (hasher : Hasher := .standard) : UInt64 := hasher (Text.hashed c.name)

def compareBytes : List UInt8 → List UInt8 → Ordering
  | [], [] => .eq
  | [], _ :: _ => .lt
  | _ :: _, [] => .gt
  | a :: as, b :: bs =>
    if a.toNat < b.toNat then .lt
    else if b.toNat < a.toNat then .gt
    else compareBytes as bs

def bytes (c : Condition) : List UInt8 := c.name.toUTF8.data.toList

def order (a b : Condition) : Ordering := compareBytes a.bytes b.bytes

def partialOrder (a b : Condition) : Option Ordering := some (a.order b)

def sort (cs : List Condition) : List Condition :=
  cs.mergeSort fun a b => a.order b != .gt

def detail (c : Condition) : String := "Condition(" ++ Text.quote c.name ++ ")"

end Condition

end Workflow
