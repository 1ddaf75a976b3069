import Workflow.Condition

/-! Registries of interned conditions. A registry only grows, and gives a name the same entry
every time it is asked. -/

namespace Workflow

/-- The names interned so far, each in the slot it was given. -/
structure Registry where
  names : List String
  deriving DecidableEq

namespace Registry

def fresh : Registry := ⟨[Condition.defaultName]⟩

def slot? (r : Registry) (name : String) : Option Nat := r.names.idxOf? name

def contains (r : Registry) (name : String) : Bool := r.names.contains name

def size (r : Registry) : Nat := r.names.length

def isEmpty (r : Registry) : Bool := r.names.isEmpty

/-- The slot of `name`, which is a new one if the name is new. -/
def intern (r : Registry) (name : String) : Nat × Registry :=
  match r.slot? name with
  | some slot => (slot, r)
  | none => (r.size, ⟨r.names ++ [name]⟩)

def detail (r : Registry) : String :=
  "ConditionRegistry \x7b len: " ++ toString r.size ++ " \x7d"

end Registry

/-- All registries, addressed by their identity, and the labels under which some can be found, the
latest first. The shared one is there from the start; one that has no table yet is fresh. -/
structure Registries where
  tables : List Registry := [.fresh]
  labels : List (String × RegistryId) := []
  deriving DecidableEq

namespace Registries

def get (rs : Registries) (id : RegistryId) : Registry := rs.tables.getD id.index .fresh

def create (rs : Registries) : RegistryId × Registries :=
  (⟨rs.tables.length⟩, { rs with tables := rs.tables ++ [.fresh] })

/-- Puts a label on a registry. A label is on one registry at a time. -/
def label (rs : Registries) (label : String) (id : RegistryId) : Registries :=
  { rs with labels := (label, id) :: rs.labels }

def labelled? (rs : Registries) (label : String) : Option RegistryId := rs.labels.lookup label

def lookup? (rs : Registries) (id : RegistryId) (name : String) : Option Condition :=
  ((rs.get id).slot? name).map fun slot => ⟨id, slot, name⟩

def put (rs : Registries) (id : RegistryId) (table : Registry) : Registries :=
  { rs with tables := (rs.tables.rightpad (id.index + 1) .fresh).set id.index table }

def intern (rs : Registries) (id : RegistryId) (name : String) : Condition × Registries :=
  let (slot, table) := (rs.get id).intern name
  (⟨id, slot, name⟩, rs.put id table)

@[simp] theorem labelled?_label_self (rs : Registries) (l : String) (id : RegistryId) :
    (rs.label l id).labelled? l = some id := by
  simp [label, labelled?]

@[simp] theorem labels_intern (rs : Registries) (id : RegistryId) (name : String) :
    (rs.intern id name).2.labels = rs.labels := rfl

end Registries

end Workflow
