import Workflow.Condition

/-! Hash maps keyed by conditions. Equal conditions are one key, so that a plain name is enough to look
one up. -/

namespace Workflow

structure ConditionMap (α : Type) where
  hasher : Hasher := .standard
  entries : List (Condition × α) := []

namespace ConditionMap

variable {α : Type}

def keys (m : ConditionMap α) : List Condition := m.entries.map Prod.fst

/-- The entries kept under a code. No others are compared with what is looked up. -/
def bucket (m : ConditionMap α) (code : UInt64) : List (Condition × α) :=
  m.entries.filter fun e => e.1.hashCode m.hasher == code

def get? (m : ConditionMap α) (name : String) : Option α :=
  ((m.bucket (m.hasher (Text.hashed name))).find? fun e => e.1.name == name).map Prod.snd

def contains (m : ConditionMap α) (name : String) : Bool :=
  (m.bucket (m.hasher (Text.hashed name))).any fun e => e.1.name == name

def value? (m : ConditionMap α) (c : Condition) : Option α :=
  ((m.bucket (c.hashCode m.hasher)).find? fun e => e.1.equal c).map Prod.snd

def hasKey (m : ConditionMap α) (c : Condition) : Bool :=
  (m.bucket (c.hashCode m.hasher)).any fun e => e.1.equal c

/-- Gives `c` the value `a`, in place of the value of an equal condition if there is one. -/
def insert (m : ConditionMap α) (c : Condition) (a : α) : ConditionMap α :=
  if m.hasKey c then
    { m with entries := m.entries.map fun e =>
        if e.1.hashCode m.hasher == c.hashCode m.hasher && e.1.equal c then (e.1, a) else e }
  else { m with entries := m.entries ++ [(c, a)] }

def ofList (entries : List (Condition × α)) (hasher : Hasher := .standard) : ConditionMap α :=
  entries.foldl (fun m e => m.insert e.1 e.2) { hasher }

theorem entries_insert_of_hasKey_eq_false {m : ConditionMap α} {c : Condition} (a : α)
    (h : m.hasKey c = false) : (m.insert c a).entries = m.entries ++ [(c, a)] := by
  simp [insert, h]

theorem bucket_eq_filter_name (m : ConditionMap α) (name : String) :
    (m.bucket (m.hasher (Text.hashed name))).filter (fun e => e.1.name == name) =
      m.entries.filter fun e => e.1.name == name := by
  rw [bucket, List.filter_filter]
  refine List.filter_congr fun e _ => ?_
  by_cases h : e.1.name = name <;> simp [Condition.hashCode, h]

/-- The bucket of a name holds all entries for it. -/
theorem get?_eq_find? (m : ConditionMap α) (name : String) :
    m.get? name = (m.entries.find? fun e => e.1.name == name).map Prod.snd := by
  rw [get?, ← List.head?_filter, bucket_eq_filter_name, List.head?_filter]

theorem contains_eq_isSome (m : ConditionMap α) (name : String) :
    m.contains name = (m.get? name).isSome := by
  rw [contains, get?, Option.isSome_map, Bool.eq_iff_iff, List.find?_isSome, List.any_eq_true]

end ConditionMap

end Workflow
