import Workflow.Condition.Map

/-! The transitions of one state: where each condition leads, and the conditions in the order they
were declared. -/

namespace Workflow

abbrev StateId := Nat

structure TransitionTable where
  targets : ConditionMap StateId := {}
  order : List Condition := []

namespace TransitionTable

def get? (t : TransitionTable) (condition : String) : Option StateId := t.targets.get? condition

def contains (t : TransitionTable) (condition : String) : Bool := t.targets.contains condition

/-- The transitions in the order declared. Each condition is looked up again. -/
def entries (t : TransitionTable) : List (Condition × StateId) :=
  t.order.filterMap fun c => (t.targets.value? c).map fun target => (c, target)

/-- Adds a transition at the end, unless an equal condition is taken. -/
def insertNew? (t : TransitionTable) (c : Condition) (target : StateId) :
    Option TransitionTable :=
  if t.targets.hasKey c then none
  else some { targets := t.targets.insert c target, order := t.order ++ [c] }

def Below (n : Nat) (t : TransitionTable) : Prop := ∀ e ∈ t.targets.entries, e.2 < n

theorem entries_insertNew? {t t' : TransitionTable} {c : Condition} {target : StateId}
    (h : t.insertNew? c target = some t') :
    t'.targets.entries = t.targets.entries ++ [(c, target)] := by
  simp only [insertNew?] at h
  split at h
  · simp at h
  · rename_i hc
    cases h
    exact ConditionMap.entries_insert_of_hasKey_eq_false target (by simpa using hc)

theorem below_insertNew? {n : Nat} {t t' : TransitionTable} {c : Condition} {target : StateId}
    (ht : t.Below n) (hn : target < n) (h : t.insertNew? c target = some t') : t'.Below n := by
  intro e he
  simp only [entries_insertNew? h, List.mem_append, List.mem_singleton] at he
  rcases he with he | rfl
  · exact ht e he
  · exact hn

theorem lt_of_get?_eq_some {n : Nat} {t : TransitionTable} {condition : String} {target : StateId}
    (ht : t.Below n) (h : t.get? condition = some target) : target < n := by
  rw [get?, ConditionMap.get?_eq_find?, Option.map_eq_some_iff] at h
  obtain ⟨e, he, rfl⟩ := h
  exact ht e (List.mem_of_find?_eq_some he)

end TransitionTable

end Workflow
