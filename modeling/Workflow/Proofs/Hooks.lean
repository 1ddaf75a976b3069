import Mathlib.Data.List.Basic
import Workflow.Hook

/-! Hooks called one after the other. Which of them are called and how it ends is a matter of the
hooks only, not of the registries they intern in. -/

namespace Workflow.BoundHook

def attempted : List BoundHook → List BoundHook
  | [] => []
  | b :: bs => if b.hook.failure.isSome then [b] else b :: attempted bs

def failure? (bs : List BoundHook) : Option String := bs.findSome? fun b => b.hook.failure

variable {bs bs' : List BoundHook}

theorem failure_callAll (bs : List BoundHook) (rs : Registries) :
    (callAll bs rs).failure = failure? bs := by
  induction bs generalizing rs with
  | nil => rfl
  | cons b bs ih =>
    rw [failure?, List.findSome?_cons, ← failure?]
    cases hb : b.hook.failure with
    | none => simp only [callAll, call, hb, ih]
    | some text => simp only [callAll, call, hb]

theorem trail_callAll (bs : List BoundHook) (rs : Registries) :
    (callAll bs rs).trail = (attempted bs).flatMap trail := by
  induction bs generalizing rs with
  | nil => rfl
  | cons b bs ih =>
    cases hb : b.hook.failure with
    | none => simp [callAll, call, attempted, hb, ih]
    | some text => simp [callAll, call, attempted, hb]

theorem callbacks_flatMap_trail (bs : List BoundHook) :
    Trail.callbacks (bs.flatMap trail) = bs.flatMap trail := by
  rw [Trail.callbacks, List.filter_flatMap]
  exact congrArg (bs.flatMap ·) (funext callbacks_trail)

theorem failure?_eq_none_iff : failure? bs = none ↔ ∀ b ∈ bs, b.hook.failure = none :=
  List.findSome?_eq_none_iff

theorem failure?_append (bs bs' : List BoundHook) :
    failure? (bs ++ bs') = (failure? bs).or (failure? bs') := List.findSome?_append

theorem attempted_append_of_some {text : String} (h : failure? bs = some text) :
    attempted (bs ++ bs') = attempted bs := by
  induction bs with
  | nil => simp [failure?] at h
  | cons b bs ih =>
    rw [failure?, List.findSome?_cons, ← failure?] at h
    cases hb : b.hook.failure with
    | none =>
      rw [hb] at h
      simp [attempted, hb, ih h]
    | some _ => simp [attempted, hb]

theorem attempted_append_of_none (h : failure? bs = none) :
    attempted (bs ++ bs') = bs ++ attempted bs' := by
  induction bs with
  | nil => rfl
  | cons b bs ih =>
    obtain ⟨hb, hrest⟩ := List.forall_mem_cons.mp (failure?_eq_none_iff.mp h)
    simp [attempted, hb, ih (failure?_eq_none_iff.mpr hrest)]

theorem attempted_eq_self (h : failure? bs = none) : attempted bs = bs := by
  have happend : attempted (bs ++ []) = bs ++ attempted [] := attempted_append_of_none h
  rwa [List.append_nil, attempted, List.append_nil] at happend

theorem attempted_toList (hook : Option BoundHook) : attempted hook.toList = hook.toList := by
  cases hook with
  | none => rfl
  | some b => simp [attempted]

theorem failure?_toList_eq_some_iff {hook : Option BoundHook} {text : String} :
    failure? hook.toList = some text ↔ ∃ b, hook = some b ∧ b.hook.failure = some text := by
  cases hook <;> simp [failure?]

theorem callAll_of_returns (h : ∀ b ∈ bs, b.hook.failure = none) (rs : Registries) :
    (callAll bs rs).failure = none ∧ (callAll bs rs).trail = bs.flatMap trail := by
  have hnone := failure?_eq_none_iff.mpr h
  rw [failure_callAll, trail_callAll, hnone, attempted_eq_self hnone]
  exact ⟨rfl, rfl⟩

end Workflow.BoundHook
