import Mathlib.Data.List.Forall2
import Workflow.Definition.Parser

/-! What it takes to read a text successfully, one statement for each reader. -/

namespace Workflow.Definition

theorem bind_eq_ok_iff {ε α β : Type} {x : Except ε α} {next : α → Except ε β} {b : β} :
    x >>= next = .ok b ↔ ∃ a, x = .ok a ∧ next a = .ok b := by
  cases x <;> simp [bind, Except.bind]

theorem mapM_eq_ok_iff {ε α β : Type} {read : α → Except ε β} {xs : List α} {ys : List β} :
    xs.mapM read = .ok ys ↔ List.Forall₂ (fun x y => read x = .ok y) xs ys := by
  constructor
  · intro h
    induction xs generalizing ys with
    | nil => exact Except.ok.inj h ▸ .nil
    | cons x xs ih =>
      rw [List.mapM_cons] at h
      obtain ⟨y, hy, h⟩ := bind_eq_ok_iff.mp h
      obtain ⟨rest, hrest, h⟩ := bind_eq_ok_iff.mp h
      exact Except.ok.inj h ▸ .cons hy (ih hrest)
  · intro h
    induction h with
    | nil => rfl
    | cons hy _ ih =>
      rw [List.mapM_cons]
      exact bind_eq_ok_iff.mpr ⟨_, hy, bind_eq_ok_iff.mpr ⟨_, ih, rfl⟩⟩

theorem bind_eq_error_iff {ε α β : Type} {x : Except ε α} {next : α → Except ε β} {e : ε} :
    x >>= next = .error e ↔ x = .error e ∨ ∃ a, x = .ok a ∧ next a = .error e := by
  cases x <;> simp [bind, Except.bind]

theorem mapM_eq_error_iff {ε α β : Type} {read : α → Except ε β} {xs : List α} {e : ε} :
    xs.mapM read = .error e ↔
      ∃ before x after, xs = before ++ x :: after ∧ (∀ y ∈ before, ∃ b, read y = .ok b) ∧
        read x = .error e := by
  constructor
  · intro h
    induction xs with
    | nil => simp [pure, Except.pure] at h
    | cons x xs ih =>
      rw [List.mapM_cons] at h
      rcases bind_eq_error_iff.mp h with h | ⟨b, hb, h⟩
      · exact ⟨[], x, xs, rfl, by simp, h⟩
      · have hrest : xs.mapM read = .error e := by
          rcases bind_eq_error_iff.mp h with h | ⟨bs, -, h⟩
          · exact h
          · simp [pure, Except.pure] at h
        obtain ⟨before, y, after, rfl, hbefore, hy⟩ := ih hrest
        exact ⟨x :: before, y, after, rfl, List.forall_mem_cons.mpr ⟨⟨b, hb⟩, hbefore⟩, hy⟩
  · rintro ⟨before, x, after, rfl, hbefore, hx⟩
    induction before with
    | nil =>
      rw [List.nil_append, List.mapM_cons]
      exact bind_eq_error_iff.mpr (.inl hx)
    | cons y before ih =>
      obtain ⟨⟨b, hb⟩, hrest⟩ := List.forall_mem_cons.mp hbefore
      rw [List.cons_append, List.mapM_cons]
      exact bind_eq_error_iff.mpr
        (.inr ⟨b, hb, bind_eq_error_iff.mpr (.inl (ih hrest))⟩)

theorem mapM_append_cons_eq {ε α β : Type} {read : α → Except ε β} {x y : α} {e : ε}
    (hx : read x = .error e) (hy : read y = .error e) (before after after' : List α) :
    (before ++ x :: after).mapM read = (before ++ y :: after').mapM read := by
  induction before with
  | nil =>
    simp only [List.nil_append, List.mapM_cons, hx, hy]
    rfl
  | cons z before ih => simp only [List.cons_append, List.mapM_cons, ih]

theorem exists_mapM_eq_ok_iff {ε α β : Type} {read : α → Except ε β} {xs : List α} :
    (∃ ys, xs.mapM read = .ok ys) ↔ ∀ x ∈ xs, ∃ y, read x = .ok y := by
  constructor
  · rintro ⟨ys, h⟩ x hx
    obtain ⟨i, hi, rfl⟩ := List.mem_iff_getElem.mp hx
    have hread := mapM_eq_ok_iff.mp h
    exact ⟨_, hread.get hi (hread.length_eq ▸ hi)⟩
  · intro h
    cases hread : xs.mapM read with
    | ok ys => exact ⟨ys, rfl⟩
    | error e =>
      obtain ⟨before, x, after, rfl, -, hx⟩ := mapM_eq_error_iff.mp hread
      obtain ⟨y, hy⟩ := h x (by simp)
      simp [hx] at hy

theorem forall_mem_of_forall₂ {α β : Type} {R : α → β → Prop} {P : β → Prop} {xs : List α}
    {ys : List β} (h : List.Forall₂ R xs ys) (hP : ∀ x ∈ xs, ∀ y, R x y → P y) :
    ∀ y ∈ ys, P y := by
  induction h with
  | nil => simp
  | cons hxy _ ih =>
    simp only [List.forall_mem_cons] at hP ⊢
    exact ⟨hP.1 _ hxy, ih hP.2⟩

theorem parseTransition_eq_ok_iff {state : String} {piece : List Char} {t : Transition} :
    parseTransition state piece = .ok t ↔
      piece.splitOn ':' = [t.condition.toList, t.target.toList] ∧
        t.condition ≠ "" ∧ t.target ≠ "" := by
  unfold parseTransition
  split
  · rename_i c condition target cs h
    rw [h]
    constructor
    · intro ht
      simp [← Except.ok.inj ht]
    · rintro ⟨ht, -, -⟩
      simp only [List.cons.injEq, and_true] at ht
      simp [ht.1, ht.2]
  · rename_i hsplit
    constructor
    · simp
    · rintro ⟨h, hc, ht⟩
      obtain ⟨c, condition, hc⟩ := List.exists_cons_of_ne_nil (mt String.toList_eq_nil_iff.mp hc)
      obtain ⟨d, target, ht⟩ := List.exists_cons_of_ne_nil (mt String.toList_eq_nil_iff.mp ht)
      exact absurd (hc ▸ ht ▸ h) (hsplit c condition d target)

theorem parseTransitions_eq_ok_iff {state : String} {body : List Char} {ts : List Transition} :
    parseTransitions state body = .ok ts ↔
      List.Forall₂ (fun piece t => parseTransition state piece = .ok t)
        (pieces ',' (body.filter fun c => !isCurlyBracket c)) ts :=
  mapM_eq_ok_iff

def headerFields (header : List Char) : List (List Char) :=
  (header.filter fun c => !isRoundBracket c).splitOn ','

theorem optionalName_eq_some_iff {cs : List Char} {name : String} :
    optionalName cs = some name ↔ name ≠ "" ∧ cs = name.toList := by
  cases cs with
  | nil =>
    simp only [optionalName, reduceCtorEq, false_iff, not_and]
    exact fun hname h => hname (String.toList_eq_nil_iff.mp h.symm)
  | cons c cs =>
    simp only [optionalName, Option.some.injEq]
    constructor
    · rintro rfl
      simp
    · rintro ⟨-, h⟩
      simp [h]

theorem parseHeader_eq_ok_iff {fragment header : List Char} {name : String}
    {onEnter onLeave : Option String} :
    parseHeader fragment header = .ok (name, onEnter, onLeave) ↔
      name ≠ "" ∧ ∃ hooks : List (List Char), headerFields header = name.toList :: hooks ∧
        hooks.length ≤ 2 ∧ onEnter = hooks[0]?.bind optionalName ∧
        onLeave = hooks[1]?.bind optionalName := by
  unfold parseHeader
  rw [← headerFields]
  split
  · rename_i fields h
    rw [h]
    constructor
    · simp
    · rintro ⟨-, hooks, hfields, hlength, -⟩
      simp only [List.cons.injEq] at hfields
      simp [← hfields.2] at hlength
  · rename_i c cs hooks hlong h
    rw [h]
    constructor
    · simp only [Except.ok.injEq, Prod.mk.injEq]
      rintro ⟨rfl, rfl, rfl⟩
      refine ⟨by simp, hooks, by simp, ?_, rfl, rfl⟩
      match hooks, hlong with
      | [], _ | [_], _ | [_, _], _ => simp
      | _ :: _ :: _ :: _, hlong => exact (hlong _ _ _ _ rfl).elim
    · rintro ⟨-, hooks', hfields, -, rfl, rfl⟩
      simp only [List.cons.injEq] at hfields
      simp [hfields.1, hfields.2]
  · rename_i hname h
    constructor
    · simp
    · rintro ⟨hne, hooks, hfields, -⟩
      obtain ⟨c, cs, hcs⟩ := List.exists_cons_of_ne_nil (mt String.toList_eq_nil_iff.mp hne)
      exact absurd (hcs ▸ hfields) (h c cs hooks)

theorem parseState_eq_ok_iff {fragment : List Char} {d : Declaration} :
    parseState fragment = .ok d ↔
      ∃ header body, arrowParts fragment = [header, body] ∧
        parseHeader fragment header = .ok (d.name, d.onEnter, d.onLeave) ∧
        parseTransitions d.name body = .ok d.transitions := by
  unfold parseState
  split
  · rename_i header body h
    rw [h]
    simp only [List.cons.injEq, and_true]
    constructor
    · intro hd
      obtain ⟨⟨name, onEnter, onLeave⟩, hheader, hd⟩ := bind_eq_ok_iff.mp hd
      obtain ⟨transitions, hbody, hd⟩ := bind_eq_ok_iff.mp hd
      cases hd
      exact ⟨header, body, ⟨rfl, rfl⟩, hheader, hbody⟩
    · rintro ⟨_, _, ⟨rfl, rfl⟩, hheader, hbody⟩
      exact bind_eq_ok_iff.mpr ⟨_, hheader, bind_eq_ok_iff.mpr ⟨_, hbody, rfl⟩⟩
  · rename_i hparts
    constructor
    · simp
    · rintro ⟨header, body, h, -⟩
      exact absurd h (hparts header body)

theorem parse_eq_ok_iff {text : String} {ds : List Declaration} :
    parse text = .ok ds ↔
      ds ≠ [] ∧ List.Forall₂ (fun fragment d => parseState fragment = .ok d) (fragments text) ds := by
  rw [← mapM_eq_ok_iff]
  unfold parse
  rw [bind_eq_ok_iff]
  constructor
  · rintro ⟨read, hread, h⟩
    split at h
    · simp at h
    · rename_i hne
      exact Except.ok.inj h ▸ ⟨hne, hread⟩
  · rintro ⟨hne, hread⟩
    refine ⟨ds, hread, ?_⟩
    split
    · contradiction
    · rfl

end Workflow.Definition
