import Workflow.Proofs.Condition.Comparison
import Workflow.Proofs.StateGraph.Compilation

/-! Transitions added to a state one after the other, with conditions from any registries. Whatever is
refused on the way, they are a map from names to states that keeps the order of its keys. -/

namespace Workflow

namespace State

/-- What an attempt to add a transition answers, and the state after it. -/
def attempt (s : State) (e : Condition × StateId) : Bool × State :=
  match s.addTransition? e.1 e.2 with
  | some s' => (true, s')
  | none => (false, s)

/-- One attempt after the other, with the answers in turn. -/
def attemptAll (s : State) : List (Condition × StateId) → List Bool × State
  | [] => ([], s)
  | e :: es =>
    let made := s.attempt e
    let rest := made.2.attemptAll es
    (made.1 :: rest.1, rest.2)

/-- The attempts that were not refused. -/
def accepted (es : List (Condition × StateId)) (answers : List Bool) : List (Condition × StateId) :=
  ((es.zip answers).filter Prod.snd).map Prod.fst

/-- The target of the first of the attempts for a condition of that name. -/
def firstTarget? (es : List (Condition × StateId)) (name : String) : Option StateId :=
  (es.find? fun e => e.1.name == name).map Prod.snd

section Attempts

variable {P : Condition → Prop} {s : State} {e : Condition × StateId} {es : List (Condition × StateId)}
  {answers : List Bool}

theorem attemptAll_append (s : State) (es es' : List (Condition × StateId)) :
    s.attemptAll (es ++ es') =
      ((s.attemptAll es).1 ++ ((s.attemptAll es).2.attemptAll es').1,
        ((s.attemptAll es).2.attemptAll es').2) := by
  induction es generalizing s with
  | nil => rfl
  | cons e es ih => simp only [List.cons_append, attemptAll, ih]

theorem length_attemptAll (s : State) (es : List (Condition × StateId)) :
    (s.attemptAll es).1.length = es.length := by
  induction es generalizing s with
  | nil => rfl
  | cons e es ih => rw [attemptAll, List.length_cons, List.length_cons, ih]

theorem attemptAll_concat (s : State) (es : List (Condition × StateId)) (e : Condition × StateId) :
    s.attemptAll (es ++ [e]) =
      ((s.attemptAll es).1 ++ [((s.attemptAll es).2.attempt e).1], ((s.attemptAll es).2.attempt e).2) :=
  attemptAll_append s es [e]

theorem getElem?_attemptAll (s : State) (before after : List (Condition × StateId))
    (e : Condition × StateId) :
    (s.attemptAll (before ++ e :: after)).1[before.length]? =
      some ((s.attemptAll before).2.attempt e).1 := by
  have hlength := s.length_attemptAll before
  rw [attemptAll_append, List.getElem?_append_right hlength.le, hlength, Nat.sub_self]
  rfl

theorem accepted_concat (h : answers.length = es.length) (e : Condition × StateId) (answer : Bool) :
    accepted (es ++ [e]) (answers ++ [answer]) = accepted es answers ++ if answer then [e] else [] := by
  rw [accepted, List.zip_append h.symm, List.filter_append, List.map_append, accepted]
  cases answer <;> rfl

theorem firstTarget?_concat (es : List (Condition × StateId)) (e : Condition × StateId) (name : String) :
    firstTarget? (es ++ [e]) name =
      (firstTarget? es name).or (if e.1.name = name then some e.2 else none) := by
  rw [firstTarget?, List.find?_append, Option.map_or, firstTarget?]
  by_cases hname : e.1.name = name <;> simp [hname]

theorem firstTarget?_eq_none_iff {name : String} :
    firstTarget? es name = none ↔ ∀ e ∈ es, e.1.name ≠ name := by
  simp [firstTarget?]

theorem attempt_cases (hs : s.transitions.InStep P) (he : P e.1) :
    (s.attempt e = (false, s) ∧ s.target? e.1.name ≠ none) ∨
      ∃ t, s.attempt e = (true, { s with transitions := t }) ∧ s.target? e.1.name = none ∧
        s.transitions.insertNew? e.1 e.2 = some t := by
  have htaken : s.transitions.insertNew? e.1 e.2 = none ↔ s.target? e.1.name ≠ none := by
    rw [hs.insertNew?_eq_none_iff he, target?, ne_eq, hs.get?_eq_none_iff, not_not]
  cases hinsert : s.transitions.insertNew? e.1 e.2 with
  | none => exact .inl ⟨by simp [attempt, addTransition?, hinsert], htaken.mp hinsert⟩
  | some t =>
    have hfree : ¬ s.target? e.1.name ≠ none := fun h => by simp [htaken.mpr h] at hinsert
    exact .inr ⟨t, by simp [attempt, addTransition?, hinsert], not_not.mp hfree, rfl⟩

theorem attempt_of_refused (h : (s.attempt e).1 = false) : (s.attempt e).2 = s := by
  unfold attempt at h ⊢
  split at h
  · simp at h
  · rfl

theorem attempt_frame (s : State) (e : Condition × StateId) :
    (s.attempt e).2 = { s with transitions := (s.attempt e).2.transitions } := by
  unfold attempt addTransition?
  cases s.transitions.insertNew? e.1 e.2 <;> rfl

theorem attemptAll_frame (s : State) (es : List (Condition × StateId)) :
    (s.attemptAll es).2 = { s with transitions := (s.attemptAll es).2.transitions } := by
  induction es generalizing s with
  | nil => rfl
  | cons e es ih =>
    let last : State := (s.attemptAll (e :: es)).2
    calc last = { (s.attempt e).2 with transitions := last.transitions } := ih (s.attempt e).2
      _ = { s with transitions := last.transitions } :=
        congrArg (fun next : State => { next with transitions := last.transitions }) (s.attempt_frame e)

/-- What attempts with these answers have made of a state without transitions. -/
structure Collects (P : Condition → Prop) (es : List (Condition × StateId)) (answers : List Bool)
    (s : State) : Prop where
  inStep : s.transitions.InStep P
  length_eq : answers.length = es.length
  entries_eq : s.transitions.entries = accepted es answers
  target?_eq : ∀ name, s.target? name = firstTarget? es name

theorem Collects.attempt_iff (h : s.Collects P es answers) (he : P e.1) :
    (s.attempt e).1 = true ↔ ∀ x ∈ es, x.1.name ≠ e.1.name := by
  rw [← firstTarget?_eq_none_iff, ← h.target?_eq]
  rcases attempt_cases h.inStep he with ⟨hattempt, htaken⟩ | ⟨t, hattempt, hfree, -⟩
  · simp [hattempt, htaken]
  · simp [hattempt, hfree]

theorem Collects.attempt (h : s.Collects P es answers) (he : P e.1) :
    (s.attempt e).2.Collects P (es ++ [e]) (answers ++ [(s.attempt e).1]) := by
  have hlength : (answers ++ [(s.attempt e).1]).length = (es ++ [e]).length := by
    rw [List.length_append, List.length_append, h.length_eq]
    rfl
  rcases attempt_cases h.inStep he with ⟨hattempt, htaken⟩ | ⟨t, hattempt, hfree, hinsert⟩
  · refine ⟨by rw [hattempt]; exact h.inStep, hlength, ?_, fun name => ?_⟩
    · rw [hattempt, accepted_concat h.length_eq, h.entries_eq]
      simp
    · rw [hattempt, firstTarget?_concat, ← h.target?_eq]
      by_cases hname : e.1.name = name
      · obtain ⟨target, htarget⟩ := Option.ne_none_iff_exists'.mp (hname ▸ htaken)
        rw [htarget, Option.some_or]
      · rw [if_neg hname, Option.or_none]
  · refine ⟨by rw [hattempt]; exact h.inStep.insertNew? he hinsert, hlength, ?_, fun name => ?_⟩
    · rw [hattempt, accepted_concat h.length_eq, ← h.entries_eq]
      exact h.inStep.entries_insertNew? he hinsert
    · rw [hattempt, firstTarget?_concat, ← h.target?_eq]
      exact TransitionTable.get?_insertNew? hinsert name

theorem collects_attemptAll (hequal : ∀ a b, P a → P b → (a.equal b = true ↔ a.name = b.name))
    (hblank : s.transitions = {}) (hes : ∀ e ∈ es, P e.1) :
    (s.attemptAll es).2.Collects P es (s.attemptAll es).1 := by
  induction es using List.reverseRecOn with
  | nil =>
    refine ⟨hblank ▸ .empty hequal, rfl, ?_, fun name => ?_⟩
    · rw [attemptAll, hblank]
      rfl
    · rw [attemptAll, target?, hblank]
      rfl
  | append_singleton es e ih =>
    obtain ⟨hes, he⟩ := List.forall_mem_append.mp hes
    rw [attemptAll_concat]
    exact (ih hes).attempt (he e (List.mem_singleton_self e))

end Attempts

/-- Whatever conditions transitions are added for, to a state that has none, one is refused if and only if
its name has been taken, and then changes nothing. Those accepted are listed in the order in which they
came, a name leads where it was first to lead, and all else about the state stays. -/
theorem additions_are_ordered_map (calls : List Call) (id : StateId) (name : String)
    (onEnter onLeave : Option BoundHook) (es : List (Condition × StateId))
    (hes : ∀ e ∈ es, Registries.Gave calls e.1) :
    let blank : State := { id, name, onEnter, onLeave }
    let answers := (blank.attemptAll es).1
    let s := (blank.attemptAll es).2
    answers.length = es.length ∧
      (∀ before e after, es = before ++ e :: after →
        (answers[before.length]? = some true ↔ ∀ x ∈ before, x.1.name ≠ e.1.name) ∧
        (answers[before.length]? = some false →
          (blank.attemptAll (before ++ [e])).2 = (blank.attemptAll before).2)) ∧
      s.transitions.entries = accepted es answers ∧
      s.transitions.order = (accepted es answers).map Prod.fst ∧
      (∀ condition, s.target? condition = firstTarget? es condition) ∧
      (∀ condition, s.hasTransition condition = (s.target? condition).isSome) ∧
      s.id = id ∧ s.name = name ∧ s.onEnter = onEnter ∧ s.onLeave = onLeave := by
  intro blank answers s
  let rs : Registries := ({} : Registries).follow calls
  have hequal : ∀ a b, rs.Holds a → rs.Holds b → (a.equal b = true ↔ a.name = b.name) :=
    fun a b => Condition.equal_iff
  have hcollects : ∀ es : List (Condition × StateId), (∀ e ∈ es, Registries.Gave calls e.1) →
      (blank.attemptAll es).2.Collects rs.Holds es (blank.attemptAll es).1 := fun es hes =>
    collects_attemptAll hequal rfl fun e he => (hes e he).holds
  have hs := hcollects es hes
  have hframe : s = { blank with transitions := s.transitions } := blank.attemptAll_frame es
  refine ⟨hs.length_eq, ?_, hs.entries_eq, ?_, hs.target?_eq, s.hasTransition_eq_isSome, ?_⟩
  · rintro before e after rfl
    obtain ⟨hbefore, hafter⟩ := List.forall_mem_append.mp hes
    have he := (hafter e List.mem_cons_self).holds
    have hanswer := blank.getElem?_attemptAll before after e
    rw [hanswer, Option.some.injEq, Option.some.injEq, attemptAll_concat]
    exact ⟨(hcollects before hbefore).attempt_iff he, attempt_of_refused⟩
  · rw [← hs.entries_eq, hs.inStep.map_fst_entries]
  · rw [hframe]
    exact ⟨rfl, rfl, rfl, rfl⟩

/-- Two handles of one name from different registries, and an attempt made twice. -/
theorem additions_are_ordered_map_two_registries :
    let calls : List Call := [.create, .intern .shared "go", .intern ⟨1⟩ "stop", .intern ⟨1⟩ "go"]
    let go : Condition := ⟨.shared, 1, "go"⟩
    let stop : Condition := ⟨⟨1⟩, 1, "stop"⟩
    let go' : Condition := ⟨⟨1⟩, 2, "go"⟩
    let es : List (Condition × StateId) := [(go, 4), (stop, 0), (go', 2), (stop, 0)]
    let run := ({ id := 3, name := "A" } : State).attemptAll es
    (∀ e ∈ es, Registries.Gave calls e.1) ∧ run.1 = [true, true, false, false] ∧
      run.2.transitions.entries = [(go, 4), (stop, 0)] ∧ run.2.target? "go" = some 4 ∧
      run.2.hasTransition "pause" = false ∧ run.2.name = "A" := by
  intro calls go stop go' es run
  have hgo : Registries.Gave calls go :=
    ⟨_, _, calls.take 1, .intern .shared "go", calls.drop 2, rfl, rfl, by decide +kernel⟩
  have hstop : Registries.Gave calls stop :=
    ⟨_, _, calls.take 2, .intern ⟨1⟩ "stop", calls.drop 3, rfl, rfl, by decide +kernel⟩
  have hgo' : Registries.Gave calls go' :=
    ⟨_, _, calls.take 3, .intern ⟨1⟩ "go", [], rfl, rfl, by decide +kernel⟩
  have hes : ∀ e ∈ es, Registries.Gave calls e.1 := by
    simp only [es, List.forall_mem_cons, List.not_mem_nil, false_imp_iff, implies_true, and_true]
    exact ⟨hgo, hstop, hgo', hstop⟩
  have hanswers : run.1 = [true, true, false, false] := by decide +kernel
  obtain ⟨-, -, hentries, -, htarget, htransition, -, hname, -⟩ :=
    additions_are_ordered_map calls 3 "A" none none es hes
  refine ⟨hes, hanswers, ?_, htarget "go", ?_, hname⟩
  · exact hentries.trans (congrArg (accepted es) hanswers)
  · exact (htransition "pause").trans (congrArg Option.isSome (htarget "pause"))

end State

end Workflow
