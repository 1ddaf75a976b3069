import Mathlib.Data.List.Basic
import Workflow.Hook
import Workflow.Proofs.Definition.Outcome

/-! Why a definition is rejected, said without building anything: lists are gone through in order, and
the first fault of the first list that has one decides. -/

namespace Workflow

section FirstFault

variable {α ε : Type} {fault? : List α → α → Option ε} {x : α} {xs before : List α} {e : ε}

/-- No item has a fault after those before it. -/
def Faultless (fault? : List α → α → Option ε) (xs : List α) : Prop :=
  ∀ before x after, xs = before ++ x :: after → fault? before x = none

/-- The items before are without fault, and the next one has the fault. -/
structure FirstFault (fault? : List α → α → Option ε) (xs before : List α) (e : ε) : Prop where
  faultless : Faultless fault? before
  next : ∃ x after, xs = before ++ x :: after ∧ fault? before x = some e

/-- Goes through a list up to the first fault: the items without fault, and the fault if there is
one. -/
def examine (fault? : List α → α → Option ε) : List α → List α × Option ε
  | [] => ([], none)
  | x :: xs =>
    match fault? [] x with
    | some e => ([], some e)
    | none =>
      let rest := examine (fun earlier => fault? (x :: earlier)) xs
      (x :: rest.1, rest.2)

theorem faultless_cons_iff :
    Faultless fault? (x :: xs) ↔
      fault? [] x = none ∧ Faultless (fun earlier => fault? (x :: earlier)) xs := by
  constructor
  · intro h
    refine ⟨h [] x xs rfl, fun before y after hxs => ?_⟩
    exact h (x :: before) y after (congrArg (x :: ·) hxs)
  · rintro ⟨hx, hrest⟩ before y after hxs
    cases before with
    | nil =>
      obtain ⟨rfl, -⟩ := List.cons.inj hxs
      exact hx
    | cons z before =>
      obtain ⟨rfl, htail⟩ := List.cons.inj hxs
      exact hrest before y after htail

theorem firstFault_cons_iff :
    FirstFault fault? (x :: xs) before e ↔
      (before = [] ∧ fault? [] x = some e) ∨
        ∃ rest, before = x :: rest ∧ fault? [] x = none ∧
          FirstFault (fun earlier => fault? (x :: earlier)) xs rest e := by
  constructor
  · rintro ⟨hbefore, y, after, hxs, hy⟩
    cases before with
    | nil =>
      obtain ⟨rfl, -⟩ := List.cons.inj hxs
      exact .inl ⟨rfl, hy⟩
    | cons z before =>
      obtain ⟨rfl, htail⟩ := List.cons.inj hxs
      obtain ⟨hx, hrest⟩ := faultless_cons_iff.mp hbefore
      exact .inr ⟨before, rfl, hx, hrest, y, after, htail, hy⟩
  · rintro (⟨rfl, hx⟩ | ⟨rest, rfl, hx, hrest, y, after, rfl, hy⟩)
    · exact ⟨fun before y after h => by simp at h, x, xs, rfl, hx⟩
    · exact ⟨faultless_cons_iff.mpr ⟨hx, hrest⟩, y, after, rfl, hy⟩

theorem examine_eq_none_iff : (examine fault? xs).2 = none ↔ Faultless fault? xs := by
  induction xs generalizing fault? with
  | nil => exact iff_of_true rfl fun before x after h => by simp at h
  | cons x xs ih =>
    rw [faultless_cons_iff, ← ih]
    cases hx : fault? [] x <;> simp [examine, hx]

theorem fst_examine_of_faultless (h : Faultless fault? xs) : (examine fault? xs).1 = xs := by
  induction xs generalizing fault? with
  | nil => rfl
  | cons x xs ih =>
    obtain ⟨hx, hrest⟩ := faultless_cons_iff.mp h
    simp only [examine, hx, ih hrest]

theorem examine_eq_some_iff :
    examine fault? xs = (before, some e) ↔ FirstFault fault? xs before e := by
  induction xs generalizing fault? before with
  | nil => exact iff_of_false (by simp [examine]) fun ⟨_, x, after, h, _⟩ => by simp at h
  | cons x xs ih =>
    rw [firstFault_cons_iff]
    cases hx : fault? [] x with
    | some e' => simp [examine, hx, eq_comm]
    | none =>
      simp only [examine, hx, Prod.mk.injEq, reduceCtorEq, and_false, false_or, true_and, ← ih]
      constructor
      · rintro ⟨rfl, he⟩
        exact ⟨_, rfl, Prod.ext rfl he⟩
      · rintro ⟨rest, rfl, hrest⟩
        simp only [hrest, and_self]

theorem exists_of_examine (h : (examine fault? xs).2 = some e) :
    ∃ before x, x ∈ xs ∧ fault? before x = some e := by
  obtain ⟨-, x, after, hxs, hx⟩ := examine_eq_some_iff.mp (Prod.ext rfl h)
  have hmem : x ∈ (examine fault? xs).1 ++ x :: after :=
    List.mem_append_right _ List.mem_cons_self
  exact ⟨_, x, hxs ▸ hmem, hx⟩

theorem examine_append (fault? : List α → α → Option ε) (xs ys : List α) :
    examine fault? (xs ++ ys) =
      match (examine fault? xs).2 with
      | some e => ((examine fault? xs).1, some e)
      | none =>
        let rest := examine (fun earlier => fault? (xs ++ earlier)) ys
        (xs ++ rest.1, rest.2) := by
  induction xs generalizing fault? with
  | nil => rfl
  | cons x xs ih =>
    cases hx : fault? [] x with
    | some e => simp [examine, hx]
    | none =>
      simp only [List.cons_append, examine, hx, ih]
      cases (examine (fun earlier => fault? (x :: earlier)) xs).2 <;> rfl

end FirstFault

namespace DefinitionError

/-- The error is one of a transition, found while conditions are interned. -/
def concernsTransition : DefinitionError → Bool
  | duplicateCondition _ _ | unknownTarget _ _ _ => true
  | _ => false

/-- The condition that is interned once more before it is found to be a repetition. -/
def repeated? : DefinitionError → Option String
  | duplicateCondition _ condition => some condition
  | _ => none

variable {e : DefinitionError}

theorem repeated?_eq_none (h : e.concernsTransition = false) : e.repeated? = none := by
  cases e <;> first | rfl | simp [concernsTransition] at h

theorem concernsTransition_of_isSyntactic (h : e.isSyntactic = true) :
    e.concernsTransition = false := by
  cases e <;> first | rfl | simp [isSyntactic] at h

end DefinitionError

def BoundHook.fault? (earlier : List BoundHook) (b : BoundHook) : Option DefinitionError :=
  (earlier.find? fun first => first.name == b.name).map fun first =>
    .duplicateBinding b.name first.host b.host

/-- The name of a declaration comes first, then its enter hook and then its leave hook. -/
def Declaration.fault? (offered : List String) (earlier : List Declaration) (d : Declaration) :
    Option DefinitionError :=
  if d.name ∈ earlier.map Declaration.name then some (.duplicateState d.name)
  else (d.hooks.find? fun hook => hook ∉ offered).map (.missingMethod d.name)

/-- A transition in the state that declares it. -/
abbrev Placed := String × Transition

def Placed.key (x : Placed) : String × String := (x.1, x.2.condition)

/-- The target of a transition comes first, then whether its condition is new in its state. No two states
share a name by then. -/
def Transition.fault? (names : List String) (earlier : List Placed) :
    Placed → Option DefinitionError
  | (state, t) =>
    if t.target ∉ names then some (.unknownTarget state t.condition t.target)
    else if (state, t.condition) ∈ earlier.map Placed.key then
      some (.duplicateCondition state t.condition)
    else none

section Fault

variable {e : DefinitionError}

theorem BoundHook.eq_of_fault? {earlier : List BoundHook} {b : BoundHook}
    (h : fault? earlier b = some e) : ∃ first ∈ earlier, e = .duplicateBinding b.name first.host b.host := by
  obtain ⟨first, hfirst, rfl⟩ := Option.map_eq_some_iff.mp h
  exact ⟨first, List.mem_of_find?_eq_some hfirst, rfl⟩

theorem Declaration.eq_of_fault? {offered : List String} {earlier : List Declaration}
    {d : Declaration} (h : fault? offered earlier d = some e) :
    e = .duplicateState d.name ∨ ∃ hook ∈ d.hooks, e = .missingMethod d.name hook := by
  unfold fault? at h
  split at h
  · exact .inl (Option.some.inj h).symm
  · obtain ⟨hook, hhook, rfl⟩ := Option.map_eq_some_iff.mp h
    exact .inr ⟨hook, List.mem_of_find?_eq_some hhook, rfl⟩

end Fault

def Declaration.placed (d : Declaration) : List Placed := d.transitions.map fun t => (d.name, t)

namespace Definition

def placed (ds : List Declaration) : List Placed := ds.flatMap Declaration.placed

def conditions (xs : List Placed) : List String := xs.map fun x => x.2.condition

/-- The conditions of the transitions without fault after earlier ones, and the first fault. -/
def seen (names : List String) (earlier xs : List Placed) : List String × Option DefinitionError :=
  let found := examine (fun before => Transition.fault? names (earlier ++ before)) xs
  (conditions found.1, found.2)

theorem eq_of_transition_fault? {names : List String} {earlier : List Placed} {x : Placed}
    {e : DefinitionError} (h : Transition.fault? names earlier x = some e) :
    e = .unknownTarget x.1 x.2.condition x.2.target ∨
      e = .duplicateCondition x.1 x.2.condition ∧
        x.2.condition ∈ conditions earlier := by
  obtain ⟨state, t⟩ := x
  rw [Transition.fault?] at h
  split at h
  · exact .inl (Option.some.inj h).symm
  · split at h
    · rename_i hrepeated
      obtain ⟨y, hy, hpair⟩ := List.mem_map.mp hrepeated
      have hcondition : y.2.condition = t.condition := congrArg Prod.snd hpair
      exact .inr ⟨(Option.some.inj h).symm, hcondition ▸ List.mem_map_of_mem hy⟩
    · simp at h

section Seen

variable {names : List String} {earlier : List Placed} {x : Placed} {e : DefinitionError}

theorem seen_cons_of_some (h : Transition.fault? names earlier x = some e) (xs : List Placed) :
    seen names earlier (x :: xs) = ([], some e) := by
  simp [seen, examine, h, conditions]

theorem seen_cons_of_none (h : Transition.fault? names earlier x = none) (xs : List Placed) :
    seen names earlier (x :: xs) =
      (x.2.condition :: (seen names (earlier ++ [x]) xs).1, (seen names (earlier ++ [x]) xs).2) := by
  simp [seen, examine, h, conditions]

theorem seen_append_of_some {xs : List Placed} (h : (seen names earlier xs).2 = some e)
    (ys : List Placed) : seen names earlier (xs ++ ys) = seen names earlier xs := by
  have hfault : (examine (fun before => Transition.fault? names (earlier ++ before)) xs).2 = some e := h
  simp [seen, examine_append, hfault]

theorem seen_append_of_none {xs : List Placed} (h : (seen names earlier xs).2 = none)
    (ys : List Placed) :
    seen names earlier (xs ++ ys) =
      ((seen names earlier xs).1 ++ (seen names (earlier ++ xs) ys).1,
        (seen names (earlier ++ xs) ys).2) := by
  have hfault : (examine (fun before => Transition.fault? names (earlier ++ before)) xs).2 = none := h
  have hpassed := fst_examine_of_faultless (examine_eq_none_iff.mp hfault)
  simp [seen, examine_append, hfault, hpassed, conditions]

end Seen

/-- Why a text is rejected with the hooks of the hosts, and the conditions that have been interned by
then. -/
inductive Rejected (text : String) (hosts : List Host) : DefinitionError → List String → Prop
  | unreadable {e : DefinitionError} (h : parse text = .error e) : Rejected text hosts e []
  | hosts {ds : List Declaration} {before : List BoundHook} {e : DefinitionError}
      (hparse : parse text = .ok ds)
      (h : FirstFault BoundHook.fault? (hosts.flatMap Host.registrations) before e) :
      Rejected text hosts e []
  | states {ds before : List Declaration} {e : DefinitionError} (hparse : parse text = .ok ds)
      (hhosts : Faultless BoundHook.fault? (hosts.flatMap Host.registrations))
      (h : FirstFault (Declaration.fault? (hosts.flatMap Host.hookNames)) ds before e) :
      Rejected text hosts e []
  | transitions {ds : List Declaration} {before : List Placed} {e : DefinitionError}
      (hparse : parse text = .ok ds)
      (hhosts : Faultless BoundHook.fault? (hosts.flatMap Host.registrations))
      (hstates : Faultless (Declaration.fault? (hosts.flatMap Host.hookNames)) ds)
      (h : FirstFault (Transition.fault? (ds.map Declaration.name)) (placed ds) before e) :
      Rejected text hosts e (conditions before)

def checked (offered : List String) (ds : List Declaration) : List String × Option DefinitionError :=
  match (examine (Declaration.fault? offered) ds).2 with
  | some e => ([], some e)
  | none => seen (ds.map Declaration.name) [] (placed ds)

def examined (text : String) (hosts : List Host) : List String × Option DefinitionError :=
  match parse text with
  | .error e => ([], some e)
  | .ok ds =>
    match (examine BoundHook.fault? (hosts.flatMap Host.registrations)).2 with
    | some e => ([], some e)
    | none => checked (hosts.flatMap Host.hookNames) ds

theorem examined_eq_some_iff {text : String} {hosts : List Host} {interned : List String}
    {e : DefinitionError} :
    examined text hosts = (interned, some e) ↔ Rejected text hosts e interned := by
  constructor
  · intro h
    unfold examined at h
    split at h
    · rename_i hparse
      cases h
      exact .unreadable hparse
    · rename_i ds hparse
      split at h
      · rename_i hhosts
        cases h
        exact .hosts hparse (examine_eq_some_iff.mp (Prod.ext rfl hhosts))
      · rename_i hhosts
        have hhosts := examine_eq_none_iff.mp hhosts
        unfold checked at h
        split at h
        · rename_i hstates
          cases h
          exact .states hparse hhosts (examine_eq_some_iff.mp (Prod.ext rfl hstates))
        · rename_i hstates
          have hstates := examine_eq_none_iff.mp hstates
          obtain ⟨rfl, he⟩ := Prod.mk.inj h
          exact .transitions hparse hhosts hstates (examine_eq_some_iff.mp (Prod.ext rfl he))
  · intro h
    cases h with
    | unreadable hparse => simp only [examined, hparse]
    | hosts hparse hhosts => simp only [examined, hparse, examine_eq_some_iff.mpr hhosts]
    | states hparse hhosts hstates =>
      simp only [examined, checked, hparse, examine_eq_none_iff.mpr hhosts,
        examine_eq_some_iff.mpr hstates]
    | transitions hparse hhosts hstates h =>
      have hfound : examine (fun before => Transition.fault? _ ([] ++ before)) (placed _) = (_, some e) :=
        examine_eq_some_iff.mpr h
      simp only [examined, checked, hparse, examine_eq_none_iff.mpr hhosts,
        examine_eq_none_iff.mpr hstates, seen, hfound]

theorem exists_of_examined_eq_none {text : String} {hosts : List Host}
    (h : (examined text hosts).2 = none) :
    ∃ ds, parse text = .ok ds ∧ (examined text hosts).1 = conditions (placed ds) := by
  unfold examined at h ⊢
  split at h
  · simp at h
  · rename_i ds hparse
    split at h
    · simp at h
    · unfold checked at h ⊢
      split at h
      · simp at h
      · have hfaultless : Faultless _ (placed ds) := examine_eq_none_iff.mp h
        exact ⟨ds, hparse, congrArg conditions (fst_examine_of_faultless hfaultless)⟩

theorem isSyntactic_of_parse {text : String} {e : DefinitionError} (h : parse text = .error e) :
    e.isSyntactic = true := by
  rcases parse_eq_error_iff.mp h with ⟨-, rfl⟩ | ⟨_, _, _, -, -, hfault⟩
  · rfl
  · cases hfault <;> rfl

namespace Rejected

variable {text : String} {hosts : List Host} {e : DefinitionError} {interned : List String}

theorem isSyntactic_iff (h : Rejected text hosts e interned) :
    e.isSyntactic = true ↔ ∃ e', parse text = .error e' := by
  cases h with
  | unreadable hparse => exact iff_of_true (isSyntactic_of_parse hparse) ⟨e, hparse⟩
  | hosts hparse h =>
    obtain ⟨b, after, -, hb⟩ := h.next
    obtain ⟨first, -, rfl⟩ := BoundHook.eq_of_fault? hb
    simp [hparse, DefinitionError.isSyntactic]
  | states hparse _ h =>
    obtain ⟨d, after, -, hd⟩ := h.next
    rcases Declaration.eq_of_fault? hd with rfl | ⟨hook, -, rfl⟩
    · simp [hparse, DefinitionError.isSyntactic]
    · simp [hparse, DefinitionError.isSyntactic]
  | transitions hparse _ _ h =>
    obtain ⟨x, after, -, hx⟩ := h.next
    rcases eq_of_transition_fault? hx with rfl | ⟨rfl, -⟩
    · simp [hparse, DefinitionError.isSyntactic]
    · simp [hparse, DefinitionError.isSyntactic]

theorem interned_eq_nil (h : Rejected text hosts e interned) (he : e.concernsTransition = false) :
    interned = [] := by
  cases h with
  | unreadable => rfl
  | hosts => rfl
  | states => rfl
  | transitions _ _ _ h =>
    obtain ⟨x, after, -, hx⟩ := h.next
    rcases eq_of_transition_fault? hx with rfl | ⟨rfl, -⟩
    · simp [DefinitionError.concernsTransition] at he
    · simp [DefinitionError.concernsTransition] at he

theorem mem_of_repeated? (h : Rejected text hosts e interned) {condition : String}
    (he : e.repeated? = some condition) : condition ∈ interned := by
  cases h with
  | unreadable hparse =>
    have hplain := DefinitionError.concernsTransition_of_isSyntactic (isSyntactic_of_parse hparse)
    simp [DefinitionError.repeated?_eq_none hplain] at he
  | hosts _ h =>
    obtain ⟨b, after, -, hb⟩ := h.next
    obtain ⟨first, -, rfl⟩ := BoundHook.eq_of_fault? hb
    simp [DefinitionError.repeated?] at he
  | states _ _ h =>
    obtain ⟨d, after, -, hd⟩ := h.next
    rcases Declaration.eq_of_fault? hd with rfl | ⟨hook, -, rfl⟩
    · simp [DefinitionError.repeated?] at he
    · simp [DefinitionError.repeated?] at he
  | transitions _ _ _ h =>
    obtain ⟨x, after, -, hx⟩ := h.next
    rcases eq_of_transition_fault? hx with rfl | ⟨rfl, hmem⟩
    · simp [DefinitionError.repeated?] at he
    · cases he
      exact hmem

end Rejected

end Definition

end Workflow
