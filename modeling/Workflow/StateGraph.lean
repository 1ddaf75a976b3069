import Workflow.Definition
import Workflow.Hook
import Workflow.TransitionTable

/-! State graphs: declarations with their hooks bound, their conditions interned and their targets
resolved to positions. -/

namespace Workflow

/-- Where each state is, by its name. The latest entry of a name counts. -/
structure NameIndex where
  entries : List (String × StateId) := []

namespace NameIndex

def get? (index : NameIndex) (name : String) : Option StateId := index.entries.lookup name

def contains (index : NameIndex) (name : String) : Bool := (index.get? name).isSome

def insert (index : NameIndex) (name : String) (id : StateId) : NameIndex :=
  ⟨(name, id) :: index.entries⟩

/-- All names are those of the first `n` positions. -/
def Below (n : Nat) (index : NameIndex) : Prop :=
  ∀ name id, index.get? name = some id → id < n

theorem get?_insert (index : NameIndex) (name other : String) (id : StateId) :
    (index.insert name id).get? other = if other = name then some id else index.get? other := by
  by_cases h : other = name
  · simp [insert, get?, h]
  · simp [insert, get?, List.lookup_cons, h, beq_false_of_ne h]

theorem below_empty (n : Nat) : ({} : NameIndex).Below n := by
  simp [Below, get?]

theorem below_insert {n : Nat} {index : NameIndex} (hindex : index.Below n) (name : String) :
    (index.insert name n).Below (n + 1) := by
  intro other id h
  rw [get?_insert] at h
  split at h
  · simp only [Option.some.injEq] at h
    exact h ▸ Nat.lt_succ_self n
  · exact Nat.lt_succ_of_lt (hindex other id h)

end NameIndex

structure State where
  id : StateId
  name : String
  onEnter : Option BoundHook := none
  onLeave : Option BoundHook := none
  transitions : TransitionTable := {}

namespace State

def target? (s : State) (condition : String) : Option StateId := s.transitions.get? condition

def hasTransition (s : State) (condition : String) : Bool := s.transitions.contains condition

def addTransition? (s : State) (condition : Condition) (target : StateId) : Option State :=
  (s.transitions.insertNew? condition target).map fun transitions => { s with transitions }

def conditions (s : State) : List Condition := s.transitions.entries.map Prod.fst

/-- Resolves the transitions of a declaration one by one. A target has to be known before its
condition is interned, and a condition is interned before it is found to be a repetition. -/
def wire (index : NameIndex) (registry : RegistryId) (s : State) :
    List Transition → Registries → Except DefinitionError State × Registries
  | [], registries => (.ok s, registries)
  | t :: ts, registries =>
    match index.get? t.target with
    | none => (.error (.unknownTarget s.name t.condition t.target), registries)
    | some target =>
      let (condition, registries) := registries.intern registry t.condition
      match s.addTransition? condition target with
      | none => (.error (.duplicateCondition s.name t.condition), registries)
      | some s => s.wire index registry ts registries

theorem below_addTransition? {n : Nat} {s s' : State} {c : Condition} {target : StateId}
    (hs : s.transitions.Below n) (hn : target < n) (h : s.addTransition? c target = some s') :
    s'.transitions.Below n := by
  simp only [addTransition?, Option.map_eq_some_iff] at h
  obtain ⟨t, ht, rfl⟩ := h
  exact TransitionTable.below_insertNew? hs hn ht

theorem below_wire {n : Nat} {index : NameIndex} {registry : RegistryId} {s s' : State}
    {ts : List Transition} {registries registries' : Registries} (hindex : index.Below n)
    (hs : s.transitions.Below n) (h : s.wire index registry ts registries = (.ok s', registries')) :
    s'.transitions.Below n := by
  induction ts generalizing s registries with
  | nil =>
    simp only [wire, Prod.mk.injEq, Except.ok.injEq] at h
    exact h.1 ▸ hs
  | cons t ts ih =>
    simp only [wire] at h
    split at h
    · simp at h
    · rename_i target htarget
      split at h
      · simp at h
      · rename_i next hnext
        exact ih (below_addTransition? hs (hindex _ _ htarget) hnext) h

end State

structure Outline where
  states : List State := []
  index : NameIndex := {}

namespace Outline

def next (o : Outline) : StateId := o.states.length

def add (o : Outline) (name : String) (onEnter onLeave : Option BoundHook) : Outline where
  states := o.states ++ [{ id := o.next, name, onEnter, onLeave }]
  index := o.index.insert name o.next

def bindHook (bindings : Bindings) (state : String) :
    Option String → Except DefinitionError (Option BoundHook)
  | none => .ok none
  | some method =>
    match bindings.get? method with
    | some hook => .ok (some hook)
    | none => .error (.missingMethod state method)

def extend (bindings : Bindings) (o : Outline) : List Declaration → Except DefinitionError Outline
  | [] => .ok o
  | d :: ds =>
    if o.index.contains d.name then .error (.duplicateState d.name)
    else
      match bindHook bindings d.name d.onEnter, bindHook bindings d.name d.onLeave with
      | .error e, _ => .error e
      | .ok _, .error e => .error e
      | .ok onEnter, .ok onLeave => (o.add d.name onEnter onLeave).extend bindings ds

structure Closed (o : Outline) : Prop where
  index_below : o.index.Below o.states.length
  targets_below : ∀ s ∈ o.states, s.transitions.Below o.states.length

theorem closed_empty : ({} : Outline).Closed where
  index_below := NameIndex.below_empty _
  targets_below := by simp

theorem closed_extend {bindings : Bindings} {o o' : Outline} {ds : List Declaration}
    (hindex : o.index.Below o.states.length) (hblank : ∀ s ∈ o.states, s.transitions = {})
    (h : o.extend bindings ds = .ok o') :
    o'.index.Below o'.states.length ∧ (∀ s ∈ o'.states, s.transitions = {}) ∧
      o'.states.length = o.states.length + ds.length := by
  induction ds generalizing o with
  | nil =>
    simp only [extend, Except.ok.injEq] at h
    subst h
    exact ⟨hindex, hblank, rfl⟩
  | cons d ds ih =>
    simp only [extend] at h
    split at h
    · simp at h
    · split at h
      · simp at h
      · simp at h
      · rename_i onEnter onLeave _ _
        have hstates : (o.add d.name onEnter onLeave).states.length = o.states.length + 1 := by
          simp [add]
        have hindex' := NameIndex.below_insert hindex d.name
        obtain ⟨hb, ht, hl⟩ := ih (hstates ▸ hindex') (by
          intro s hs
          simp only [add, List.mem_append, List.mem_singleton] at hs
          rcases hs with hs | rfl
          · exact hblank s hs
          · rfl) h
        refine ⟨hb, ht, ?_⟩
        simp only [hl, hstates, List.length_cons]
        omega

end Outline

namespace StateGraph

def wireAll (index : NameIndex) (registry : RegistryId) :
    List (State × List Transition) → Registries → Except DefinitionError (List State) × Registries
  | [], registries => (.ok [], registries)
  | (s, ts) :: rest, registries =>
    match s.wire index registry ts registries with
    | (.error e, registries) => (.error e, registries)
    | (.ok s, registries) =>
      match wireAll index registry rest registries with
      | (.error e, registries) => (.error e, registries)
      | (.ok states, registries) => (.ok (s :: states), registries)

/-- All states are outlined before any is wired, so that a transition may lead to a state declared
later. -/
def compile (bindings : Bindings) (registry : RegistryId) (ds : List Declaration)
    (registries : Registries) : Except DefinitionError Outline × Registries :=
  if ds.isEmpty then (.error .noStates, registries)
  else
    match ({} : Outline).extend bindings ds with
    | .error e => (.error e, registries)
    | .ok o =>
      match wireAll o.index registry (o.states.zip (ds.map Declaration.transitions)) registries with
      | (.error e, registries) => (.error e, registries)
      | (.ok states, registries) => (.ok { o with states }, registries)

section Passes

variable {index : NameIndex} {registry : RegistryId} {bindings : Bindings}
  {registries registries' : Registries} {s next : State} {ts : List Transition}
  {todo : List (State × List Transition)} {states : List State} {ds : List Declaration} {o : Outline}

theorem wireAll_cons_of_error {e : DefinitionError}
    (h : s.wire index registry ts registries = (.error e, registries')) :
    wireAll index registry ((s, ts) :: todo) registries = (.error e, registries') := by
  rw [wireAll, h]

theorem wireAll_cons_of_ok (h : s.wire index registry ts registries = (.ok next, registries')) :
    wireAll index registry ((s, ts) :: todo) registries =
      ((wireAll index registry todo registries').1.map (next :: ·),
        (wireAll index registry todo registries').2) := by
  rw [wireAll, h]
  dsimp only
  generalize wireAll index registry todo registries' = wired
  obtain ⟨result, rest⟩ := wired
  cases result <;> rfl

theorem wireAll_nil_eq_ok_iff : wireAll index registry [] registries = (.ok states, registries') ↔
    states = [] ∧ registries' = registries := by
  rw [wireAll, Prod.mk.injEq, Except.ok.injEq, eq_comm (b := states), eq_comm (b := registries')]

theorem wireAll_cons_eq_ok_iff :
    wireAll index registry ((s, ts) :: todo) registries = (.ok states, registries') ↔
      ∃ next between later, s.wire index registry ts registries = (.ok next, between) ∧
        wireAll index registry todo between = (.ok later, registries') ∧ states = next :: later := by
  constructor
  · intro h
    rw [wireAll] at h
    split at h
    · cases h
    · rename_i next between hwire
      split at h
      · cases h
      · rename_i later rest hlater
        cases h
        exact ⟨next, between, later, hwire, hlater, rfl⟩
  · rintro ⟨next, between, later, hwire, hlater, rfl⟩
    rw [wireAll_cons_of_ok hwire, hlater]
    rfl

theorem length_wireAll (h : wireAll index registry todo registries = (.ok states, registries')) :
    states.length = todo.length := by
  induction todo generalizing states registries with
  | nil => simp [(wireAll_nil_eq_ok_iff.mp h).1]
  | cons x todo ih =>
    obtain ⟨next, between, later, -, hlater, rfl⟩ := wireAll_cons_eq_ok_iff.mp h
    rw [List.length_cons, List.length_cons, ih hlater]

theorem below_wireAll {n : Nat} (hindex : index.Below n) (htodo : ∀ x ∈ todo, x.1.transitions.Below n)
    (h : wireAll index registry todo registries = (.ok states, registries')) :
    ∀ s ∈ states, s.transitions.Below n := by
  induction todo generalizing states registries with
  | nil => simp [(wireAll_nil_eq_ok_iff.mp h).1]
  | cons x todo ih =>
    obtain ⟨next, between, later, hwire, hlater, rfl⟩ := wireAll_cons_eq_ok_iff.mp h
    intro s hs
    rcases List.mem_cons.mp hs with rfl | hs
    · exact State.below_wire hindex (htodo _ List.mem_cons_self) hwire
    · exact ih (fun y hy => htodo y (List.mem_cons_of_mem _ hy)) hlater s hs

theorem compile_of_extend (hds : ds ≠ []) (h : ({} : Outline).extend bindings ds = .ok o) :
    let wired := wireAll o.index registry (o.states.zip (ds.map Declaration.transitions)) registries
    compile bindings registry ds registries = (wired.1.map fun states => { o with states }, wired.2) := by
  have hne : ds.isEmpty = false := by simpa using hds
  simp only [compile, hne, Bool.false_eq_true, if_false, h]
  generalize wireAll o.index registry (o.states.zip (ds.map Declaration.transitions)) registries = wired
  obtain ⟨result, rest⟩ := wired
  cases result <;> rfl

theorem compile_eq_ok_iff : compile bindings registry ds registries = (.ok o, registries') ↔
    ds ≠ [] ∧ ∃ drawn states, ({} : Outline).extend bindings ds = .ok drawn ∧
      wireAll drawn.index registry (drawn.states.zip (ds.map Declaration.transitions)) registries =
        (.ok states, registries') ∧ o = { drawn with states } := by
  constructor
  · intro h
    rw [compile] at h
    split at h
    · cases h
    · rename_i hds
      split at h
      · cases h
      · rename_i drawn hdrawn
        split at h
        · cases h
        · rename_i states rest hwired
          cases h
          exact ⟨by simpa using hds, drawn, states, hdrawn, hwired, rfl⟩
  · rintro ⟨hds, drawn, states, hdrawn, hwired, rfl⟩
    rw [compile_of_extend hds hdrawn, hwired]
    rfl

theorem closed_compile (h : compile bindings registry ds registries = (.ok o, registries')) :
    o.Closed ∧ 0 < o.states.length := by
  obtain ⟨hds, drawn, states, hdrawn, hwired, rfl⟩ := compile_eq_ok_iff.mp h
  obtain ⟨hindex, hblank, hlength⟩ :=
    Outline.closed_extend Outline.closed_empty.index_below (by simp) hdrawn
  have hstates : states.length = drawn.states.length := by
    simp [length_wireAll hwired, hlength]
  have hbelow : ∀ x ∈ drawn.states.zip (ds.map Declaration.transitions),
      x.1.transitions.Below drawn.states.length := by
    intro x hx
    rw [hblank _ (List.of_mem_zip hx).1]
    simp [TransitionTable.Below]
  refine ⟨⟨hstates ▸ hindex, hstates ▸ below_wireAll hindex hbelow hwired⟩, ?_⟩
  have hpos := List.length_pos_iff.mpr hds
  simp only [hstates, hlength]
  omega

end Passes

end StateGraph

/-- The states of a machine, at least one, where each is by its name, and the one to begin in. No
position lies outside. -/
structure StateGraph where
  states : List State
  index : NameIndex
  initial : Fin states.length
  index_below : index.Below states.length
  targets_below : ∀ s ∈ states, s.transitions.Below states.length

namespace StateGraph

abbrev Position (g : StateGraph) := Fin g.states.length

def state (g : StateGraph) (position : g.Position) : State := g.states[position.val]

def find? (g : StateGraph) (name : String) : Option g.Position :=
  match h : g.index.get? name with
  | some id => some ⟨id, g.index_below name id h⟩
  | none => none

theorem map_val_find? (g : StateGraph) (name : String) :
    (g.find? name).map Fin.val = g.index.get? name := by
  unfold find?
  split <;> simp_all

theorem target_lt (g : StateGraph) {position : g.Position} {condition : String} {target : StateId}
    (h : (g.state position).target? condition = some target) : target < g.states.length :=
  TransitionTable.lt_of_get?_eq_some (g.targets_below _ (List.getElem_mem position.isLt)) h

def next? (g : StateGraph) (position : g.Position) (condition : String) : Option g.Position :=
  match h : (g.state position).target? condition with
  | some target => some ⟨target, g.target_lt h⟩
  | none => none

theorem map_val_next? (g : StateGraph) (position : g.Position) (condition : String) :
    (g.next? position condition).map Fin.val = (g.state position).target? condition := by
  unfold next?
  split <;> simp_all

/-- The graph of the declarations. What was interned before a failure stays interned. -/
def build (bindings : Bindings) (registry : RegistryId) (ds : List Declaration)
    (registries : Registries) : Except DefinitionError StateGraph × Registries :=
  match h : compile bindings registry ds registries with
  | (.error e, registries') => (.error e, registries')
  | (.ok o, registries') =>
    have hclosed := closed_compile h
    (.ok {
      states := o.states
      index := o.index
      initial := ⟨0, hclosed.2⟩
      index_below := hclosed.1.index_below
      targets_below := hclosed.1.targets_below }, registries')

def outline (g : StateGraph) : Outline := ⟨g.states, g.index⟩

theorem map_outline_build (bindings : Bindings) (registry : RegistryId) (ds : List Declaration)
    (registries : Registries) :
    ((build bindings registry ds registries).1.map outline,
      (build bindings registry ds registries).2) = compile bindings registry ds registries := by
  unfold build
  split <;> simp_all [Except.map, outline]

end StateGraph

end Workflow
