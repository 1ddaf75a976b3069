import Mathlib.Logic.Relation
import Workflow.Proofs.Machine.Acceptance
import Workflow.Proofs.Machine.Invariant
import Workflow.Proofs.Machine.View

/-! Hooks that fail. They leave a machine in a known state, and the machine goes on from there like
one that has been synced to it. -/

namespace Workflow

namespace Machine

def crossing (m : Machine) : Option m.graph.Position → List BoundHook
  | none => []
  | some target => m.current.onLeave.toList ++ (m.graph.state target).onEnter.toList

end Machine

namespace Operation

/-- Where an operation leads that calls hooks. -/
def target? (m : Machine) : Operation → Option m.graph.Position
  | move (.change condition) => m.graph.next? m.position condition.name
  | move (.changeByName name) => m.graph.next? m.position name
  | move (.set name) => m.forcedTarget? name
  | move (.sync _) => none
  | inspect _ => none

end Operation

/-- The hooks called are the expected ones up to the first that fails, the step fails if one does and
with its text, and of the machine only the position may differ. -/
structure Step.CutShort {α : Type} (m : Machine) (hooks : List BoundHook) (s : Step α) : Prop where
  callbacks : s.trail.callbacks = (BoundHook.attempted hooks).flatMap BoundHook.trail
  failure : ∀ text, s.outcome = .error text ↔ BoundHook.failure? hooks = some text
  machine : ∃ p, s.machine = { m with position := p }

theorem Step.CutShort.map {α β : Type} {m : Machine} {hooks : List BoundHook} {s : Step α}
    (h : s.CutShort m hooks) (f : α → β) : (s.map f).CutShort m hooks where
  callbacks := h.callbacks
  failure text := by
    rw [← h.failure, Step.map]
    cases s.outcome <;> simp [Except.map]
  machine := h.machine

theorem Step.CutShort.not_isFailed_of_returns {α : Type} {m : Machine} {hooks : List BoundHook}
    {s : Step α} (h : s.CutShort m hooks) (hreturns : BoundHook.failure? hooks = none) :
    s.isFailed = false := by
  cases houtcome : s.outcome with
  | ok answer => simp [isFailed, houtcome, Except.toOption]
  | error text =>
    have hfails := (h.failure text).mp houtcome
    simp [hreturns] at hfails

namespace Machine

open Definition (Accepted enterHook?)

/-- Some operations on `m`, against any registries, lead to `m'`. -/
def Reachable : Machine → Machine → Prop :=
  Relation.ReflTransGen fun m m' => ∃ (x : Operation) (rs : Registries), m' = (x.perform m rs).machine

theorem Reachable.eq_moved {m m' : Machine} (h : m.Reachable m') :
    ∃ p, m' = { m with position := p } := by
  induction h with
  | refl => exact ⟨m.position, rfl⟩
  | tail _ hstep ih =>
    obtain ⟨p, rfl⟩ := ih
    obtain ⟨x, rs, rfl⟩ := hstep
    exact (keeps_perform { m with position := p } rs x).machine

theorem callbacks_report {e : Event} (he : (Entry.event e).isCallback = false) (bs : List BoundHook) :
    Trail.callbacks (.event e :: bs.flatMap BoundHook.trail) = bs.flatMap BoundHook.trail := by
  rw [Trail.callbacks, List.filter_cons_of_neg (by simp [he])]
  exact BoundHook.callbacks_flatMap_trail bs

theorem cutShort_follow (m : Machine) (condition : String) (rs : Registries) :
    (m.follow condition rs).CutShort m (m.crossing (m.graph.next? m.position condition)) := by
  unfold follow
  cases m.graph.next? m.position condition with
  | none => exact ⟨rfl, fun text => by simp [crossing, BoundHook.failure?], m.position, rfl⟩
  | some target =>
    simp only [BoundHook.failure_callAll, BoundHook.trail_callAll, crossing]
    generalize m.current.onLeave.toList ++ (m.graph.state target).onEnter.toList = bs
    cases hfailure : BoundHook.failure? bs with
    | some text => exact ⟨callbacks_report rfl _, fun text' => by simp [hfailure], m.position, rfl⟩
    | none => exact ⟨callbacks_report rfl _, fun text' => by simp [hfailure], target, rfl⟩

theorem cutShort_set (m : Machine) (name : String) (rs : Registries) :
    (m.set name rs).CutShort m (m.crossing (m.forcedTarget? name)) := by
  unfold set
  cases m.forcedTarget? name with
  | none =>
    exact ⟨m.callbacks_refusal name, fun text => by simp [crossing, BoundHook.failure?], m.position, rfl⟩
  | some target =>
    simp only [BoundHook.failure_callAll, BoundHook.trail_callAll, crossing]
    cases hleave : BoundHook.failure? m.current.onLeave.toList with
    | some text =>
      refine ⟨?_, fun text' => by simp [BoundHook.failure?_append, hleave], m.position, rfl⟩
      rw [BoundHook.attempted_append_of_some hleave]
      exact callbacks_report rfl _
    | none =>
      refine ⟨?_, fun text' => ?_, target, rfl⟩
      · rw [BoundHook.attempted_append_of_none hleave, BoundHook.attempted_eq_self hleave,
          ← List.flatMap_append]
        exact callbacks_report rfl _
      · rw [BoundHook.failure?_append, hleave, Option.none_or]
        cases BoundHook.failure? (m.graph.state target).onEnter.toList <;> simp

theorem cutShort_sync (m : Machine) (name : String) (rs : Registries) :
    (m.sync name rs).CutShort m [] := by
  unfold sync
  split
  · exact ⟨m.callbacks_refusal name, fun text => by simp [BoundHook.failure?], m.position, rfl⟩
  · rename_i target _
    exact ⟨rfl, fun text => by simp [BoundHook.failure?], target, rfl⟩

theorem cutShort_perform (m : Machine) (x : Operation) (rs : Registries) :
    (x.perform m rs).CutShort m (m.crossing (x.target? m)) := by
  cases x with
  | inspect x => exact ⟨rfl, fun text => by simp [Operation.perform, Operation.target?, crossing,
      BoundHook.failure?], m.position, rfl⟩
  | move x =>
    refine Step.CutShort.map ?_ Answer.reply
    cases x with
    | change condition => exact (m.cutShort_follow condition.name rs).map Reply.moved
    | changeByName name =>
      exact (m.cutShort_follow name (rs.intern m.registry name).2).map Reply.moved
    | set name => exact (m.cutShort_set name rs).map Reply.forced
    | sync name => exact (m.cutShort_sync name rs).map Reply.forced

structure KnownAfterFailure (m : Machine) (rs : Registries) : Prop where
  change : ∀ c text, (m.change c rs).outcome = .error text → (m.change c rs).machine = m
  changeByName : ∀ name text, (m.changeByName name rs).outcome = .error text →
    (m.changeByName name rs).machine = m
  set_leave : ∀ name p b text, m.forcedTarget? name = some p → m.current.onLeave = some b →
    b.hook.failure = some text → (m.set name rs).outcome = .error text ∧
      (m.set name rs).machine = m ∧ (m.set name rs).trail.callbacks = b.trail
  set_enter : ∀ name p b text, m.forcedTarget? name = some p →
    (∀ l ∈ m.current.onLeave, l.hook.failure = none) → (m.graph.state p).onEnter = some b →
      b.hook.failure = some text → (m.set name rs).outcome = .error text ∧
        (m.set name rs).machine = { m with position := p } ∧
        (m.set name rs).machine.current.name = name
  sync : ∀ name, (∃ made, (m.sync name rs).outcome = .ok made) ∧ (m.sync name rs).trail.callbacks = []

theorem machine_follow_of_error {m : Machine} {condition text : String} {rs : Registries}
    (h : (m.follow condition rs).outcome = .error text) : (m.follow condition rs).machine = m := by
  revert h
  unfold follow
  split
  · exact fun _ => rfl
  · dsimp only
    split
    · exact fun _ => rfl
    · simp

section Set

variable {m : Machine} {name : String} {p : m.graph.Position} {rs : Registries}

theorem machine_set_of_leave {text : String} (hp : m.forcedTarget? name = some p)
    (hleave : BoundHook.failure? m.current.onLeave.toList = some text) :
    (m.set name rs).machine = m := by
  simp only [set, hp, BoundHook.failure_callAll, hleave]

theorem machine_set_of_left (hp : m.forcedTarget? name = some p)
    (hleave : BoundHook.failure? m.current.onLeave.toList = none) :
    (m.set name rs).machine = { m with position := p } := by
  simp only [set, hp, BoundHook.failure_callAll, hleave]

end Set

theorem Represents.name_of_forcedTarget? {hosts : List Host} {rs : Registries}
    {ds : List Declaration} {m : Machine} (h : m.Represents hosts rs ds) {name : String}
    {p : m.graph.Position} (hp : m.forcedTarget? name = some p) : (m.graph.state p).name = name := by
  obtain ⟨d, hd, hname⟩ := h.graph.find?_eq_some_iff.mp (Option.filter_eq_some_iff.mp hp).1
  exact (h.graph.realizes hd).name.trans hname

theorem Represents.knownAfterFailure {hosts : List Host} {rs : Registries} {ds : List Declaration}
    {m : Machine} (h : m.Represents hosts rs ds) (rs' : Registries) : m.KnownAfterFailure rs' where
  change c text herror := machine_follow_of_error herror
  changeByName name text herror := machine_follow_of_error herror
  set_leave name p b text hp hleave hb := by
    have hfailure : BoundHook.failure? m.current.onLeave.toList = some text :=
      BoundHook.failure?_toList_eq_some_iff.mpr ⟨b, hleave, hb⟩
    have hcut := m.cutShort_set name rs'
    rw [hp, crossing] at hcut
    refine ⟨(hcut.failure text).mpr ?_, machine_set_of_leave hp hfailure, ?_⟩
    · rw [BoundHook.failure?_append, hfailure, Option.some_or]
    · rw [hcut.callbacks, BoundHook.attempted_append_of_some hfailure, BoundHook.attempted_toList, hleave]
      exact List.flatMap_singleton ..
  set_enter name p b text hp hleave henter hb := by
    have hreturns : BoundHook.failure? m.current.onLeave.toList = none :=
      BoundHook.failure?_eq_none_iff.mpr fun l hl => hleave l (Option.mem_toList.mp hl)
    have hcut := m.cutShort_set name rs'
    rw [hp, crossing] at hcut
    refine ⟨(hcut.failure text).mpr ?_, machine_set_of_left hp hreturns, ?_⟩
    · rw [BoundHook.failure?_append, hreturns, Option.none_or]
      exact BoundHook.failure?_toList_eq_some_iff.mpr ⟨b, henter, hb⟩
    · rw [machine_set_of_left hp hreturns]
      exact h.name_of_forcedTarget? hp
  sync name := by
    have hcut := m.cutShort_sync name rs'
    refine ⟨?_, hcut.callbacks⟩
    cases houtcome : (m.sync name rs').outcome with
    | ok made => exact ⟨made, rfl⟩
    | error text =>
      have hfailure := (hcut.failure text).mp houtcome
      simp [BoundHook.failure?] at hfailure

/-- A machine that shows what `m` shows, synced to a position of `m`, shows what `m` shows there. -/
theorem Alike.sync {m₀ m : Machine} (h : Alike m₀ m) {name : String} {p : m.graph.Position}
    (hp : m.graph.find? name = some p) (rs : Registries) :
    Alike (m₀.sync name rs).machine { m with position := p } := by
  obtain ⟨p₀, hfind, hval⟩ : ∃ p₀, m₀.graph.find? name = some p₀ ∧ p₀.val = p.val := by
    have hsame := h.find? name
    rw [hp] at hsame
    generalize m₀.graph.find? name = o at hsame ⊢
    cases hsame with
    | some hval => exact ⟨_, rfl, hval⟩
  have hmoved : Alike { m₀ with position := p₀ } { m with position := p } := h.moved hval
  by_cases hcurrent : p₀ = m₀.position
  · have htarget : m₀.forcedTarget? name = none := by simp [Machine.forcedTarget?, hfind, hcurrent]
    rw [hcurrent] at hmoved
    simpa only [Machine.sync, htarget] using hmoved
  · have htarget : m₀.forcedTarget? name = some p₀ := by
      simp [Machine.forcedTarget?, hfind, hcurrent]
    simpa only [Machine.sync, htarget] using hmoved

theorem Represents.find?_name {hosts : List Host} {rs : Registries} {ds : List Declaration}
    {m : Machine} (h : m.Represents hosts rs ds) (p : m.graph.Position) :
    m.graph.find? (m.graph.state p).name = some p := by
  obtain ⟨d, hd⟩ := h.graph.exists_declaration p
  exact h.graph.find?_eq_some_iff.mpr ⟨d, hd, (h.graph.realizes hd).name.symm⟩

section Building

variable {text : String} {hosts : List Host} {registry : RegistryId} {rs : Registries} {m : Machine}

theorem alike_of_build {registry₀ : RegistryId} {rs₀ : Registries} {m₀ : Machine}
    (h₀ : (build text hosts registry₀ rs₀).outcome = .ok m₀)
    (h : (build text hosts registry rs).outcome = .ok m) : Alike m₀ m := by
  have houtcome := sameOutcome_of_view_eq (view_build text hosts registry₀ registry rs₀ rs)
  rw [h₀, h] at houtcome
  cases houtcome with
  | ok h => exact h

theorem exists_compile_of_hookFailed {failure : String}
    (h : (build text hosts registry rs).outcome = .error (.hookFailed failure)) :
    ∃ m rs', compile text hosts registry rs = (.ok m, rs') := by
  cases hcompile : compile text hosts registry rs with
  | mk result rs' =>
    cases result with
    | ok m => exact ⟨m, rs', rfl⟩
    | error e => simp [build, hcompile] at h

theorem build_eq_hookFailed_iff {failure : String} :
    (build text hosts registry rs).outcome = .error (.hookFailed failure) ↔
      (∃ ds, Definition.parse text = .ok ds ∧ Accepted hosts ds) ∧
        ∃ b, enterHook? text hosts = some b ∧ b.hook.failure = some failure := by
  rw [← BoundHook.failure?_toList_eq_some_iff]
  constructor
  · intro h
    obtain ⟨m, rs', hcompile⟩ := exists_compile_of_hookFailed h
    obtain ⟨ds, hparse, hhosts, -, hrepresents, -⟩ := represents_of_compile hcompile
    refine ⟨⟨ds, hparse, hrepresents.accepted hhosts⟩, ?_⟩
    rw [build_eq_of_compile hcompile, (entering_eq_of_compile hcompile).1] at h
    cases hfailure : BoundHook.failure? (enterHook? text hosts).toList <;> simp_all
  · rintro ⟨⟨ds, hparse, hds⟩, hfailure⟩
    obtain ⟨m, rs', hcompile⟩ : ∃ m rs', compile text hosts registry rs = (.ok m, rs') :=
      compile_of_accepted hparse hds
    rw [build_eq_of_compile hcompile, (entering_eq_of_compile hcompile).1, hfailure]

theorem callbacks_of_hookFailed {failure : String}
    (h : (build text hosts registry rs).outcome = .error (.hookFailed failure)) :
    (build text hosts registry rs).trail.callbacks =
      (enterHook? text hosts).toList.flatMap BoundHook.trail := by
  obtain ⟨m, rs', hcompile⟩ := exists_compile_of_hookFailed h
  rw [build_eq_of_compile hcompile, (entering_eq_of_compile hcompile).2]
  dsimp only
  exact callbacks_report rfl _

end Building

/-- A machine stays usable when hooks fail. If the enter hook of the first state does, no other hook
has been called and there is no machine. Later on, the hooks called are the expected ones up to the
first that fails, the state is a known one, and what follows is what follows on any machine of the
same definition that has been synced to that state. -/
theorem build_run_cut_short (text : String) (hosts : List Host) (registry : RegistryId)
    (rs : Registries) :
    let built := build text hosts registry rs
    (∀ failure, (built.outcome = .error (.hookFailed failure) ↔
        (∃ ds, Definition.parse text = .ok ds ∧ Accepted hosts ds) ∧
          ∃ b, enterHook? text hosts = some b ∧ b.hook.failure = some failure) ∧
      (built.outcome = .error (.hookFailed failure) →
        built.trail.callbacks = (enterHook? text hosts).toList.flatMap BoundHook.trail)) ∧
      ∀ m, built.outcome = .ok m → ∀ m', m.Reachable m' → ∀ rs', m'.KnownAfterFailure rs' ∧
        ∀ x : Operation, let s := x.perform m' rs'
          s.CutShort m' (m'.crossing (x.target? m')) ∧
            ∀ registry₀ rs₀ m₀, (build text hosts registry₀ rs₀).outcome = .ok m₀ →
              ∀ xs rs₁ rs₂ rs₃,
                (s.machine.runOperations rs₁ xs).map Step.view =
                  ((m₀.sync s.machine.current.name rs₂).machine.runOperations rs₃ xs).map Step.view := by
  refine ⟨fun failure => ⟨build_eq_hookFailed_iff, callbacks_of_hookFailed⟩, ?_⟩
  intro m hm m' hreachable rs'
  obtain ⟨p, rfl⟩ := hreachable.eq_moved
  obtain ⟨rs₁, hcompile, -⟩ := compile_of_build hm
  obtain ⟨ds, -, -, -, hrepresents, -⟩ := represents_of_compile hcompile
  have hmoved : ∀ q, ({ m with position := q } : Machine).Represents hosts rs₁ ds :=
    fun _ => ⟨hrepresents.graph⟩
  refine ⟨(hmoved p).knownAfterFailure rs', fun x => ⟨cutShort_perform _ x rs', ?_⟩⟩
  intro registry₀ rs₀ m₀ hm₀ xs rs₁' rs₂ rs₃
  obtain ⟨q, hq⟩ := (keeps_perform { m with position := p } rs' x).machine
  rw [hq]
  have hsynced := (alike_of_build hm₀ hm).sync (hrepresents.find?_name q) rs₂
  have hsame : List.Forall₂ Operation.Alike xs xs := List.forall₂_same.mpr fun x _ => .same x
  exact (hsynced.runOperations hsame rs₃ rs₁').symm

/-- An enter hook fails twice. The state before is kept when a condition is followed, and the new one
when the move is forced, from where the machine goes on. -/
theorem build_run_cut_short_twice :
    let text := "(A, , out) -> \x7bgo: B\x7d; (B, in) -> \x7bgo: A\x7d"
    let hosts : List Host := [⟨"h", [("in", ⟨[.write "entering", .intern "own" "new"], some "in failed"⟩),
      ("out", ⟨[.intern "own" "old", .write "leaving"], none⟩)]⟩]
    let rs : Registries := ({} : Registries).label "own" .shared
    let callbacks : Trail := [.event (.invoking "out" "h"), .line "leaving",
      .event (.invoking "in" "h"), .line "entering"]
    ∃ m, (build text hosts .shared rs).outcome = .ok m ∧
      let followed := (Operation.move (.changeByName "go")).perform m rs
      let forced := (Operation.move (.set "B")).perform followed.machine rs
      [followed, forced].map (fun s => (s.machine.current.name, s.isFailed, s.trail.callbacks)) =
          [("A", true, callbacks), ("B", true, callbacks)] ∧
        ∀ xs, (forced.machine.runOperations rs xs).map Step.view =
          ((m.sync "B" rs).machine.runOperations rs xs).map Step.view := by
  intro text hosts rs callbacks
  have hrun : (build text hosts .shared rs).outcome.toOption.map (fun m =>
      let followed := (Operation.move (.changeByName "go")).perform m rs
      let forced := (Operation.move (.set "B")).perform followed.machine rs
      [followed, forced].map fun s => (s.machine.current.name, s.isFailed, s.trail.callbacks)) =
      some [("A", true, callbacks), ("B", true, callbacks)] := by
    decide +kernel
  cases hm : (build text hosts .shared rs).outcome with
  | error e => simp [hm, Except.toOption] at hrun
  | ok m =>
    rw [hm] at hrun
    refine ⟨m, rfl, Option.some.inj hrun, fun xs => ?_⟩
    let followed := (Operation.move (.changeByName "go")).perform m rs
    have hreachable : m.Reachable followed.machine := .single ⟨.move (.changeByName "go"), rs, rfl⟩
    have hcurrent : ((Operation.move (.set "B")).perform followed.machine rs).machine.current.name = "B" :=
      congrArg Prod.fst (List.cons.inj (List.cons.inj (Option.some.inj hrun)).2).1
    obtain ⟨-, hlater⟩ := (build_run_cut_short text hosts .shared rs).2 m hm _ hreachable rs
    have hviews := (hlater (.move (.set "B"))).2 .shared rs m hm xs rs rs rs
    rwa [hcurrent] at hviews

end Machine

end Workflow
