import Workflow.Activity
import Workflow.Proofs.Machine.Footprint

/-! Interning over any history. Whoever calls a registry, in the end it has been a list of calls, so that
handles are canonical across builds, machines, hooks and third parties. -/

namespace Workflow

def Deed.calls (machine : Option Machine) (rs : Registries) : Deed → List Call
  | build text requests =>
    let b := Builder.ofRequests text requests
    (Machine.buildRequests b.text b.hosts (b.registry.getD .shared) rs).map fun request =>
      .intern request.1 request.2
  | operate x =>
    match machine with
    | none => []
    | some m => (x.requests m rs).map fun request => .intern request.1 request.2

namespace World

def callsOf (w : World) : Activity → List Call
  | .call call => [call]
  | .deed place d => d.calls (w.machine? place) w.registries

/-- The calls that activities amount to, one after the other. -/
def calls (w : World) : List Activity → List Call
  | [] => []
  | x :: xs => w.callsOf x ++ (w.engage x).calls xs

theorem registries_engage (w : World) (x : Activity) :
    (w.engage x).registries = w.registries.follow (w.callsOf x) := by
  cases x with
  | call call => rfl
  | deed place d =>
    cases d with
    | build text requests =>
      rw [callsOf, Deed.calls, Registries.follow_interns]
      exact Machine.registries_build ..
    | operate x =>
      simp only [engage, perform, put, Deed.perform, callsOf, Deed.calls]
      cases w.machine? place with
      | none => rfl
      | some m =>
        rw [Registries.follow_interns]
        exact Machine.registries_perform m w.registries x

theorem registries_engageAll (w : World) (xs : List Activity) :
    (w.engageAll xs).registries = w.registries.follow (w.calls xs) := by
  induction xs generalizing w with
  | nil => rfl
  | cons x xs ih =>
    rw [calls, Registries.follow_append, ← registries_engage]
    exact ih (w.engage x)

/-- Every machine in the world is in order, and its tables hold handles of its registry. -/
def InOrder (w : World) : Prop :=
  ∀ place m, w.machine? place = some m → m.WellFormed w.registries

theorem InOrder.mono {w w' : World} (h : w.InOrder) (hmachine : w'.machine? = w.machine?)
    (hrs : w.registries.Extends w'.registries) : w'.InOrder := by
  intro place m hm
  rw [hmachine] at hm
  exact (h place m hm).moved hrs m.position

theorem wellFormed_deed {machine : Option Machine} {rs : Registries}
    (h : ∀ m, machine = some m → m.WellFormed rs) (d : Deed) {m : Machine}
    (hm : (d.perform machine rs).machine = some m) : m.WellFormed (d.perform machine rs).registries := by
  cases d with
  | build text requests =>
    have hrs : rs.Extends ((Builder.ofRequests text requests).build rs).registries := by
      rw [Builder.build, Machine.registries_build]
      exact rs.extends_internAll _
    simp only [Deed.perform] at hm ⊢
    cases hbuilt : ((Builder.ofRequests text requests).build rs).outcome with
    | ok m' =>
      rw [hbuilt] at hm
      obtain rfl : m' = m := Option.some.inj hm
      exact Machine.wellFormed_of_build hbuilt
    | error e =>
      rw [hbuilt] at hm
      exact (h m hm).moved hrs m.position
  | operate x =>
    cases machine with
    | none => simp [Deed.perform] at hm
    | some m₀ =>
      obtain ⟨⟨p, hp⟩, hrs⟩ := Machine.keeps_perform m₀ rs x
      obtain rfl : (x.perform m₀ rs).machine = m := Option.some.inj hm
      exact hp ▸ (h m₀ rfl).moved hrs p

theorem extends_engage (w : World) (x : Activity) : w.registries.Extends (w.engage x).registries := by
  rw [registries_engage]
  exact w.registries.extends_follow _

theorem InOrder.engage {w : World} (h : w.InOrder) (x : Activity) : (w.engage x).InOrder := by
  cases x with
  | call call => exact h.mono rfl (w.extends_engage (.call call))
  | deed place d =>
    have hrs := w.extends_engage (.deed place d)
    intro other m hm
    by_cases hother : other = place
    · subst hother
      have hscene : (d.perform (w.machine? other) w.registries).machine = some m := by
        simpa [World.engage, perform, put] using hm
      exact wellFormed_deed (h other) d hscene
    · have hsame : w.machine? other = some m := by
        simpa [World.engage, perform, put, hother] using hm
      exact (h other m hsame).moved hrs m.position

theorem InOrder.engageAll {w : World} (h : w.InOrder) (xs : List Activity) : (w.engageAll xs).InOrder := by
  induction xs generalizing w with
  | nil => exact h
  | cons x xs ih => exact ih (h.engage x)

end World

theorem TransitionTable.Sound.lookup?_of_mem_entries {rs : Registries} {registry : RegistryId}
    {t : TransitionTable} (h : t.Sound rs registry) {e : Condition × StateId} (he : e ∈ t.entries) :
    rs.lookup? registry e.1.name = some e.1 := by
  rw [h.entries_eq] at he
  exact h.canonical e.1 (h.keys ▸ List.mem_map_of_mem he)

namespace World

/-- Over any history of calls, builds, operations and the hooks that these call, registries hold the
default condition and what has been interned, each once and for good. A handle is that of its registry and
name whenever it was given out, and equal to the handles of that name. -/
theorem interning_is_canonical (xs : List Activity) :
    let w := ({} : World).engageAll xs
    let calls := ({} : World).calls xs
    let after := ({} : Registries).follow
    w.registries = after calls ∧
      (∀ before rest, calls = before ++ rest →
        (after before).Records before ∧ (after before).Extends (after calls)) ∧
      (∀ before call rest, calls = before ++ call :: rest →
        (call.isQuery = true → after (before ++ [call]) = after before) ∧
        (call = .create → ∃ id, (call.perform (after before)).1 = .created id ∧ id ≠ .shared ∧
          (∀ earlier ∈ before, earlier.interned? id = none) ∧
          ∀ first middle, before = first ++ .create :: middle →
            (Call.create.perform (after first)).1 ≠ .created id)) ∧
      (∀ id name c, Registries.Gives calls id name c →
        c.name = name ∧ w.registries.lookup? id name = some c ∧
        ∀ id' name' c', Registries.Gives calls id' name' c' →
          (c.sameEntry c' = true ↔ id = id' ∧ name = name') ∧
          (c.equal c' = true ↔ c.name = c'.name) ∧
          (c.equal c' = true → c.hashCode = c'.hashCode)) ∧
      ∀ place m, w.machine? place = some m → ∀ s ∈ m.graph.states, ∀ e ∈ s.transitions.entries,
        w.registries.lookup? m.registry e.1.name = some e.1 := by
  intro w calls after
  have hregistries : w.registries = after calls := registries_engageAll {} xs
  refine ⟨hregistries, fun before rest hcalls => ?_, fun before call rest hcalls => ⟨fun hquery => ?_, ?_⟩,
    fun id name c hc => ?_, fun place m hm s hs e he => ?_⟩
  · refine ⟨Registries.records_follow before, ?_⟩
    simp only [after, hcalls, Registries.follow_append]
    exact Registries.extends_follow _ rest
  · simp only [after, Registries.follow_append]
    exact Call.perform_of_isQuery hquery _
  · rintro rfl
    exact Registries.created_is_new before
  · have hlookup := Registries.lookup?_of_gives hc
    obtain ⟨-, hname⟩ := Registries.name_of_lookup? hlookup
    refine ⟨hname, hregistries ▸ hlookup, fun id' name' c' hc' => ?_⟩
    have hlookup' := Registries.lookup?_of_gives hc'
    obtain ⟨-, hname'⟩ := Registries.name_of_lookup? hlookup'
    have hequal : c.equal c' = true ↔ c.name = c'.name := by
      rw [Registries.equal_iff hlookup hlookup', hname, hname']
    refine ⟨Registries.sameEntry_iff hlookup hlookup', hequal, fun h => ?_⟩
    rw [Condition.hashCode, Condition.hashCode, hequal.mp h]
  · have hempty : ({} : World).InOrder := fun _ _ h => by simp at h
    exact ((hempty.engageAll xs place m hm).tables_sound s hs).lookup?_of_mem_entries he

/-- A build, its hook, a machine and a third party intern in two registries. A name has one entry in
each, and its handles are equal. -/
theorem interning_is_canonical_two_registries :
    let h : Host := ⟨"h", [("in", ⟨[.intern "own" "entered"], none⟩)]⟩
    let xs : List Activity := [.call .create, .call (.label "own" .shared),
      .deed "a" (.build "(A, in) -> \x7bgo: A\x7d" [.host h]), .call (.lookup .shared "go"),
      .deed "a" (.operate (.move (.changeByName "new"))), .call (.intern ⟨1⟩ "go")]
    let calls := ({} : World).calls xs
    calls = [.create, .label "own" .shared, .intern .shared "go", .intern .shared "entered",
        .lookup .shared "go", .intern .shared "new", .intern ⟨1⟩ "go"] ∧
      ((({} : World).engageAll xs).registries.get .shared).size = 4 ∧
      ∃ c c', Registries.Gives calls .shared "go" c ∧ Registries.Gives calls ⟨1⟩ "go" c' ∧
        c.sameEntry c = true ∧ c.sameEntry c' = false ∧ c.equal c' = true ∧ c.hashCode = c'.hashCode := by
  intro h xs calls
  have hcalls : calls = [.create, .label "own" .shared, .intern .shared "go", .intern .shared "entered",
      .lookup .shared "go", .intern .shared "new", .intern ⟨1⟩ "go"] := by
    decide +kernel
  obtain ⟨hregistries, hrecords, -, hhandles, -⟩ := interning_is_canonical xs
  have hsize := (hrecords calls [] (List.append_nil calls).symm).1.size_eq .shared
  have hown : Registries.Gives calls .shared "go" ⟨.shared, 1, "go"⟩ := by
    rw [hcalls]
    exact ⟨[.create, .label "own" .shared, .intern .shared "go", .intern .shared "entered"],
      .lookup .shared "go", _, rfl, rfl, by decide +kernel⟩
  have hother : Registries.Gives calls ⟨1⟩ "go" ⟨⟨1⟩, 1, "go"⟩ := by
    rw [hcalls]
    exact ⟨[.create, .label "own" .shared, .intern .shared "go", .intern .shared "entered",
      .lookup .shared "go", .intern .shared "new"], .intern ⟨1⟩ "go", [], rfl, rfl, by decide +kernel⟩
  obtain ⟨-, -, hpairs⟩ := hhandles _ _ _ hown
  obtain ⟨hentry, hequal, hhash⟩ := hpairs _ _ _ hother
  have hsame := hequal.mpr rfl
  refine ⟨hcalls, ?_, _, _, hown, hother, (hpairs _ _ _ hown).1.mpr ⟨rfl, rfl⟩, ?_, hsame, hhash hsame⟩
  · rw [hregistries, hsize, hcalls]
    decide +kernel
  · exact Bool.eq_false_iff.mpr fun h => absurd (hentry.mp h).1 (by decide)

end World

end Workflow
