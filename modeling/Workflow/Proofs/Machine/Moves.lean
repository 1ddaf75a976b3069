import Workflow.Proofs.Machine.Footprint
import Workflow.Proofs.Machine.Refinement

/-! What one move comes to. It is refused and nothing changes, or a hook fails, or it leads to its target. -/

namespace Workflow

namespace Step

variable {α β : Type} {m : Machine} {made : m.graph.Position → α} {refused : α}
  {target : Option m.graph.Position} {s : Step α}

/-- The step is refused without a target, and otherwise leads there unless a hook fails. -/
inductive Settled (m : Machine) (made : m.graph.Position → α) (refused : α) :
    Option m.graph.Position → Step α → Prop
  | refused {s : Step α} (hmachine : s.machine = m) (houtcome : s.outcome = .ok refused) :
      Settled m made refused none s
  | failed {s : Step α} (p : m.graph.Position) (h : s.isFailed = true) :
      Settled m made refused (some p) s
  | made {s : Step α} (p : m.graph.Position) (hmachine : s.machine = { m with position := p })
      (houtcome : s.outcome = .ok (made p)) : Settled m made refused (some p) s

theorem Settled.map {made' : m.graph.Position → β} {refused' : β} (h : s.Settled m made refused target)
    (f : α → β) (hmade : ∀ p, target = some p → f (made p) = made' p) (hrefused : f refused = refused') :
    (s.map f).Settled m made' refused' target := by
  have hmap : ∀ answer, s.outcome = .ok answer → (s.map f).outcome = .ok (f answer) := by
    intro answer houtcome
    rw [Step.map, houtcome]
    rfl
  cases h with
  | refused hmachine houtcome => exact .refused hmachine (hrefused ▸ hmap refused houtcome)
  | failed p h => exact .failed p (by rwa [isFailed_map])
  | made p hmachine houtcome => exact .made p hmachine (hmade p rfl ▸ hmap (made p) houtcome)

theorem Settled.outcome_eq_refused_iff (h : s.Settled m made refused target)
    (hmade : ∀ p, target = some p → made p ≠ refused) : s.outcome = .ok refused ↔ target = none := by
  cases h with
  | refused hmachine houtcome => simp [houtcome]
  | failed p h =>
    have hne : s.outcome ≠ .ok refused := fun houtcome => by simp [isFailed, houtcome, Except.toOption] at h
    simp [hne]
  | made p hmachine houtcome => simp [houtcome, hmade p rfl]

theorem Settled.made_of_not_failed {p : m.graph.Position} (h : s.Settled m made refused (some p))
    (hfailed : s.isFailed = false) :
    s.machine = { m with position := p } ∧ s.outcome = .ok (made p) := by
  cases h with
  | failed _ h => simp [h] at hfailed
  | made _ hmachine houtcome => exact ⟨hmachine, houtcome⟩

end Step

namespace Machine

theorem settled_follow (m : Machine) (condition : String) (rs : Registries) :
    (m.follow condition rs).Settled m (fun p => some (m.graph.state p)) none
      (m.graph.next? m.position condition) := by
  unfold follow
  cases m.graph.next? m.position condition with
  | none => exact .refused rfl rfl
  | some p =>
    dsimp only
    split
    · exact .failed p rfl
    · exact .made p rfl rfl

theorem settled_changeByName (m : Machine) (name : String) (rs : Registries) :
    (m.changeByName name rs).Settled m (fun p => some (m.graph.state p)) none
      (m.graph.next? m.position name) := m.settled_follow name _

theorem settled_set (m : Machine) (name : String) (rs : Registries) :
    (m.set name rs).Settled m (fun _ => true) false (m.forcedTarget? name) := by
  unfold set
  cases m.forcedTarget? name with
  | none => exact .refused rfl rfl
  | some p =>
    dsimp only
    split
    · exact .failed p rfl
    · -- the position has changed by now, but an enter hook that fails ends the step all the same
      split
      · exact .failed p rfl
      · exact .made p rfl rfl

variable {hosts : List Host} {rs rs' : Registries} {ds : List Declaration} {m : Machine}

theorem Represents.not_isFailed (h : m.Represents hosts rs ds) (hreturn : Host.Return hosts) (x : Move)
    (rs' : Registries) : (x.perform m rs').isFailed = false := by
  have hcut := m.cutShort_perform (.move x) rs'
  have hnone : BoundHook.failure? (m.crossing ((Operation.move x).target? m)) = none :=
    BoundHook.failure?_eq_none_iff.mpr fun b hb =>
      hreturn b (h.mem_registrations_of_crossing _ b hb)
  have hfailed := hcut.not_isFailed_of_returns hnone
  rwa [Operation.perform, Step.isFailed_map] at hfailed

end Machine

end Workflow
