import Workflow.Proofs.Machine.Moves
import Workflow.Proofs.Trail

/-! The log of a machine. Each operation reports what it comes to before any hook is called, so that the log
tells where the machine is. -/

namespace Workflow

namespace Move

/-- The condition that a move follows. -/
def condition? : Move → Option String
  | change condition => some condition.name
  | changeByName name => some name
  | _ => none

/-- The state that a move is forced to, and whether hooks are called. -/
def forced? : Move → Option (String × Bool)
  | set name => some (name, true)
  | sync name => some (name, false)
  | _ => none

end Move

namespace Machine

/-- What a move comes to from the machine `n`, and all that it puts into the trail: its report, if it has one,
and behind it the hooks called, each announced and then what it writes. -/
inductive Told (n : Machine) (x : Move) (step : Step (Reply State)) : Prop
  | moved {c : String} {t : State} (hx : x.condition? = some c) (hpeek : n.peek? c = some t)
      (houtcome : step.outcome = .ok (.moved (some t))) (hcurrent : step.machine.current = t)
      (htrail : step.trail = .event (.moved n.current.name c t.name) ::
        (n.current.onLeave.toList ++ t.onEnter.toList).flatMap BoundHook.trail)
  | ignored {c : String} (hx : x.condition? = some c) (hpeek : n.peek? c = none)
      (houtcome : step.outcome = .ok (.moved none)) (hmachine : step.machine = n)
      (htrail : step.trail = [.event (.ignored n.current.name c)])
  | forced {name : String} {hooks : Bool} {t : State} (hx : x.forced? = some (name, hooks))
      (hstate : n.state? name = some t) (hname : t.name = name) (hother : name ≠ n.current.name)
      (houtcome : step.outcome = .ok (.forced true)) (hcurrent : step.machine.current = t)
      (htrail : step.trail = .event (.forced n.current.name name hooks) ::
        (if hooks then n.current.onLeave.toList ++ t.onEnter.toList else []).flatMap BoundHook.trail)
  | unknown {name : String} {hooks : Bool} (hx : x.forced? = some (name, hooks))
      (hstate : n.state? name = none) (houtcome : step.outcome = .ok (.forced false))
      (hmachine : step.machine = n) (htrail : step.trail = [.event (.unknownState name)])
  | already {hooks : Bool} (hx : x.forced? = some (n.current.name, hooks))
      (houtcome : step.outcome = .ok (.forced false)) (hmachine : step.machine = n)
      (htrail : step.trail = [])

/-- Every move of a run is told, from the machine that the one before has left. -/
inductive Chronicled : Machine → List Move → List (Step (Reply State)) → Prop
  | nil (n : Machine) : Chronicled n [] []
  | cons {n : Machine} {x : Move} {step : Step (Reply State)} {xs : List Move}
      {steps : List (Step (Reply State))} (hstep : n.Told x step)
      (hrest : Chronicled step.machine xs steps) : Chronicled n (x :: xs) (step :: steps)

/-- The machine that steps have led to. -/
def after {α : Type} (m : Machine) (steps : List (Step α)) : Machine :=
  (steps.map Step.machine).getLastD m

variable {hosts : List Host} {rs : Registries} {ds : List Declaration} {m n : Machine} {x : Move}
  {step : Step (Reply State)}

theorem Told.lead (h : n.Told x step) :
    step.trail.debugEvents.length ≤ 1 ∧
      Event.Lead n.current.name step.trail.debugEvents step.machine.current.name := by
  cases h with
  | moved _ _ _ hcurrent htrail =>
    rw [htrail, Trail.debugEvents_report rfl, hcurrent]
    exact ⟨Nat.le_refl 1, .moves rfl rfl (.nil _)⟩
  | ignored _ _ _ hmachine htrail =>
    rw [htrail, hmachine]
    exact ⟨Nat.le_refl 1, .stays rfl rfl (.nil _)⟩
  | forced _ _ hname _ _ hcurrent htrail =>
    rw [htrail, Trail.debugEvents_report rfl, hcurrent, hname]
    exact ⟨Nat.le_refl 1, .moves rfl rfl (.nil _)⟩
  | unknown _ _ _ hmachine htrail =>
    rw [htrail, hmachine]
    exact ⟨Nat.le_refl 1, .stays rfl rfl (.nil _)⟩
  | already _ _ hmachine htrail =>
    rw [htrail, hmachine]
    exact ⟨Nat.zero_le 1, .nil _⟩

theorem Chronicled.lead {xs : List Move} {steps : List (Step (Reply State))}
    (h : m.Chronicled xs steps) :
    Event.Lead m.current.name (steps.flatMap fun step => step.trail.debugEvents)
      (m.after steps).current.name := by
  induction h with
  | nil n => exact .nil _
  | cons hstep _ ih =>
    rw [List.flatMap_cons, after, List.map_cons, List.getLastD_cons]
    exact hstep.lead.2.append ih

theorem Chronicled.length_debugEvents {xs : List Move} {steps : List (Step (Reply State))}
    (h : m.Chronicled xs steps) : ∀ step ∈ steps, step.trail.debugEvents.length ≤ 1 := by
  induction h with
  | nil n => simp
  | cons hstep _ ih => exact List.forall_mem_cons.mpr ⟨hstep.lead.1, ih⟩

theorem Represents.forced_cases (h : m.Represents hosts rs ds) (name : String) :
    (m.forcedTarget? name = none ∧ m.state? name = none ∧
        m.refusal name = [.event (.unknownState name)]) ∨
      (m.forcedTarget? name = none ∧ name = m.current.name ∧ m.refusal name = []) ∨
      ∃ p, m.forcedTarget? name = some p ∧ m.state? name = some (m.graph.state p) ∧
        (m.graph.state p).name = name ∧ name ≠ m.current.name := by
  cases hfind : m.graph.find? name with
  | none =>
    refine .inl ⟨?_, ?_, ?_⟩
    · rw [forcedTarget?, hfind, Option.filter_none]
    · rw [state?, hfind, Option.map_none]
    · rw [refusal, hfind]
  | some p =>
    have hstate : m.state? name = some (m.graph.state p) := by rw [state?, hfind, Option.map_some]
    have hrefusal : m.refusal name = [] := by rw [refusal, hfind]
    by_cases hp : p = m.position
    · obtain ⟨d, hd, hname⟩ := h.graph.find?_eq_some_iff.mp hfind
      refine .inr (.inl ⟨by simp [forcedTarget?, hfind, hp], ?_, hrefusal⟩)
      rw [← hname, current, ← hp, (h.graph.realizes hd).name]
    · have htarget : m.forcedTarget? name = some p := by simp [forcedTarget?, hfind, hp]
      refine .inr (.inr ⟨p, htarget, hstate, h.name_of_forcedTarget? htarget, fun hname => hp ?_⟩)
      exact Option.some.inj (hfind.symm.trans (hname ▸ h.find?_name m.position))

/-- A forced move that is refused is told, whether it would call hooks or not. -/
theorem Represents.told_of_refused (h : m.Represents hosts rs ds) {name : String} {hooks : Bool}
    (hx : x.forced? = some (name, hooks)) (htarget : m.forcedTarget? name = none)
    (houtcome : step.outcome = .ok (.forced false)) (hmachine : step.machine = m)
    (htrail : step.trail = m.refusal name) : m.Told x step := by
  rcases h.forced_cases name with ⟨-, hstate, hrefusal⟩ | ⟨-, rfl, hrefusal⟩ | ⟨p, hp, -⟩
  · exact .unknown hx hstate houtcome hmachine (htrail.trans hrefusal)
  · exact .already hx houtcome hmachine (htrail.trans hrefusal)
  · rw [htarget] at hp
    cases hp

theorem Represents.told_of_forced (h : m.Represents hosts rs ds) {name : String} {hooks : Bool}
    {p : m.graph.Position} (hx : x.forced? = some (name, hooks)) (htarget : m.forcedTarget? name = some p)
    (houtcome : step.outcome = .ok (.forced true)) (hcurrent : step.machine.current = m.graph.state p)
    (htrail : step.trail = .event (.forced m.current.name name hooks) ::
      (if hooks then m.crossing (some p) else []).flatMap BoundHook.trail) : m.Told x step := by
  rcases h.forced_cases name with ⟨hnone, -⟩ | ⟨hnone, -⟩ | ⟨q, hq, hstate, hname, hother⟩
  · rw [htarget] at hnone
    cases hnone
  · rw [htarget] at hnone
    cases hnone
  · obtain rfl : p = q := Option.some.inj (htarget.symm.trans hq)
    exact .forced hx hstate hname hother houtcome hcurrent htrail

theorem Represents.told_sync (h : m.Represents hosts rs ds) (name : String) (rs' : Registries) :
    m.Told (.sync name) ((m.sync name rs').map .forced) := by
  cases htarget : m.forcedTarget? name with
  | none =>
    refine h.told_of_refused rfl htarget ?_ ?_ ?_ <;> simp only [sync, htarget, Step.map]
    rfl
  | some p => refine h.told_of_forced rfl htarget ?_ ?_ ?_ <;> simp only [sync, htarget, Step.map] <;> rfl

section Hooks

variable (h : m.Represents hosts rs ds) (hreturn : Host.Return hosts)
include h hreturn

theorem Represents.failure_of_mem_crossing {p : m.graph.Position} :
    ∀ b ∈ m.crossing (some p), b.hook.failure = none :=
  fun b hb => hreturn b (h.mem_registrations_of_crossing (some p) b hb)

theorem Represents.told_follow {c : String} (hx : x.condition? = some c) (rs' : Registries) :
    m.Told x ((m.follow c rs').map .moved) := by
  cases hnext : m.graph.next? m.position c with
  | none =>
    have hpeek : m.peek? c = none := by rw [peek?, hnext, Option.map_none]
    refine .ignored hx hpeek ?_ ?_ ?_ <;> simp only [follow, hnext, Step.map]
    rfl
  | some p =>
    have hpeek : m.peek? c = some (m.graph.state p) := by rw [peek?, hnext, Option.map_some]
    obtain ⟨hfailure, htrail⟩ :=
      BoundHook.callAll_of_returns (h.failure_of_mem_crossing hreturn (p := p)) rs'
    rw [crossing] at hfailure htrail
    refine .moved hx hpeek ?_ ?_ ?_ <;> simp only [follow, hnext, hfailure, htrail, Step.map] <;> rfl

theorem Represents.told_set (name : String) (rs' : Registries) :
    m.Told (.set name) ((m.set name rs').map .forced) := by
  cases htarget : m.forcedTarget? name with
  | none =>
    refine h.told_of_refused rfl htarget ?_ ?_ ?_ <;> simp only [set, htarget, Step.map]
    rfl
  | some p =>
    obtain ⟨hleave, henter⟩ :=
      List.forall_mem_append.mp (h.failure_of_mem_crossing hreturn (p := p))
    obtain ⟨hleft, hleaving⟩ := BoundHook.callAll_of_returns hleave rs'
    obtain ⟨hentered, hentering⟩ := BoundHook.callAll_of_returns henter
      (BoundHook.callAll m.current.onLeave.toList rs').registries
    refine h.told_of_forced rfl htarget ?_ ?_ ?_ <;>
      simp only [set, htarget, hleft, hentered, hleaving, hentering, Step.map]
    · rfl
    · rfl
    · rw [if_true, crossing, List.flatMap_append]

theorem Represents.told_perform (x : Move) (rs' : Registries) : m.Told x (x.perform m rs') := by
  cases x with
  | change condition => exact h.told_follow hreturn rfl rs'
  | changeByName name => exact h.told_follow hreturn rfl _
  | set name => exact h.told_set hreturn name rs'
  | sync name => exact h.told_sync name rs'

end Hooks

section Announced

open Trail (Announced)

theorem Represents.announced_state (h : m.Represents hosts rs ds) (p : m.graph.Position) :
    Announced (hosts.flatMap Host.registrations) ((m.graph.state p).onEnter.toList.flatMap BoundHook.trail) ∧
      Announced (hosts.flatMap Host.registrations)
        ((m.graph.state p).onLeave.toList.flatMap BoundHook.trail) := by
  obtain ⟨henter, hleave⟩ := h.mem_registrations_of_state p
  exact ⟨.flatMap fun b hb => .hook (henter b hb), .flatMap fun b hb => .hook (hleave b hb)⟩

theorem Represents.announced_crossing (h : m.Represents hosts rs ds) {t : State}
    (ht : ∃ p, m.graph.state p = t) : Announced (hosts.flatMap Host.registrations)
      ((m.current.onLeave.toList ++ t.onEnter.toList).flatMap BoundHook.trail) := by
  obtain ⟨p, rfl⟩ := ht
  rw [List.flatMap_append]
  exact (h.announced_state m.position).2.append (h.announced_state p).1

theorem Told.announced (hstep : m.Told x step) (h : m.Represents hosts rs ds) :
    Announced (hosts.flatMap Host.registrations) step.trail := by
  cases hstep with
  | moved _ hpeek _ _ htrail =>
    obtain ⟨p, -, hp⟩ := Option.map_eq_some_iff.mp hpeek
    exact htrail ▸ .event _ (h.announced_crossing ⟨p, hp⟩)
  | ignored _ _ _ _ htrail => exact htrail ▸ .event _ (.nil _)
  | @forced _ hooks _ _ hstate _ _ _ _ htrail =>
    obtain ⟨p, -, hp⟩ := Option.map_eq_some_iff.mp hstate
    cases hooks with
    | true => exact htrail ▸ .event _ (h.announced_crossing ⟨p, hp⟩)
    | false => exact htrail ▸ .event _ (.nil _)
  | unknown _ _ _ _ htrail => exact htrail ▸ .event _ (.nil _)
  | already _ _ _ htrail => exact htrail ▸ .nil _

end Announced

section Messages

variable (h : m.Represents hosts rs ds) (hds : ∀ d ∈ ds, d.Legible)
include h hds

theorem Represents.isBlank_name (p : m.graph.Position) :
    ∀ c ∈ (m.graph.state p).name.toList, Text.isBlank c = false := by
  obtain ⟨d, hd⟩ := h.graph.exists_declaration p
  rw [(h.graph.realizes hd).name]
  exact (hds d (List.mem_of_getElem? hd)).name.isBlank

theorem Represents.isBlank_condition {condition : String} {t : State}
    (hpeek : m.peek? condition = some t) : ∀ c ∈ condition.toList, Text.isBlank c = false := by
  obtain ⟨p, hnext, -⟩ := Option.map_eq_some_iff.mp hpeek
  obtain ⟨d, hd⟩ := h.graph.exists_declaration m.position
  rw [h.graph.next?_eq hd] at hnext
  obtain ⟨t', hfind, -⟩ := Option.bind_eq_some_iff.mp hnext
  obtain rfl : t'.condition = condition := by simpa using List.find?_some hfind
  exact ((hds d (List.mem_of_getElem? hd)).transitions t' (List.mem_of_find?_eq_some hfind)).1.isBlank

theorem Told.target?_record (hstep : m.Told x step) :
    ∀ e ∈ step.trail.debugEvents, e.record.target? = e.target? := by
  have hcurrent := h.isBlank_name hds m.position
  cases hstep with
  | moved _ hpeek _ _ htrail =>
    have hcondition := h.isBlank_condition hds hpeek
    obtain ⟨p, -, rfl⟩ := Option.map_eq_some_iff.mp hpeek
    rw [htrail, Trail.debugEvents_report rfl, List.forall_mem_singleton]
    refine Event.target?_record ?_
    simp only [Event.names, List.forall_mem_cons, List.not_mem_nil, false_imp_iff, implies_true, and_true]
    exact ⟨hcurrent, hcondition, h.isBlank_name hds p⟩
  | ignored _ _ _ _ htrail =>
    rw [htrail]
    exact List.forall_mem_singleton.mpr (Event.target?_record (by simp [Event.names]))
  | forced _ hstate hname _ _ _ htrail =>
    obtain ⟨p, -, rfl⟩ := Option.map_eq_some_iff.mp hstate
    rw [htrail, Trail.debugEvents_report rfl, List.forall_mem_singleton]
    refine Event.target?_record ?_
    simp only [Event.names, List.forall_mem_cons, List.not_mem_nil, false_imp_iff, implies_true, and_true]
    exact ⟨hcurrent, hname ▸ h.isBlank_name hds p⟩
  | unknown _ _ _ _ htrail =>
    rw [htrail]
    exact List.forall_mem_singleton.mpr (Event.target?_record (by simp [Event.names]))
  | already _ _ _ htrail =>
    rw [htrail]
    exact List.forall_mem_nil _

end Messages

theorem Represents.chronicled_runMoves (h : m.Represents hosts rs ds) (hds : ∀ d ∈ ds, d.Legible)
    (hreturn : Host.Return hosts) (xs : List Move) (rs' : Registries) :
    m.Chronicled xs (m.runMoves rs' xs) ∧ ∀ step ∈ m.runMoves rs' xs,
      (∀ e ∈ step.trail.debugEvents, e.record.target? = e.target?) ∧
        Trail.Announced (hosts.flatMap Host.registrations) step.trail := by
  induction xs generalizing m rs' with
  | nil => exact ⟨.nil m, by simp [runMoves, run]⟩
  | cons x xs ih =>
    have htold := h.told_perform hreturn x rs'
    have hnext : (x.perform m rs').machine.Represents hosts rs ds := by
      obtain ⟨p, hp⟩ := (m.keeps_move rs' x).machine
      rw [hp]
      exact ⟨h.graph⟩
    obtain ⟨hchronicled, hsteps⟩ := ih hnext (x.perform m rs').registries
    exact ⟨.cons htold hchronicled,
      List.forall_mem_cons.mpr ⟨⟨htold.target?_record h hds, htold.announced h⟩, hsteps⟩⟩

end Machine

end Workflow
