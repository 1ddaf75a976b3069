import Workflow.CommandLine.Program

/-! What is written where. Answers go to the output, and all that a trail reports goes elsewhere. -/

namespace Workflow.CommandLine

namespace Output

theorem on_append (channel : Channel) (o o' : Output) :
    on channel (o ++ o') = on channel o ++ on channel o' := by
  simp [on]

theorem on_outLine (text : String) : on .out (outLine text) = text ++ "\n" := by
  simp [on, outLine]

theorem on_out_eq_empty {o : Output} (h : ∀ piece ∈ o, piece.1 = .err) : on .out o = "" := by
  have hnone : (o.filter fun piece => piece.1 = .out) = [] :=
    List.filter_eq_nil_iff.mpr fun piece hpiece => by simp [h piece hpiece]
  rw [on, hnone]
  rfl

end Output

namespace Reporter

theorem record_err (r : Reporter) (x : Record) : ∀ piece ∈ r.record x, piece.1 = .err := by
  unfold record
  split <;> simp [Output.errLine]

theorem trail_err (r : Reporter) (t : Trail) : ∀ piece ∈ r.trail t, piece.1 = .err := by
  intro piece hpiece
  obtain ⟨entry, -, hpiece⟩ := List.mem_flatMap.mp hpiece
  cases entry with
  | event e => exact r.record_err e.record piece hpiece
  | line name =>
    rcases List.mem_append.mp hpiece with hpiece | hpiece
    · exact r.record_err _ piece hpiece
    · simp only [Output.errLine, List.mem_singleton] at hpiece
      rw [hpiece]

end Reporter

namespace Setting

/-- The machine that a command works on, if its definition is read and accepted. -/
def machine? (s : Setting) (argument : String) : Option (Machine × Registries) :=
  match s.prepare argument with
  | .error _ => none
  | .ok (definition, names) =>
    let built := buildMachine definition names
    built.outcome.toOption.map fun m => (m, built.registries)

theorem buildMachine_of_machine? {s : Setting} {argument : String} {m : Machine} {rs : Registries}
    (h : s.machine? argument = some (m, rs)) :
    ∃ definition names, (buildMachine definition names).outcome = .ok m ∧
      (buildMachine definition names).registries = rs := by
  unfold machine? at h
  split at h
  · simp at h
  · rename_i definition names _
    obtain ⟨m', hm, hpair⟩ := Option.map_eq_some_iff.mp h
    obtain ⟨rfl, rfl⟩ := Prod.mk.inj hpair
    refine ⟨definition, names, ?_, rfl⟩
    cases houtcome : (buildMachine definition names).outcome with
    | error e => simp [houtcome, Except.toOption] at hm
    | ok made =>
      simp only [houtcome, Except.toOption, Option.some.injEq] at hm
      rw [hm]

/-- A command goes on with its machine, or it has none and fails without an answer. -/
theorem withMachine_cases (s : Setting) (argument : String) :
    (∃ m rs t, s.machine? argument = some (m, rs) ∧
        ∀ next, s.withMachine argument next = (next m rs).after (s.reporter.trail t)) ∨
      ∃ o : Outcome, s.machine? argument = none ∧ o.exitCode ≠ 0 ∧
        (∀ piece ∈ o.output, piece.1 = .err) ∧ ∀ next, s.withMachine argument next = o := by
  have hfailed : ∀ message, ∀ piece ∈ (s.failed message).output, piece.1 = .err := by
    simp [failed, Output.errLine]
  unfold machine? withMachine
  cases hprepare : s.prepare argument with
  | error e => exact .inr ⟨s.failed e.message, rfl, by simp [failed], hfailed e.message, fun _ => rfl⟩
  | ok prepared =>
    obtain ⟨definition, names⟩ := prepared
    let trail := (buildMachine definition names).trail
    dsimp only
    cases houtcome : (buildMachine definition names).outcome with
    | ok m => exact .inl ⟨m, _, trail, rfl, fun _ => rfl⟩
    | error e =>
      cases e with
      | hookFailed text =>
        exact .inr ⟨⟨Outcome.abortCode, s.reporter.trail trail⟩, rfl, by simp [Outcome.abortCode],
          s.reporter.trail_err trail, fun _ => rfl⟩
      | rejected e =>
        refine .inr ⟨(s.failed e.message).after (s.rejection e), rfl, by simp [failed, Outcome.after],
          fun piece hpiece => ?_, fun _ => rfl⟩
        rcases List.mem_append.mp hpiece with hrejection | hmessage
        · exact s.reporter.record_err _ piece hrejection
        · exact hfailed e.message piece hmessage

theorem on_out_withMachine (s : Setting) (argument : String) (next : Machine → Registries → Outcome) :
    (s.withMachine argument next).output.on .out =
      (s.machine? argument).elim "" fun x => (next x.1 x.2).output.on .out := by
  rcases s.withMachine_cases argument with ⟨m, rs, t, hmachine, hnext⟩ | ⟨o, hmachine, -, hsilent, hnext⟩
  · have htrail := Output.on_out_eq_empty (s.reporter.trail_err t)
    rw [hmachine, hnext, Outcome.after, Output.on_append, htrail, String.empty_append]
    rfl
  · rw [hmachine, hnext]
    exact Output.on_out_eq_empty hsilent

end Setting

end Workflow.CommandLine
