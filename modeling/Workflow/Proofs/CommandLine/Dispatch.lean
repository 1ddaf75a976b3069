import Workflow.CommandLine.Repl
import Workflow.Proofs.Machine.Failure
import Workflow.Proofs.Text.Words

/-! What a line of a session does. Its first word and the one after it decide, and only a few commands
do more than answer. -/

namespace Workflow

theorem Step.CutShort.not_isFailed {α : Type} {m : Machine} {hooks : List BoundHook} {s : Step α}
    (h : s.CutShort m hooks) (hcallbacks : s.trail.callbacks = []) : s.isFailed = false := by
  have hnone : BoundHook.failure? hooks = none := by
    cases hooks with
    | nil => rfl
    | cons b hooks =>
      rw [h.callbacks, BoundHook.attempted] at hcallbacks
      split at hcallbacks <;> simp [BoundHook.trail] at hcallbacks
  exact h.not_isFailed_of_returns hnone

namespace CommandLine

open Text (Palette)

/-- A text that a line can hold as one word. -/
def IsWord (a : String) : Prop := a ≠ "" ∧ ∀ c ∈ a.toList, Text.isBlank c = false

instance (a : String) : Decidable (IsWord a) :=
  @instDecidableAnd _ _ inferInstance (List.decidableBAll _ _)

theorem lineWords_pair {a b : String} (ha : IsWord a) (hb : IsWord b) :
    lineWords (a ++ " " ++ b) = [a, b] := by
  have hblank : Text.isBlank ' ' = true := by decide
  have hlast : Text.words (b.toList ++ []) = [b.toList] :=
    Text.words_append hb.2 (by simpa using hb.1) (by simp)
  have hwords : Text.words (a.toList ++ ' ' :: b.toList) = [a.toList, b.toList] := by
    rw [List.append_nil] at hlast
    rw [Text.words_append ha.2 (by simpa using ha.1) (by simp [hblank]),
      Text.words_cons_of_isBlank hblank, hlast]
  simp [lineWords, hwords, String.toList_append]

theorem lineWords_eq_nil_iff {line : String} : lineWords line = [] ↔ command? line = none := by
  cases hwords : lineWords line <;> simp [command?, hwords]

namespace Instruction

def move? : Instruction → Option Move
  | change condition => some (.changeByName condition)
  | set state => some (.set state)
  | sync state => some (.sync state)
  | _ => none

variable {palette : Palette} {m : Machine} {rs : Registries} {i : Instruction} {x : Move}
  {step : Step String} {word : String} {argument : Option String} {line line' : String}

theorem execute_eq_none_iff : i.execute palette m rs = none ↔ i = quit := by
  cases i <;> simp [execute]

/-- What is printed about what came of a move. -/
def replyLine (palette : Palette) (source : String) : Instruction → Reply State → String
  | change _, .moved (some target) => madeLine palette source target.name
  | change condition, .moved none => refusedLine palette false source condition
  | set state, .forced made | sync state, .forced made => forcedLine palette source state made
  | _, _ => ""

theorem execute_of_move (palette : Palette) (m : Machine) (rs : Registries) (h : i.move? = some x) :
    i.execute palette m rs = some ((x.perform m rs).map (i.replyLine palette m.current.name)) := by
  cases i with
  | change condition =>
    cases h
    rw [Move.perform, Step.map_map, execute]
    congr 2
    funext target
    cases target <;> rfl
  | set state =>
    cases h
    rw [Move.perform, Step.map_map]
    rfl
  | sync state =>
    cases h
    rw [Move.perform, Step.map_map]
    rfl
  | help | quit | peek | current | is | conditions | listing | incomplete | unknown => simp [move?] at h

theorem execute_of_not_move (h : i.move? = none) (hstep : i.execute palette m rs = some step) :
    ∃ text, step = answer m rs text := by
  cases i <;> simp_all [execute, move?] <;> exact ⟨_, hstep.symm⟩

theorem ofWords_eq_quit_iff : ofWords word argument = quit ↔ word ∈ ["quit", "exit", "q"] := by
  unfold ofWords
  split <;> simp_all

theorem ofWords_sync {x : Move} (h : (ofWords "sync" argument).move? = some x) :
    ∃ state, x = .sync state := by
  cases argument with
  | none => cases h
  | some state =>
    cases h
    exact ⟨state, rfl⟩

theorem move?_ofWords (h : (ofWords word argument).move? = some x) :
    word ∈ ["change", "c", "set", "s", "sync"] ∧ argument.isSome := by
  unfold ofWords at h
  split at h <;> simp_all [move?]

theorem executeLine_eq_none_iff :
    executeLine palette m rs line = none ↔ ∃ word ∈ ["quit", "exit", "q"], command? line = some word := by
  unfold executeLine ofLine
  cases command? line with
  | none => simp
  | some word =>
    simp only [Option.map_some, execute_eq_none_iff, ofWords_eq_quit_iff, Option.some.injEq,
      exists_eq_right']

theorem eq_answer_of_executeLine (hstep : executeLine palette m rs line = some step)
    (h : ¬ ((∃ word ∈ ["change", "c", "set", "s", "sync"], command? line = some word) ∧
      (argument? line).isSome)) : ∃ text, step = answer m rs text := by
  unfold executeLine ofLine at hstep
  cases hcommand : command? line with
  | none =>
    rw [hcommand] at hstep
    exact ⟨"", (Option.some.inj hstep).symm⟩
  | some word =>
    rw [hcommand] at hstep
    refine execute_of_not_move (Option.eq_none_iff_forall_ne_some.mpr fun x hx => h ?_) hstep
    obtain ⟨hword, hargument⟩ := move?_ofWords hx
    exact ⟨⟨word, hword, hcommand⟩, hargument⟩

theorem executeLine_sync (hstep : executeLine palette m rs line = some step)
    (h : command? line = some "sync") : step.registries = rs ∧ step.trail.callbacks = [] := by
  unfold executeLine ofLine at hstep
  rw [h] at hstep
  cases hmove : (ofWords "sync" (argument? line)).move? with
  | none =>
    obtain ⟨text, rfl⟩ := execute_of_not_move hmove hstep
    exact ⟨rfl, rfl⟩
  | some x =>
    obtain ⟨state, rfl⟩ := ofWords_sync hmove
    cases (execute_of_move palette m rs hmove).symm.trans hstep
    change (m.sync state rs).registries = rs ∧ (m.sync state rs).trail.callbacks = []
    unfold Machine.sync
    split
    · exact ⟨rfl, m.callbacks_refusal state⟩
    · exact ⟨rfl, rfl⟩

theorem executeLine_congr (palette : Palette) (m : Machine) (rs : Registries)
    (hcommand : command? line = command? line') (hargument : argument? line = argument? line') :
    executeLine palette m rs line = executeLine palette m rs line' := by
  unfold executeLine ofLine
  rw [hcommand, hargument]

/-- A line answers, or makes one move and prints what came of it. -/
theorem executeLine_cases (hstep : executeLine palette m rs line = some step) :
    (∃ text, step = answer m rs text) ∨
      ∃ (x : Move) (report : Reply State → String), step = (x.perform m rs).map report := by
  unfold executeLine at hstep
  cases hline : ofLine line with
  | none =>
    rw [hline] at hstep
    exact .inl ⟨"", (Option.some.inj hstep).symm⟩
  | some i =>
    rw [hline] at hstep
    cases hmove : i.move? with
    | none => exact .inl (execute_of_not_move hmove hstep)
    | some x =>
      have hexecute := execute_of_move palette m rs hmove
      exact .inr ⟨x, _, (Option.some.inj (hexecute.symm.trans hstep)).symm⟩

theorem not_isFailed_of_callbacks (hstep : executeLine palette m rs line = some step)
    (h : step.trail.callbacks = []) : step.isFailed = false := by
  rcases executeLine_cases hstep with ⟨text, rfl⟩ | ⟨x, report, rfl⟩
  · rfl
  · have hcut := m.cutShort_perform (.move x) rs
    have hfailed := hcut.not_isFailed h
    rw [Operation.perform, Step.isFailed_map] at hfailed
    rwa [Step.isFailed_map]

end Instruction

namespace Repl

variable {r : Repl} {line line' : String}

theorem feed_congr (r : Repl) (hcommand : command? line = command? line')
    (hargument : argument? line = argument? line') : r.feed line = r.feed line' := by
  have hblank : (lineWords line).isEmpty = (lineWords line').isEmpty := by
    rw [Bool.eq_iff_iff, List.isEmpty_iff, List.isEmpty_iff, lineWords_eq_nil_iff, lineWords_eq_nil_iff,
      hcommand]
  unfold feed
  rw [hblank, Instruction.executeLine_congr _ _ _ hcommand hargument]

end Repl

end CommandLine

end Workflow
