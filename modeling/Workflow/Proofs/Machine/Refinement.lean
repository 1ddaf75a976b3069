import Workflow.Interpreter
import Workflow.Proofs.Machine.Acceptance
import Workflow.Proofs.Machine.Invariant

/-! Refinement: a machine built of a text shows what an interpreter of the text shows, over every
run. -/

namespace Workflow

namespace Host

variable {hosts : List Host}

def Return (hosts : List Host) : Prop :=
  ∀ b ∈ hosts.flatMap registrations, b.hook.failure = none

instance (hosts : List Host) : Decidable (Return hosts) := List.decidableBAll _ _

theorem callbacks_append (hosts : List Host) (names names' : List String) :
    callbacks hosts (names ++ names') = callbacks hosts names ++ callbacks hosts names' := by
  rw [callbacks, List.filterMap_append, List.flatMap_append]
  rfl

theorem callAll_of_return (hreturn : Return hosts) (names : List String) (rs : Registries)
    {bs : List BoundHook}
    (hbs : bs = names.filterMap (⟨hosts.flatMap registrations⟩ : Bindings).get?) :
    (BoundHook.callAll bs rs).failure = none ∧
      (BoundHook.callAll bs rs).trail.callbacks = callbacks hosts names := by
  have hfailure : ∀ b ∈ bs, b.hook.failure = none := by
    intro b hb
    rw [hbs] at hb
    obtain ⟨name, -, hget⟩ := List.mem_filterMap.mp hb
    exact hreturn b (Bindings.mem_of_get? hget)
  obtain ⟨hnone, htrail⟩ := BoundHook.callAll_of_returns hfailure rs
  refine ⟨hnone, ?_⟩
  rw [htrail, BoundHook.callbacks_flatMap_trail, hbs]
  rfl

end Host

theorem Bindings.Binds.toList_eq {bindings : Bindings} {method : Option String}
    {hook : Option BoundHook} (h : bindings.Binds method hook) :
    hook.toList = method.toList.filterMap bindings.get? := by
  rw [h.eq_bind]
  cases method with
  | none => rfl
  | some name => cases hget : bindings.get? name <;> simp [hget]

namespace Interpreter

theorem declarations_perform (i : Interpreter) (x : Move) :
    (i.perform x).interpreter.declarations = i.declarations := by
  have hfollow : ∀ condition, (i.follow condition).interpreter.declarations = i.declarations := by
    intro condition
    unfold follow
    split <;> rfl
  have hforce : ∀ name hooks, (i.force name hooks).interpreter.declarations = i.declarations := by
    intro name hooks
    unfold force
    split
    · rfl
    · split <;> rfl
  cases x with
  | change condition => exact hfollow condition.name
  | changeByName name => exact hfollow name
  | set name => exact hforce name true
  | sync name => exact hforce name false

end Interpreter

namespace Machine

/-- The machine goes by the declarations of the interpreter, and both are at the same one. -/
structure Refines (hosts : List Host) (rs : Registries) (i : Interpreter) (m : Machine) :
    Prop where
  represents : m.Represents hosts rs i.declarations
  current : i.declarations[m.position.val]? = some i.current

/-- Making the step and taking the turn shows the same, and they lead to the same declaration. -/
structure Agrees (hosts : List Host) (s : Step (Reply State)) (t : Turn) : Prop where
  report : s.report = t.report hosts
  current : t.interpreter.declarations[s.machine.position.val]? = some t.interpreter.current

namespace Refines

variable {hosts : List Host} {rs : Registries} {i : Interpreter} {m : Machine}
  {name : String} {p : m.graph.Position} {d : Declaration}

theorem name_current (h : m.Refines hosts rs i) : m.current.name = i.current.name :=
  (h.represents.graph.realizes h.current).name

theorem exists_of_find? (h : m.Refines hosts rs i) (hfind : m.graph.find? name = some p) :
    ∃ d, i.declarations[p.val]? = some d ∧ d.name = name ∧ i.declared? name = some d := by
  obtain ⟨d, hd, hname⟩ := h.represents.graph.find?_eq_some_iff.mp hfind
  refine ⟨d, hd, hname, ?_⟩
  rw [Interpreter.declared?, h.represents.graph.find?_declaration, hfind, Option.bind_some, hd]

theorem declared?_of_find? (h : m.Refines hosts rs i) (hfind : m.graph.find? name = none) :
    i.declared? name = none := by
  rw [Interpreter.declared?, h.represents.graph.find?_declaration, hfind, Option.bind_none]

theorem next?_eq (h : m.Refines hosts rs i) (condition : String) :
    i.next? condition = (m.graph.next? m.position condition).bind fun p =>
      i.declarations[p.val]? := by
  rw [Interpreter.next?, h.represents.graph.next?_eq h.current, Option.bind_assoc]
  exact congrArg _ (funext fun t => h.represents.graph.find?_declaration t.target)

theorem eq_position_iff (h : m.Refines hosts rs i) (hd : i.declarations[p.val]? = some d) :
    p = m.position ↔ d.name = i.current.name := by
  constructor
  · rintro rfl
    rw [h.current, Option.some.injEq] at hd
    rw [hd]
  · intro hname
    have hp := h.represents.graph.find?_eq_some_iff.mpr ⟨d, hd, hname⟩
    have hcurrent := h.represents.graph.find?_eq_some_iff.mpr ⟨i.current, h.current, rfl⟩
    exact Option.some.inj (hp.symm.trans hcurrent)

theorem force_cases (h : m.Refines hosts rs i) (name : String) :
    (m.forcedTarget? name = none ∧
        ∀ hooks, i.force name hooks = { interpreter := i, reply := .forced false }) ∨
      ∃ p d, m.forcedTarget? name = some p ∧ i.declarations[p.val]? = some d ∧
        ∀ hooks, i.force name hooks =
          { interpreter := { i with current := d }, reply := .forced true
            hooks := if hooks then i.crossing d else [] } := by
  cases hfind : m.graph.find? name with
  | none =>
    have hdeclared := h.declared?_of_find? hfind
    refine .inl ⟨by simp [forcedTarget?, hfind], fun hooks => ?_⟩
    simp only [Interpreter.force, hdeclared]
  | some p =>
    obtain ⟨d, hd, rfl, hdeclared⟩ := h.exists_of_find? hfind
    have hsame := h.eq_position_iff hd
    by_cases hp : p = m.position
    · refine .inl ⟨by simp [forcedTarget?, hfind, hp], fun hooks => ?_⟩
      rw [Interpreter.force, hdeclared]
      exact if_pos (hsame.mp hp)
    · refine .inr ⟨p, d, by simp [forcedTarget?, hfind, hp], hd, fun hooks => ?_⟩
      rw [Interpreter.force, hdeclared]
      exact if_neg (mt hsame.mpr hp)

theorem agrees_sync (h : m.Refines hosts rs i) (name : String) (rs' : Registries) :
    Agrees hosts ((m.sync name rs').map Reply.forced) (i.force name false) := by
  rcases h.force_cases name with ⟨htarget, hforce⟩ | ⟨p, d, htarget, hd, hforce⟩
  · rw [hforce]
    simp only [Machine.sync, htarget]
    refine ⟨?_, h.current⟩
    simp only [Step.report, Step.map, Turn.report, h.name_current, callbacks_refusal]
    rfl
  · rw [hforce]
    have hname := (h.represents.graph.realizes hd).name
    simp only [Machine.sync, htarget]
    refine ⟨?_, hd⟩
    simp only [Step.report, Step.map, Turn.report, Machine.current, ← hname]
    rfl

section Hooks

variable (h : m.Refines hosts rs i) (hreturn : Host.Return hosts)
include h hreturn

theorem callAll_onLeave (rs' : Registries) :
    (BoundHook.callAll m.current.onLeave.toList rs').failure = none ∧
      (BoundHook.callAll m.current.onLeave.toList rs').trail.callbacks =
        Host.callbacks hosts i.current.onLeave.toList :=
  Host.callAll_of_return hreturn _ rs' (h.represents.graph.realizes h.current).onLeave.toList_eq

theorem callAll_onEnter (hd : i.declarations[p.val]? = some d) (rs' : Registries) :
    (BoundHook.callAll (m.graph.state p).onEnter.toList rs').failure = none ∧
      (BoundHook.callAll (m.graph.state p).onEnter.toList rs').trail.callbacks =
        Host.callbacks hosts d.onEnter.toList :=
  Host.callAll_of_return hreturn _ rs' (h.represents.graph.realizes hd).onEnter.toList_eq

theorem callAll_crossing (hd : i.declarations[p.val]? = some d) (rs' : Registries) :
    let bs := m.current.onLeave.toList ++ (m.graph.state p).onEnter.toList
    (BoundHook.callAll bs rs').failure = none ∧
      (BoundHook.callAll bs rs').trail.callbacks = Host.callbacks hosts (i.crossing d) := by
  refine Host.callAll_of_return hreturn _ rs' ?_
  have hleave := (h.represents.graph.realizes h.current).onLeave.toList_eq
  have henter := (h.represents.graph.realizes hd).onEnter.toList_eq
  rw [Interpreter.crossing, List.filterMap_append, ← hleave, ← henter]
  rfl

theorem agrees_follow (condition : String) (rs' : Registries) :
    Agrees hosts ((m.follow condition rs').map Reply.moved) (i.follow condition) := by
  have hnext := h.next?_eq condition
  cases htarget : m.graph.next? m.position condition with
  | none =>
    rw [htarget, Option.bind_none] at hnext
    simp only [Machine.follow, htarget, Interpreter.follow, hnext]
    refine ⟨?_, h.current⟩
    simp only [Step.report, Step.map, Turn.report, h.name_current]
    rfl
  | some p =>
    obtain ⟨d, hd⟩ := h.represents.graph.exists_declaration p
    rw [htarget, Option.bind_some, hd] at hnext
    obtain ⟨hfailure, hcallbacks⟩ := h.callAll_crossing hreturn hd rs'
    have hname := (h.represents.graph.realizes hd).name
    simp only [Machine.follow, htarget, Interpreter.follow, hnext, hfailure]
    refine ⟨?_, hd⟩
    simp only [Step.report, Step.map, Turn.report, Machine.current, ← hcallbacks, ← hname]
    rfl

theorem agrees_set (name : String) (rs' : Registries) :
    Agrees hosts ((m.set name rs').map Reply.forced) (i.force name true) := by
  rcases h.force_cases name with ⟨htarget, hforce⟩ | ⟨p, d, htarget, hd, hforce⟩
  · rw [hforce]
    simp only [Machine.set, htarget]
    refine ⟨?_, h.current⟩
    simp only [Step.report, Step.map, Turn.report, h.name_current, callbacks_refusal]
    rfl
  · rw [hforce]
    have hname := (h.represents.graph.realizes hd).name
    obtain ⟨hleaving, hleft⟩ := h.callAll_onLeave hreturn rs'
    obtain ⟨hentering, hentered⟩ :=
      h.callAll_onEnter hreturn hd (BoundHook.callAll m.current.onLeave.toList rs').registries
    simp only [Machine.set, htarget, hleaving, hentering]
    refine ⟨?_, hd⟩
    simp only [Step.report, Step.map, Turn.report, Machine.current, ← hname, if_true,
      Interpreter.crossing, Host.callbacks_append, ← hleft, ← hentered]
    exact congrArg _ (List.filter_append ..)

/-- One step: whatever the move and the registries, the machine and the interpreter show the same,
and are at the same declaration again. -/
theorem perform (x : Move) (rs' : Registries) :
    (x.perform m rs').report = (i.perform x).report hosts ∧
      (x.perform m rs').machine.Refines hosts rs (i.perform x).interpreter := by
  have hagrees : Agrees hosts (x.perform m rs') (i.perform x) := by
    cases x with
    | change condition => exact h.agrees_follow hreturn condition.name rs'
    | changeByName name => exact h.agrees_follow hreturn name (rs'.intern m.registry name).2
    | set name => exact h.agrees_set hreturn name rs'
    | sync name => exact h.agrees_sync name rs'
  obtain ⟨p, hp⟩ := (m.keeps_move rs' x).machine
  refine ⟨hagrees.report, ?_, hagrees.current⟩
  rw [hp, Interpreter.declarations_perform]
  exact ⟨h.represents.graph⟩

theorem runMoves (xs : List Move) (rs' : Registries) :
    (m.runMoves rs' xs).map Step.report = i.run hosts xs := by
  induction xs generalizing m i rs' with
  | nil => rfl
  | cons x xs ih =>
    obtain ⟨hreport, hnext⟩ := h.perform hreturn x rs'
    have hrest := ih hnext (x.perform m rs').registries
    rw [Interpreter.run, ← hreport, ← hrest]
    rfl

end Hooks

end Refines

/-- A machine is what an interpreter of its text is: it begins where that begins, with the same
callbacks, and shows the same over every run, as long as hooks return. -/
theorem build_refines_interpreter (text : String) (hosts : List Host) (registry : RegistryId)
    (rs : Registries) (m : Machine) (hreturn : Host.Return hosts)
    (hbuild : (build text hosts registry rs).outcome = .ok m) :
    ∃ ds i, Definition.parse text = .ok ds ∧ Interpreter.start? ds = some i ∧
      (∀ d ∈ ds, ∀ hook ∈ d.hooks, hook ∈ hosts.flatMap Host.hookNames) ∧
      m.current.name = i.current.name ∧
      (build text hosts registry rs).trail.callbacks =
        Host.callbacks hosts i.current.onEnter.toList ∧
      ∀ xs rs', (m.runMoves rs' xs).map Step.report = i.run hosts xs := by
  obtain ⟨rs₁, hcompile, -⟩ := compile_of_build hbuild
  obtain ⟨ds, hparse, hhosts, -, hrepresents, hposition⟩ := represents_of_compile hcompile
  obtain ⟨first, hfirst⟩ := hrepresents.graph.exists_declaration m.position
  have hhead : ds.head? = some first := by
    rw [← hrepresents.getElem?_initial, ← hposition, hfirst]
  let i : Interpreter := { declarations := ds, current := first }
  have hrefines : m.Refines hosts rs₁ i := ⟨hrepresents, hfirst⟩
  obtain ⟨-, hentering⟩ := hrefines.callAll_onEnter hreturn hfirst rs₁
  refine ⟨ds, i, hparse, ?_, (hrepresents.accepted hhosts).hooks_offered, hrefines.name_current, ?_,
    hrefines.runMoves hreturn⟩
  · rw [Interpreter.start?, hhead, Option.map_some]
  · rw [build_eq_of_compile hcompile]
    exact hentering

/-- A run over all kinds of moves, with a handle of another registry and a state that leads to
itself. -/
theorem build_refines_interpreter_all_moves :
    let text := "(A, in, out) -> \x7bgo: B, again: A\x7d; (B, , out) -> \x7bgo: A\x7d"
    let hosts : List Host := [⟨"h", [("in", ⟨[.write "entered"], none⟩)]⟩,
      ⟨"k", [("out", ⟨[], none⟩)]⟩]
    let entered : Trail := [.event (.invoking "in" "h"), .line "entered"]
    let left : Trail := [.event (.invoking "out" "k")]
    ∃ m, (build text hosts .shared {}).outcome = .ok m ∧
      (m.runMoves {} [.changeByName "again", .change ⟨⟨7⟩, 3, "go"⟩, .changeByName "again",
          .set "A", .set "A", .sync "B", .set "C"]).map Step.report =
        [⟨.ok (.moved (some "A")), "A", left ++ entered⟩, ⟨.ok (.moved (some "B")), "B", left⟩,
          ⟨.ok (.moved none), "B", []⟩, ⟨.ok (.forced true), "A", left ++ entered⟩,
          ⟨.ok (.forced false), "A", []⟩, ⟨.ok (.forced true), "B", []⟩,
          ⟨.ok (.forced false), "B", []⟩] := by
  intro text hosts entered left
  have hbuilt : (build text hosts .shared {}).outcome.toOption.isSome = true := by decide +kernel
  have hparse : Definition.parse text = .ok [⟨"A", some "in", some "out", [⟨"go", "B"⟩,
      ⟨"again", "A"⟩]⟩, ⟨"B", none, some "out", [⟨"go", "A"⟩]⟩] := by
    simp only [text]
    rfl
  cases hm : (build text hosts .shared {}).outcome with
  | error e => simp [hm, Except.toOption] at hbuilt
  | ok m =>
    obtain ⟨ds, i, hds, hi, -, -, -, hrun⟩ :=
      build_refines_interpreter text hosts .shared {} m (by decide +kernel) hm
    rw [hparse, Except.ok.injEq] at hds
    subst hds
    cases hi
    exact ⟨m, rfl, (hrun _ {}).trans rfl⟩

end Machine

end Workflow
