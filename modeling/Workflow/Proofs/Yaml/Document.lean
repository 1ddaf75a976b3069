import Workflow.Proofs.Yaml.Members
import Workflow.Yaml.Document

/-! Documents as a way to read YAML. What is read under a key is what the document says. -/

namespace Workflow.Yaml

section Results

variable {ε α β : Type}

theorem toOption_eq_some_iff {x : Except ε α} {a : α} : x.toOption = some a ↔ x = .ok a := by
  cases x <;> simp [Except.toOption]

theorem toOption_bind (x : Except ε α) (next : α → Except ε β) :
    (x >>= next).toOption = x.toOption.bind fun a => (next a).toOption := by
  cases x <;> rfl

theorem toOption_mapM (read : α → Except ε β) (xs : List α) :
    (xs.mapM read).toOption = xs.mapM fun x => (read x).toOption := by
  induction xs with
  | nil => rfl
  | cons x xs ih =>
    rw [List.mapM_cons, List.mapM_cons, toOption_bind, ← ih]
    refine congrArg _ (funext fun y => ?_)
    rw [toOption_bind]
    rfl

end Results

namespace Document

def reader : Reader Document Node where
  document? text := (ofText text).toOption
  root := Document.root
  members? d n := (d.members n).toOption
  items? d n := (d.items n).toOption
  text? d n := (d.text n).toOption
  boolean? d n := (d.boolean n).toOption
  isNull? d n := (d.isNull n).toOption

variable {d : Document} {α : Type} {a default : α} {key : String} {ms : Members}
  {read : Node → Except Error α}

theorem texts?_reader (d : Document) (n : Node) : reader.texts? d n = (d.texts n).toOption := by
  rw [texts, toOption_bind]
  refine congrArg _ (funext fun items => ?_)
  rw [toOption_mapM]
  rfl

theorem optionalText?_reader (d : Document) (n : Node) :
    reader.optionalText? d n = (d.optionalText n).toOption := by
  rw [optionalText, toOption_bind]
  refine congrArg _ (funext fun isNull => ?_)
  cases isNull with
  | true => rfl
  | false =>
    cases h : d.text n <;> simp [reader, h, Except.toOption]

theorem sections?_reader (d : Document) : reader.sections? d = d.rootMembers.toOption := by
  rw [Reader.sections?, rootMembers]
  change d.root.elim _ _ = _
  cases d.root <;> rfl

/-- A member is read if the document has one, and the default is taken if it has none. -/
theorem read_eq_ok_iff : ms.read key default read = .ok a ↔
    ∃ said, Says ms key (fun n => (read n).toOption) said ∧ a = said.getD default := by
  constructor
  · intro h
    rw [Members.read] at h
    split at h
    next hnone => exact ⟨none, says_none_iff.mpr hnone, (Except.ok.inj h).symm⟩
    next m hone =>
      obtain ⟨before, after, hms, hbefore, rfl, hafter⟩ := filter_key_eq_singleton_iff.mp hone
      exact ⟨some a, .present hms hbefore hafter (toOption_eq_some_iff.mpr h), rfl⟩
    next => cases h
  · rintro ⟨said, hsaid, rfl⟩
    cases said with
    | none => rw [Members.read, says_none_iff.mp hsaid]; rfl
    | some a =>
      obtain ⟨n, hone, hread⟩ := says_some_iff.mp hsaid
      rw [Members.read, hone]
      exact toOption_eq_some_iff.mp hread

/-- A section that is left out reads as one without fields. -/
theorem read_section_eq_ok_iff {Fields : Members → α → Prop}
    (hread : ∀ n a, read n = .ok a ↔ ∃ fields, d.members n = .ok fields ∧ Fields fields a)
    (hdefault : ∀ a, Fields [] a ↔ a = default) :
    ms.read key default read = .ok a ↔
      ∃ fields, Says ms key (reader.members? d) fields ∧ Fields (fields.getD []) a := by
  rw [read_eq_ok_iff]
  constructor
  · rintro ⟨_, hsaid, rfl⟩
    cases hsaid with
    | absent h => exact ⟨none, .absent h, (hdefault _).mpr rfl⟩
    | present hms hbefore hafter hsection =>
      obtain ⟨fields, hfields, ha⟩ := (hread _ _).mp (toOption_eq_some_iff.mp hsection)
      exact ⟨some fields, .present hms hbefore hafter (toOption_eq_some_iff.mpr hfields), ha⟩
  · rintro ⟨_, hsaid, ha⟩
    cases hsaid with
    | absent h => exact ⟨none, .absent h, (hdefault _).mp ha⟩
    | present hms hbefore hafter hfields =>
      have hsection := (hread _ _).mpr ⟨_, toOption_eq_some_iff.mp hfields, ha⟩
      exact ⟨some a, .present hms hbefore hafter (toOption_eq_some_iff.mpr hsection), rfl⟩

end Document

end Workflow.Yaml
