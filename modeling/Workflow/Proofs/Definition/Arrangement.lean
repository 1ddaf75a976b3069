import Mathlib.Data.List.Perm.Basic
import Workflow.Proofs.Bindings
import Workflow.Proofs.Condition.Map
import Workflow.Proofs.Definition.Outcome

/-! The same definition in another arrangement: states behind the first one, transitions within a state,
hosts and the hooks of a host stand in any order. -/

namespace Workflow

/-- The items of one list are related to those of the other, in some order. -/
def Shuffled {α β : Type} (R : α → β → Prop) (xs : List α) (ys : List β) : Prop :=
  ∃ zs, xs.Perm zs ∧ List.Forall₂ R zs ys

/-- The first items are related, and the others in some order. -/
inductive Reordered {α β : Type} (R : α → β → Prop) : List α → List β → Prop
  | nil : Reordered R [] []
  | cons {x : α} {y : β} {xs : List α} {ys : List β} (h : R x y) (hrest : Shuffled R xs ys) :
      Reordered R (x :: xs) (y :: ys)

section Lists

variable {α β γ δ : Type} {R : α → β → Prop} {xs : List α} {ys : List β}

theorem exists_left_of_forall₂ (h : List.Forall₂ R xs ys) {y : β} (hy : y ∈ ys) :
    ∃ x ∈ xs, R x y := by
  induction h with
  | nil => simp at hy
  | cons hxy _ ih =>
    rcases List.mem_cons.mp hy with rfl | hy
    · exact ⟨_, List.mem_cons_self, hxy⟩
    · obtain ⟨x, hx, hxy⟩ := ih hy
      exact ⟨x, List.mem_cons_of_mem _ hx, hxy⟩

namespace Shuffled

theorem symm {R : α → α → Prop} (hR : ∀ {x y}, R x y → R y x) {xs ys : List α}
    (h : Shuffled R xs ys) : Shuffled R ys xs := by
  obtain ⟨zs, hperm, hzs⟩ := h
  obtain ⟨ws, hws, hperm'⟩ := List.perm_comp_forall₂ hperm hzs
  have hflip : List.Forall₂ R ws xs := (hws.imp fun _ _ => hR).flip
  exact ⟨ws, hperm'.symm, hflip⟩

theorem cons {x : α} {y : β} (hxy : R x y) (h : Shuffled R xs ys) : Shuffled R (x :: xs) (y :: ys) := by
  obtain ⟨zs, hperm, hzs⟩ := h
  exact ⟨x :: zs, hperm.cons x, .cons hxy hzs⟩

theorem exists_left (h : Shuffled R xs ys) {y : β} (hy : y ∈ ys) : ∃ x ∈ xs, R x y := by
  obtain ⟨zs, hperm, hzs⟩ := h
  obtain ⟨x, hx, hxy⟩ := exists_left_of_forall₂ hzs hy
  exact ⟨x, hperm.mem_iff.mpr hx, hxy⟩

theorem flatMap_perm {f : α → List γ} {g : β → List γ} (h : Shuffled R xs ys)
    (hfg : ∀ x y, R x y → (f x).Perm (g y)) : (xs.flatMap f).Perm (ys.flatMap g) := by
  obtain ⟨zs, hperm, hzs⟩ := h
  refine (hperm.flatMap_right f).trans ?_
  clear hperm
  induction hzs with
  | nil => exact .refl _
  | cons hxy _ ih =>
    rw [List.flatMap_cons, List.flatMap_cons]
    exact (hfg _ _ hxy).append ih

theorem map_perm {f : α → γ} {g : β → γ} (h : Shuffled R xs ys) (hfg : ∀ x y, R x y → f x = g y) :
    (xs.map f).Perm (ys.map g) := by
  have hsingle := h.flatMap_perm (f := fun x => [f x]) (g := fun y => [g y])
    fun x y hxy => hfg x y hxy ▸ .refl _
  rwa [← List.map_eq_flatMap, ← List.map_eq_flatMap] at hsingle

theorem transport {S : α → γ → Prop} {S' : β → δ → Prop} {T : γ → δ → Prop}
    (hstep : ∀ x y c, R x y → S x c → ∃ d, S' y d ∧ T c d) {cs : List γ} (h : Shuffled R xs ys)
    (hcs : List.Forall₂ S xs cs) : ∃ ds, List.Forall₂ S' ys ds ∧ Shuffled T cs ds := by
  obtain ⟨zs, hperm, hzs⟩ := h
  obtain ⟨es, hes, hperm'⟩ := List.perm_comp_forall₂ hperm.symm hcs
  suffices hds : ∃ ds, List.Forall₂ S' ys ds ∧ List.Forall₂ T es ds by
    obtain ⟨ds, hS, hT⟩ := hds
    exact ⟨ds, hS, es, hperm'.symm, hT⟩
  clear hperm hperm' hcs
  induction hzs generalizing es with
  | nil =>
    cases hes
    exact ⟨[], .nil, .nil⟩
  | cons hxy _ ih =>
    cases hes with
    | cons hS hrest =>
      obtain ⟨d, hd, hT⟩ := hstep _ _ _ hxy hS
      obtain ⟨ds, hds, hTs⟩ := ih _ hrest
      exact ⟨d :: ds, .cons hd hds, .cons hT hTs⟩

end Shuffled

namespace Reordered

theorem symm {R : α → α → Prop} (hR : ∀ {x y}, R x y → R y x) {xs ys : List α}
    (h : Reordered R xs ys) : Reordered R ys xs := by
  cases h with
  | nil => exact .nil
  | cons hxy hrest => exact .cons (hR hxy) (hrest.symm hR)

theorem shuffled (h : Reordered R xs ys) : Shuffled R xs ys := by
  cases h with
  | nil => exact ⟨[], .refl _, .nil⟩
  | cons hxy hrest => exact hrest.cons hxy

theorem transport {S : α → γ → Prop} {S' : β → δ → Prop} {T : γ → δ → Prop}
    (hstep : ∀ x y c, R x y → S x c → ∃ d, S' y d ∧ T c d) {cs : List γ} (h : Reordered R xs ys)
    (hcs : List.Forall₂ S xs cs) : ∃ ds, List.Forall₂ S' ys ds ∧ Reordered T cs ds := by
  cases h with
  | nil =>
    cases hcs
    exact ⟨[], .nil, .nil⟩
  | cons hxy hrest =>
    cases hcs with
    | cons hS hcs =>
      obtain ⟨d, hd, hT⟩ := hstep _ _ _ hxy hS
      obtain ⟨ds, hds, hTs⟩ := hrest.transport hstep hcs
      exact ⟨d :: ds, .cons hd hds, .cons hT hTs⟩

end Reordered

theorem find?_eq_of_perm {κ : Type} [BEq κ] [LawfulBEq κ] {key : α → κ} {xs ys : List α}
    (h : xs.Perm ys) (hnodup : (xs.map key).Nodup) (k : κ) :
    (xs.find? fun x => key x == k) = ys.find? fun x => key x == k := by
  have hnodup' : (ys.map key).Nodup := (h.map key).nodup_iff.mp hnodup
  ext x
  rw [find?_eq_some_iff_of_nodup hnodup, find?_eq_some_iff_of_nodup hnodup', h.mem_iff]

end Lists

/-- The same declaration, but for the order of its transitions. -/
structure Declaration.Rearranges (d d' : Declaration) : Prop where
  name : d.name = d'.name
  onEnter : d.onEnter = d'.onEnter
  onLeave : d.onLeave = d'.onLeave
  transitions : d.transitions.Perm d'.transitions

structure Host.Rearranges (h h' : Host) : Prop where
  name : h.name = h'.name
  hooks : h.hooks.Perm h'.hooks

theorem Declaration.Rearranges.symm {d d' : Declaration} (h : d.Rearranges d') : d'.Rearranges d where
  name := h.name.symm
  onEnter := h.onEnter.symm
  onLeave := h.onLeave.symm
  transitions := h.transitions.symm

namespace Host

variable {hosts hosts' : List Host}

theorem Rearranges.symm {h h' : Host} (hsame : h.Rearranges h') : h'.Rearranges h where
  name := hsame.name.symm
  hooks := hsame.hooks.symm

theorem registrations_perm (h : Shuffled Rearranges hosts hosts') :
    (hosts.flatMap registrations).Perm (hosts'.flatMap registrations) := by
  apply h.flatMap_perm
  intro x y hxy
  rw [registrations, registrations, hxy.name]
  exact hxy.hooks.map _

theorem hookNames_perm (h : Shuffled Rearranges hosts hosts') :
    (hosts.flatMap hookNames).Perm (hosts'.flatMap hookNames) :=
  h.flatMap_perm fun _ _ hxy => hxy.hooks.map _

end Host

namespace Definition

/-- The fragments are the same, or there is one arrow in each, with one header before it and the same
pieces behind it, in any order. -/
def SameState (fragment fragment' : List Char) : Prop :=
  fragment = fragment' ∨ ∃ header body header' body', CutsOnce fragment header body ∧
    CutsOnce fragment' header' body' ∧ withoutRound header = withoutRound header' ∧
      (pieces ',' (withoutCurly body)).Perm (pieces ',' (withoutCurly body'))

/-- The same text, but for the order of the states behind the first, and of the transitions of a
state. -/
def Rearranges (text text' : String) : Prop :=
  Reordered SameState (fragments text) (fragments text')

theorem SameState.symm {fragment fragment' : List Char} (h : SameState fragment fragment') :
    SameState fragment' fragment := by
  rcases h with rfl | ⟨header, body, header', body', hcut, hcut', hheader, hbody⟩
  · exact .inl rfl
  · exact .inr ⟨header', body', header, body, hcut', hcut, hheader.symm, hbody.symm⟩

theorem SameState.exists_says {fragment fragment' : List Char} {d : Declaration}
    (h : SameState fragment fragment') (hd : Says fragment d) :
    ∃ d', Says fragment' d' ∧ d.Rearranges d' := by
  rcases h with rfl | ⟨header, body, header', body', hcut, hcut', hheader, hbody⟩
  · exact ⟨d, hd, rfl, rfl, rfl, .refl _⟩
  · obtain ⟨header₁, body₁, hooks, ps, hcut₁, hsays, hps, hts⟩ := hd
    obtain ⟨rfl, rfl⟩ := hcut.unique _ _ hcut₁.eq
    rw [hps.pieces_eq] at hbody
    obtain ⟨ts', hts', hperm⟩ := List.perm_comp_forall₂ hbody.symm hts
    refine ⟨{ d with transitions := ts' }, ⟨header', body', hooks, _, hcut', ?_, pieces_eq_iff.mp rfl, hts'⟩,
      rfl, rfl, rfl, hperm.symm⟩
    exact ⟨hheader ▸ hsays.fields, hsays.separate, hsays.few, hsays.name, hsays.onEnter, hsays.onLeave⟩

variable {text text' : String} {ds : List Declaration}

theorem Rearranges.symm (h : Rearranges text text') : Rearranges text' text :=
  Reordered.symm SameState.symm h

theorem Rearranges.exists_parse_eq_ok (h : Rearranges text text') (hparse : parse text = .ok ds) :
    ∃ ds', parse text' = .ok ds' ∧ Reordered Declaration.Rearranges ds ds' := by
  obtain ⟨hne, hsays⟩ := parse_eq_ok_iff_says.mp hparse
  obtain ⟨ds', hsays', hds⟩ : ∃ ds', List.Forall₂ Says (fragments text') ds' ∧
      Reordered Declaration.Rearranges ds ds' :=
    Reordered.transport (fun _ _ _ hsame hsays => hsame.exists_says hsays) h hsays
  refine ⟨ds', parse_eq_ok_iff_says.mpr ⟨fun hnone => hne ?_, hsays'⟩, hds⟩
  have hback : Reordered SameState (fragments text') (fragments text) := h.symm
  rw [hnone] at hback
  generalize fragments text = fs at hback
  cases hback
  rfl

end Definition

end Workflow
