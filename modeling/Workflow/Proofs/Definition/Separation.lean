import Mathlib.Data.List.Chain
import Workflow.Proofs.Definition.Pieces

/-! What cutting finds, said without cutting: the pieces between separators, and the two sides of an
arrow that occurs once. -/

namespace Workflow.Definition

/-- The pieces in their order, with a separator between any two of them. Any number of further
separators may stand before, between and behind. -/
inductive Separated (separator : Char) : List (List Char) → List Char → Prop
  | nil : Separated separator [] []
  | last (piece : List Char) : Separated separator [piece] piece
  | cons (piece : List Char) {rest : List (List Char)} {cs : List Char}
      (h : Separated separator rest cs) : Separated separator (piece :: rest) (piece ++ separator :: cs)
  | extra {ps : List (List Char)} {cs : List Char} (h : Separated separator ps cs) :
      Separated separator ps (separator :: cs)

/-- `ps` are the longest stretches of `cs` without the separator, in their order. -/
structure Stretches (separator : Char) (ps : List (List Char)) (cs : List Char) : Prop where
  separated : Separated separator ps cs
  stretch : ∀ p ∈ ps, p ≠ [] ∧ separator ∉ p

variable {separator c : Char} {ps : List (List Char)} {p cs : List Char}

theorem Separated.eq_or_mem (h : Separated separator ps cs) (hc : c ∈ cs) :
    c = separator ∨ ∃ p ∈ ps, c ∈ p := by
  induction h with
  | nil => simp at hc
  | last piece => exact .inr ⟨piece, by simp, hc⟩
  | cons piece _ ih =>
    rcases List.mem_append.mp hc with hc | hc
    · exact .inr ⟨piece, List.mem_cons_self, hc⟩
    · rcases List.mem_cons.mp hc with rfl | hc
      · exact .inl rfl
      · exact (ih hc).imp_right fun ⟨p, hp, hc⟩ => ⟨p, List.mem_cons_of_mem piece hp, hc⟩
  | extra _ ih =>
    rcases List.mem_cons.mp hc with rfl | hc
    · exact .inl rfl
    · exact ih hc

theorem pieces_eq_singleton (hp : p ≠ []) (hnot : separator ∉ p) : pieces separator p = [p] := by
  rw [pieces, List.splitOn_eq_singleton hnot]
  simpa using hp

theorem pieces_append_cons (hp : p ≠ []) (hnot : separator ∉ p) (cs : List Char) :
    pieces separator (p ++ separator :: cs) = p :: pieces separator cs := by
  rw [pieces, List.splitOn_append_cons_self_of_not_mem hnot, List.filter_cons_of_pos (by simpa using hp)]
  rfl

theorem pieces_cons_self (separator : Char) (cs : List Char) :
    pieces separator (separator :: cs) = pieces separator cs := by
  rw [pieces, List.splitOn_cons_eq_if_modifyHead]
  simp [pieces]

theorem Stretches.pieces_eq (h : Stretches separator ps cs) : pieces separator cs = ps := by
  obtain ⟨hcs, hps⟩ := h
  induction hcs with
  | nil => exact pieces_nil separator
  | last piece =>
    obtain ⟨hne, hnot⟩ := hps piece (by simp)
    exact pieces_eq_singleton hne hnot
  | cons piece _ ih =>
    rw [List.forall_mem_cons] at hps
    rw [pieces_append_cons hps.1.1 hps.1.2, ih hps.2]
  | extra _ ih =>
    rw [pieces_cons_self]
    exact ih hps

theorem separated_intercalate (separator : Char) (ps : List (List Char)) :
    Separated separator ps ([separator].intercalate ps) := by
  induction ps with
  | nil => exact .nil
  | cons p ps ih =>
    by_cases hps : ps = []
    · subst hps
      simpa using .last p
    · rw [List.intercalate_cons_of_ne_nil hps, List.append_assoc]
      exact .cons p ih

theorem Separated.filter_nonempty (h : Separated separator ps cs) :
    Separated separator (ps.filter fun p => !p.isEmpty) cs := by
  induction h with
  | nil => exact .nil
  | last piece =>
    cases piece with
    | nil => exact .nil
    | cons c cs => exact .last (c :: cs)
  | cons piece _ ih =>
    cases piece with
    | nil => exact .extra ih
    | cons c cs => exact .cons (c :: cs) ih
  | extra _ ih => exact .extra ih

theorem pieces_intercalate (h : ∀ p ∈ ps, p ≠ [] ∧ separator ∉ p) :
    pieces separator ([separator].intercalate ps) = ps :=
  Stretches.pieces_eq ⟨separated_intercalate separator ps, h⟩

theorem pieces_eq_iff : pieces separator cs = ps ↔ Stretches separator ps cs := by
  refine ⟨?_, Stretches.pieces_eq⟩
  rintro rfl
  constructor
  · have hjoined : [separator].intercalate (cs.splitOn separator) = cs :=
      List.intercalate_splitOn separator
    have hseparated := (separated_intercalate separator (cs.splitOn separator)).filter_nonempty
    rwa [hjoined] at hseparated
  · intro p hp
    obtain ⟨hne, hmem⟩ := mem_pieces hp
    exact ⟨hne, fun hc => (hmem separator hc).2 rfl⟩

def arrow : List Char := ['-', '>']

structure CutsOnce (cs before after : List Char) : Prop where
  eq : cs = before ++ arrow ++ after
  unique : ∀ before' after', cs = before' ++ arrow ++ after' → before' = before ∧ after' = after

theorem arrowParts_cases (cs : List Char) :
    arrowParts cs = [cs] ∨
      ∃ before after, cs = before ++ arrow ++ after ∧ arrowParts cs = before :: arrowParts after := by
  fun_induction arrowParts cs with
  | case1 => exact .inl rfl
  | case2 cs _ => exact .inr ⟨[], cs, rfl, rfl⟩
  | case3 c cs _ ih =>
    rcases ih with hparts | ⟨before, after, rfl, hparts⟩
    · exact .inl (by rw [hparts]; rfl)
    · exact .inr ⟨c :: before, after, rfl, by rw [hparts]; rfl⟩

theorem arrowParts_ne_nil (cs : List Char) : arrowParts cs ≠ [] := by
  rcases arrowParts_cases cs with h | ⟨before, after, -, h⟩ <;> simp [h]

/-- An arrow is never part of another, so that it can be cut anywhere. -/
theorem arrowParts_append_arrow (xs ys : List Char) :
    arrowParts (xs ++ arrow ++ ys) = arrowParts xs ++ arrowParts ys := by
  rw [List.append_assoc]
  fun_induction arrowParts xs with
  | case1 => exact arrowParts_arrow ys
  | case2 xs ih => rw [List.cons_append, List.cons_append, arrowParts_arrow, ih, List.cons_append]
  | case3 x xs hx ih =>
    have hhead : x = '-' → (xs ++ (arrow ++ ys)).head? ≠ some '>' := by
      rintro rfl hhead
      cases xs with
      | nil => simp [arrow] at hhead
      | cons y xs =>
        simp only [List.cons_append, List.head?_cons, Option.some.injEq] at hhead
        exact hx xs rfl (hhead ▸ rfl)
    rw [List.cons_append, arrowParts_cons hhead, ih]
    obtain ⟨p, ps, hparts⟩ := List.exists_cons_of_ne_nil (arrowParts_ne_nil xs)
    rw [hparts]
    rfl

theorem eq_of_arrowParts_eq_singleton (h : arrowParts cs = [p]) : cs = p := by
  rcases arrowParts_cases cs with hparts | ⟨before, after, -, hparts⟩
  · simpa using hparts.symm.trans h
  · have hnil : arrowParts after = [] := (List.cons.inj (hparts.symm.trans h)).2
    exact absurd hnil (arrowParts_ne_nil after)

theorem arrowParts_eq_pair_iff {before after : List Char} :
    arrowParts cs = [before, after] ↔ CutsOnce cs before after := by
  constructor
  · intro h
    have hparts : ∀ before' after', cs = before' ++ arrow ++ after' →
        before' = before ∧ after' = after := by
      rintro before' after' rfl
      rw [arrowParts_append_arrow] at h
      obtain ⟨b, bs, hb⟩ := List.exists_cons_of_ne_nil (arrowParts_ne_nil before')
      obtain ⟨a, as, ha⟩ := List.exists_cons_of_ne_nil (arrowParts_ne_nil after')
      rw [hb, ha, List.cons_append, List.cons.injEq] at h
      obtain ⟨rfl, h⟩ := h
      have hbs : bs = [] := by
        have hlength := congrArg List.length h
        simp only [List.length_append, List.length_cons, List.length_nil] at hlength
        exact List.eq_nil_of_length_eq_zero (by omega)
      rw [hbs, List.nil_append] at h
      exact ⟨eq_of_arrowParts_eq_singleton (hbs ▸ hb), eq_of_arrowParts_eq_singleton (ha.trans h)⟩
    rcases arrowParts_cases cs with hsingle | ⟨before', after', rfl, -⟩
    · simp [hsingle] at h
    · obtain ⟨rfl, rfl⟩ := hparts before' after' rfl
      exact ⟨rfl, hparts⟩
  · intro h
    have hbefore : arrowParts before = [before] := by
      rcases arrowParts_cases before with hsingle | ⟨x, y, hxy, -⟩
      · exact hsingle
      · have hx := (h.unique x (y ++ arrow ++ after) (by simp [h.eq, hxy])).1
        have hlength := congrArg List.length hxy
        simp only [hx, arrow, List.length_append, List.length_cons] at hlength
        omega
    have hafter : arrowParts after = [after] := by
      rcases arrowParts_cases after with hsingle | ⟨x, y, hxy, -⟩
      · exact hsingle
      · have hy := (h.unique (before ++ arrow ++ x) y (by simp [h.eq, hxy])).2
        have hlength := congrArg List.length hxy
        simp only [hy, arrow, List.length_append, List.length_cons] at hlength
        omega
    rw [h.eq, arrowParts_append_arrow, hbefore, hafter, List.singleton_append]

def Arrowless (cs : List Char) : Prop := cs.IsChain fun a b => a = '-' → b ≠ '>'

theorem arrowless_iff : Arrowless cs ↔ ¬ arrow <:+: cs := by
  constructor
  · rintro h harrow
    have hpair := h.infix harrow
    simp [arrow] at hpair
  · intro h
    induction cs with
    | nil => exact .nil
    | cons c cs ih =>
      refine List.isChain_cons.mpr ⟨?_, ih fun harrow => h (harrow.trans (List.suffix_cons c cs).isInfix)⟩
      rintro _ hhead rfl rfl
      obtain ⟨rest, rfl⟩ := List.head?_eq_some_iff.mp hhead
      exact h ⟨[], rest, rfl⟩

theorem Arrowless.arrowParts_eq (h : Arrowless cs) : arrowParts cs = [cs] := by
  rcases arrowParts_cases cs with hsingle | ⟨before, after, hcs, -⟩
  · exact hsingle
  · exact absurd ⟨before, after, hcs.symm⟩ (arrowless_iff.mp h)

end Workflow.Definition
