import Workflow.Definition.Parser

/-! How a definition text is cut. Cutting loses no character but separators, and puts nothing
together that was not written as one piece. -/

namespace Workflow.Definition

theorem mem_and_ne_of_mem_splitOn {separator : Char} {cs piece : List Char}
    (h : piece ∈ cs.splitOn separator) : ∀ c ∈ piece, c ∈ cs ∧ c ≠ separator := by
  induction cs generalizing piece with
  | nil =>
    rw [List.splitOn_nil, List.mem_singleton] at h
    simp [h]
  | cons x xs ih =>
    rw [List.splitOn_cons_eq_if_modifyHead] at h
    split at h
    · rcases List.mem_cons.mp h with rfl | h
      · simp
      · exact fun c hc => (ih h c hc).imp (List.mem_cons_of_mem x) id
    · rename_i hx
      obtain ⟨p, ps, hp⟩ := List.exists_cons_of_ne_nil (List.splitOn_ne_nil separator xs)
      rw [hp, List.modifyHead_cons] at h
      intro c hc
      rcases List.mem_cons.mp h with rfl | h
      · rcases List.mem_cons.mp hc with rfl | hc
        · exact ⟨List.mem_cons_self, by simpa using hx⟩
        · exact (ih (hp ▸ List.mem_cons_self) c hc).imp (List.mem_cons_of_mem x) id
      · exact (ih (hp ▸ List.mem_cons_of_mem p h) c hc).imp (List.mem_cons_of_mem x) id

theorem mem_of_mem_arrowParts {cs part : List Char} (h : part ∈ arrowParts cs) :
    ∀ c ∈ part, c ∈ cs := by
  fun_induction arrowParts cs generalizing part with
  | case1 => simp_all
  | case2 cs ih =>
    rcases List.mem_cons.mp h with rfl | h
    · simp
    · exact fun c hc => List.mem_cons_of_mem _ (List.mem_cons_of_mem _ (ih h c hc))
  | case3 x xs _ ih =>
    cases hp : arrowParts xs with
    | nil => simp [hp] at h
    | cons p ps =>
      rw [hp, List.modifyHead_cons] at h
      intro c hc
      rcases List.mem_cons.mp h with rfl | h
      · rcases List.mem_cons.mp hc with rfl | hc
        · exact List.mem_cons_self
        · exact List.mem_cons_of_mem x (ih (hp ▸ List.mem_cons_self) c hc)
      · exact List.mem_cons_of_mem x (ih (hp ▸ List.mem_cons_of_mem p h) c hc)

theorem mem_pieces {separator : Char} {cs piece : List Char} (h : piece ∈ pieces separator cs) :
    piece ≠ [] ∧ ∀ c ∈ piece, c ∈ cs ∧ c ≠ separator := by
  obtain ⟨hp, hne⟩ := List.mem_filter.mp h
  exact ⟨by simpa using hne, mem_and_ne_of_mem_splitOn hp⟩

theorem pieces_nil (separator : Char) : pieces separator [] = [] := by
  simp [pieces, List.splitOn_nil]

theorem arrowParts_arrow (cs : List Char) : arrowParts ('-' :: '>' :: cs) = [] :: arrowParts cs := by
  rw [arrowParts]

theorem arrowParts_cons {c : Char} {cs : List Char} (h : c = '-' → cs.head? ≠ some '>') :
    arrowParts (c :: cs) = (arrowParts cs).modifyHead (c :: ·) := by
  rw [arrowParts]
  rintro rest rfl rfl
  exact h rfl rfl

end Workflow.Definition
