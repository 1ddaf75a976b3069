import Workflow.Text.Blank

/-! Words between blanks. A word is found again wherever blanks stand around it. -/

namespace Workflow.Text

variable {c : Char} {w cs rest : List Char}

theorem words_cons_of_isBlank (hc : isBlank c = true) (cs : List Char) : words (c :: cs) = words cs := by
  rw [words, List.splitOnP_cons_eq_if_modifyHead, if_pos hc]
  rfl

theorem words_append (hw : ∀ c ∈ w, isBlank c = false) (hne : w ≠ [])
    (hrest : ∀ c ∈ rest.head?, isBlank c = true) : words (w ++ rest) = w :: words rest := by
  cases rest with
  | nil => simp [words, List.splitOnP_eq_singleton hw, hne]
  | cons c rest =>
    have hc : isBlank c = true := hrest c rfl
    rw [words_cons_of_isBlank hc, words, List.splitOnP_append_cons_of_forall_mem hw c hc,
      List.filter_cons_of_pos (by simpa using hne)]
    rfl

def Unbroken (w : List Char) : Prop := w ≠ [] ∧ ∀ c ∈ w, isBlank c = false

instance (w : List Char) : Decidable (Unbroken w) :=
  @instDecidableAnd _ _ inferInstance (List.decidableBAll _ _)

theorem Unbroken.words_eq (h : Unbroken w) : words w = [w] := by
  have hwords : words (w ++ []) = w :: words [] := words_append h.2 h.1 (by simp)
  rwa [List.append_nil] at hwords

theorem words_flatMap {ws : List (List Char)} (hws : ∀ w ∈ ws, Unbroken w) (rest : List Char) :
    words (ws.flatMap (· ++ [' ']) ++ rest) = ws ++ words rest := by
  induction ws with
  | nil => rfl
  | cons w ws ih =>
    obtain ⟨⟨hne, hw⟩, hws⟩ := List.forall_mem_cons.mp hws
    rw [List.flatMap_cons, List.append_assoc, List.append_assoc, words_append hw hne (by simp [isBlank]),
      List.singleton_append, words_cons_of_isBlank rfl, ih hws, List.cons_append]

theorem unbroken_enclosed {before name after : String} (hname : ∀ c ∈ name.toList, isBlank c = false)
    (hbefore : before ≠ "") (hmarks : (before.toList ++ after.toList).any isBlank = false) :
    Unbroken (before ++ name ++ after).toList := by
  have hmarks : ∀ c ∈ before.toList ++ after.toList, isBlank c = false :=
    fun c hc => Bool.eq_false_iff.mpr (List.any_eq_false.mp hmarks c hc)
  constructor
  · simp [hbefore]
  · intro c hc
    rw [String.toList_append, String.toList_append, List.mem_append, List.mem_append] at hc
    rcases hc with (hc | hc) | hc
    · exact hmarks c (List.mem_append_left _ hc)
    · exact hname c hc
    · exact hmarks c (List.mem_append_right _ hc)

theorem isBlank_of_mem_toDigits {n : Nat} (h : c ∈ Nat.toDigits 10 n) : isBlank c = false := by
  have hdigit : c.isDigit = true := Nat.isDigit_of_mem_toDigits (by decide) (by decide) h
  simp only [Char.isDigit, Bool.and_eq_true, decide_eq_true_eq, ge_iff_le, UInt32.le_iff_toNat_le] at hdigit
  obtain ⟨hlow, hhigh⟩ := hdigit
  have hlow : 48 ≤ c.toNat := hlow
  have hhigh : c.toNat ≤ 57 := hhigh
  simp only [isBlank, Bool.or_eq_false_iff, Bool.and_eq_false_iff, decide_eq_false_iff_not,
    beq_eq_false_iff_ne, ne_eq]
  omega

theorem unbroken_toString (n : Nat) : Unbroken (toString n).toList := by
  rw [Nat.toString_eq_repr, Nat.toList_repr]
  exact ⟨Nat.toDigits_ne_nil, fun c => isBlank_of_mem_toDigits⟩

end Workflow.Text
