import Workflow.Text.Blank

/-! Texts made of rows. The rows can be told from the text, and so can blocks of rows whose first rows
are marked. -/

namespace Workflow.Text

/-- The lines of a text in which every line ends with a line feed. -/
def rows (cs : List Char) : List (List Char) := (cs.splitOn '\n').dropLast

def stack (rs : List (List Char)) : List Char := rs.flatMap fun row => row ++ ['\n']

theorem rows_stack {rs : List (List Char)} (h : ∀ row ∈ rs, '\n' ∉ row) : rows (stack rs) = rs := by
  induction rs with
  | nil => rfl
  | cons row rs ih =>
    obtain ⟨hrow, hrs⟩ := List.forall_mem_cons.mp h
    have hstack : stack (row :: rs) = row ++ '\n' :: stack rs := by simp [stack]
    have hne : (stack rs).splitOn '\n' ≠ [] := List.splitOn_ne_nil _ _
    rw [rows, hstack, List.splitOn_append_cons_self_of_not_mem hrow, List.dropLast_cons_of_ne_nil hne]
    exact congrArg (row :: ·) (ih hrs)

theorem stack_inj {rs rs' : List (List Char)} (h : ∀ row ∈ rs, '\n' ∉ row)
    (h' : ∀ row ∈ rs', '\n' ∉ row) : stack rs = stack rs' ↔ rs = rs' := by
  refine ⟨fun heq => ?_, fun heq => heq ▸ rfl⟩
  rw [← rows_stack h, ← rows_stack h', heq]

section Cut

variable {α β γ : Type} {p : α → Bool} {x x' y y' : List α} {bs bs' : List β}

theorem append_inj_of_head (hx : ∀ a ∈ x, p a = false) (hx' : ∀ a ∈ x', p a = false)
    (hy : ∀ a ∈ y.head?, p a = true) (hy' : ∀ a ∈ y'.head?, p a = true) :
    x ++ y = x' ++ y' ↔ x = x' ∧ y = y' := by
  constructor
  · intro h
    have htake : ∀ {x y : List α}, (∀ a ∈ x, p a = false) → (∀ a ∈ y.head?, p a = true) →
        (x ++ y).takeWhile (fun a => !p a) = x := by
      intro x y hx hy
      have hrest : y.takeWhile (fun a => !p a) = [] := by
        cases y with
        | nil => rfl
        | cons a y => simp [hy a rfl]
      rw [List.takeWhile_append_of_pos fun a ha => by simp [hx a ha], hrest, List.append_nil]
    have hsame : x = x' := by rw [← htake hx hy, h, htake hx' hy']
    subst hsame
    exact ⟨rfl, List.append_cancel_left h⟩
  · rintro ⟨rfl, rfl⟩
    rfl

/-- A block is a marked element and the others after it. -/
def Blocks (p : α → Bool) (head : β → α) (tail : β → List α) (bs : List β) : Prop :=
  ∀ b ∈ bs, p (head b) = true ∧ ∀ a ∈ tail b, p a = false

theorem Blocks.head? {head : β → α} {tail : β → List α} (h : Blocks p head tail bs) :
    ∀ a ∈ (bs.flatMap fun b => head b :: tail b).head?, p a = true := by
  intro a ha
  cases bs with
  | nil => simp at ha
  | cons b bs =>
    have ha : head b = a := by simpa using ha
    exact ha ▸ (h b List.mem_cons_self).1

theorem Blocks.flatMap_inj {head head' : β → α} {tail tail' : β → List α}
    (h : Blocks p head tail bs) (h' : Blocks p head' tail' bs') :
    (bs.flatMap fun b => head b :: tail b) = (bs'.flatMap fun b => head' b :: tail' b) ↔
      bs.map (fun b => (head b, tail b)) = bs'.map fun b => (head' b, tail' b) := by
  induction bs generalizing bs' with
  | nil => cases bs' <;> simp
  | cons b bs ih =>
    cases bs' with
    | nil => simp
    | cons b' bs' =>
      obtain ⟨hb, hbs⟩ := List.forall_mem_cons.mp h
      obtain ⟨hb', hbs'⟩ := List.forall_mem_cons.mp h'
      have hbs : Blocks p head tail bs := hbs
      have hbs' : Blocks p head' tail' bs' := hbs'
      rw [List.flatMap_cons, List.flatMap_cons, List.cons_append, List.cons_append, List.cons.injEq,
        append_inj_of_head hb.2 hb'.2 hbs.head? hbs'.head?, ih hbs hbs', List.map_cons, List.map_cons,
        List.cons.injEq, Prod.mk.injEq, and_assoc]

theorem map_eq_map_iff {P : β → Prop} {f f' : β → α} {g g' : β → γ} (h : ∀ b ∈ bs, P b)
    (h' : ∀ b ∈ bs', P b) (hfg : ∀ b b', P b → P b' → (f b = f' b' ↔ g b = g' b')) :
    bs.map f = bs'.map f' ↔ bs.map g = bs'.map g' := by
  induction bs generalizing bs' with
  | nil => cases bs' <;> simp
  | cons b bs ih =>
    cases bs' with
    | nil => simp
    | cons b' bs' =>
      obtain ⟨hb, hbs⟩ := List.forall_mem_cons.mp h
      obtain ⟨hb', hbs'⟩ := List.forall_mem_cons.mp h'
      simp only [List.map_cons, List.cons.injEq, hfg b b' hb hb', ih hbs hbs']

end Cut

section Intercalate

variable {c : Char} {rest x : List Char} {xs ys : List (List Char)}

theorem intercalate_cons_eq (c : Char) (rest x : List Char) (xs : List (List Char)) :
    ∃ tail, (c :: rest).intercalate (x :: xs) = x ++ tail ∧ (∀ a ∈ tail.head?, (a == c) = true) ∧
      (tail = [] ↔ xs = []) ∧ (xs ≠ [] → tail = c :: rest ++ (c :: rest).intercalate xs) := by
  by_cases hnil : xs = []
  · exact ⟨[], by simp [hnil], by simp, by simp [hnil], fun hne => absurd hnil hne⟩
  · refine ⟨c :: rest ++ (c :: rest).intercalate xs, ?_, by simp, by simp [hnil], fun _ => rfl⟩
    rw [List.intercalate_cons_of_ne_nil hnil, List.append_assoc]

theorem mem_of_mem_intercalate {separator : List Char} (h : c ∈ separator.intercalate xs) :
    c ∈ separator ∨ ∃ x ∈ xs, c ∈ x := by
  induction xs with
  | nil => simp at h
  | cons x xs ih =>
    by_cases hnil : xs = []
    · exact .inr ⟨x, List.mem_cons_self, by simpa [hnil] using h⟩
    · rw [List.intercalate_cons_of_ne_nil hnil, List.mem_append, List.mem_append] at h
      rcases h with (hx | hseparator) | hrest
      · exact .inr ⟨x, List.mem_cons_self, hx⟩
      · exact .inl hseparator
      · exact (ih hrest).imp_right fun ⟨x', hx', hc⟩ => ⟨x', List.mem_cons_of_mem x hx', hc⟩

theorem intercalate_inj (hxs : ∀ x ∈ xs, x ≠ [] ∧ c ∉ x) (hys : ∀ y ∈ ys, y ≠ [] ∧ c ∉ y) :
    (c :: rest).intercalate xs = (c :: rest).intercalate ys ↔ xs = ys := by
  refine ⟨fun h => ?_, fun h => h ▸ rfl⟩
  have hfree : ∀ {x : List Char}, c ∉ x → ∀ a ∈ x, (a == c) = false := by
    intro x hx a ha
    simpa using fun heq : a = c => hx (heq ▸ ha)
  induction xs generalizing ys with
  | nil =>
    cases ys with
    | nil => rfl
    | cons y ys =>
      obtain ⟨tail, htext, -⟩ := intercalate_cons_eq c rest y ys
      have hy : y = [] := (List.append_eq_nil_iff.mp (htext ▸ h.symm)).1
      exact absurd hy (hys y List.mem_cons_self).1
  | cons x xs ih =>
    obtain ⟨hx, hxs⟩ := List.forall_mem_cons.mp hxs
    obtain ⟨tail, htext, hhead, hnil, htail⟩ := intercalate_cons_eq c rest x xs
    cases ys with
    | nil =>
      have hempty : x = [] := (List.append_eq_nil_iff.mp (htext ▸ h)).1
      exact absurd hempty hx.1
    | cons y ys =>
      obtain ⟨hy, hrest⟩ := List.forall_mem_cons.mp hys
      obtain ⟨tail', htext', hhead', hnil', htail'⟩ := intercalate_cons_eq c rest y ys
      rw [htext, htext'] at h
      obtain ⟨rfl, rfl⟩ := (append_inj_of_head (hfree hx.2) (hfree hy.2) hhead hhead').mp h
      by_cases hempty : tail = []
      · rw [hnil.mp hempty, hnil'.mp hempty]
      · have hjoined := (htail (mt hnil.mpr hempty)).symm.trans (htail' (mt hnil'.mpr hempty))
        rw [ih hxs hrest (List.append_cancel_left hjoined)]

end Intercalate

end Workflow.Text
