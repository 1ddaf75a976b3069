import Mathlib.Data.List.Basic

/-! Encoded texts. Bytes come in the order of the code points they stand for, since the first byte of a
code point tells how many there are and more bytes stand for a greater one. -/

namespace Workflow.Text

def codePoints (text : String) : List Nat := text.toList.map Char.toNat

def utf8 (text : String) : List UInt8 := text.toUTF8.data.toList

theorem codePoints_inj {s t : String} : codePoints s = codePoints t ↔ s = t :=
  ⟨fun h => String.toList_inj.mp (List.map_injective_iff.mpr (fun _ _ => Char.toNat_inj.mp) h),
    fun h => h ▸ rfl⟩

theorem toNat_lt (c : Char) : c.toNat < 0x110000 := by
  have hvalid : c.toNat < 0xd800 ∨ 0xdfff < c.toNat ∧ c.toNat < 0x110000 := c.valid
  omega

def units (v : Nat) : List Nat :=
  if v ≤ 0x7f then [v]
  else if v ≤ 0x7ff then [v / 64 + 0xc0, v % 64 + 0x80]
  else if v ≤ 0xffff then [v / 4096 + 0xe0, v / 64 % 64 + 0x80, v % 64 + 0x80]
  else [v / 262144 + 0xf0, v / 4096 % 64 + 0x80, v / 64 % 64 + 0x80, v % 64 + 0x80]

theorem units_ne_nil (v : Nat) : units v ≠ [] := by
  unfold units
  split_ifs <;> simp

theorem map_toNat_utf8EncodeChar (c : Char) :
    (String.utf8EncodeChar c).map UInt8.toNat = units c.toNat := by
  have hlt := toNat_lt c
  have hval : c.val.toNat = c.toNat := rfl
  simp only [String.utf8EncodeChar, units, hval]
  split_ifs <;>
    simp only [List.map_cons, List.map_nil, UInt8.toNat_ofNat', List.cons.injEq, and_true] <;>
    omega

theorem map_toNat_utf8 (text : String) :
    (utf8 text).map UInt8.toNat = (codePoints text).flatMap units := by
  have hencode : ∀ cs : List Char,
      cs.utf8Encode.data.toList.map UInt8.toNat = (cs.map Char.toNat).flatMap units := by
    intro cs
    rw [List.utf8Encode, List.toList_data_toByteArray, List.map_flatMap, List.flatMap_map]
    exact congrArg cs.flatMap (funext map_toNat_utf8EncodeChar)
  rw [utf8, codePoints, ← hencode, ← String.toByteArray_ofList, String.ofList_toList]
  rfl

/-- The first code points that differ decide: the bytes before are the same, and those after do not count. -/
theorem compare_units_append {v w : Nat} (h : v < w) (hw : w < 0x110000) (s t : List Nat) :
    compare (units v ++ s) (units w ++ t) = .lt := by
  unfold units
  split_ifs <;>
    simp only [List.cons_append, List.nil_append, List.compare_cons_cons, Ordering.then_eq_lt,
      Nat.compare_eq_lt, Nat.compare_eq_eq] <;>
    omega

theorem compare_append_left (r s t : List Nat) : compare (r ++ s) (r ++ t) = compare s t := by
  induction r with
  | nil => rfl
  | cons x r ih => simp [ih]

theorem compare_flatMap_units {vs ws : List Nat} (hvs : ∀ v ∈ vs, v < 0x110000)
    (hws : ∀ w ∈ ws, w < 0x110000) : compare (vs.flatMap units) (ws.flatMap units) = compare vs ws := by
  induction vs generalizing ws with
  | nil =>
    cases ws with
    | nil => rfl
    | cons w ws =>
      obtain ⟨first, rest, hunits⟩ := List.exists_cons_of_ne_nil (units_ne_nil w)
      simp [hunits]
  | cons v vs ih =>
    cases ws with
    | nil =>
      obtain ⟨first, rest, hunits⟩ := List.exists_cons_of_ne_nil (units_ne_nil v)
      simp [hunits]
    | cons w ws =>
      obtain ⟨hv, hvs⟩ := List.forall_mem_cons.mp hvs
      obtain ⟨hw, hws'⟩ := List.forall_mem_cons.mp hws
      rw [List.flatMap_cons, List.flatMap_cons, List.compare_cons_cons]
      rcases Nat.lt_trichotomy v w with hlt | rfl | hgt
      · rw [compare_units_append hlt hw, Nat.compare_eq_lt.mpr hlt]
        rfl
      · rw [compare_append_left, ih hvs hws', Nat.compare_eq_eq.mpr rfl]
        rfl
      · rw [@Std.OrientedCmp.eq_swap _ compare _, compare_units_append hgt hv, Nat.compare_eq_gt.mpr hgt]
        rfl

theorem compare_utf8 (s t : String) :
    compare ((utf8 s).map UInt8.toNat) ((utf8 t).map UInt8.toNat) =
      compare (codePoints s) (codePoints t) := by
  have hvalid : ∀ text, ∀ v ∈ codePoints text, v < 0x110000 := by
    intro text v hv
    obtain ⟨c, -, rfl⟩ := List.mem_map.mp hv
    exact toNat_lt c
  rw [map_toNat_utf8, map_toNat_utf8, compare_flatMap_units (hvalid s) (hvalid t)]

end Workflow.Text
