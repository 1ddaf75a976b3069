import Mathlib.Logic.Function.Iterate
import Workflow.Checksum

/-! What the register of a checksum keeps. A bit goes in one to one, and so do the bytes of a window as long
as the register is wide; the digits show all of it. -/

namespace Workflow.Checksum

theorem shift_of_low {r : BitVec 32} (h : r.getLsbD 0 = false) : shift r = r >>> 1 := by
  rw [shift, if_neg (Bool.eq_false_iff.mp h)]

theorem shift_xor (a b : BitVec 32) : shift (a ^^^ b) = shift a ^^^ shift b := by
  simp only [shift, BitVec.getLsbD_xor, BitVec.ushiftRight_xor_distrib]
  generalize a >>> 1 = x
  generalize b >>> 1 = y
  cases a.getLsbD 0 <;> cases b.getLsbD 0
  · rfl
  · exact BitVec.xor_assoc x y polynomial
  · show x ^^^ y ^^^ polynomial = x ^^^ polynomial ^^^ y
    rw [BitVec.xor_assoc, BitVec.xor_comm y, ← BitVec.xor_assoc]
  · show x ^^^ y = x ^^^ polynomial ^^^ (y ^^^ polynomial)
    rw [BitVec.xor_comm y, BitVec.xor_assoc, ← BitVec.xor_assoc polynomial, BitVec.xor_self,
      BitVec.zero_xor]

theorem eq_zero_of_shift {r : BitVec 32} (h : shift r = 0#32) : r = 0#32 := by
  cases hlow : r.getLsbD 0 with
  | true =>
    have hhigh : (shift r).getLsbD 31 = true := by
      simp [shift, hlow, polynomial]
    rw [h] at hhigh
    simp at hhigh
  | false =>
    rw [shift_of_low hlow] at h
    refine BitVec.eq_of_getLsbD_eq fun i hi => ?_
    cases i with
    | zero => simpa using hlow
    | succ i =>
      have hbit : (r >>> 1).getLsbD i = (0#32).getLsbD i := congrArg (·.getLsbD i) h
      simpa [Nat.add_comm] using hbit

theorem shift_injective : Function.Injective shift := by
  intro a b h
  refine BitVec.xor_eq_zero_iff.mp (eq_zero_of_shift ?_)
  rw [shift_xor, h, BitVec.xor_self]

theorem iterate_shift_xor (n : Nat) (a b : BitVec 32) :
    shift^[n] (a ^^^ b) = shift^[n] a ^^^ shift^[n] b := by
  induction n generalizing a b with
  | zero => rfl
  | succ n ih => rw [Function.iterate_succ_apply, shift_xor, ih]; rfl

/-- Where no bit is lost, the register only moves. -/
theorem iterate_shift_of_low {n : Nat} {r : BitVec 32} (h : ∀ i < n, r.getLsbD i = false) :
    shift^[n] r = r >>> n := by
  induction n with
  | zero => simp
  | succ n ih =>
    have hlow : (r >>> n).getLsbD 0 = false := by simpa using h n (Nat.lt_succ_self n)
    rw [Function.iterate_succ_apply', ih fun i hi => h i (Nat.lt_succ_of_lt hi), shift_of_low hlow,
      BitVec.shiftRight_add]

theorem feed_eq (r : BitVec 32) (b : UInt8) : feed r b = shift^[8] (r ^^^ b.toBitVec.setWidth 32) := rfl

theorem feed_injective (b : UInt8) : Function.Injective (feed · b) := by
  intro r r' h
  exact (BitVec.xor_left_inj _).mp (shift_injective.iterate 8 h)

theorem foldl_feed_injective (bytes : List UInt8) : Function.Injective (bytes.foldl feed) := by
  induction bytes with
  | nil => exact Function.injective_id
  | cons b bytes ih => exact ih.comp (feed_injective b)

/-- The bytes side by side, the first one lowest. -/
def word : List UInt8 → BitVec 32
  | [] => 0#32
  | b :: bytes => b.toBitVec.setWidth 32 ^^^ word bytes <<< 8

theorem getLsbD_word_cons_of_lt {i : Nat} (hi : i < 8) (b : UInt8) (bytes : List UInt8) :
    (word (b :: bytes)).getLsbD i = b.toBitVec.getLsbD i := by
  have hlt : i < 32 := by omega
  simp [word, hi, hlt]

theorem getLsbD_word_cons_add {i : Nat} (hi : i < 24) (b : UInt8) (bytes : List UInt8) :
    (word (b :: bytes)).getLsbD (i + 8) = (word bytes).getLsbD i := by
  have hlt : i + 8 < 32 := by omega
  have hbyte : b.toBitVec.getLsbD (i + 8) = false := BitVec.getLsbD_of_ge _ _ (by omega)
  rw [word, BitVec.getLsbD_xor, BitVec.getLsbD_setWidth, hbyte, BitVec.getLsbD_shiftLeft]
  simp [-BitVec.getLsbD_eq_getElem, hlt]

theorem getLsbD_word_of_le {bytes : List UInt8} {i : Nat} (hi : 8 * bytes.length ≤ i) :
    (word bytes).getLsbD i = false := by
  induction bytes generalizing i with
  | nil => simp [word]
  | cons b bytes ih =>
    rw [List.length_cons] at hi
    obtain ⟨i, rfl⟩ := Nat.exists_eq_add_of_le' (show 8 ≤ i by omega)
    by_cases hlt : i < 24
    · rw [getLsbD_word_cons_add hlt, ih (by omega)]
    · exact BitVec.getLsbD_of_ge _ _ (by omega)

theorem word_injective {bytes bytes' : List UInt8} (hlength : bytes.length = bytes'.length)
    (hfour : bytes.length ≤ 4) (h : word bytes = word bytes') : bytes = bytes' := by
  induction bytes generalizing bytes' with
  | nil => exact (List.length_eq_zero_iff.mp hlength.symm).symm
  | cons b bytes ih =>
    cases bytes' with
    | nil => simp at hlength
    | cons b' bytes' =>
      simp only [List.length_cons, Nat.add_right_cancel_iff] at hlength hfour
      have hbyte : b = b' := by
        refine UInt8.toBitVec_inj.mp (BitVec.eq_of_getLsbD_eq fun i hi => ?_)
        rw [← getLsbD_word_cons_of_lt hi b bytes, h, getLsbD_word_cons_of_lt hi]
      have hrest : word bytes = word bytes' := by
        refine BitVec.eq_of_getLsbD_eq fun i _ => ?_
        by_cases hlt : i < 24
        · rw [← getLsbD_word_cons_add hlt b, h, getLsbD_word_cons_add hlt]
        · rw [getLsbD_word_of_le (by omega), getLsbD_word_of_le (by omega)]
      rw [hbyte, ih hlength (by omega) hrest]

theorem iterate_shift_shiftLeft {r : BitVec 32} (h : ∀ i, 24 ≤ i → r.getLsbD i = false) :
    shift^[8] (r <<< 8) = r := by
  rw [iterate_shift_of_low fun i hi => by simp [hi]]
  refine BitVec.eq_of_getLsbD_eq fun i _ => ?_
  by_cases hi : i < 24
  · have hlt : 8 + i < 32 := by omega
    rw [BitVec.getLsbD_ushiftRight, BitVec.getLsbD_shiftLeft]
    simp [-BitVec.getLsbD_eq_getElem, hlt]
  · rw [h i (by omega), BitVec.getLsbD_ushiftRight, BitVec.getLsbD_of_ge _ _ (by omega)]

/-- Up to four bytes go in as the one word that they are. -/
theorem foldl_feed_eq {bytes : List UInt8} (hfour : bytes.length ≤ 4) (r : BitVec 32) :
    bytes.foldl feed r = shift^[8 * bytes.length] (r ^^^ word bytes) := by
  induction bytes generalizing r with
  | nil => simp [word]
  | cons b bytes ih =>
    rw [List.length_cons] at hfour
    have hword : shift^[8] (word bytes <<< 8) = word bytes :=
      iterate_shift_shiftLeft fun i hi => getLsbD_word_of_le (by omega)
    calc (b :: bytes).foldl feed r
        = shift^[8 * bytes.length] (feed r b ^^^ word bytes) := ih (by omega) (feed r b)
      _ = shift^[8 * bytes.length] (shift^[8] (r ^^^ b.toBitVec.setWidth 32) ^^^
            shift^[8] (word bytes <<< 8)) := by rw [feed_eq, hword]
      _ = shift^[8 * (bytes.length + 1)] (r ^^^ word (b :: bytes)) := by
        rw [← iterate_shift_xor, ← Function.iterate_add_apply, BitVec.xor_assoc]
        rfl

/-- Texts that are the same around a window of at most four bytes have different checksums if they
differ there. -/
theorem crc_ne_of_window {window window' : List UInt8} (hlength : window.length = window'.length)
    (hfour : window.length ≤ 4) (hne : window ≠ window') (before after : List UInt8) :
    crc (before ++ window ++ after) ≠ crc (before ++ window' ++ after) := by
  intro h
  have hfold := BitVec.not_inj.mp h
  simp only [List.foldl_append] at hfold
  have hwindow := foldl_feed_injective after hfold
  rw [foldl_feed_eq hfour (before.foldl feed _), foldl_feed_eq (by omega) (before.foldl feed _),
    ← hlength] at hwindow
  have hword := (BitVec.xor_right_inj _).mp (shift_injective.iterate _ hwindow)
  exact hne (word_injective hlength hfour hword)

def hexDigits : List Char := "0123456789abcdef".toList

theorem hexDigit_mem (n : Nat) : hexDigit n ∈ hexDigits := by
  have hall : ∀ d < 16, Nat.digitChar d ∈ hexDigits := by decide
  exact hall _ (Nat.mod_lt n (by omega))

theorem mem_hexDigits_of_mem_hex {w : BitVec 32} {c : Char} (h : c ∈ (hex w).toList) :
    c ∈ hexDigits := by
  rw [hex, String.toList_ofList] at h
  obtain ⟨k, -, rfl⟩ := List.mem_map.mp h
  exact hexDigit_mem _

theorem hexDigit_inj {m n : Nat} (h : hexDigit m = hexDigit n) : m % 16 = n % 16 := by
  have hall : ∀ d < 16, ∀ d' < 16, Nat.digitChar d = Nat.digitChar d' → d = d' := by decide
  exact hall _ (Nat.mod_lt m (by omega)) _ (Nat.mod_lt n (by omega)) h

theorem getLsbD_eq_testBit (w : BitVec 32) (i : Nat) :
    w.getLsbD i = ((w >>> (4 * (i / 4))).toNat % 16).testBit (i % 4) := by
  have hbit : i % 4 < 4 := Nat.mod_lt i (by omega)
  have hmod : ∀ n : Nat, (n % 16).testBit (i % 4) = (decide (i % 4 < 4) && n.testBit (i % 4)) :=
    fun n => Nat.testBit_mod_two_pow n 4 (i % 4)
  rw [hmod, BitVec.toNat_ushiftRight, Nat.testBit_shiftRight, Nat.div_add_mod]
  simp [hbit, BitVec.getLsbD]

theorem hex_injective : Function.Injective hex := by
  intro a b h
  have hdigit : ∀ k ∈ [7, 6, 5, 4, 3, 2, 1, 0],
      (a >>> (4 * k)).toNat % 16 = (b >>> (4 * k)).toNat % 16 :=
    fun k hk => hexDigit_inj (List.map_inj_left.mp (String.ofList_injective h) k hk)
  refine BitVec.eq_of_getLsbD_eq fun i hi => ?_
  have hk : i / 4 ∈ [7, 6, 5, 4, 3, 2, 1, 0] := by
    simp only [List.mem_cons, List.not_mem_nil, or_false]
    omega
  rw [getLsbD_eq_testBit a, getLsbD_eq_testBit b, hdigit _ hk]

end Workflow.Checksum
