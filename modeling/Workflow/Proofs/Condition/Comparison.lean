import Mathlib.Data.List.Sort
import Workflow.Proofs.Condition.History
import Workflow.Proofs.Condition.Map
import Workflow.Proofs.Text.Encoding

/-! Conditions compared. Their order is that of the code points of their names, equality and hashes go by the
names as well, and so do sorting and looking up. -/

namespace Workflow

namespace Registries

/-- The condition is what some registry gives for its name. -/
def Holds (rs : Registries) (c : Condition) : Prop := rs.lookup? c.registry c.name = some c

/-- One of the calls has given the condition to whoever made it. -/
def Gave (calls : List Call) (c : Condition) : Prop := ∃ id name, Gives calls id name c

theorem Gave.holds {calls : List Call} {c : Condition} (h : Gave calls c) :
    (({} : Registries).follow calls).Holds c := by
  obtain ⟨id, name, hgives⟩ := h
  have hlookup := lookup?_of_gives hgives
  obtain ⟨rfl, rfl⟩ := name_of_lookup? hlookup
  exact hlookup

end Registries

namespace Condition

variable {rs : Registries} {a b c : Condition}

theorem equal_iff (ha : rs.Holds a) (hb : rs.Holds b) : a.equal b = true ↔ a.name = b.name :=
  Registries.equal_iff ha hb

theorem compareBytes_eq_compare (as bs : List UInt8) :
    compareBytes as bs = compare (as.map UInt8.toNat) (bs.map UInt8.toNat) := by
  induction as generalizing bs with
  | nil => cases bs <;> rfl
  | cons x as ih =>
    cases bs with
    | nil => rfl
    | cons y bs =>
      rw [compareBytes, List.map_cons, List.map_cons, List.compare_cons_cons, ih]
      split_ifs with hlt hgt
      · rw [Nat.compare_eq_lt.mpr hlt]
        rfl
      · rw [Nat.compare_eq_gt.mpr hgt]
        rfl
      · rw [Nat.compare_eq_eq.mpr (by omega)]
        rfl

theorem order_eq_compare_bytes (a b : Condition) :
    a.order b = compare (a.bytes.map UInt8.toNat) (b.bytes.map UInt8.toNat) :=
  compareBytes_eq_compare a.bytes b.bytes

theorem order_eq_compare (a b : Condition) :
    a.order b = compare (Text.codePoints a.name) (Text.codePoints b.name) :=
  (order_eq_compare_bytes a b).trans (Text.compare_utf8 a.name b.name)

instance : Std.TransCmp order where
  eq_swap {a b} := by
    rw [order_eq_compare, order_eq_compare]
    exact Std.OrientedCmp.eq_swap
  isLE_trans {a b c} hab hbc := by
    rw [order_eq_compare] at hab hbc ⊢
    exact Std.TransCmp.isLE_trans hab hbc

theorem order_eq_eq_iff (a b : Condition) : a.order b = .eq ↔ a.name = b.name := by
  rw [order_eq_compare, Std.LawfulEqCmp.compare_eq_iff_eq, Text.codePoints_inj]

theorem sort_perm (cs : List Condition) : (sort cs).Perm cs := List.mergeSort_perm cs _

theorem pairwise_sort (cs : List Condition) : (sort cs).Pairwise fun a b => (a.order b).isLE = true := by
  have hle : (fun a b : Condition => a.order b != .gt) = fun a b => (a.order b).isLE := by
    funext a b
    cases a.order b <;> rfl
  rw [sort, hle]
  refine List.pairwise_mergeSort (fun a b c hab hbc => ?_) (fun a b => ?_) cs
  · exact Std.TransCmp.isLE_trans hab hbc
  · have hswap : b.order a = (a.order b).swap := Std.OrientedCmp.eq_swap
    rw [hswap]
    cases a.order b <;> rfl

theorem map_name_sort_of_perm {cs cs' : List Condition} (h : cs'.Perm cs) :
    (sort cs').map name = (sort cs).map name := by
  let ascending : String → String → Prop := fun s t =>
    (compare (Text.codePoints s) (Text.codePoints t)).isLE = true
  have hsorted : ∀ ds : List Condition, ((sort ds).map name).Pairwise ascending := by
    intro ds
    refine List.pairwise_map.mpr ((pairwise_sort ds).imp fun {a b} hab => ?_)
    rwa [order_eq_compare] at hab
  have hperm : ((sort cs').map name).Perm ((sort cs).map name) :=
    (((sort_perm cs').trans h).trans (sort_perm cs).symm).map name
  refine hperm.eq_of_pairwise (fun s t _ _ hst hts => ?_) (hsorted cs') (hsorted cs)
  have heq : compare (Text.codePoints s) (Text.codePoints t) = .eq := Std.OrientedCmp.isLE_antisymm hst hts
  exact Text.codePoints_inj.mp (Std.LawfulEqCmp.compare_eq_iff_eq.mp heq)

end Condition

namespace Condition

/-- What comparing conditions comes to: the order of bytes and code points, which is one of whole names, and
equality and hashes that go with it, whatever the hasher. -/
structure ComparedByName (a b c : Condition) : Prop where
  bytes : a.order b = compare (a.bytes.map UInt8.toNat) (b.bytes.map UInt8.toNat)
  codePoints : a.order b = compare (Text.codePoints a.name) (Text.codePoints b.name)
  eq_iff_equal : a.order b = .eq ↔ a.equal b = true
  equal_iff_name : a.equal b = true ↔ a.name = b.name
  equal_of_sameEntry : a.sameEntry b = true → a.equal b = true
  hashCode_eq_name : ∀ hasher, a.hashCode hasher = hasher (Text.hashed a.name)
  hashCode_eq : a.equal b = true → ∀ hasher, a.hashCode hasher = b.hashCode hasher
  swap : b.order a = (a.order b).swap
  antisymm : (a.order b).isLE = true → (b.order a).isLE = true → a.equal b = true
  trans : (a.order b).isLE = true → (b.order c).isLE = true → (a.order c).isLE = true
  total : (a.order b).isLE = true ∨ (b.order a).isLE = true
  partialOrder_eq : a.partialOrder b = some (a.order b)

theorem comparedByName {rs : Registries} {a b : Condition} (ha : rs.Holds a) (hb : rs.Holds b)
    (c : Condition) : a.ComparedByName b c := by
  have hequal := equal_iff ha hb
  have hswap : b.order a = (a.order b).swap := Std.OrientedCmp.eq_swap
  have heq : a.order b = .eq ↔ a.equal b = true := (order_eq_eq_iff a b).trans hequal.symm
  refine ⟨order_eq_compare_bytes a b, order_eq_compare a b, heq, hequal, fun hentry => ?_, fun _ => rfl,
    fun h hasher => ?_, hswap, fun hab hba => ?_, fun hab hbc => ?_, ?_, rfl⟩
  · rw [equal, hentry, Bool.true_or]
  · rw [hashCode, hashCode, hequal.mp h]
  · exact heq.mp (Std.OrientedCmp.isLE_antisymm hab hba)
  · exact Std.TransCmp.isLE_trans hab hbc
  · rw [hswap]
    cases a.order b <;> simp

/-- However conditions came from registries, they compare as their names do: sorting gives the names in the
order of their code points, and a map gives a name the value it got last. -/
theorem comparison_by_name (calls : List Call) :
    (∀ a b c, Registries.Gave calls a → Registries.Gave calls b → Registries.Gave calls c →
      a.ComparedByName b c) ∧
      (∀ cs, (∀ c ∈ cs, Registries.Gave calls c) →
        (sort cs).Perm cs ∧
          (sort cs).Pairwise (fun a b =>
            (compare (Text.codePoints a.name) (Text.codePoints b.name)).isLE = true) ∧
          ∀ cs' : List Condition, cs'.Perm cs → (sort cs').map name = (sort cs).map name) ∧
      ∀ (α : Type) (entries : List (Condition × α)), (∀ e ∈ entries, Registries.Gave calls e.1) →
        ∀ (hasher : Hasher) (name : String), (ConditionMap.ofList entries hasher).get? name =
          (entries.reverse.find? fun e => e.1.name == name).map Prod.snd := by
  refine ⟨fun a b c ha hb _ => comparedByName ha.holds hb.holds c, fun cs _ => ⟨sort_perm cs, ?_, ?_⟩,
    fun α entries hentries => ?_⟩
  · exact (pairwise_sort cs).imp fun {a b} hab => by rwa [order_eq_compare] at hab
  · exact fun cs' hperm => map_name_sort_of_perm hperm
  · exact ConditionMap.get?_ofList (P := (({} : Registries).follow calls).Holds) (fun _ _ => equal_iff)
      fun e he => (hentries e he).holds

/-- Handles of one name from two registries, the empty name, a name with NUL behind another, and the last
code point of three bytes before the first of four. -/
theorem comparison_by_name_two_registries :
    let calls : List Call := [.create, .intern .shared "b", .intern ⟨1⟩ "b", .intern .shared "\uffff",
      .intern ⟨1⟩ "𐀀", .intern .shared "", .intern ⟨1⟩ "b\x00"]
    let b : Condition := ⟨.shared, 1, "b"⟩
    let b' : Condition := ⟨⟨1⟩, 1, "b"⟩
    let three : Condition := ⟨.shared, 2, "\uffff"⟩
    let four : Condition := ⟨⟨1⟩, 2, "𐀀"⟩
    let empty : Condition := ⟨.shared, 3, ""⟩
    let longer : Condition := ⟨⟨1⟩, 3, "b\x00"⟩
    (∀ c ∈ [b, b', three, four, empty, longer], Registries.Gave calls c) ∧
      b.sameEntry b' = false ∧ b.equal b' = true ∧ b.hashCode = b'.hashCode ∧
      b.order longer = .lt ∧ three.order four = .lt ∧
      (sort [four, longer, three, b', empty, b]).map name =
        (sort [empty, b, b', longer, three, four]).map name ∧
      ∀ hasher, (ConditionMap.ofList [(b, 0), (three, 1), (b', 2)] hasher).get? "b" = some 2 ∧
        (ConditionMap.ofList [(b, 0), (three, 1), (b', 2)] hasher).get? "" = none := by
  intro calls b b' three four empty longer
  have hgave : ∀ c ∈ [b, b', three, four, empty, longer], Registries.Gave calls c := by
    simp only [List.forall_mem_cons, List.not_mem_nil, false_imp_iff, implies_true, and_true]
    exact ⟨⟨_, _, calls.take 1, .intern .shared "b", calls.drop 2, rfl, rfl, by decide +kernel⟩,
      ⟨_, _, calls.take 2, .intern ⟨1⟩ "b", calls.drop 3, rfl, rfl, by decide +kernel⟩,
      ⟨_, _, calls.take 3, .intern .shared "\uffff", calls.drop 4, rfl, rfl, by decide +kernel⟩,
      ⟨_, _, calls.take 4, .intern ⟨1⟩ "𐀀", calls.drop 5, rfl, rfl, by decide +kernel⟩,
      ⟨_, _, calls.take 5, .intern .shared "", calls.drop 6, rfl, rfl, by decide +kernel⟩,
      ⟨_, _, calls.take 6, .intern ⟨1⟩ "b\x00", [], rfl, rfl, by decide +kernel⟩⟩
  obtain ⟨hpairs, hsort, hmap⟩ := comparison_by_name calls
  have hb := hgave b (by simp)
  have hsame := hpairs b b' b hb (hgave b' (by simp)) hb
  have hlonger := hpairs b longer b hb (hgave longer (by simp)) hb
  have hfour := hpairs three four b (hgave three (by simp)) (hgave four (by simp)) hb
  have hequal := hsame.equal_iff_name.mpr rfl
  have hlookup := hmap Nat [(b, 0), (three, 1), (b', 2)] (by
    intro e he
    refine hgave e.1 ?_
    simp only [List.mem_cons, List.not_mem_nil, or_false] at he
    rcases he with rfl | rfl | rfl <;> simp)
  refine ⟨hgave, by decide, hequal, hsame.hashCode_eq hequal .standard, ?_, ?_, ?_, fun hasher => ⟨?_, ?_⟩⟩
  · exact hlonger.codePoints.trans (by decide +kernel)
  · exact hfour.codePoints.trans (by decide +kernel)
  · refine (hsort [empty, b, b', longer, three, four] (fun c hc => hgave c ?_)).2.2 _ (by decide +kernel)
    simp only [List.mem_cons, List.not_mem_nil, or_false] at hc ⊢
    tauto
  · exact (hlookup hasher "b").trans (by decide +kernel)
  · exact (hlookup hasher "").trans (by decide +kernel)

end Condition

end Workflow
