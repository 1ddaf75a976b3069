import Mathlib.Data.List.Basic
import Mathlib.Data.List.Find
import Mathlib.Data.List.Induction
import Mathlib.Data.List.Nodup
import Workflow.Condition.Map

/-! Maps whose keys are told apart by their names. Conditions and plain names find the same entries in them. -/

namespace Workflow

theorem find?_eq_some_iff_of_nodup {α κ : Type} [BEq κ] [LawfulBEq κ] {key : α → κ}
    {xs : List α} (hnodup : (xs.map key).Nodup) {k : κ} {x : α} :
    (xs.find? fun x => key x == k) = some x ↔ x ∈ xs ∧ key x = k := by
  constructor
  · intro h
    have hkey : (key x == k) = true := List.find?_some (p := fun x => key x == k) h
    exact ⟨List.mem_of_find?_eq_some h, eq_of_beq hkey⟩
  · rintro ⟨hx, rfl⟩
    cases hfind : xs.find? fun y => key y == key x with
    | none => simpa using List.find?_eq_none.mp hfind x hx
    | some y =>
      have hkey : (key y == key x) = true := List.find?_some (p := fun y => key y == key x) hfind
      rw [List.inj_on_of_nodup_map hnodup (List.mem_of_find?_eq_some hfind) hx (eq_of_beq hkey)]

namespace ConditionMap

variable {α : Type} {m : ConditionMap α} {c : Condition} {name : String}

theorem hasKey_eq_isSome (m : ConditionMap α) (c : Condition) : m.hasKey c = (m.value? c).isSome := by
  rw [hasKey, value?, Option.isSome_map, Bool.eq_iff_iff, List.find?_isSome, List.any_eq_true]

theorem contains_iff : m.contains name = true ↔ name ∈ m.keys.map Condition.name := by
  rw [contains_eq_isSome, get?_eq_find?, Option.isSome_map, List.find?_isSome]
  simp [keys]

theorem get?_eq_none_iff : m.get? name = none ↔ name ∉ m.keys.map Condition.name := by
  rw [← contains_iff, contains_eq_isSome, Option.not_isSome_iff_eq_none]

section ByName

variable (hequal : ∀ k ∈ m.keys, k.equal c = true ↔ k.name = c.name)
include hequal

theorem value?_eq_get? : m.value? c = m.get? c.name := by
  refine congrArg (Option.map Prod.snd) (List.find?_congr fun e he => ?_)
  have hkey : e.1 ∈ m.keys := List.mem_map_of_mem (List.mem_filter.mp he).1
  rw [Bool.eq_iff_iff, beq_iff_eq, hequal e.1 hkey]

theorem hasKey_eq_contains : m.hasKey c = m.contains c.name := by
  rw [hasKey_eq_isSome, value?_eq_get? hequal, contains_eq_isSome]

theorem hasKey_iff : m.hasKey c = true ↔ c.name ∈ m.keys.map Condition.name := by
  rw [hasKey_eq_contains hequal, contains_iff]

theorem entries_insert_of_hasKey (a : α) (h : m.hasKey c = true) : (m.insert c a).entries =
    m.entries.map fun e => if e.1.name = c.name then (e.1, a) else e := by
  rw [insert, if_pos h]
  refine List.map_congr_left fun e he => ?_
  have hname := hequal e.1 (List.mem_map_of_mem he)
  by_cases hsame : e.1.name = c.name
  · simp [hname.mpr hsame, hsame, Condition.hashCode]
  · simp [mt hname.mp hsame, hsame]

theorem mem_keys_insert {a : α} {k : Condition} (hk : k ∈ (m.insert c a).keys) : k ∈ m.keys ∨ k = c := by
  cases hkey : m.hasKey c with
  | true =>
    rw [keys, entries_insert_of_hasKey hequal a hkey, List.map_map] at hk
    obtain ⟨e, he, rfl⟩ := List.mem_map.mp hk
    refine .inl (List.mem_map.mpr ⟨e, he, ?_⟩)
    rw [Function.comp_apply]
    split <;> rfl
  | false =>
    rw [keys, entries_insert_of_hasKey_eq_false a hkey, List.map_append] at hk
    exact (List.mem_append.mp hk).imp_right List.mem_singleton.mp

theorem get?_insert_of_hasKey (a : α) (h : m.hasKey c = true) (name : String) :
    (m.insert c a).get? name = if c.name = name then some a else m.get? name := by
  let replaced : Condition × α → Condition × α := fun e => if e.1.name = c.name then (e.1, a) else e
  have hkept (e : Condition × α) : (replaced e).1.name = e.1.name := by
    simp only [replaced]
    split <;> rfl
  have hentries : (m.insert c a).entries = m.entries.map replaced := entries_insert_of_hasKey hequal a h
  have hfind : (m.insert c a).get? name =
      (m.entries.find? fun e => e.1.name == name).map fun e => (replaced e).2 := by
    rw [get?_eq_find?, hentries, List.find?_map, Option.map_map]
    simp only [Function.comp_def, hkept]
  rw [hfind, get?_eq_find?]
  cases hfound : m.entries.find? fun e => e.1.name == name with
  | none =>
    have hfree : m.get? name = none := by rw [get?_eq_find?, hfound, Option.map_none]
    have hne : c.name ≠ name := fun hname =>
      get?_eq_none_iff.mp hfree (hname ▸ (hasKey_iff hequal).mp h)
    rw [if_neg hne, Option.map_none, Option.map_none]
  | some e =>
    have hname : e.1.name = name := by simpa using List.find?_some hfound
    rw [Option.map_some, Option.map_some]
    simp only [replaced, hname, eq_comm (a := name)]
    split <;> rfl

theorem get?_insert_of_hasKey_eq_false (a : α) (h : m.hasKey c = false) (name : String) :
    (m.insert c a).get? name = if c.name = name then some a else m.get? name := by
  have hfree : c.name ∉ m.keys.map Condition.name := by
    rw [← hasKey_iff hequal, h]
    exact Bool.false_ne_true
  rw [get?_eq_find?, entries_insert_of_hasKey_eq_false a h, List.find?_append, Option.map_or,
    ← get?_eq_find?, List.find?_singleton]
  by_cases hname : c.name = name
  · simp [get?_eq_none_iff.mpr (hname ▸ hfree), hname]
  · simp [hname]

theorem get?_insert (a : α) (name : String) :
    (m.insert c a).get? name = if c.name = name then some a else m.get? name := by
  cases h : m.hasKey c with
  | true => exact get?_insert_of_hasKey hequal a h name
  | false => exact get?_insert_of_hasKey_eq_false hequal a h name

end ByName

theorem ofList_concat (entries : List (Condition × α)) (e : Condition × α) (hasher : Hasher) :
    ofList (entries ++ [e]) hasher = (ofList entries hasher).insert e.1 e.2 := List.foldl_concat ..

section Kind

variable {P : Condition → Prop} (hequal : ∀ a b, P a → P b → (a.equal b = true ↔ a.name = b.name))
  {entries : List (Condition × α)}
include hequal

theorem forall_keys_ofList (h : ∀ e ∈ entries, P e.1) (hasher : Hasher) :
    ∀ k ∈ (ofList entries hasher).keys, P k := by
  induction entries using List.reverseRecOn with
  | nil => simp [ofList, keys]
  | append_singleton entries e ih =>
    obtain ⟨hentries, he⟩ := List.forall_mem_append.mp h
    have he : P e.1 := he e (List.mem_singleton_self e)
    intro k hk
    rw [ofList_concat] at hk
    rcases mem_keys_insert (fun k hk => hequal _ _ (ih hentries k hk) he) hk with hk | rfl
    · exact ih hentries k hk
    · exact he

/-- Of the entries for a name the last one counts. -/
theorem get?_ofList (h : ∀ e ∈ entries, P e.1) (hasher : Hasher) (name : String) :
    (ofList entries hasher).get? name =
      (entries.reverse.find? fun e => e.1.name == name).map Prod.snd := by
  induction entries using List.reverseRecOn with
  | nil => rfl
  | append_singleton entries e ih =>
    obtain ⟨hentries, he⟩ := List.forall_mem_append.mp h
    have he : P e.1 := he e (List.mem_singleton_self e)
    have hkeys := forall_keys_ofList hequal hentries hasher
    rw [ofList_concat, List.reverse_concat, List.find?_cons,
      get?_insert (fun k hk => hequal _ _ (hkeys k hk) he), ih hentries]
    by_cases hname : e.1.name = name
    · simp [hname]
    · simp [hname, beq_false_of_ne hname]

end Kind

end ConditionMap

end Workflow
