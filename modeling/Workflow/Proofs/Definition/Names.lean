import Mathlib.Data.List.Nodup
import Workflow.Definition

/-! Names listed once. Adding names one after the other, unless they are there already, leaves each where
it occurs first, and so the hooks of declarations are listed. -/

namespace Workflow

/-- All names that occur in `xs` and no others, in the order of their first occurrences. -/
structure FirstOccurrences (xs names : List String) : Prop where
  mem_iff : ∀ name, name ∈ names ↔ name ∈ xs
  ordered : names.Pairwise fun a b => xs.idxOf a < xs.idxOf b

namespace FirstOccurrences

variable {xs ys names names' : List String}

theorem nodup (h : FirstOccurrences xs names) : names.Nodup := by
  refine List.nodup_iff_pairwise_ne.mpr (h.ordered.imp fun {a b} hlt hsame => ?_)
  rw [hsame] at hlt
  exact Nat.lt_irrefl _ hlt

theorem unique (h : FirstOccurrences xs names) (h' : FirstOccurrences xs names') : names = names' := by
  have hperm : names.Perm names' := (List.perm_ext_iff_of_nodup h.nodup h'.nodup).mpr fun name =>
    (h.mem_iff name).trans (h'.mem_iff name).symm
  exact hperm.eq_of_pairwise (fun _ _ _ _ hab hba => absurd hab (Nat.lt_asymm hba)) h.ordered h'.ordered

theorem iff_eq (h : FirstOccurrences xs names) : FirstOccurrences xs names' ↔ names' = names :=
  ⟨fun h' => h'.unique h, fun heq => heq ▸ h⟩

theorem nil : FirstOccurrences [] [] where
  mem_iff _ := Iff.rfl
  ordered := .nil

theorem singleton (name : String) : FirstOccurrences [name] [name] where
  mem_iff _ := Iff.rfl
  ordered := List.pairwise_singleton _ _

theorem self (h : FirstOccurrences xs names) : FirstOccurrences names names where
  mem_iff _ := Iff.rfl
  ordered := List.pairwise_iff_getElem.mpr fun i j hi hj hij => by
    rwa [h.nodup.idxOf_getElem i hi, h.nodup.idxOf_getElem j hj]

theorem append (h : FirstOccurrences xs names) (h' : FirstOccurrences ys names') :
    FirstOccurrences (xs ++ ys) (names ++ names'.filter fun name => name ∉ names) where
  mem_iff name := by
    rw [List.mem_append, List.mem_append, List.mem_filter, decide_eq_true_eq, h'.mem_iff, h.mem_iff]
    tauto
  ordered := by
    have hleft : ∀ a ∈ names, (xs ++ ys).idxOf a = xs.idxOf a := fun a ha =>
      List.idxOf_append_of_mem ((h.mem_iff a).mp ha)
    have hright : ∀ a ∉ names, (xs ++ ys).idxOf a = xs.length + ys.idxOf a := fun a ha =>
      List.idxOf_append_of_notMem fun hmem => ha ((h.mem_iff a).mpr hmem)
    refine List.pairwise_append.mpr ⟨?_, ?_, fun a ha b hb => ?_⟩
    · exact h.ordered.imp_of_mem fun ha hb hlt => by rwa [hleft _ ha, hleft _ hb]
    · refine (h'.ordered.sublist List.filter_sublist).imp_of_mem fun ha hb hlt => ?_
      rw [List.mem_filter, decide_eq_true_eq] at ha hb
      rw [hright _ ha.2, hright _ hb.2]
      exact Nat.add_lt_add_left hlt _
    · rw [List.mem_filter, decide_eq_true_eq] at hb
      rw [hleft a ha, hright b hb.2]
      exact Nat.lt_add_right _ (List.idxOf_lt_length_of_mem ((h.mem_iff a).mp ha))

theorem add (h : FirstOccurrences xs names) (name : String) :
    FirstOccurrences (xs ++ [name]) (addName names name) := by
  have hadd : addName names name = names ++ [name].filter fun other => other ∉ names := by
    by_cases hmem : name ∈ names <;> simp [addName, hmem]
  rw [hadd]
  exact h.append (singleton name)

theorem addAll (h : FirstOccurrences xs names) (ys : List String) :
    FirstOccurrences (xs ++ ys) (ys.foldl addName names) := by
  induction ys generalizing xs names with
  | nil => rwa [List.append_nil]
  | cons y ys ih =>
    rw [List.foldl_cons, ← List.singleton_append, ← List.append_assoc]
    exact ih (h.add y)

theorem foldl_addName (xs : List String) : FirstOccurrences xs (xs.foldl addName []) := nil.addAll xs

theorem append_iff (h : FirstOccurrences ys names') (xs : List String) :
    FirstOccurrences (xs ++ names') names ↔ FirstOccurrences (xs ++ ys) names := by
  have hxs := foldl_addName xs
  rw [(hxs.append h.self).iff_eq, (hxs.append h).iff_eq]

end FirstOccurrences

theorem firstOccurrences_hookNames (ds : List Declaration) :
    FirstOccurrences (ds.flatMap Declaration.hooks) (hookNames ds) := .foldl_addName _

theorem Declaration.mem_hooks_iff {d : Declaration} {name : String} :
    name ∈ d.hooks ↔ d.onEnter = some name ∨ d.onLeave = some name := by
  rw [hooks, List.mem_append, Option.mem_toList, Option.mem_toList]

theorem mem_hookNames {name : String} {ds : List Declaration} :
    name ∈ hookNames ds ↔ ∃ d ∈ ds, name ∈ d.hooks := by
  rw [(firstOccurrences_hookNames ds).mem_iff, List.mem_flatMap]

theorem hookNames_append (ds ds' : List Declaration) :
    hookNames (ds ++ ds') = hookNames ds ++ (hookNames ds').filter fun name => name ∉ hookNames ds := by
  refine (firstOccurrences_hookNames (ds ++ ds')).unique ?_
  rw [List.flatMap_append]
  exact (firstOccurrences_hookNames ds).append (firstOccurrences_hookNames ds')

end Workflow
