import Workflow.CommandLine.Binding
import Workflow.Proofs.Definition.Names

/-! The names to bind: those configured, those asked for and, if all hooks are to be bound, those of the
definition, each where it occurs first. -/

namespace Workflow.CommandLine

variable {definition : String} {ds : List Declaration} {configured asked names : List String}
  {autoBind : Bool}

theorem boundNames_false (definition : String) (configured asked : List String) :
    boundNames definition configured asked false = .ok ((configured ++ asked).foldl addName []) := rfl

theorem boundNames_true (hparse : Definition.parse definition = .ok ds) (configured asked : List String) :
    boundNames definition configured asked true =
      .ok ((configured ++ asked ++ hookNames ds).foldl addName []) := by
  rw [List.foldl_append, boundNames, hparse]
  rfl

theorem exists_boundNames (hparse : Definition.parse definition = .ok ds) (configured asked : List String)
    (autoBind : Bool) : ∃ names, boundNames definition configured asked autoBind = .ok names ∧
      FirstOccurrences (configured ++ asked ++ if autoBind then hookNames ds else []) names := by
  cases autoBind with
  | false =>
    rw [if_neg Bool.false_ne_true, List.append_nil]
    exact ⟨_, boundNames_false definition configured asked, .foldl_addName _⟩
  | true => exact ⟨_, boundNames_true hparse configured asked, .foldl_addName _⟩

theorem firstOccurrences_bound_iff (ds : List Declaration) (xs names : List String) (autoBind : Bool) :
    FirstOccurrences (xs ++ if autoBind then hookNames ds else []) names ↔
      FirstOccurrences (xs ++ if autoBind then ds.flatMap Declaration.hooks else []) names := by
  cases autoBind with
  | false => rfl
  | true => exact (firstOccurrences_hookNames ds).append_iff xs

/-- The hooks of declarations, and the names to bind for a definition, are each listed where they occur
first and not again. -/
theorem names_listed_once :
    (∀ ds, (∀ names, FirstOccurrences (ds.flatMap Declaration.hooks) names ↔ names = hookNames ds) ∧
      (hookNames ds).Nodup ∧
      ∀ name, name ∈ hookNames ds ↔ ∃ d ∈ ds, d.onEnter = some name ∨ d.onLeave = some name) ∧
    (∀ ds ds', hookNames (ds ++ ds') =
      hookNames ds ++ (hookNames ds').filter fun name => name ∉ hookNames ds) ∧
    ∀ definition ds, Definition.parse definition = .ok ds → ∀ configured asked autoBind,
      ∃ names, boundNames definition configured asked autoBind = .ok names ∧
        (∀ names', FirstOccurrences (configured ++ asked ++
          if autoBind then ds.flatMap Declaration.hooks else []) names' ↔ names' = names) ∧
        ∀ names', FirstOccurrences (configured ++ asked ++
          if autoBind then hookNames ds else []) names' ↔ names' = names := by
  refine ⟨fun ds => ⟨fun names => ?_, (firstOccurrences_hookNames ds).nodup, fun name => ?_⟩,
    hookNames_append, fun definition ds hparse configured asked autoBind => ?_⟩
  · exact (firstOccurrences_hookNames ds).iff_eq
  · simp only [mem_hookNames, Declaration.mem_hooks_iff]
  · obtain ⟨names, hnames, hfirst⟩ := exists_boundNames hparse configured asked autoBind
    refine ⟨names, hnames, fun names' => ?_, fun names' => hfirst.iff_eq⟩
    rw [← firstOccurrences_bound_iff, hfirst.iff_eq]

/-- A hook of two states, one that is configured, and names given twice that belong to no state. -/
theorem names_listed_once_across_states :
    let definition := "(A, in, out) -> \x7b\x7d; (B, out, log) -> \x7b\x7d"
    let ds : List Declaration := [⟨"A", some "in", some "out", []⟩, ⟨"B", some "out", some "log", []⟩]
    let names := ["x", "log", "out", "in"]
    Definition.parse definition = .ok ds ∧ hookNames ds = ["in", "out", "log"] ∧
      boundNames definition ["x", "log", "x"] ["out"] true = .ok names ∧
      FirstOccurrences (["x", "log", "x"] ++ ["out"] ++ ds.flatMap Declaration.hooks) names := by
  intro definition ds names
  have hparse : Definition.parse definition = .ok ds := by
    simp only [definition, ds]
    rfl
  obtain ⟨-, -, hbound⟩ := names_listed_once
  obtain ⟨bound, hok, hfirst, -⟩ := hbound definition ds hparse ["x", "log", "x"] ["out"] true
  have hnames : boundNames definition ["x", "log", "x"] ["out"] true = .ok names := by
    rw [boundNames_true hparse]
    rfl
  exact ⟨hparse, rfl, hnames, (hfirst names).mpr (Except.ok.inj (hnames.symm.trans hok))⟩

end Workflow.CommandLine
