import Workflow.Proofs.Definition.Outcome

/-! Texts put behind each other with a `;` between them. What they come to is a matter of what each of
them comes to by itself, also where a text breaks off in the middle of a name. -/

namespace Workflow.Definition

/-- What the outcomes of two texts, one behind the other, come to. A text without states is no error as
long as the other has one. -/
def joined : Except DefinitionError (List Declaration) → Except DefinitionError (List Declaration) →
    Except DefinitionError (List Declaration)
  | .error .noStates, outcome => outcome
  | .error e, _ => .error e
  | .ok ds, .error .noStates => .ok ds
  | .ok _, .error e => .error e
  | .ok ds, .ok ds' => .ok (ds ++ ds')

def Adds (text : String) (ds : List Declaration) : Prop :=
  parse text = .ok ds ∨ parse text = .error .noStates ∧ ds = []

def readStates (text : String) : Except DefinitionError (List Declaration) :=
  (fragments text).mapM parseState

section Joined

variable {e : DefinitionError}

theorem joined_error (h : e ≠ .noStates) (outcome : Except DefinitionError (List Declaration)) :
    joined (.error e) outcome = .error e := by
  cases e with
  | noStates => exact absurd rfl h
  | _ => rfl

theorem joined_ok_error (h : e ≠ .noStates) (ds : List Declaration) :
    joined (.ok ds) (.error e) = .error e := by
  cases e with
  | noStates => exact absurd rfl h
  | _ => rfl

end Joined

variable {text : String} {texts : List String} {ds : List Declaration} {e : DefinitionError}

theorem pieces_append_cons_self (separator : Char) (xs ys : List Char) :
    pieces separator (xs ++ separator :: ys) = pieces separator xs ++ pieces separator ys := by
  rw [pieces, List.splitOn_append_cons_self, List.filter_append]
  rfl

theorem fragments_append (a b : String) :
    fragments (a ++ ";" ++ b) = fragments a ++ fragments b := by
  have hblanks : Text.removeBlanks (a ++ ";" ++ b).toList =
      Text.removeBlanks a.toList ++ ';' :: Text.removeBlanks b.toList := by
    rw [String.toList_append, String.toList_append, Text.removeBlanks_append, Text.removeBlanks_append,
      List.append_assoc]
    rfl
  rw [fragments, hblanks, pieces_append_cons_self]
  rfl

theorem readStates_append (a b : String) :
    readStates (a ++ ";" ++ b) = do
      let ds ← readStates a
      let ds' ← readStates b
      return ds ++ ds' := by
  rw [readStates, fragments_append, List.mapM_append]
  rfl

theorem parse_eq_bind (text : String) :
    parse text = readStates text >>= fun ds => if ds = [] then .error .noStates else .ok ds := by
  rw [parse, readStates]
  cases (fragments text).mapM parseState with
  | error e => rfl
  | ok ds => cases ds <;> rfl

theorem parse_of_readStates_ok (h : readStates text = .ok ds) :
    parse text = if ds = [] then .error .noStates else .ok ds := by
  rw [parse_eq_bind, h]
  rfl

theorem ne_noStates_of_readStates (h : readStates text = .error e) : e ≠ .noStates := by
  obtain ⟨-, fragment, -, -, -, hfragment⟩ := mapM_eq_error_iff.mp h
  exact (parseState_eq_error_iff.mp hfragment).ne_noStates

theorem parse_of_readStates_error (h : readStates text = .error e) : parse text = .error e := by
  rw [parse_eq_bind, h]
  rfl

theorem readStates_eq_ok_iff : readStates text = .ok ds ↔ Adds text ds := by
  unfold Adds
  cases hread : readStates text with
  | error e =>
    have hne := ne_noStates_of_readStates hread
    simp [parse_of_readStates_error hread, hne]
  | ok ds' =>
    rw [parse_of_readStates_ok hread]
    by_cases hnone : ds' = []
    · simp [hnone, eq_comm]
    · simp [hnone]

theorem readStates_eq_error_iff :
    readStates text = .error e ↔ e ≠ .noStates ∧ parse text = .error e := by
  constructor
  · intro h
    exact ⟨ne_noStates_of_readStates h, parse_of_readStates_error h⟩
  · rintro ⟨hne, h⟩
    cases hread : readStates text with
    | error e' => rw [← h, parse_of_readStates_error hread]
    | ok ds =>
      rw [parse_of_readStates_ok hread] at h
      split at h
      · exact absurd (Except.error.inj h).symm hne
      · simp at h

theorem parse_eq_ok_iff_adds : parse text = .ok ds ↔ ds ≠ [] ∧ Adds text ds := by
  rw [← readStates_eq_ok_iff, parse_eq_bind, bind_eq_ok_iff]
  constructor
  · rintro ⟨ds', hread, h⟩
    split at h
    · simp at h
    · rename_i hne
      cases h
      exact ⟨hne, hread⟩
  · rintro ⟨hne, hread⟩
    exact ⟨ds, hread, if_neg hne⟩

theorem adds_nil_iff : Adds text [] ↔ parse text = .error .noStates := by
  unfold Adds
  constructor
  · rintro (h | ⟨h, -⟩)
    · exact absurd rfl (parse_eq_ok_iff.mp h).1
    · exact h
  · exact fun h => .inr ⟨h, rfl⟩

theorem parse_append (a b : String) : parse (a ++ ";" ++ b) = joined (parse a) (parse b) := by
  have hread := readStates_append a b
  cases ha : readStates a with
  | error e =>
    have hne := ne_noStates_of_readStates ha
    rw [ha] at hread
    rw [parse_of_readStates_error hread, parse_of_readStates_error ha, joined_error hne]
  | ok ds =>
    cases hb : readStates b with
    | error e =>
      have hne := ne_noStates_of_readStates hb
      rw [ha, hb] at hread
      rw [parse_of_readStates_error hread, parse_of_readStates_ok ha, parse_of_readStates_error hb]
      split
      · rfl
      · rw [joined_ok_error hne]
    | ok ds' =>
      rw [ha, hb] at hread
      rw [parse_of_readStates_ok hread, parse_of_readStates_ok ha, parse_of_readStates_ok hb]
      by_cases hds : ds = [] <;> by_cases hds' : ds' = [] <;> simp [hds, hds', joined]

theorem readStates_intercalate (texts : List String) :
    readStates (";".intercalate texts) = List.flatten <$> texts.mapM readStates := by
  induction texts with
  | nil => rfl
  | cons text texts ih =>
    rw [List.mapM_cons]
    by_cases hnil : texts = []
    · rw [hnil, String.intercalate_singleton]
      cases h : readStates text with
      | error e => rfl
      | ok ds =>
        have hflatten : [ds].flatten = ds := List.flatten_singleton
        exact congrArg Except.ok hflatten.symm
    · rw [String.intercalate_cons_of_ne_nil hnil, readStates_append, ih]
      cases readStates text with
      | error e => rfl
      | ok ds => cases texts.mapM readStates <;> rfl

theorem readStates_intercalate_eq_ok_iff :
    readStates (";".intercalate texts) = .ok ds ↔
      ∃ parts, List.Forall₂ Adds texts parts ∧ parts.flatten = ds := by
  have hadds : Adds = fun text ds => readStates text = .ok ds :=
    funext fun text => funext fun ds => propext readStates_eq_ok_iff.symm
  simp only [readStates_intercalate, hadds, ← mapM_eq_ok_iff]
  cases texts.mapM readStates <;> simp [Functor.map, Except.map]

theorem readStates_intercalate_eq_error_iff :
    readStates (";".intercalate texts) = .error e ↔
      ∃ before text after, texts = before ++ text :: after ∧ (∀ u ∈ before, ∃ ds, Adds u ds) ∧
        readStates text = .error e := by
  simp only [readStates_intercalate, ← readStates_eq_ok_iff, ← mapM_eq_error_iff]
  cases texts.mapM readStates <;> simp [Functor.map, Except.map]

theorem forall₂_adds_nil_iff :
    (∃ parts, List.Forall₂ Adds texts parts ∧ parts.flatten = []) ↔
      ∀ text ∈ texts, parse text = .error .noStates := by
  induction texts with
  | nil => simp
  | cons text texts ih =>
    rw [List.forall_mem_cons, ← ih, ← adds_nil_iff]
    constructor
    · rintro ⟨parts, hparts, hflatten⟩
      cases hparts with
      | cons hpart hparts =>
        rw [List.flatten_cons, List.append_eq_nil_iff] at hflatten
        exact ⟨hflatten.1 ▸ hpart, _, hparts, hflatten.2⟩
    · rintro ⟨hpart, parts, hparts, hflatten⟩
      exact ⟨[] :: parts, .cons hpart hparts, hflatten⟩

/-- Reading goes over `;`. Of two texts the first error counts, and declarations stand in the order of
their texts. So it is with any number of texts: they are read if each of them is or has no state at all,
and otherwise the first that cannot be read decides. -/
theorem parse_joined_texts :
    (∀ a b : String, parse (a ++ ";" ++ b) = joined (parse a) (parse b)) ∧
      ∀ texts : List String,
        (∀ ds, parse (";".intercalate texts) = .ok ds ↔
          ds ≠ [] ∧ ∃ parts, List.Forall₂ Adds texts parts ∧ parts.flatten = ds) ∧
        ∀ e, parse (";".intercalate texts) = .error e ↔
          (e = .noStates ∧ ∀ text ∈ texts, parse text = .error .noStates) ∨
            e ≠ .noStates ∧ ∃ before text after, texts = before ++ text :: after ∧
              (∀ u ∈ before, ∃ ds, Adds u ds) ∧ parse text = .error e := by
  refine ⟨parse_append, fun texts => ⟨fun ds => ?_, fun e => ?_⟩⟩
  · rw [parse_eq_ok_iff_adds, ← readStates_eq_ok_iff, readStates_intercalate_eq_ok_iff]
  · by_cases he : e = .noStates
    · subst he
      have hnone : Adds (";".intercalate texts) [] ↔ ∀ text ∈ texts, parse text = .error .noStates := by
        rw [← readStates_eq_ok_iff, readStates_intercalate_eq_ok_iff, forall₂_adds_nil_iff]
      simp [← adds_nil_iff, hnone]
    · have herror : parse (";".intercalate texts) = .error e ↔
          readStates (";".intercalate texts) = .error e := by
        rw [readStates_eq_error_iff, and_iff_right he]
      have heach : ∀ text, readStates text = .error e ↔ parse text = .error e := fun text => by
        rw [readStates_eq_error_iff, and_iff_right he]
      rw [herror, readStates_intercalate_eq_error_iff]
      simp only [heach, he, false_and, false_or, ne_eq, not_false_eq_true, true_and]

/-- A text that breaks off in a name is an error of its own, whatever would complete it. -/
example : parse ("(A) -> \x7bx: " ++ ";" ++ "A\x7d") = .error (.malformedTransition "A" "x:") := by
  rw [parse_append]
  rfl

end Workflow.Definition
