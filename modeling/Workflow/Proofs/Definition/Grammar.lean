import Mathlib.Data.List.Infix
import Workflow.Proofs.Definition.Image
import Workflow.Proofs.Definition.Separation

/-! Texts of the documented grammar. Each is read as it was written, whatever blanks and separators
were added. -/

namespace Workflow

structure Plain (marks : List Char) (name : String) : Prop where
  spelled : Spelled marks name
  arrowless : ¬ Definition.arrow <:+: name.toList

instance (marks : List Char) (name : String) : Decidable (Plain marks name) :=
  decidable_of_iff (Spelled marks name ∧ ¬ Definition.arrow <:+: name.toList)
    ⟨fun h => ⟨h.1, h.2⟩, fun h => ⟨h.spelled, h.arrowless⟩⟩

namespace Declaration

open Definition

/-- Every name can be written in the grammar. -/
@[mk_iff]
structure Writable (d : Declaration) : Prop where
  name : Plain headerMarks d.name
  hooks : ∀ hook ∈ d.hooks, Plain headerMarks hook
  transitions : ∀ t ∈ d.transitions, Plain bodyMarks t.condition ∧ Plain bodyMarks t.target

instance (d : Declaration) : Decidable d.Writable := decidable_of_iff' _ d.writable_iff

/-- The fields of a header. The field of an absent hook is empty, or left out if it is last. -/
inductive HeaderFields (d : Declaration) : List String → Prop
  | name (henter : d.onEnter = none) (hleave : d.onLeave = none) : HeaderFields d [d.name]
  | enter (hleave : d.onLeave = none) : HeaderFields d [d.name, d.onEnter.getD ""]
  | leave : HeaderFields d [d.name, d.onEnter.getD "", d.onLeave.getD ""]

inductive Written (d : Declaration) : List Char → Prop
  | intro {fields : List String} {body : List Char} (hfields : d.HeaderFields fields)
      (hbody : Separated ','
        (d.transitions.map fun t => t.condition.toList ++ ':' :: t.target.toList) body) :
      Written d ('(' :: [','].intercalate (fields.map String.toList) ++ [')'] ++ arrow ++
        '{' :: body ++ ['}'])

end Declaration

namespace Definition

/-- `text` is `cs` with blanks put in anywhere. -/
inductive Spaced : List Char → List Char → Prop
  | nil : Spaced [] []
  | keep (c : Char) {cs text : List Char} (h : Spaced cs text) : Spaced (c :: cs) (c :: text)
  | blank {c : Char} {cs text : List Char} (hc : Text.isBlank c = true) (h : Spaced cs text) :
      Spaced cs (c :: text)

/-- The text is the declarations one after the other, with any number of semicolons around them and
of blanks anywhere. -/
def Writes (ds : List Declaration) (text : String) : Prop :=
  ∃ fs cs, List.Forall₂ Declaration.Written ds fs ∧ Separated ';' fs cs ∧ Spaced cs text.toList

theorem Spaced.removeBlanks_eq {cs text : List Char} (h : Spaced cs text) :
    Text.removeBlanks text = Text.removeBlanks cs := by
  induction h with
  | nil => rfl
  | keep c _ ih =>
    simp only [Text.removeBlanks] at ih ⊢
    rw [List.filter_cons, List.filter_cons, ih]
  | blank hc _ ih => rw [← ih, Text.removeBlanks, List.filter_cons_of_neg (by simp [hc])]; rfl

theorem spaced_iff {cs text : List Char} (hcs : Text.removeBlanks cs = cs) :
    Spaced cs text ↔ Text.removeBlanks text = cs := by
  refine ⟨fun h => h.removeBlanks_eq.trans hcs, ?_⟩
  rintro rfl
  clear hcs
  induction text with
  | nil => exact .nil
  | cons c text ih =>
    by_cases hc : Text.isBlank c = true
    · rw [Text.removeBlanks, List.filter_cons_of_neg (by simp [hc])]
      exact .blank hc ih
    · rw [Text.removeBlanks, List.filter_cons_of_pos (by simpa using hc)]
      exact .keep c ih

theorem spaced_refl (cs : List Char) : Spaced cs cs := by
  induction cs with
  | nil => exact .nil
  | cons c cs ih => exact .keep c ih

theorem Arrowless.cons {c : Char} {cs : List Char} (h : Arrowless cs) (hdash : c ≠ '-') :
    Arrowless (c :: cs) := List.isChain_cons.mpr ⟨fun _ _ hc => absurd hc hdash, h⟩

theorem Arrowless.append_cons {xs ys : List Char} {c : Char} (hxs : Arrowless xs)
    (hys : Arrowless ys) (hdash : c ≠ '-') (htip : c ≠ '>') : Arrowless (xs ++ c :: ys) := by
  refine List.isChain_append.mpr ⟨hxs, hys.cons hdash, ?_⟩
  intro x _ y hy _
  simp only [List.head?_cons, Option.mem_some_iff] at hy
  exact hy ▸ htip

theorem Separated.arrowless {separator : Char} (hdash : separator ≠ '-') (htip : separator ≠ '>')
    {ps : List (List Char)} {cs : List Char} (h : Separated separator ps cs)
    (hps : ∀ p ∈ ps, Arrowless p) : Arrowless cs := by
  induction h with
  | nil => exact .nil
  | last piece => exact hps piece (by simp)
  | cons piece _ ih =>
    obtain ⟨hp, hrest⟩ := List.forall_mem_cons.mp hps
    exact hp.append_cons (ih hrest) hdash htip
  | extra _ ih => exact (ih hps).cons hdash

theorem Arrowless.enclosed {left right : Char} {cs : List Char} (h : Arrowless cs)
    (hleft : left ≠ '-') (hright : right ≠ '-') (htip : right ≠ '>') :
    Arrowless (left :: cs ++ [right]) := (h.cons hleft).append_cons .nil hright htip

theorem filter_enclosed {drop : Char → Bool} {left right : Char} {cs : List Char}
    (hleft : drop left = true) (hright : drop right = true) (h : ∀ c ∈ cs, drop c = false) :
    ((left :: cs ++ [right]).filter fun c => !drop c) = cs := by
  have hcs : (cs.filter fun c => !drop c) = cs :=
    List.filter_eq_self.mpr fun c hc => by simp [h c hc]
  simp [hleft, hright, hcs]

end Definition

theorem Plain.arrowless_toList {marks : List Char} {name : String} (h : Plain marks name) :
    Definition.Arrowless name.toList := Definition.arrowless_iff.mpr h.arrowless

namespace Declaration

open Definition

variable {d : Declaration} {fields : List String} {cs : List Char}

namespace Writable

theorem legible (h : d.Writable) : d.Legible where
  name := h.name.spelled
  hooks hook hhook := (h.hooks hook hhook).spelled
  transitions t ht := ⟨(h.transitions t ht).1.spelled, (h.transitions t ht).2.spelled⟩

theorem arrowless_transition (h : d.Writable) {t : Transition} (ht : t ∈ d.transitions) :
    Arrowless (t.condition.toList ++ ':' :: t.target.toList) :=
  (h.transitions t ht).1.arrowless_toList.append_cons (h.transitions t ht).2.arrowless_toList
    (by decide) (by decide)

end Writable

namespace HeaderFields

theorem subset (h : d.HeaderFields fields) :
    fields ⊆ [d.name, d.onEnter.getD "", d.onLeave.getD ""] := by
  cases h <;> simp

theorem spelled_or_eq_empty (h : d.HeaderFields fields) (hd : d.Writable) :
    ∀ s ∈ fields, Spelled headerMarks s ∨ s = "" :=
  fun s hs => hd.legible.spelled_or_eq_empty s (h.subset hs)

theorem arrowless (h : d.HeaderFields fields) (hd : d.Writable) :
    ∀ s ∈ fields, Arrowless s.toList := by
  have hoption : ∀ o : Option String, (∀ hook ∈ o.toList, Plain headerMarks hook) →
      Arrowless (o.getD "").toList := by
    rintro (_ | hook) ho
    · exact .nil
    · exact (ho hook (by simp)).arrowless_toList
  intro s hs
  have hs := h.subset hs
  simp only [List.mem_cons, List.not_mem_nil, or_false] at hs
  rcases hs with rfl | rfl | rfl
  · exact hd.name.arrowless_toList
  · exact hoption _ fun hook hmem => hd.hooks hook (List.mem_append_left _ hmem)
  · exact hoption _ fun hook hmem => hd.hooks hook (List.mem_append_right _ hmem)

theorem parseHeader_eq (h : d.HeaderFields fields) (hd : d.Writable) (fragment : List Char) :
    parseHeader fragment ('(' :: [','].intercalate (fields.map String.toList) ++ [')']) =
      .ok (d.name, d.onEnter, d.onLeave) := by
  have hspelled := h.spelled_or_eq_empty hd
  have hbracket : ∀ c ∈ [','].intercalate (fields.map String.toList), isRoundBracket c = false := by
    intro c hc
    have hmarks := (mem_fieldsText hspelled c hc).2
    simp_all [isRoundBracket]
  have hne : fields ≠ [] := by
    rintro rfl
    cases h
  have hopen : isRoundBracket '(' = true := rfl
  have hclose : isRoundBracket ')' = true := rfl
  have hfields := headerFields_eq hne hspelled (filter_enclosed hopen hclose hbracket)
  cases h with
  | name henter hleave =>
    exact hd.legible.parseHeader_eq_ok hfields (by simp) (by simp [henter]) (by simp [hleave])
  | enter hleave => exact hd.legible.parseHeader_eq_ok hfields (by simp) rfl (by simp [hleave])
  | leave => exact hd.legible.parseHeader_eq_ok hfields (by simp) rfl rfl

end HeaderFields

namespace Written

theorem parseState_eq (h : d.Written cs) (hd : d.Writable) : parseState cs = .ok d := by
  cases h with
  | @intro fields body hfields hbody =>
    have hheader : Arrowless ([','].intercalate (fields.map String.toList)) := by
      refine (separated_intercalate ',' _).arrowless (by decide) (by decide) ?_
      simpa using hfields.arrowless hd
    have hinner : Arrowless body := by
      refine hbody.arrowless (by decide) (by decide) ?_
      simpa using fun t ht => hd.arrowless_transition ht
    have hcurly : ∀ c ∈ body, isCurlyBracket c = false := by
      intro c hc
      have hmarks := (hd.legible.mem_bodyText_of_separated hbody c hc).2
      simp_all [isCurlyBracket]
    have hopen : isCurlyBracket '{' = true := rfl
    have hclose : isCurlyBracket '}' = true := rfl
    refine parseState_eq_ok_iff.mpr ⟨_, '{' :: body ++ ['}'], ?_, hfields.parseHeader_eq hd _,
      hd.legible.parseTransitions_eq_ok ?_⟩
    · rw [List.append_assoc _ _ ['}'], arrowParts_append_arrow,
        (hheader.enclosed (by decide) (by decide) (by decide)).arrowParts_eq,
        (hinner.enclosed (by decide) (by decide) (by decide)).arrowParts_eq, List.singleton_append]
    · rwa [filter_enclosed hopen hclose hcurly]

theorem mem (h : d.Written cs) (hd : d.Writable) : ∀ c ∈ cs, Text.isBlank c = false ∧ c ≠ ';' := by
  cases h with
  | @intro fields body hfields hbody =>
    have hheader := mem_fieldsText (hfields.spelled_or_eq_empty hd)
    have hinner := hd.legible.mem_bodyText_of_separated hbody
    intro c hc
    simp only [arrow, List.mem_append, List.mem_cons, List.not_mem_nil, or_false] at hc
    rcases hc with (((( rfl | hc) | rfl) | rfl | rfl) | rfl | hc) | rfl
    all_goals first
      | decide
      | exact (hheader c hc).imp_right fun hmarks => by simp_all
      | exact (hinner c hc).imp_right fun hmarks => by simp_all

theorem ne_nil (h : d.Written cs) : cs ≠ [] := by
  cases h
  simp

end Written

end Declaration

namespace Definition

theorem exists_writes (ds : List Declaration) : ∃ text, Writes ds text := by
  have hwritten : ∀ d : Declaration, ∃ f, d.Written f :=
    fun d => ⟨_, .intro .leave (separated_intercalate ',' _)⟩
  choose f hf using hwritten
  refine ⟨String.ofList ([';'].intercalate (ds.map f)), ds.map f, _,
    List.forall₂_map_right_iff.mpr (List.forall₂_same.mpr fun d _ => hf d),
    separated_intercalate ';' _, ?_⟩
  rw [String.toList_ofList]
  exact spaced_refl _

theorem fragments_eq_of_written {ds : List Declaration} {fs : List (List Char)} {cs : List Char}
    {text : String} (hwritten : List.Forall₂ Declaration.Written ds fs)
    (hseparated : Separated ';' fs cs) (hspaced : Spaced cs text.toList)
    (hds : ∀ d ∈ ds, d.Writable) : fragments text = fs := by
  have hmem : ∀ f ∈ fs, f ≠ [] ∧ ∀ c ∈ f, Text.isBlank c = false ∧ c ≠ ';' :=
    forall_mem_of_forall₂ hwritten fun d hd f hf => ⟨hf.ne_nil, hf.mem (hds d hd)⟩
  have hcs : Text.removeBlanks cs = cs := by
    refine List.filter_eq_self.mpr fun c hc => ?_
    rcases hseparated.eq_or_mem hc with rfl | ⟨f, hf, hc⟩
    · rfl
    · simp [((hmem f hf).2 c hc).1]
  rw [fragments, (spaced_iff hcs).mp hspaced]
  exact Stretches.pieces_eq
    ⟨hseparated, fun f hf => ⟨(hmem f hf).1, fun hc => ((hmem f hf).2 ';' hc).2 rfl⟩⟩

/-- Every list of writable declarations can be written, and whatever way it is written, it is what is
read. -/
theorem parse_writes (ds : List Declaration) (hne : ds ≠ []) (hds : ∀ d ∈ ds, d.Writable) :
    (∃ text, Writes ds text) ∧ ∀ text, Writes ds text → parse text = .ok ds := by
  refine ⟨exists_writes ds, ?_⟩
  rintro text ⟨fs, cs, hwritten, hseparated, hspaced⟩
  refine parse_eq_ok_iff.mpr ⟨hne, ?_⟩
  rw [fragments_eq_of_written hwritten hseparated hspaced hds]
  clear hne hseparated
  induction hwritten with
  | nil => exact .nil
  | cons hd _ ih =>
    rw [List.forall_mem_cons] at hds
    exact .cons (hd.parseState_eq hds.1) (ih hds.2)

/-- Names have the other marks in them, and a dash or a tip at an end. -/
theorem parse_writes_marks_in_names :
    let first : Declaration := ⟨"A:\x7b-", none, some ">out", [⟨"go(-", ">B"⟩, ⟨"x", ">B"⟩]⟩
    let second : Declaration := ⟨">B", none, none, []⟩
    parse "; (A:\x7b-, ,> out)- > \x7b,g o(-:>B, ,x:>B\x7d ;;\n(>B)->\x7b,\x7d;" =
      .ok [first, second] := by
  intro first second
  have hfirst := Declaration.Written.intro (d := first) .leave (.extra (.cons _ (.extra (.last _))))
  have hsecond := Declaration.Written.intro (d := second) (.name rfl rfl) (.extra .nil)
  refine (parse_writes [first, second] (by simp) (by decide +kernel)).2 _
    ⟨_, _, .cons hfirst (.cons hsecond .nil), .extra (.cons _ (.extra (.cons _ .nil))), ?_⟩
  exact (spaced_iff (by decide +kernel)).mpr (by decide +kernel)

end Definition

end Workflow
