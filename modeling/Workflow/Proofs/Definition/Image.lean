import Mathlib.Tactic.MkIffOfInductiveProp
import Workflow.Proofs.Definition.Reading
import Workflow.Proofs.Definition.Separation

/-! Which declarations some text stands for. Brackets are dropped after a text is cut at its arrow,
so that a bracket can keep an arrow inside a name from being one. -/

namespace Workflow

/-- The name has a character, and each is visible and none of the marks. -/
def Spelled (marks : List Char) (name : String) : Prop :=
  name ≠ "" ∧ ∀ c ∈ name.toList, Text.isBlank c = false ∧ c ∉ marks

instance (marks : List Char) (name : String) : Decidable (Spelled marks name) :=
  @instDecidableAnd _ _ inferInstance (List.decidableBAll _ _)

theorem Spelled.isBlank {marks : List Char} {name : String} (h : Spelled marks name) :
    ∀ c ∈ name.toList, Text.isBlank c = false := fun c hc => (h.2 c hc).1

theorem Spelled.toList_ne_nil {marks : List Char} {name : String} (h : Spelled marks name) :
    name.toList ≠ [] := by
  simpa using h.1

namespace Declaration

def headerMarks : List Char := [';', ',', '(', ')']

def bodyMarks : List Char := [';', ',', ':', '{', '}']

/-- Every name can be told apart from what stands around it. -/
@[mk_iff]
structure Legible (d : Declaration) : Prop where
  name : Spelled headerMarks d.name
  hooks : ∀ hook ∈ d.hooks, Spelled headerMarks hook
  transitions : ∀ t ∈ d.transitions, Spelled bodyMarks t.condition ∧ Spelled bodyMarks t.target

instance (d : Declaration) : Decidable d.Legible := decidable_of_iff' _ d.legible_iff

end Declaration

namespace Definition

open Declaration (headerMarks bodyMarks)

theorem mem_fragments {text : String} {fragment : List Char} (h : fragment ∈ fragments text) :
    ∀ c ∈ fragment, Text.isBlank c = false ∧ c ≠ ';' := by
  intro c hc
  obtain ⟨hmem, hne⟩ := (mem_pieces h).2 c hc
  exact ⟨Text.isBlank_of_mem_removeBlanks hmem, hne⟩

theorem mem_headerFields {header field : List Char} (h : field ∈ headerFields header) :
    ∀ c ∈ field, c ∈ header ∧ c ≠ '(' ∧ c ≠ ')' ∧ c ≠ ',' := by
  intro c hc
  obtain ⟨hmem, hcomma⟩ := mem_and_ne_of_mem_splitOn h c hc
  obtain ⟨hheader, hbracket⟩ := List.mem_filter.mp hmem
  simp only [isRoundBracket, Bool.not_eq_eq_eq_not, Bool.not_true, Bool.or_eq_false_iff,
    decide_eq_false_iff_not] at hbracket
  exact ⟨hheader, hbracket.1, hbracket.2, hcomma⟩

theorem spelled_of_parseHeader {fragment header : List Char} {name : String}
    {onEnter onLeave : Option String}
    (hheader : ∀ c ∈ header, Text.isBlank c = false ∧ c ≠ ';')
    (h : parseHeader fragment header = .ok (name, onEnter, onLeave)) :
    Spelled headerMarks name ∧
      ∀ hook ∈ onEnter.toList ++ onLeave.toList, Spelled headerMarks hook := by
  obtain ⟨hname, hooks, hfields, -, rfl, rfl⟩ := parseHeader_eq_ok_iff.mp h
  have hfield : ∀ s : String, s ≠ "" → s.toList ∈ headerFields header → Spelled headerMarks s := by
    refine fun s hs hmem => ⟨hs, fun c hc => ?_⟩
    obtain ⟨hc, hopen, hclose, hcomma⟩ := mem_headerFields hmem c hc
    exact ⟨(hheader c hc).1, by simp [headerMarks, hopen, hclose, hcomma, (hheader c hc).2]⟩
  refine ⟨hfield name hname (hfields ▸ List.mem_cons_self), fun hook hmem => ?_⟩
  have hbound : ∃ i : Nat, hooks[i]?.bind optionalName = some hook := by
    simp only [List.mem_append, Option.mem_toList] at hmem
    exact hmem.elim (fun h => ⟨0, h⟩) fun h => ⟨1, h⟩
  obtain ⟨i, hi⟩ := hbound
  obtain ⟨field, hget, hsome⟩ := Option.bind_eq_some_iff.mp hi
  obtain ⟨hne, rfl⟩ := optionalName_eq_some_iff.mp hsome
  exact hfield hook hne (hfields ▸ List.mem_cons_of_mem _ (List.mem_of_getElem? hget))

theorem spelled_of_parseTransition {state : String} {piece : List Char} {t : Transition}
    (hpiece : ∀ c ∈ piece, Text.isBlank c = false ∧ c ∉ [';', ',', '{', '}'])
    (h : parseTransition state piece = .ok t) :
    Spelled bodyMarks t.condition ∧ Spelled bodyMarks t.target := by
  obtain ⟨hsplit, hcondition, htarget⟩ := parseTransition_eq_ok_iff.mp h
  have hpart : ∀ s : String, s ≠ "" → s.toList ∈ piece.splitOn ':' → Spelled bodyMarks s := by
    refine fun s hs hmem => ⟨hs, fun c hc => ?_⟩
    obtain ⟨hc, hcolon⟩ := mem_and_ne_of_mem_splitOn hmem c hc
    obtain ⟨hblank, hmarks⟩ := hpiece c hc
    exact ⟨hblank, by simp_all [bodyMarks]⟩
  exact ⟨hpart _ hcondition (by simp [hsplit]), hpart _ htarget (by simp [hsplit])⟩

theorem legible_of_parseState {fragment : List Char} {d : Declaration}
    (hfragment : ∀ c ∈ fragment, Text.isBlank c = false ∧ c ≠ ';')
    (h : parseState fragment = .ok d) : d.Legible := by
  obtain ⟨header, body, hparts, hheader, hbody⟩ := parseState_eq_ok_iff.mp h
  have hmem : ∀ part ∈ [header, body], ∀ c ∈ part, Text.isBlank c = false ∧ c ≠ ';' :=
    fun part hpart c hc => hfragment c (mem_of_mem_arrowParts (hparts ▸ hpart) c hc)
  obtain ⟨hname, hhooks⟩ := spelled_of_parseHeader (hmem header (by simp)) hheader
  refine ⟨hname, hhooks, forall_mem_of_forall₂ (parseTransitions_eq_ok_iff.mp hbody) ?_⟩
  intro piece hpiece t ht
  refine spelled_of_parseTransition (fun c hc => ?_) ht
  obtain ⟨hc, hcomma⟩ := (mem_pieces hpiece).2 c hc
  obtain ⟨hc, hbracket⟩ := List.mem_filter.mp hc
  simp only [isCurlyBracket, Bool.not_eq_eq_eq_not, Bool.not_true, Bool.or_eq_false_iff,
    decide_eq_false_iff_not] at hbracket
  obtain ⟨hblank, hsemicolon⟩ := hmem body (by simp) c hc
  exact ⟨hblank, by simp [hsemicolon, hcomma, hbracket.1, hbracket.2]⟩

theorem legible_of_parse {text : String} {ds : List Declaration} (h : parse text = .ok ds) :
    ∀ d ∈ ds, d.Legible :=
  forall_mem_of_forall₂ (parse_eq_ok_iff.mp h).2 fun _ hfragment _ hd =>
    legible_of_parseState (mem_fragments hfragment) hd

/-- `cs` with a bracket behind every character, so that no two characters make an arrow. -/
def spread (bracket : Char) (cs : List Char) : List Char := cs.flatMap fun c => [c, bracket]

theorem eq_or_mem_of_mem_spread {bracket c : Char} {cs : List Char} (h : c ∈ spread bracket cs) :
    c = bracket ∨ c ∈ cs := by
  obtain ⟨x, hx, hc⟩ := List.mem_flatMap.mp h
  rcases List.mem_cons.mp hc with rfl | hc
  · exact .inr hx
  · exact .inl (List.mem_singleton.mp hc)

theorem filter_spread {bracket : Char} {drop : Char → Bool} {cs : List Char}
    (hbracket : drop bracket = true) (h : ∀ c ∈ cs, drop c = false) :
    ((spread bracket cs).filter fun c => !drop c) = cs := by
  induction cs with
  | nil => rfl
  | cons c cs ih =>
    have hrest : ((spread bracket cs).filter fun c => !drop c) = cs :=
      ih fun x hx => h x (List.mem_cons_of_mem c hx)
    have hc : drop c = false := h c List.mem_cons_self
    rw [spread] at hrest ⊢
    simp [hc, hbracket, hrest]

theorem arrowParts_spread_append {bracket : Char} (hdash : bracket ≠ '-') (htip : bracket ≠ '>')
    (cs rest : List Char) :
    arrowParts (spread bracket cs ++ rest) =
      (arrowParts rest).modifyHead (spread bracket cs ++ ·) := by
  induction cs with
  | nil =>
    have hspread : spread bracket [] = [] := rfl
    rw [hspread]
    cases hrest : arrowParts rest <;> simp [hrest]
  | cons c cs ih =>
    have hspread : spread bracket (c :: cs) = c :: bracket :: spread bracket cs := rfl
    rw [hspread, List.cons_append, List.cons_append, arrowParts_cons (by simp [htip]),
      arrowParts_cons (by simp [hdash]), ih, List.modifyHead_modifyHead, List.modifyHead_modifyHead]
    rfl

section Fields

variable {fields : List String}

theorem mem_fieldsText (h : ∀ s ∈ fields, Spelled headerMarks s ∨ s = "") :
    ∀ c ∈ [','].intercalate (fields.map String.toList), Text.isBlank c = false ∧ c ∉ [';', '(', ')'] := by
  intro c hc
  rcases (separated_intercalate ',' _).eq_or_mem hc with rfl | ⟨field, hfield, hc⟩
  · decide
  · obtain ⟨s, hs, rfl⟩ := List.mem_map.mp hfield
    rcases h s hs with hs | rfl
    · obtain ⟨hblank, hmarks⟩ := hs.2 c hc
      exact ⟨hblank, by simp_all [headerMarks]⟩
    · simp at hc

theorem headerFields_eq {header : List Char} (hne : fields ≠ [])
    (h : ∀ s ∈ fields, Spelled headerMarks s ∨ s = "")
    (hheader : (header.filter fun c => !isRoundBracket c) = [','].intercalate (fields.map String.toList)) :
    headerFields header = fields.map String.toList := by
  rw [headerFields, hheader, List.splitOn_intercalate ',' _ (by simpa using hne)]
  intro field hfield hcomma
  obtain ⟨s, hs, rfl⟩ := List.mem_map.mp hfield
  rcases h s hs with hs | rfl
  · exact (hs.2 ',' hcomma).2 (by decide)
  · simp at hcomma

theorem optionalName_getD {o : Option String} (h : ∀ hook ∈ o.toList, Spelled headerMarks hook) :
    optionalName (o.getD "").toList = o := by
  cases o with
  | none => rfl
  | some hook => exact optionalName_eq_some_iff.mpr ⟨(h hook (by simp)).1, rfl⟩

end Fields

end Definition

namespace Declaration

open Definition

def headerText (d : Declaration) : List Char :=
  [','].intercalate [d.name.toList, (d.onEnter.getD "").toList, (d.onLeave.getD "").toList]

def bodyText (d : Declaration) : List Char :=
  [','].intercalate (d.transitions.map fun t => t.condition.toList ++ ':' :: t.target.toList)

def text (d : Declaration) : List Char :=
  spread '(' d.headerText ++ '-' :: '>' :: spread '{' d.bodyText

namespace Legible

variable {d : Declaration}

theorem spelled_or_eq_empty (h : d.Legible) :
    ∀ s ∈ [d.name, d.onEnter.getD "", d.onLeave.getD ""], Spelled headerMarks s ∨ s = "" := by
  have hoption : ∀ o : Option String, (∀ hook ∈ o.toList, Spelled headerMarks hook) →
      Spelled headerMarks (o.getD "") ∨ o.getD "" = "" := by
    rintro (_ | hook) ho
    · exact .inr rfl
    · exact .inl (ho hook (by simp))
  simp only [List.forall_mem_cons, List.not_mem_nil, IsEmpty.forall_iff, implies_true, and_true]
  exact ⟨.inl h.name, hoption _ fun hook hmem => h.hooks hook (List.mem_append_left _ hmem),
    hoption _ fun hook hmem => h.hooks hook (List.mem_append_right _ hmem)⟩

theorem mem_headerText (h : d.Legible) :
    ∀ c ∈ d.headerText, Text.isBlank c = false ∧ c ∉ [';', '(', ')'] :=
  mem_fieldsText h.spelled_or_eq_empty

theorem mem_transition (h : d.Legible) {t : Transition} (ht : t ∈ d.transitions) :
    ∀ c ∈ t.condition.toList ++ ':' :: t.target.toList,
      Text.isBlank c = false ∧ c ∉ [';', ',', '{', '}'] := by
  intro c hc
  obtain ⟨hcondition, htarget⟩ := h.transitions t ht
  rcases List.mem_append.mp hc with hc | hc
  · obtain ⟨hblank, hmarks⟩ := hcondition.2 c hc
    exact ⟨hblank, by simp_all [bodyMarks]⟩
  · rcases List.mem_cons.mp hc with rfl | hc
    · decide
    · obtain ⟨hblank, hmarks⟩ := htarget.2 c hc
      exact ⟨hblank, by simp_all [bodyMarks]⟩

theorem mem_bodyText_of_separated (h : d.Legible) {body : List Char}
    (hbody : Separated ',' (d.transitions.map fun t => t.condition.toList ++ ':' :: t.target.toList) body) :
    ∀ c ∈ body, Text.isBlank c = false ∧ c ∉ [';', '{', '}'] := by
  intro c hc
  rcases hbody.eq_or_mem hc with rfl | ⟨piece, hpiece, hc⟩
  · decide
  · obtain ⟨t, ht, rfl⟩ := List.mem_map.mp hpiece
    exact (h.mem_transition ht c hc).imp_right fun hmarks => by simp_all

theorem mem_bodyText (h : d.Legible) :
    ∀ c ∈ d.bodyText, Text.isBlank c = false ∧ c ∉ [';', '{', '}'] :=
  h.mem_bodyText_of_separated (separated_intercalate ',' _)

theorem mem_text (h : d.Legible) : ∀ c ∈ d.text, Text.isBlank c = false ∧ c ≠ ';' := by
  intro c hc
  simp only [text, List.mem_append, List.mem_cons] at hc
  rcases hc with hc | rfl | rfl | hc
  · rcases eq_or_mem_of_mem_spread hc with rfl | hc
    · decide
    · exact (h.mem_headerText c hc).imp id fun hmarks => by simp_all
  · decide
  · decide
  · rcases eq_or_mem_of_mem_spread hc with rfl | hc
    · decide
    · exact (h.mem_bodyText c hc).imp id fun hmarks => by simp_all

theorem parseHeader_eq_ok (h : d.Legible) {fragment header : List Char} {hooks : List (List Char)}
    (hfields : headerFields header = d.name.toList :: hooks) (hfew : hooks.length ≤ 2)
    (henter : hooks[0]?.getD [] = (d.onEnter.getD "").toList)
    (hleave : hooks[1]?.getD [] = (d.onLeave.getD "").toList) :
    parseHeader fragment header = .ok (d.name, d.onEnter, d.onLeave) := by
  have hoption : ∀ (o : Option String) (i : Nat), (∀ hook ∈ o.toList, Spelled headerMarks hook) →
      hooks[i]?.getD [] = (o.getD "").toList → o = hooks[i]?.bind optionalName := by
    intro o i ho heq
    rw [← optionalName_getD ho, ← heq]
    cases hooks[i]? <;> rfl
  refine parseHeader_eq_ok_iff.mpr ⟨h.name.1, hooks, hfields, hfew, ?_, ?_⟩
  · exact hoption _ 0 (fun hook hmem => h.hooks hook (List.mem_append_left _ hmem)) henter
  · exact hoption _ 1 (fun hook hmem => h.hooks hook (List.mem_append_right _ hmem)) hleave

theorem parseHeader_headerText (h : d.Legible) (fragment : List Char) :
    parseHeader fragment (spread '(' d.headerText) = .ok (d.name, d.onEnter, d.onLeave) := by
  have hfilter : ((spread '(' d.headerText).filter fun c => !isRoundBracket c) = d.headerText :=
    filter_spread rfl fun c hc => by
      have := (h.mem_headerText c hc).2
      simp_all [isRoundBracket]
  exact h.parseHeader_eq_ok (headerFields_eq (by simp) h.spelled_or_eq_empty hfilter) (by simp) rfl rfl

theorem parseTransitions_eq_ok (h : d.Legible) {body : List Char}
    (hbody : Separated ',' (d.transitions.map fun t => t.condition.toList ++ ':' :: t.target.toList)
      (body.filter fun c => !isCurlyBracket c)) :
    parseTransitions d.name body = .ok d.transitions := by
  have hpieces := Stretches.pieces_eq ⟨hbody, fun piece hpiece => by
    obtain ⟨t, ht, rfl⟩ := List.mem_map.mp hpiece
    exact ⟨by simp, fun hcomma => (h.mem_transition ht _ hcomma).2 (by decide)⟩⟩
  rw [parseTransitions_eq_ok_iff, hpieces, List.forall₂_map_left_iff, List.forall₂_same]
  intro t ht
  obtain ⟨hcondition, htarget⟩ := h.transitions t ht
  refine parseTransition_eq_ok_iff.mpr ⟨?_, hcondition.1, htarget.1⟩
  have hc : ':' ∉ t.condition.toList := fun hc => (hcondition.2 _ hc).2 (by decide)
  have ht : ':' ∉ t.target.toList := fun hc => (htarget.2 _ hc).2 (by decide)
  rw [List.splitOn_append_cons_self_of_not_mem hc, List.splitOn_eq_singleton ht]

theorem parseTransitions_bodyText (h : d.Legible) :
    parseTransitions d.name (spread '{' d.bodyText) = .ok d.transitions := by
  have hfilter : ((spread '{' d.bodyText).filter fun c => !isCurlyBracket c) = d.bodyText :=
    filter_spread rfl fun c hc => by
      have := (h.mem_bodyText c hc).2
      simp_all [isCurlyBracket]
  refine h.parseTransitions_eq_ok ?_
  rw [hfilter]
  exact separated_intercalate ',' _

theorem parseState_text (h : d.Legible) : parseState d.text = .ok d := by
  refine parseState_eq_ok_iff.mpr ⟨_, _, ?_, h.parseHeader_headerText _, h.parseTransitions_bodyText⟩
  have hbody : arrowParts (spread '{' d.bodyText) = [spread '{' d.bodyText] := by
    simpa [arrowParts] using
      arrowParts_spread_append (show '{' ≠ '-' by decide) (by decide) d.bodyText []
  rw [text, arrowParts_spread_append (by decide) (by decide), arrowParts_arrow, hbody]
  simp

end Legible

end Declaration

namespace Definition

open Declaration (headerMarks bodyMarks)

def written (ds : List Declaration) : String :=
  String.ofList ([';'].intercalate (ds.map Declaration.text))

theorem fragments_written {ds : List Declaration} (h : ∀ d ∈ ds, d.Legible) :
    fragments (written ds) = ds.map Declaration.text := by
  have hblank : Text.removeBlanks ([';'].intercalate (ds.map Declaration.text)) =
      [';'].intercalate (ds.map Declaration.text) := by
    refine List.filter_eq_self.mpr fun c hc => ?_
    rcases (separated_intercalate ';' _).eq_or_mem hc with rfl | ⟨p, hp, hc⟩
    · decide
    · obtain ⟨d, hd, rfl⟩ := List.mem_map.mp hp
      simp [((h d hd).mem_text c hc).1]
  rw [fragments, written, String.toList_ofList, hblank, pieces_intercalate]
  intro p hp
  obtain ⟨d, hd, rfl⟩ := List.mem_map.mp hp
  exact ⟨by simp [Declaration.text], fun hc => ((h d hd).mem_text ';' hc).2 rfl⟩

theorem parse_written {ds : List Declaration} (hds : ds ≠ []) (h : ∀ d ∈ ds, d.Legible) :
    parse (written ds) = .ok ds := by
  rw [parse_eq_ok_iff, fragments_written h, List.forall₂_map_left_iff, List.forall₂_same]
  exact ⟨hds, fun d hd => (h d hd).parseState_text⟩

theorem spelled_arrow {marks : List Char} {a b : String} (hdash : '-' ∉ marks) (htip : '>' ∉ marks)
    (h : ∀ c ∈ (a ++ b).toList, Text.isBlank c = false ∧ c ∉ marks) :
    Spelled marks (a ++ "->" ++ b) := by
  refine ⟨fun hempty => ?_, fun c hc => ?_⟩
  · have hlist := congrArg String.toList hempty
    simp at hlist
  · simp only [String.toList_append, List.mem_append] at h hc
    rcases hc with (hc | hc) | hc
    · exact h c (.inl hc)
    · have hc : c = '-' ∨ c = '>' := by simpa using hc
      rcases hc with rfl | rfl
      · exact ⟨by decide, hdash⟩
      · exact ⟨by decide, htip⟩
    · exact h c (.inr hc)

/-- The declarations that some text stands for. An arrow may stand anywhere in a name, and a hook
that is absent never shows as an empty one. -/
theorem exists_parse_eq_ok_iff :
    (∀ ds : List Declaration, (∃ text, parse text = .ok ds) ↔ ds ≠ [] ∧ ∀ d ∈ ds, d.Legible) ∧
      (∀ a b : String, (∀ c ∈ (a ++ b).toList, Text.isBlank c = false ∧
          c ∉ headerMarks ++ bodyMarks) →
        let name := a ++ "->" ++ b
        ∃ text, parse text = .ok [⟨name, some name, some name, [⟨name, name⟩]⟩]) ∧
      ∀ text ds, parse text = .ok ds → ∀ d ∈ ds, d.onEnter ≠ some "" ∧ d.onLeave ≠ some "" := by
  have hiff : ∀ ds : List Declaration,
      (∃ text, parse text = .ok ds) ↔ ds ≠ [] ∧ ∀ d ∈ ds, d.Legible := by
    refine fun ds => ⟨?_, fun ⟨hds, h⟩ => ⟨_, parse_written hds h⟩⟩
    rintro ⟨text, h⟩
    exact ⟨(parse_eq_ok_iff.mp h).1, legible_of_parse h⟩
  refine ⟨hiff, fun a b hab => (hiff _).mpr ⟨by simp, ?_⟩, fun text ds h d hd => ?_⟩
  · have hheader : Spelled headerMarks (a ++ "->" ++ b) :=
      spelled_arrow (by decide) (by decide) fun c hc =>
        (hab c hc).imp id fun hmarks hmem => hmarks (List.mem_append_left _ hmem)
    have hbody : Spelled bodyMarks (a ++ "->" ++ b) :=
      spelled_arrow (by decide) (by decide) fun c hc =>
        (hab c hc).imp id fun hmarks hmem => hmarks (List.mem_append_right _ hmem)
    rw [List.forall_mem_singleton]
    exact ⟨hheader, by simp [Declaration.hooks, hheader], by simp [hbody]⟩
  · have hhooks := (legible_of_parse h d hd).hooks
    constructor
    · intro he
      exact (hhooks "" (by simp [Declaration.hooks, he])).1 rfl
    · intro he
      exact (hhooks "" (by simp [Declaration.hooks, he])).1 rfl

/-- Names made of arrows, and marks of the header in a transition. -/
theorem exists_parse_arrows : ∃ text, parse text = .ok [⟨"->", some "a->b", none, []⟩,
    ⟨"\x7bx\x7d", none, some ":->", [⟨"->->", "(->)"⟩, ⟨"c", "->"⟩]⟩] :=
  (exists_parse_eq_ok_iff.1 _).mpr ⟨by simp, by decide +kernel⟩

end Definition

end Workflow
