import Workflow.Proofs.Definition.Reading
import Workflow.Proofs.Definition.Separation

/-! What becomes of a text. Its fragments are read one by one, and the leftmost that is not well formed
decides the error; of one fragment, the arrow comes first, then the number of fields, the name and the
transitions in their order. -/

namespace Workflow.Definition

def withoutRound (cs : List Char) : List Char := cs.filter fun c => !isRoundBracket c

def withoutCurly (cs : List Char) : List Char := cs.filter fun c => !isCurlyBracket c

def nameText (header : List Char) : List Char := (withoutRound header).takeWhile fun c => c != ','

def Nameless (header : List Char) : Prop :=
  withoutRound header = [] ∨ (withoutRound header).head? = some ','

/-- Two texts around the only colon. -/
def IsPair (piece : List Char) : Prop :=
  ∃ condition target, piece = condition ++ ':' :: target ∧ condition ≠ [] ∧ target ≠ [] ∧
    ':' ∉ condition ∧ ':' ∉ target

def HasFields (header : List Char) : Prop := (withoutRound header).count ',' < 3

/-- One arrow, before it a name with two more fields at most, and pairs behind it. -/
def WellFormed (fragment : List Char) : Prop :=
  ∃ header body ps, CutsOnce fragment header body ∧ HasFields header ∧ ¬ Nameless header ∧
    Stretches ',' ps (withoutCurly body) ∧ ∀ p ∈ ps, IsPair p

/-- What is wrong with a fragment. Each kind of error rules out those before it. -/
inductive Fault (fragment : List Char) : DefinitionError → Prop
  | arrow (h : ∀ header body, ¬ CutsOnce fragment header body) :
      Fault fragment (.malformedState (String.ofList fragment))
  | fields {header body : List Char} (hcut : CutsOnce fragment header body)
      (h : ¬ HasFields header) : Fault fragment (.malformedHeader (String.ofList fragment))
  | name {header body : List Char} (hcut : CutsOnce fragment header body)
      (hfields : HasFields header) (h : Nameless header) :
      Fault fragment (.missingStateName (String.ofList fragment))
  | transition {header body : List Char} {before after : List (List Char)} {piece : List Char}
      (hcut : CutsOnce fragment header body) (hfields : HasFields header) (hname : ¬ Nameless header)
      (hpieces : Stretches ',' (before ++ piece :: after) (withoutCurly body))
      (hbefore : ∀ p ∈ before, IsPair p) (h : ¬ IsPair piece) :
      Fault fragment (.malformedTransition (String.ofList (nameText header)) (String.ofList piece))

/-- The fields of a header: a name and up to two hooks. A field that is empty names no hook. -/
structure HeaderSays (header : List Char) (d : Declaration) (hooks : List (List Char)) : Prop where
  fields : withoutRound header = [','].intercalate (d.name.toList :: hooks)
  separate : ∀ field ∈ d.name.toList :: hooks, ',' ∉ field
  few : hooks.length ≤ 2
  name : d.name ≠ ""
  onEnter : d.onEnter.map String.toList = hooks[0]?.filter fun field => !field.isEmpty
  onLeave : d.onLeave.map String.toList = hooks[1]?.filter fun field => !field.isEmpty

structure Spells (piece : List Char) (t : Transition) : Prop where
  eq : piece = t.condition.toList ++ ':' :: t.target.toList
  condition : t.condition ≠ "" ∧ ':' ∉ t.condition.toList
  target : t.target ≠ "" ∧ ':' ∉ t.target.toList

/-- What a fragment says. -/
def Says (fragment : List Char) (d : Declaration) : Prop :=
  ∃ header body hooks ps, CutsOnce fragment header body ∧ HeaderSays header d hooks ∧
    Stretches ',' ps (withoutCurly body) ∧ List.Forall₂ Spells ps d.transitions

theorem splitOn_eq_iff {separator : Char} {cs : List Char} {ps : List (List Char)} :
    cs.splitOn separator = ps ↔
      ps ≠ [] ∧ cs = [separator].intercalate ps ∧ ∀ p ∈ ps, separator ∉ p := by
  constructor
  · rintro rfl
    exact ⟨List.splitOn_ne_nil _ _, (List.intercalate_splitOn separator).symm,
      fun p hp hc => (mem_and_ne_of_mem_splitOn hp separator hc).2 rfl⟩
  · rintro ⟨hne, rfl, hnot⟩
    exact List.splitOn_intercalate separator hnot hne

theorem exists_splitOn_eq (separator : Char) (cs : List Char) :
    ∃ rest, cs.splitOn separator = (cs.takeWhile fun c => c != separator) :: rest ∧
      rest.length = cs.count separator := by
  induction cs with
  | nil => exact ⟨[], rfl, rfl⟩
  | cons c cs ih =>
    obtain ⟨rest, hrest, hlength⟩ := ih
    rw [List.splitOn_cons_eq_if_modifyHead]
    by_cases hc : c = separator
    · subst hc
      exact ⟨cs.splitOn c, by simp, by simp [hrest, hlength]⟩
    · exact ⟨rest, by simp [hrest, hc], by simp [hc, hlength]⟩

section Piece

variable {state : String} {piece : List Char} {t : Transition} {e : DefinitionError}

theorem parseTransition_eq_ok_iff_spells : parseTransition state piece = .ok t ↔ Spells piece t := by
  rw [parseTransition_eq_ok_iff, splitOn_eq_iff]
  simp only [List.forall_mem_cons]
  constructor
  · rintro ⟨⟨-, heq, hc, ht, -⟩, hcondition, htarget⟩
    exact ⟨by simpa using heq, ⟨hcondition, hc⟩, ⟨htarget, ht⟩⟩
  · rintro ⟨heq, ⟨hcondition, hc⟩, ⟨htarget, ht⟩⟩
    exact ⟨⟨by simp, by simpa using heq, hc, ht, by simp⟩, hcondition, htarget⟩

theorem exists_parseTransition_eq_ok_iff (state : String) :
    (∃ t, parseTransition state piece = .ok t) ↔ IsPair piece := by
  simp only [parseTransition_eq_ok_iff_spells]
  constructor
  · rintro ⟨t, heq, hcondition, htarget⟩
    exact ⟨_, _, heq, mt String.toList_eq_nil_iff.mp hcondition.1,
      mt String.toList_eq_nil_iff.mp htarget.1, hcondition.2, htarget.2⟩
  · rintro ⟨condition, target, rfl, hcondition, htarget, hc, ht⟩
    exact ⟨⟨String.ofList condition, String.ofList target⟩, by simp, by simp [hcondition, hc],
      by simp [htarget, ht]⟩

theorem parseTransition_eq_error_iff :
    parseTransition state piece = .error e ↔
      ¬ IsPair piece ∧ e = .malformedTransition state (String.ofList piece) := by
  rw [← exists_parseTransition_eq_ok_iff state]
  unfold parseTransition
  split <;> simp [eq_comm]

theorem parseTransitions_eq_error_iff {body : List Char} :
    parseTransitions state body = .error e ↔
      ∃ before piece after, Stretches ',' (before ++ piece :: after) (withoutCurly body) ∧
        (∀ p ∈ before, IsPair p) ∧ ¬ IsPair piece ∧
          e = .malformedTransition state (String.ofList piece) := by
  simp only [parseTransitions, mapM_eq_error_iff, exists_parseTransition_eq_ok_iff,
    parseTransition_eq_error_iff, pieces_eq_iff, withoutCurly]

theorem exists_parseTransitions_eq_ok_iff (state : String) {body : List Char} :
    (∃ ts, parseTransitions state body = .ok ts) ↔
      ∃ ps, Stretches ',' ps (withoutCurly body) ∧ ∀ p ∈ ps, IsPair p := by
  simp only [parseTransitions, exists_mapM_eq_ok_iff, exists_parseTransition_eq_ok_iff,
    ← pieces_eq_iff, withoutCurly, exists_eq_left']

theorem parseTransitions_eq_ok_iff_spells {body : List Char} {ts : List Transition} :
    parseTransitions state body = .ok ts ↔
      ∃ ps, Stretches ',' ps (withoutCurly body) ∧ List.Forall₂ Spells ps ts := by
  simp only [parseTransitions_eq_ok_iff, parseTransition_eq_ok_iff_spells, ← pieces_eq_iff,
    withoutCurly, exists_eq_left']

end Piece

section Header

variable {fragment header : List Char} {d : Declaration} {e : DefinitionError}

theorem nameText_eq_nil_iff : nameText header = [] ↔ Nameless header := by
  rw [nameText, Nameless]
  cases withoutRound header with
  | nil => simp
  | cons c cs => by_cases hc : c = ',' <;> simp [hc]

theorem parseHeader_cases (fragment header : List Char) :
    (¬ HasFields header ∧
        parseHeader fragment header = .error (.malformedHeader (String.ofList fragment))) ∨
      (HasFields header ∧ Nameless header ∧
        parseHeader fragment header = .error (.missingStateName (String.ofList fragment))) ∨
      (HasFields header ∧ ¬ Nameless header ∧ ∃ onEnter onLeave,
        parseHeader fragment header = .ok (String.ofList (nameText header), onEnter, onLeave)) := by
  obtain ⟨hooks, hfields, hlength⟩ := exists_splitOn_eq ',' (withoutRound header)
  have hfields : headerFields header = nameText header :: hooks := hfields
  rw [HasFields, ← hlength, ← nameText_eq_nil_iff]
  unfold parseHeader
  rw [← headerFields, hfields]
  rcases hooks with _ | ⟨_, _ | ⟨_, _ | ⟨_, hooks⟩⟩⟩
  case cons.cons.cons =>
    refine .inl ⟨?_, rfl⟩
    simp only [List.length_cons]
    omega
  all_goals
    cases nameText header with
    | nil => exact .inr (.inl ⟨by simp, rfl, rfl⟩)
    | cons c cs => exact .inr (.inr ⟨by simp, by simp, _, _, rfl⟩)

theorem parseHeader_eq_error_iff :
    parseHeader fragment header = .error e ↔
      (¬ HasFields header ∧ e = .malformedHeader (String.ofList fragment)) ∨
        HasFields header ∧ Nameless header ∧ e = .missingStateName (String.ofList fragment) := by
  rcases parseHeader_cases fragment header with
    ⟨hfields, h⟩ | ⟨hfields, hname, h⟩ | ⟨hfields, hname, _, _, h⟩
  · simp [h, hfields, eq_comm]
  · simp [h, hfields, hname, eq_comm]
  · simp [h, hfields, hname]

theorem exists_parseHeader_eq_ok_iff (fragment : List Char) :
    (∃ fields, parseHeader fragment header = .ok fields) ↔ HasFields header ∧ ¬ Nameless header := by
  rcases parseHeader_cases fragment header with
    ⟨hfields, h⟩ | ⟨hfields, hname, h⟩ | ⟨hfields, hname, _, _, h⟩
  · simp [h, hfields]
  · simp [h, hname]
  · simp [h, hfields, hname]

theorem fst_of_parseHeader {fields : String × Option String × Option String}
    (h : parseHeader fragment header = .ok fields) : fields.1 = String.ofList (nameText header) := by
  rcases parseHeader_cases fragment header with ⟨-, h'⟩ | ⟨-, -, h'⟩ | ⟨-, -, _, _, h'⟩
  · simp [h'] at h
  · simp [h'] at h
  · rw [h', Except.ok.injEq] at h
    rw [← h]

theorem eq_bind_optionalName_iff {o : Option String} {field : Option (List Char)} :
    o = field.bind optionalName ↔ o.map String.toList = field.filter fun cs => !cs.isEmpty := by
  match field with
  | none => simp
  | some [] => simp [optionalName, Option.filter]
  | some (c :: cs) =>
    simp only [Option.bind_some, optionalName, Option.filter, List.isEmpty_cons, Bool.not_false,
      if_true]
    rw [Option.map_eq_some_iff]
    constructor
    · rintro rfl
      exact ⟨_, rfl, String.toList_ofList⟩
    · rintro ⟨name, rfl, hname⟩
      rw [← hname, String.ofList_toList]

theorem parseHeader_eq_ok_iff_says :
    parseHeader fragment header = .ok (d.name, d.onEnter, d.onLeave) ↔
      ∃ hooks, HeaderSays header d hooks := by
  rw [parseHeader_eq_ok_iff]
  constructor
  · rintro ⟨hname, hooks, hfields, hfew, henter, hleave⟩
    obtain ⟨-, hfields, hseparate⟩ := splitOn_eq_iff.mp hfields
    exact ⟨hooks, hfields, hseparate, hfew, hname, eq_bind_optionalName_iff.mp henter,
      eq_bind_optionalName_iff.mp hleave⟩
  · rintro ⟨hooks, h⟩
    exact ⟨h.name, hooks, splitOn_eq_iff.mpr ⟨by simp, h.fields, h.separate⟩, h.few,
      eq_bind_optionalName_iff.mpr h.onEnter, eq_bind_optionalName_iff.mpr h.onLeave⟩

end Header

section Fragment

variable {fragment header body : List Char} {d : Declaration} {e : DefinitionError}

theorem CutsOnce.parseState_eq (h : CutsOnce fragment header body) :
    parseState fragment = do
      let (name, onEnter, onLeave) ← parseHeader fragment header
      let transitions ← parseTransitions name body
      return { name, onEnter, onLeave, transitions } := by
  unfold parseState
  rw [arrowParts_eq_pair_iff.mpr h]

theorem parseState_of_not_cutsOnce (h : ∀ header body, ¬ CutsOnce fragment header body) :
    parseState fragment = .error (.malformedState (String.ofList fragment)) := by
  unfold parseState
  split
  · rename_i header body hparts
    exact absurd (arrowParts_eq_pair_iff.mp hparts) (h header body)
  · rfl

theorem CutsOnce.parseState_eq_error_iff (h : CutsOnce fragment header body) :
    parseState fragment = .error e ↔
      parseHeader fragment header = .error e ∨ HasFields header ∧ ¬ Nameless header ∧
        parseTransitions (String.ofList (nameText header)) body = .error e := by
  rw [h.parseState_eq, bind_eq_error_iff, ← and_assoc,
    ← exists_parseHeader_eq_ok_iff fragment]
  refine or_congr_right ⟨?_, ?_⟩
  · rintro ⟨⟨name, onEnter, onLeave⟩, hheader, hbody⟩
    refine ⟨⟨_, hheader⟩, ?_⟩
    rw [← fst_of_parseHeader hheader]
    rcases bind_eq_error_iff.mp hbody with hbody | ⟨ts, -, hbody⟩
    · exact hbody
    · simp [pure, Except.pure] at hbody
  · rintro ⟨⟨fields, hheader⟩, hbody⟩
    refine ⟨fields, hheader, bind_eq_error_iff.mpr (.inl ?_)⟩
    rwa [fst_of_parseHeader hheader]

theorem parseState_eq_error_iff : parseState fragment = .error e ↔ Fault fragment e := by
  by_cases hcut : ∃ header body, CutsOnce fragment header body
  · obtain ⟨header, body, hcut⟩ := hcut
    rw [hcut.parseState_eq_error_iff, parseHeader_eq_error_iff, parseTransitions_eq_error_iff]
    constructor
    · rintro ((⟨hfields, rfl⟩ | ⟨hfields, hname, rfl⟩) |
        ⟨hfields, hname, before, piece, after, hpieces, hbefore, hpiece, rfl⟩)
      · exact .fields hcut hfields
      · exact .name hcut hfields hname
      · exact .transition hcut hfields hname hpieces hbefore hpiece
    · have hsame : ∀ {header' body'}, CutsOnce fragment header' body' →
          header' = header ∧ body' = body := fun h' => hcut.unique _ _ h'.eq
      intro hfault
      cases hfault with
      | arrow h => exact absurd hcut (h header body)
      | fields hcut' hfields =>
        obtain ⟨rfl, rfl⟩ := hsame hcut'
        exact .inl (.inl ⟨hfields, rfl⟩)
      | name hcut' hfields hname =>
        obtain ⟨rfl, rfl⟩ := hsame hcut'
        exact .inl (.inr ⟨hfields, hname, rfl⟩)
      | transition hcut' hfields hname hpieces hbefore hpiece =>
        obtain ⟨rfl, rfl⟩ := hsame hcut'
        exact .inr ⟨hfields, hname, _, _, _, hpieces, hbefore, hpiece, rfl⟩
  · have hnone : ∀ header body, ¬ CutsOnce fragment header body := fun header body h =>
      hcut ⟨header, body, h⟩
    rw [parseState_of_not_cutsOnce hnone, Except.error.injEq]
    constructor
    · rintro rfl
      exact .arrow hnone
    · intro hfault
      cases hfault with
      | arrow => rfl
      | fields h | name h | transition h => exact absurd h (hnone _ _)

theorem parseState_eq_ok_iff_says : parseState fragment = .ok d ↔ Says fragment d := by
  simp only [parseState_eq_ok_iff, arrowParts_eq_pair_iff, parseHeader_eq_ok_iff_says,
    parseTransitions_eq_ok_iff_spells, Says]
  constructor
  · rintro ⟨header, body, hcut, ⟨hooks, hheader⟩, ps, hbody, hps⟩
    exact ⟨header, body, hooks, ps, hcut, hheader, hbody, hps⟩
  · rintro ⟨header, body, hooks, ps, hcut, hheader, hbody, hps⟩
    exact ⟨header, body, hcut, ⟨hooks, hheader⟩, ps, hbody, hps⟩

theorem exists_parseState_eq_ok_iff : (∃ d, parseState fragment = .ok d) ↔ WellFormed fragment := by
  simp only [parseState_eq_ok_iff, arrowParts_eq_pair_iff]
  constructor
  · rintro ⟨d, header, body, hcut, hheader, hbody⟩
    obtain ⟨hfields, hname⟩ := (exists_parseHeader_eq_ok_iff fragment).mp ⟨_, hheader⟩
    obtain ⟨ps, hps, hpairs⟩ := (exists_parseTransitions_eq_ok_iff d.name).mp ⟨_, hbody⟩
    exact ⟨header, body, ps, hcut, hfields, hname, hps, hpairs⟩
  · rintro ⟨header, body, ps, hcut, hfields, hname, hps, hpairs⟩
    obtain ⟨⟨name, onEnter, onLeave⟩, hheader⟩ :=
      (exists_parseHeader_eq_ok_iff fragment).mpr ⟨hfields, hname⟩
    obtain ⟨transitions, hbody⟩ :=
      (exists_parseTransitions_eq_ok_iff name).mpr ⟨ps, hps, hpairs⟩
    exact ⟨⟨name, onEnter, onLeave, transitions⟩, header, body, hcut, hheader, hbody⟩

end Fragment

/-- Fragments with one fault: they have the same header, which is in order, and the same pieces up to
one that is no pair. -/
def ShareFault (fragment fragment' : List Char) : Prop :=
  ∃ header body header' body' before piece after after',
    CutsOnce fragment header body ∧ CutsOnce fragment' header' body' ∧
      withoutRound header = withoutRound header' ∧ HasFields header ∧ ¬ Nameless header ∧
      Stretches ',' (before ++ piece :: after) (withoutCurly body) ∧
      Stretches ',' (before ++ piece :: after') (withoutCurly body') ∧ ¬ IsPair piece

theorem exists_first {α : Type} {P : α → Prop} {xs : List α} {x : α} (hx : x ∈ xs) (h : ¬ P x) :
    ∃ before y after, xs = before ++ y :: after ∧ (∀ z ∈ before, P z) ∧ ¬ P y := by
  induction xs with
  | nil => simp at hx
  | cons y ys ih =>
    by_cases hy : P y
    · rcases List.mem_cons.mp hx with rfl | hx
      · exact absurd hy h
      · obtain ⟨before, z, after, rfl, hbefore, hz⟩ := ih hx
        exact ⟨y :: before, z, after, rfl, List.forall_mem_cons.mpr ⟨hy, hbefore⟩, hz⟩
    · exact ⟨[], y, ys, rfl, by simp, hy⟩

section Text

variable {text text' : String} {fs : List (List Char)} {e : DefinitionError}

theorem Fault.ne_noStates {fragment : List Char} (h : Fault fragment e) : e ≠ .noStates := by
  cases h <;> simp

theorem ShareFault.exists_fault {fragment fragment' : List Char} (h : ShareFault fragment fragment') :
    ∃ e, Fault fragment e ∧ Fault fragment' e := by
  obtain ⟨header, body, header', body', before, piece, after, after', hcut, hcut', hsame, hfields,
    hname, hpieces, hpieces', hpiece⟩ := h
  have hname' : nameText header' = nameText header := by rw [nameText, nameText, hsame]
  have hlast : piece ∈ before ++ [piece] := by simp
  obtain ⟨first, p, rest, hfirst, hpairs, hp⟩ := exists_first hlast hpiece
  have happend : ∀ tail, before ++ piece :: tail = first ++ p :: (rest ++ tail) := fun tail => by
    rw [List.append_cons, hfirst, List.append_assoc, List.cons_append]
  refine ⟨_, .transition hcut hfields hname (happend after ▸ hpieces) hpairs hp, ?_⟩
  rw [← hname']
  refine .transition hcut' ?_ ?_ (happend after' ▸ hpieces') hpairs hp
  · rwa [HasFields, ← hsame]
  · rwa [Nameless, ← hsame]

theorem fragments_eq_iff :
    fragments text = fs ↔ Stretches ';' fs (text.toList.filter fun c => !Text.isBlank c) :=
  pieces_eq_iff

theorem parse_eq_error_iff :
    parse text = .error e ↔ (fragments text = [] ∧ e = .noStates) ∨
      ∃ before f after, fragments text = before ++ f :: after ∧ (∀ g ∈ before, WellFormed g) ∧
        Fault f e := by
  unfold parse
  rw [bind_eq_error_iff, mapM_eq_error_iff]
  simp only [exists_parseState_eq_ok_iff, parseState_eq_error_iff]
  rw [or_comm]
  refine or_congr_left ⟨?_, ?_⟩
  · rintro ⟨ds, hread, h⟩
    split at h
    · exact ⟨List.eq_nil_of_length_eq_zero (mapM_eq_ok_iff.mp hread).length_eq,
        (Except.error.inj h).symm⟩
    · simp at h
  · rintro ⟨hnone, rfl⟩
    exact ⟨[], by rw [hnone]; rfl, rfl⟩

theorem exists_parse_eq_ok_iff_wellFormed :
    (∃ ds, parse text = .ok ds) ↔ fragments text ≠ [] ∧ ∀ f ∈ fragments text, WellFormed f := by
  simp only [← exists_parseState_eq_ok_iff]
  constructor
  · rintro ⟨ds, h⟩
    obtain ⟨hne, hread⟩ := parse_eq_ok_iff.mp h
    refine ⟨fun hnone => hne ?_, exists_mapM_eq_ok_iff.mp ⟨ds, mapM_eq_ok_iff.mpr hread⟩⟩
    rw [hnone] at hread
    exact List.forall₂_nil_left_iff.mp hread
  · rintro ⟨hne, hall⟩
    obtain ⟨ds, hread⟩ := exists_mapM_eq_ok_iff.mpr hall
    have hread := mapM_eq_ok_iff.mp hread
    refine ⟨ds, parse_eq_ok_iff.mpr ⟨?_, hread⟩⟩
    rintro rfl
    exact hne (List.forall₂_nil_right_iff.mp hread)

theorem parse_eq_of_fault {before after after' : List (List Char)} {f f' : List Char}
    (h : fragments text = before ++ f :: after) (h' : fragments text' = before ++ f' :: after')
    (hf : Fault f e) (hf' : Fault f' e) : parse text' = parse text := by
  have hread := mapM_append_cons_eq (parseState_eq_error_iff.mpr hf')
    (parseState_eq_error_iff.mpr hf) before after' after
  rw [parse, parse, h, h', hread]

theorem exists_fault {f : List Char} (h : ¬ WellFormed f) : ∃ e, Fault f e := by
  cases hread : parseState f with
  | ok d => exact absurd (exists_parseState_eq_ok_iff.mp ⟨d, hread⟩) h
  | error e => exact ⟨e, parseState_eq_error_iff.mp hread⟩

theorem parse_eq_ok_iff_says {ds : List Declaration} :
    parse text = .ok ds ↔ fragments text ≠ [] ∧ List.Forall₂ Says (fragments text) ds := by
  simp only [parse_eq_ok_iff, parseState_eq_ok_iff_says]
  refine and_congr_left fun h => not_congr ?_
  rw [← List.length_eq_zero_iff, ← List.length_eq_zero_iff, h.length_eq]

theorem parse_eq_noStates_iff : parse text = .error .noStates ↔ fragments text = [] := by
  rw [parse_eq_error_iff]
  constructor
  · rintro (⟨hnone, -⟩ | ⟨_, _, _, -, -, hfault⟩)
    · exact hnone
    · exact absurd rfl hfault.ne_noStates
  · exact fun hnone => .inl ⟨hnone, rfl⟩

end Text

/-- A text has no states, or says what its fragments say, or is rejected for the leftmost fault. What
stands behind a fault, be it a fragment or a piece, does not change the outcome. -/
theorem parse_outcome (text : String) :
    ∃ fs, Stretches ';' fs (text.toList.filter fun c => !Text.isBlank c) ∧
      (parse text = .error .noStates ↔ fs = []) ∧
      ((∃ ds, parse text = .ok ds) ↔ fs ≠ [] ∧ ∀ f ∈ fs, WellFormed f) ∧
      (∀ ds, parse text = .ok ds ↔ fs ≠ [] ∧ List.Forall₂ Says fs ds) ∧
      (∀ e, parse text = .error e ↔ (fs = [] ∧ e = .noStates) ∨
        ∃ before f after, fs = before ++ f :: after ∧ (∀ g ∈ before, WellFormed g) ∧ Fault f e) ∧
      ∀ text' fs' before f f' after after',
        Stretches ';' fs' (text'.toList.filter fun c => !Text.isBlank c) →
          fs = before ++ f :: after → fs' = before ++ f' :: after' →
            (f = f' ∧ ¬ WellFormed f) ∨ ShareFault f f' → parse text' = parse text := by
  refine ⟨fragments text, fragments_eq_iff.mp rfl, parse_eq_noStates_iff,
    exists_parse_eq_ok_iff_wellFormed, fun ds => parse_eq_ok_iff_says, fun e => parse_eq_error_iff, ?_⟩
  intro text' fs' before f f' after after' hfs' hf hf' hshare
  rw [← fragments_eq_iff.mpr hfs'] at hf'
  have hfault : ∃ e, Fault f e ∧ Fault f' e := by
    rcases hshare with ⟨rfl, hill⟩ | hshare
    · obtain ⟨e, he⟩ := exists_fault hill
      exact ⟨e, he, he⟩
    · exact hshare.exists_fault
  obtain ⟨e, he, he'⟩ := hfault
  exact parse_eq_of_fault hf hf' he he'

/-- The fault is in the second fragment, before another piece and another fragment that have one. -/
theorem parse_outcome_second_fragment :
    let text := " (A) -> \x7bx: A\x7d; ; (B, in) -> \x7by: A,, z, q:\x7d; (C,,,) -> \x7b\x7d"
    let shorter := "(A)->\x7bx:A\x7d; B, in -> y:A, z"
    parse text = .error (.malformedTransition "B" "z") ∧ parse shorter = parse text := by
  intro text shorter
  let first := "(A)->\x7bx:A\x7d".toList
  let second := "(B,in)->\x7by:A,,z,q:\x7d".toList
  let second' := "B,in->y:A,z".toList
  let third := "(C,,,)->\x7b\x7d".toList
  obtain ⟨fs, hfs, -, -, -, herror, hshare⟩ := parse_outcome text
  have hfragments : fs = [first] ++ second :: [third] := by
    rw [← fragments_eq_iff.mpr hfs]
    decide +kernel
  have hshorter : Stretches ';' ([first] ++ second' :: [])
      (shorter.toList.filter fun c => !Text.isBlank c) := fragments_eq_iff.mp (by decide +kernel)
  have hfirst : WellFormed first :=
    exists_parseState_eq_ok_iff.mp ⟨⟨"A", none, none, [⟨"x", "A"⟩]⟩, rfl⟩
  have hfault : Fault second (.malformedTransition "B" "z") := parseState_eq_error_iff.mp rfl
  have hread : parseTransition "B" "z".toList = .error (.malformedTransition "B" "z") := rfl
  have hpiece : ¬ IsPair "z".toList := (parseTransition_eq_error_iff.mp hread).1
  have hshared : ShareFault second second' :=
    ⟨"(B,in)".toList, "\x7by:A,,z,q:\x7d".toList, "B,in".toList, "y:A,z".toList, ["y:A".toList],
      "z".toList, ["q:".toList], [], arrowParts_eq_pair_iff.mp rfl, arrowParts_eq_pair_iff.mp rfl,
      by decide +kernel, by unfold HasFields; decide +kernel, by unfold Nameless; decide +kernel,
      pieces_eq_iff.mp (by decide +kernel), pieces_eq_iff.mp (by decide +kernel), hpiece⟩
  refine ⟨(herror _).mpr (.inr ⟨_, _, _, hfragments, ?_, hfault⟩), ?_⟩
  · rwa [List.forall_mem_singleton]
  · exact hshare shorter _ _ _ _ _ _ hshorter hfragments rfl (.inr hshared)

end Workflow.Definition
