import Workflow.Proofs.CommandLine.Reporting
import Workflow.Proofs.Machine.Failure
import Workflow.Proofs.Text.Rows
import Workflow.Proofs.Text.Words

/-! Listings and what can be told from them. A listing consists of rows made of a description, and no
two descriptions of machines have the same rows. -/

namespace Workflow

open Text (Palette isBlank stack rows)
open Declaration (headerMarks bodyMarks)

section Rows

variable {palette : Palette} {marked marked' : Bool} {s s' : StateDescription} {t t' : Transition}
  {d d' : Description} {indent name : String} {marks : List Char} {c : Char}

theorem Text.Palette.isBlank_paint (palette : Palette) (style : Text.Style)
    (h : ∀ c ∈ name.toList, Text.isBlank c = false) :
    ∀ c ∈ (palette.paint style name).toList, Text.isBlank c = false := by
  intro c hc
  by_contra hblank
  have hblank : Text.isBlank c = true := by simpa using hblank
  simp [h c (palette.mem_of_mem_paint hblank hc)] at hblank

theorem Spelled.paint_ne_nil (h : Spelled marks name) (palette : Palette) (style : Text.Style) :
    (palette.paint style name).toList ≠ [] := by
  intro hnil
  exact h.toList_ne_nil (List.sublist_nil.mp (hnil ▸ palette.sublist_paint style name))

def Transition.row (indent : String) (palette : Palette) (t : Transition) : List Char :=
  (indent ++ palette.paint .yellow t.condition ++ " -> " ++ t.target).toList

namespace StateDescription

/-- Every name in it can be told apart from what stands around it. -/
structure Legible (s : StateDescription) : Prop where
  name : Spelled headerMarks s.name
  hooks : ∀ hook ∈ s.onEnter.toList ++ s.onLeave.toList, Spelled headerMarks hook
  transitions : ∀ t ∈ s.transitions, Spelled bodyMarks t.condition ∧ Spelled bodyMarks t.target

def labels (s : StateDescription) : List String :=
  (s.onEnter.map fun hook => "enter=" ++ hook).toList ++
    (s.onLeave.map fun hook => "leave=" ++ hook).toList

def labelText (palette : Palette) (s : StateDescription) : List Char :=
  if s.labels.isEmpty then []
  else ' ' :: (palette.paint .dimmed ("[" ++ ", ".intercalate s.labels ++ "]")).toList

def row (palette : Palette) (marked : Bool) (s : StateDescription) : List Char :=
  (if marked then '*' else ' ') :: ' ' :: ((palette.paint .bold s.name).toList ++ s.labelText palette)

theorem Legible.mem_labels (h : s.Legible) :
    ∀ label ∈ s.labels.map String.toList, label ≠ [] ∧ ',' ∉ label ∧ '\n' ∉ label := by
  intro label hlabel
  obtain ⟨text, htext, rfl⟩ := List.mem_map.mp hlabel
  have hspelled : ∀ first ∈ ["enter=", "leave="], ∀ hook, Spelled headerMarks hook →
      (first ++ hook).toList ≠ [] ∧ ',' ∉ (first ++ hook).toList ∧ '\n' ∉ (first ++ hook).toList := by
    intro first hfirst hook hhook
    have hcomma : ',' ∉ hook.toList := fun hc => (hhook.2 ',' hc).2 (by decide)
    have hfeed : '\n' ∉ hook.toList := fun hc => by simpa [Text.isBlank] using hhook.isBlank '\n' hc
    have hhead : first.toList ≠ [] ∧ ',' ∉ first.toList ∧ '\n' ∉ first.toList := by
      revert first
      decide
    simp [hhead, hcomma, hfeed]
  rcases List.mem_append.mp htext with htext | htext
  · obtain ⟨hook, hhook, rfl⟩ := Option.map_eq_some_iff.mp (Option.mem_toList.mp htext)
    exact hspelled _ (by simp) hook (h.hooks hook (by simp [hhook]))
  · obtain ⟨hook, hhook, rfl⟩ := Option.map_eq_some_iff.mp (Option.mem_toList.mp htext)
    exact hspelled _ (by simp) hook (h.hooks hook (by simp [hhook]))

theorem labels_inj (h : s.labels = s'.labels) : s.onEnter = s'.onEnter ∧ s.onLeave = s'.onLeave := by
  have hkinds : ∀ a b : String, "enter=" ++ a ≠ "leave=" ++ b := fun a b heq => by
    simpa using congrArg (fun text => text.toList.head?) heq
  unfold labels at h
  generalize s.onEnter = enter, s.onLeave = leave, s'.onEnter = enter', s'.onLeave = leave' at h ⊢
  cases enter <;> cases leave <;> cases enter' <;> cases leave' <;>
    simp_all [fun a b => (hkinds a b).symm]

theorem labelText_plain (s : StateDescription) :
    s.labelText .plain = if s.labels.isEmpty then []
      else ' ' :: '[' :: ([',', ' '].intercalate (s.labels.map String.toList) ++ [']']) := by
  simp [labelText, String.toList_intercalate]

theorem head?_labelText (palette : Palette) (s : StateDescription) :
    ∀ c ∈ (s.labelText palette).head?, Text.isBlank c = true := by
  unfold labelText
  split <;> simp [Text.isBlank]

theorem labelText_inj (h : s.Legible) (h' : s'.Legible)
    (heq : s.labelText .plain = s'.labelText .plain) : s.labels = s'.labels := by
  have hcommas : ∀ {s : StateDescription}, s.Legible →
      ∀ label ∈ s.labels.map String.toList, label ≠ [] ∧ ',' ∉ label :=
    fun h label hlabel => ⟨(h.mem_labels label hlabel).1, (h.mem_labels label hlabel).2.1⟩
  rw [labelText_plain, labelText_plain] at heq
  by_cases hempty : s.labels = []
  · by_cases hempty' : s'.labels = []
    · rw [hempty, hempty']
    · simp [hempty, hempty'] at heq
  · by_cases hempty' : s'.labels = []
    · simp [hempty, hempty'] at heq
    · simp only [List.isEmpty_iff, hempty, hempty', if_false, List.cons.injEq, true_and] at heq
      have hjoined := (Text.intercalate_inj (hcommas h) (hcommas h')).mp (List.append_cancel_right heq)
      exact List.map_injective_iff.mpr (fun _ _ => String.toList_inj.mp) hjoined

theorem Legible.row_inj (h : s.Legible) (h' : s'.Legible) :
    s.row .plain marked = s'.row .plain marked' ↔
      marked = marked' ∧ s.name = s'.name ∧ s.onEnter = s'.onEnter ∧ s.onLeave = s'.onLeave := by
  constructor
  · intro heq
    simp only [row, Palette.paint_plain, List.cons.injEq, true_and] at heq
    obtain ⟨hmark, hrest⟩ := heq
    have hmarked : marked = marked' := by
      revert hmark
      cases marked <;> cases marked' <;> decide
    obtain ⟨hname, hlabels⟩ := (Text.append_inj_of_head h.name.isBlank h'.name.isBlank
      (head?_labelText .plain s) (head?_labelText .plain s')).mp hrest
    exact ⟨hmarked, String.toList_inj.mp hname, labels_inj (labelText_inj h h' hlabels)⟩
  · rintro ⟨rfl, hname, henter, hleave⟩
    have hlabels : s.labels = s'.labels := by rw [labels, labels, henter, hleave]
    have hlabelText : s.labelText .plain = s'.labelText .plain := by rw [labelText, labelText, hlabels]
    rw [row, row, hname, hlabelText]

end StateDescription

theorem Transition.row_inj (h : Spelled bodyMarks t.condition) (h' : Spelled bodyMarks t'.condition) :
    t.row indent .plain = t'.row indent .plain ↔ t = t' := by
  refine ⟨fun heq => ?_, fun heq => heq ▸ rfl⟩
  have hsplit : ∀ t : Transition, t.row indent .plain =
      indent.toList ++ (t.condition.toList ++ (" -> ".toList ++ t.target.toList)) := by
    intro t
    simp [row, String.toList_append]
  rw [hsplit, hsplit] at heq
  obtain ⟨hcondition, harrow⟩ := (Text.append_inj_of_head h.isBlank h'.isBlank (by simp [Text.isBlank])
    (by simp [Text.isBlank])).mp (List.append_cancel_left heq)
  have htarget := List.append_cancel_left harrow
  obtain ⟨condition, target⟩ := t
  rw [Transition.mk.injEq]
  exact ⟨String.toList_inj.mp hcondition, String.toList_inj.mp htarget⟩

theorem StateDescription.Legible.map_row_inj (h : s.Legible) (h' : s'.Legible) :
    s.transitions.map (Transition.row indent .plain) =
      s'.transitions.map (Transition.row indent .plain) ↔ s.transitions = s'.transitions := by
  have hrows : s.transitions.map (Transition.row indent .plain) =
      s'.transitions.map (Transition.row indent .plain) ↔
        s.transitions.map id = s'.transitions.map id :=
    Text.map_eq_map_iff h.transitions h'.transitions fun t t' ht ht' => Transition.row_inj ht.1 ht'.1
  rwa [List.map_id, List.map_id] at hrows

theorem StateDescription.Legible.newline_notMem (h : s.Legible) (palette : Palette) (marked : Bool) :
    '\n' ∉ s.row palette marked := by
  have hname : '\n' ∉ (palette.paint .bold s.name).toList := fun hc => by
    simpa [Text.isBlank] using palette.isBlank_paint .bold h.name.isBlank _ hc
  have hlabels : '\n' ∉ [',', ' '].intercalate (s.labels.map String.toList) := by
    intro hc
    rcases Text.mem_of_mem_intercalate hc with hc | ⟨label, hlabel, hc⟩
    · simp at hc
    · exact (h.mem_labels label hlabel).2.2 hc
  have hlabelText : '\n' ∉ s.labelText palette := by
    unfold labelText
    split
    · simp
    · intro hc
      have hinner := palette.mem_of_mem_paint (by decide) ((List.mem_cons.mp hc).resolve_left (by decide))
      simp [String.toList_intercalate, hlabels] at hinner
  cases marked <;> simp [row, hname, hlabelText]

theorem Transition.newline_notMem (hindent : '\n' ∉ indent.toList)
    (h : Spelled bodyMarks t.condition ∧ Spelled bodyMarks t.target) : '\n' ∉ t.row indent palette := by
  have hcondition : '\n' ∉ (palette.paint .yellow t.condition).toList := fun hc => by
    simpa [Text.isBlank] using palette.isBlank_paint .yellow h.1.isBlank _ hc
  have htarget : '\n' ∉ t.target.toList := fun hc => by simpa [Text.isBlank] using h.2.isBlank _ hc
  simp [row, hindent, hcondition, htarget]

namespace Description

structure Legible (d : Description) : Prop where
  states : ∀ s ∈ d.states, s.Legible
  distinct : (d.states.map StateDescription.name).Nodup
  initial : d.initial ∈ d.states.map StateDescription.name
  current : d.current ∈ d.states.map StateDescription.name
  checksum : d.checksum.length = 8

def displayRows (d : Description) : List (List Char) :=
  d.states.flatMap fun s => s.name.toList :: s.transitions.map (Transition.row "  " .plain)

/-- Every state with its hooks, the current one marked, and under it its transitions. -/
def rows (palette : Palette) (d : Description) : List (List Char) :=
  d.states.flatMap fun s =>
    s.row palette (d.current == s.name) :: s.transitions.map (Transition.row "    " palette)

theorem Legible.isBlank (h : d.Legible) (hname : name ∈ d.states.map StateDescription.name) :
    ∀ c ∈ name.toList, Text.isBlank c = false := by
  obtain ⟨s, hs, rfl⟩ := List.mem_map.mp hname
  exact (h.states s hs).name.isBlank

theorem Legible.blocks_displayRows (h : d.Legible) :
    Text.Blocks (fun row => row.head? != some ' ') (fun s => s.name.toList)
      (fun s => s.transitions.map (Transition.row "  " .plain)) d.states := by
  intro s hs
  have hname := (h.states s hs).name
  obtain ⟨c, cs, hcs⟩ := List.exists_cons_of_ne_nil hname.toList_ne_nil
  have hc : c ≠ ' ' := by
    rintro rfl
    simpa [Text.isBlank] using hname.isBlank ' ' (by simp [hcs])
  simp [hcs, hc, Transition.row]

theorem Legible.blocks_rows (h : d.Legible) (palette : Palette) :
    Text.Blocks (fun row => row[2]? != some ' ') (fun s => s.row palette (d.current == s.name))
      (fun s => s.transitions.map (Transition.row "    " palette)) d.states := by
  intro s hs
  have hname := (h.states s hs).name
  obtain ⟨c, cs, hcs⟩ := List.exists_cons_of_ne_nil (hname.paint_ne_nil palette .bold)
  have hc : c ≠ ' ' := by
    rintro rfl
    simpa [Text.isBlank] using palette.isBlank_paint .bold hname.isBlank ' ' (by simp [hcs])
  simp [StateDescription.row, hcs, hc, Transition.row]

theorem displayRows_inj (h : d.Legible) (h' : d'.Legible) :
    d.displayRows = d'.displayRows ↔
      d.states.map (fun s => (s.name, s.transitions)) =
        d'.states.map fun s => (s.name, s.transitions) := by
  rw [displayRows, displayRows, h.blocks_displayRows.flatMap_inj h'.blocks_displayRows]
  refine Text.map_eq_map_iff h.states h'.states fun s s' hs hs' => ?_
  rw [Prod.mk.injEq, Prod.mk.injEq, String.toList_inj, hs.map_row_inj hs']

/-- The mark tells which state is the current one, since states have different names. -/
theorem rows_inj (h : d.Legible) (h' : d'.Legible) :
    d.rows .plain = d'.rows .plain ↔ d.states = d'.states ∧ d.current = d'.current := by
  have hmarks : d.rows .plain = d'.rows .plain ↔
      d.states.map (fun s => (s, d.current == s.name)) =
        d'.states.map fun s => (s, d'.current == s.name) := by
    rw [rows, rows, (h.blocks_rows .plain).flatMap_inj (h'.blocks_rows .plain)]
    refine Text.map_eq_map_iff h.states h'.states fun s s' hs hs' => ?_
    rw [Prod.mk.injEq, Prod.mk.injEq, hs.row_inj hs', hs.map_row_inj hs']
    obtain ⟨name, onEnter, onLeave, transitions⟩ := s
    obtain ⟨name', onEnter', onLeave', transitions'⟩ := s'
    rw [StateDescription.mk.injEq]
    tauto
  rw [hmarks]
  constructor
  · intro hmap
    have hstates : d.states = d'.states := by
      simpa [List.map_map, Function.comp_def] using congrArg (List.map Prod.fst) hmap
    obtain ⟨s, hs, hcurrent⟩ := List.mem_map.mp h.current
    rw [hstates] at hmap hs
    have hmark : (d.current == s.name) = (d'.current == s.name) :=
      congrArg Prod.snd (List.map_inj_left.mp hmap s hs)
    rw [hcurrent, beq_self_eq_true] at hmark
    exact ⟨hstates, (beq_iff_eq.mp hmark.symm).symm⟩
  · rintro ⟨hstates, hcurrent⟩
    rw [hstates, hcurrent]

theorem Legible.newline_notMem_row (h : d.Legible) (palette : Palette) :
    ∀ row ∈ d.rows palette, '\n' ∉ row := by
  intro row hrow hc
  obtain ⟨s, hs, hrow⟩ := List.mem_flatMap.mp hrow
  have hlegible := h.states s hs
  rcases List.mem_cons.mp hrow with rfl | hrow
  · exact hlegible.newline_notMem palette _ hc
  · obtain ⟨t, ht, rfl⟩ := List.mem_map.mp hrow
    exact Transition.newline_notMem (by decide) (hlegible.transitions t ht) hc

theorem Legible.newline_notMem_displayRow (h : d.Legible) : ∀ row ∈ d.displayRows, '\n' ∉ row := by
  intro row hrow hc
  obtain ⟨s, hs, hrow⟩ := List.mem_flatMap.mp hrow
  have hlegible := h.states s hs
  rcases List.mem_cons.mp hrow with rfl | hrow
  · simpa [Text.isBlank] using hlegible.name.isBlank _ hc
  · obtain ⟨t, ht, rfl⟩ := List.mem_map.mp hrow
    exact Transition.newline_notMem (by decide) (hlegible.transitions t ht) hc

theorem length_rows (palette : Palette) (d : Description) :
    (d.rows palette).length = d.states.length + (d.states.flatMap StateDescription.transitions).length := by
  unfold rows
  induction d.states with
  | nil => rfl
  | cons s ss ih =>
    simp only [List.flatMap_cons, List.length_append, List.length_cons, List.length_map, ih]
    omega

theorem Legible.filter_rows (h : d.Legible) (palette : Palette) (hs : s ∈ d.states)
    (hcurrent : s.name = d.current) :
    ((d.rows palette).filter fun row => row.head? == some '*') = [s.row palette true] := by
  have hblock : ∀ s : StateDescription,
      ((s.row palette (d.current == s.name) :: s.transitions.map (Transition.row "    " palette)).filter
        fun row => row.head? == some '*') =
        if d.current = s.name then [s.row palette true] else [] := by
    intro s
    have htransitions : ((s.transitions.map (Transition.row "    " palette)).filter
        fun row => row.head? == some '*') = [] := by
      simp [List.filter_eq_nil_iff, Transition.row]
    by_cases hname : d.current = s.name
    · simp [htransitions, StateDescription.row, hname]
    · simp [htransitions, StateDescription.row, hname]
  obtain ⟨before, after, hstates⟩ := List.append_of_mem hs
  have hothers : ∀ s' ∈ before ++ after, d.current ≠ s'.name := by
    intro s' hs' heq
    have hdistinct := h.distinct
    rw [hstates, List.map_append, List.map_cons, List.nodup_middle, List.nodup_cons,
      ← List.map_append] at hdistinct
    exact hdistinct.1 (List.mem_map.mpr ⟨s', hs', (hcurrent.trans heq).symm⟩)
  have hnil : ∀ ss : List StateDescription, (∀ s' ∈ ss, d.current ≠ s'.name) →
      (ss.flatMap fun s => if d.current = s.name then [s.row palette true] else []) = [] := by
    intro ss hss
    simpa [List.flatMap_eq_nil_iff] using hss
  rw [rows, List.filter_flatMap]
  simp only [hblock]
  rw [hstates, List.flatMap_append, List.flatMap_cons, if_pos hcurrent.symm,
    hnil before fun s' hs' => hothers s' (List.mem_append_left _ hs'),
    hnil after fun s' hs' => hothers s' (List.mem_append_right _ hs'), List.nil_append, List.append_nil]

end Description

end Rows

namespace Machine

variable {text : String} {hosts : List Host} {registry : RegistryId} {rs : Registries} {m n : Machine}

theorem length_checksum_of_compile {rs' : Registries}
    (h : compile text hosts registry rs = (.ok m, rs')) : m.checksum.length = 8 := by
  rw [checksum_of_compile h]
  exact Checksum.length_hex _

theorem Represents.legible_describe {ds : List Declaration} (h : m.Represents hosts rs ds)
    (hds : ∀ d ∈ ds, d.Legible) (hchecksum : m.checksum.length = 8) : m.describe.Legible := by
  have hnames : m.describe.states.map StateDescription.name = m.graph.states.map State.name := by
    simp [describe, State.describe, Function.comp_def]
  refine ⟨?_, ?_, ?_, ?_, hchecksum⟩
  · intro s hs
    rw [h.describe_states] at hs
    obtain ⟨d, hd, rfl⟩ := List.mem_map.mp hs
    exact ⟨(hds d hd).name, (hds d hd).hooks, (hds d hd).transitions⟩
  · rw [hnames, h.graph.map_name_states]
    exact h.graph.compiles.exact.nodup
  · rw [hnames]
    exact List.mem_map_of_mem (List.getElem_mem m.graph.initial.isLt)
  · rw [hnames]
    exact List.mem_map_of_mem (List.getElem_mem m.position.isLt)

theorem legible_describe (hm : (build text hosts registry rs).outcome = .ok m)
    (hn : m.Reachable n) : n.describe.Legible := by
  obtain ⟨p, rfl⟩ := hn.eq_moved
  obtain ⟨rs', hcompile, -⟩ := compile_of_build hm
  obtain ⟨ds, hparse, -, -, hrepresents, -⟩ := represents_of_compile hcompile
  have hmoved : ({ m with position := p } : Machine).Represents hosts rs' ds := ⟨hrepresents.graph⟩
  have hchecksum : m.checksum.length = 8 := length_checksum_of_compile hcompile
  exact hmoved.legible_describe (Definition.legible_of_parse hparse) hchecksum

theorem toList_listing (m : Machine) : m.listing.toList = stack m.describe.displayRows := by
  simp [listing, stack, Description.displayRows, describe, State.describe, Transition.row,
    String.toList_join, String.toList_append, List.flatMap_map, List.flatMap_assoc, Function.comp_def]

end Machine

namespace CommandLine

theorem toList_stateLine (palette : Palette) (m : Machine) (s : State) :
    (stateLine palette m s).toList =
      (s.describe m.targetName).row palette (m.describe.current == s.name) ++ ['\n'] := by
  have hlabels : hookLabels s = (s.describe m.targetName).labels := by
    simp [hookLabels, StateDescription.labels, State.describe, Function.comp_def]
  have hmark : (if m.isIn s.name then "*" else " ").toList =
      [if m.describe.current == s.name then '*' else ' '] := by
    change (if (m.current.name == s.name) = true then "*" else " ").toList =
      [if (m.current.name == s.name) = true then '*' else ' ']
    split <;> rfl
  have htext : (if (s.describe m.targetName).labels.isEmpty then ""
      else " " ++ palette.paint .dimmed ("[" ++ ", ".intercalate (s.describe m.targetName).labels ++ "]")).toList =
        (s.describe m.targetName).labelText palette := by
    unfold StateDescription.labelText
    split <;> simp
  simp only [stateLine, hlabels, String.toList_append, hmark, htext, StateDescription.row]
  simp [State.describe]

theorem toList_listing (palette : Palette) (m : Machine) :
    (listing palette m).toList = stack (m.describe.rows palette) := by
  have hstate : ∀ s : State, (stateLine palette m s ++ String.join (s.transitions.entries.map
      fun e => transitionLine palette m e.1 e.2)).toList =
        stack ((s.describe m.targetName).row palette (m.describe.current == s.name) ::
          (s.describe m.targetName).transitions.map (Transition.row "    " palette)) := by
    intro s
    rw [String.toList_append, toList_stateLine]
    simp [stack, State.describe, Transition.row, transitionLine, String.toList_join, List.flatMap_map]
  rw [listing, String.toList_join, List.flatMap_map]
  simp only [hstate]
  simp [stack, Description.rows, Machine.describe, State.describe, List.flatMap_map, List.flatMap_assoc]

namespace Setting

variable {s s' : Setting} {m n m' n' : Machine}

theorem toList_summary (hplain : s.reporter.palette = .plain) (m : Machine) :
    (s.summary false m).toList = "Valid ".toList ++ (Nat.toDigits 10 m.describe.states.length ++
      (" states, initial ".toList ++ (m.describe.initial.toList ++ (" (checksum: ".toList ++
        (m.describe.checksum.toList ++ (")\n".toList ++ stack (m.describe.rows .plain))))))) := by
  have hsize : m.size = m.describe.states.length := by simp [Machine.size, Machine.describe]
  have hpaint : ∀ style text, s.reporter.paint style text = text := by
    intro style text
    rw [Reporter.paint, hplain, Palette.paint_plain]
  simp only [summary, hpaint, hplain, hsize, String.toList_append, toList_listing, Nat.toString_eq_repr,
    Nat.toList_repr, Bool.false_eq_true, if_false]
  simp [Machine.describe]

theorem summary_inj (hplain : s.reporter.palette = .plain) (hplain' : s'.reporter.palette = .plain)
    (h : m.describe.Legible) (h' : m'.describe.Legible) :
    s.summary false m = s'.summary false m' ↔ m.describe = m'.describe := by
  rw [← String.toList_inj, toList_summary hplain, toList_summary hplain']
  refine ⟨fun heq => ?_, fun heq => by rw [heq]⟩
  have hblank : ∀ {first : Char} {text rest : List Char}, Text.isBlank first = true →
      ∀ a ∈ (first :: text ++ rest).head?, Text.isBlank a = true := by
    intro first text rest hfirst a ha
    simp only [List.cons_append, List.head?_cons, Option.mem_some_iff] at ha
    exact ha ▸ hfirst
  have hdigits := List.append_cancel_left heq
  obtain ⟨-, hafter⟩ := (Text.append_inj_of_head (fun _ => Text.isBlank_of_mem_toDigits)
    (fun _ => Text.isBlank_of_mem_toDigits) (hblank rfl) (hblank rfl)).mp hdigits
  obtain ⟨hinitial, hafter⟩ := (Text.append_inj_of_head (h.isBlank h.initial) (h'.isBlank h'.initial)
    (hblank rfl) (hblank rfl)).mp (List.append_cancel_left hafter)
  have hlength : m.describe.checksum.toList.length = m'.describe.checksum.toList.length := by
    rw [String.length_toList, String.length_toList, h.checksum, h'.checksum]
  obtain ⟨hchecksum, hafter⟩ := List.append_inj (List.append_cancel_left hafter) hlength
  have hrows := (Text.stack_inj (h.newline_notMem_row .plain) (h'.newline_notMem_row .plain)).mp
    (List.append_cancel_left hafter)
  obtain ⟨hstates, hcurrent⟩ := (Description.rows_inj h h').mp hrows
  generalize m.describe = d, m'.describe = d' at hinitial hcurrent hchecksum hstates ⊢
  obtain ⟨initial, current, checksum, states⟩ := d
  rw [Description.mk.injEq]
  exact ⟨String.toList_inj.mp hinitial, hcurrent, String.toList_inj.mp hchecksum, hstates⟩

theorem on_out_check (s : Setting) (argument : String) (json : Bool) :
    (s.check argument json).output.on .out =
      (s.machine? argument).elim "" fun x => s.summary json x.1 ++ "\n" := by
  rw [check, on_out_withMachine]
  simp only [Output.on_outLine]

theorem legible_of_machine? {argument : String} {rs : Registries}
    (h : s.machine? argument = some (m, rs)) : m.describe.Legible := by
  obtain ⟨definition, names, hm, -⟩ := buildMachine_of_machine? h
  exact Machine.legible_describe hm .refl

theorem check_determines {argument argument' : String} (hplain : s.reporter.palette = .plain)
    (hplain' : s'.reporter.palette = .plain)
    (h : (s.check argument false).output.on .out = (s'.check argument' false).output.on .out) :
    (s.check argument true).output.on .out = (s'.check argument' true).output.on .out := by
  have hnonempty : ∀ text : String, text ++ "\n" ≠ "" := fun text heq => by
    simpa using congrArg String.toList heq
  rw [on_out_check, on_out_check] at h ⊢
  cases hmachine : s.machine? argument with
  | none =>
    cases hmachine' : s'.machine? argument' with
    | none => rfl
    | some x' =>
      rw [hmachine, hmachine'] at h
      exact absurd h.symm (hnonempty _)
  | some x =>
    cases hmachine' : s'.machine? argument' with
    | none =>
      rw [hmachine, hmachine'] at h
      exact absurd h (hnonempty _)
    | some x' =>
      rw [hmachine, hmachine', Option.elim_some, Option.elim_some, String.append_left_inj,
        summary_inj hplain hplain' (legible_of_machine? hmachine) (legible_of_machine? hmachine')] at h
      rw [Option.elim_some, Option.elim_some, summary, summary, if_pos rfl, if_pos rfl, h]

end Setting

end CommandLine

end Workflow
