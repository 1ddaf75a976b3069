import Workflow.Proofs.Checksum
import Workflow.Proofs.Definition.Grammar
import Workflow.Proofs.Machine.Invariant

/-! The checksum of a machine. It goes by the text without its blanks, and tells apart texts that were
edited in one place. -/

namespace Workflow

namespace Definition

def checkedBytes (text : String) : List UInt8 := (normalize text).toUTF8.data.toList

/-- The texts are the same but for blanks. -/
def SameButBlanks (text text' : String) : Prop :=
  ∃ cs, Spaced cs text.toList ∧ Spaced cs text'.toList

theorem SameButBlanks.normalize_eq {text text' : String} (h : SameButBlanks text text') :
    normalize text = normalize text' := by
  obtain ⟨cs, htext, htext'⟩ := h
  rw [normalize, normalize, htext.removeBlanks_eq, htext'.removeBlanks_eq]

end Definition

/-- The bytes differ, but only in a window of four. -/
structure EditedInWindow (bytes bytes' : List UInt8) : Prop where
  length_eq : bytes.length = bytes'.length
  ne : bytes ≠ bytes'
  outside : ∃ i, ∀ j, j < i ∨ i + 4 ≤ j → bytes[j]? = bytes'[j]?

theorem EditedInWindow.crc_ne {bytes bytes' : List UInt8} (h : EditedInWindow bytes bytes') :
    Checksum.crc bytes ≠ Checksum.crc bytes' := by
  obtain ⟨i, hsame⟩ := h.outside
  have hbefore : bytes.take i = bytes'.take i := by
    refine List.ext_getElem? fun j => ?_
    by_cases hj : j < i
    · rw [List.getElem?_take_of_lt hj, List.getElem?_take_of_lt hj, hsame j (.inl hj)]
    · rw [List.getElem?_take_eq_none (by omega), List.getElem?_take_eq_none (by omega)]
  have hafter : (bytes.drop i).drop 4 = (bytes'.drop i).drop 4 := by
    refine List.ext_getElem? fun j => ?_
    rw [List.getElem?_drop, List.getElem?_drop, List.getElem?_drop, List.getElem?_drop]
    exact hsame _ (.inr (by omega))
  have hcut : ∀ bs : List UInt8, bs.take i ++ (bs.drop i).take 4 ++ (bs.drop i).drop 4 = bs := by
    intro bs
    rw [List.append_assoc, List.take_append_drop, List.take_append_drop]
  have hwindow : (bytes.drop i).take 4 ≠ (bytes'.drop i).take 4 := fun hwindow =>
    h.ne (by rw [← hcut bytes, ← hcut bytes', hbefore, hwindow, hafter])
  rw [← hcut bytes, ← hcut bytes', ← hbefore, ← hafter]
  refine Checksum.crc_ne_of_window ?_ (List.length_take_le _ _) hwindow _ _
  simp only [List.length_take, List.length_drop, h.length_eq]

namespace Machine

variable {text : String} {hosts : List Host} {registry : RegistryId} {rs : Registries} {m : Machine}

theorem checksum_of_build (h : (build text hosts registry rs).outcome = .ok m) :
    m.checksum = Checksum.hex (Checksum.crc (Definition.checkedBytes text)) := by
  obtain ⟨rs', hcompile, -⟩ := compile_of_build h
  exact checksum_of_compile hcompile

theorem checksum_of_mem_run (m : Machine) (rs : Registries) (xs : List Operation) :
    ∀ step ∈ m.runOperations rs xs, step.machine.checksum = m.checksum := by
  refine forall_mem_run (P := fun m' _ => m'.checksum = m.checksum) (fun m' rs' x hm' => ?_) rfl xs
  obtain ⟨p, hp⟩ := (m'.keeps_perform rs' x).machine
  rw [hp]
  exact hm'

/-- A machine answers the same eight digits all its life, those of the checksum of its text without blanks.
Blanks do not change them, and an edit inside a window of four bytes always does. -/
theorem build_checksum_tells_edits (text : String) (hosts : List Host) (registry : RegistryId)
    (rs : Registries) (m : Machine) (hbuild : (build text hosts registry rs).outcome = .ok m) :
    m.checksum = Checksum.hex (Checksum.crc (Definition.checkedBytes text)) ∧
      (m.checksum.length = 8 ∧ ∀ c ∈ m.checksum.toList, c ∈ "0123456789abcdef".toList) ∧
      (∀ rs' xs, ∀ step ∈ m.runOperations rs' xs,
        Inspection.checksum.answer step.machine = .text m.checksum) ∧
      ∀ text' hosts' registry' rs₁ m', (build text' hosts' registry' rs₁).outcome = .ok m' →
        (Definition.SameButBlanks text text' → m'.checksum = m.checksum) ∧
          (EditedInWindow (Definition.checkedBytes text) (Definition.checkedBytes text') →
            m'.checksum ≠ m.checksum) := by
  have hchecksum := checksum_of_build hbuild
  refine ⟨hchecksum, ⟨hchecksum ▸ Checksum.length_hex _, fun c hc => ?_⟩, fun rs' xs step hstep => ?_,
    fun text' hosts' registry' rs₁ m' hbuild' => ⟨fun hsame => ?_, fun hedit heq => ?_⟩⟩
  · rw [hchecksum] at hc
    exact Checksum.mem_hexDigits_of_mem_hex hc
  · exact congrArg Answer.text (m.checksum_of_mem_run rs' xs step hstep)
  · rw [hchecksum, checksum_of_build hbuild', Definition.checkedBytes, Definition.checkedBytes,
      hsame.normalize_eq]
  · rw [hchecksum, checksum_of_build hbuild'] at heq
    exact hedit.crc_ne (Checksum.hex_injective heq).symm

/-- A checksum that begins with zeros, the same text with blanks, and one with another condition. -/
theorem build_checksum_tells_edits_leading_zeros :
    let text := "(A)->\x7bkr:A\x7d"
    let spaced := " ( A ) ->\n\x7b k r : A \x7d"
    let edited := "(A)->\x7bé:A\x7d"
    ∃ m m' m'', (build text [] .shared {}).outcome = .ok m ∧
      (build spaced [] .shared {}).outcome = .ok m' ∧ (build edited [] .shared {}).outcome = .ok m'' ∧
      m.checksum = "00aa5d9a" ∧ m'.checksum = "00aa5d9a" ∧ m''.checksum ≠ "00aa5d9a" := by
  intro text spaced edited
  have hbuilds : ∀ t ∈ [text, spaced, edited],
      (build t [] .shared {}).outcome.toOption.isSome = true := by decide +kernel
  have hexists : ∀ t ∈ [text, spaced, edited], ∃ m, (build t [] .shared {}).outcome = .ok m := by
    intro t ht
    have hbuilt := hbuilds t ht
    cases hm : (build t [] .shared {}).outcome with
    | error e => simp [hm, Except.toOption] at hbuilt
    | ok m => exact ⟨m, rfl⟩
  obtain ⟨m, hm⟩ := hexists text (by simp)
  obtain ⟨m', hm'⟩ := hexists spaced (by simp)
  obtain ⟨m'', hm''⟩ := hexists edited (by simp)
  obtain ⟨hchecksum, -, -, htells⟩ := build_checksum_tells_edits text [] .shared {} m hm
  have hvalue : m.checksum = "00aa5d9a" := hchecksum.trans (by decide +kernel)
  have hsame : Definition.SameButBlanks text spaced := by
    refine ⟨text.toList, Definition.spaced_refl _, (Definition.spaced_iff ?_).mpr ?_⟩ <;>
      decide +kernel
  have hedit : EditedInWindow (Definition.checkedBytes text) (Definition.checkedBytes edited) := by
    have hlength : (Definition.checkedBytes text).length = 11 ∧
        (Definition.checkedBytes edited).length = 11 := by decide +kernel
    have hinside : ∀ j < 11, j < 6 ∨ 6 + 4 ≤ j →
        (Definition.checkedBytes text)[j]? = (Definition.checkedBytes edited)[j]? := by decide +kernel
    refine ⟨hlength.1.trans hlength.2.symm, by decide +kernel, 6, fun j hj => ?_⟩
    by_cases hlt : j < 11
    · exact hinside j hlt hj
    · rw [List.getElem?_eq_none (by omega), List.getElem?_eq_none (by omega)]
  refine ⟨m, m', m'', hm, hm', hm'', hvalue, ?_, ?_⟩
  · rw [← hvalue]
    exact (htells spaced [] .shared {} m' hm').1 hsame
  · rw [← hvalue]
    exact (htells edited [] .shared {} m'' hm'').2 hedit

end Machine

end Workflow
