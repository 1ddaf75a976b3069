import Workflow.Text.Blank

/-! Styled text, and how it is shown. -/

namespace Workflow.Text

inductive Style
  | red | green | yellow | magenta | cyan | bold | dimmed | boldCyan
  deriving DecidableEq

namespace Style

def code : Style → String
  | red => "31"
  | green => "32"
  | yellow => "33"
  | magenta => "35"
  | cyan => "36"
  | bold => "1"
  | dimmed => "2"
  | boldCyan => "1;36"

def opening (style : Style) : String := "\x1b[" ++ style.code ++ "m"

def reset : String := "\x1b[0m"

/-- A reset inside a text would end the style early, so the style is opened again after it. -/
def reopen (style : Style) : List Char → List Char
  | '\x1b' :: '[' :: '0' :: 'm' :: cs => reset.toList ++ style.opening.toList ++ style.reopen cs
  | c :: cs => c :: style.reopen cs
  | [] => []

theorem isBlank_marks (style : Style) :
    ∀ c ∈ style.opening.toList ++ reset.toList, isBlank c = false := by
  have hmarks : (style.opening.toList ++ reset.toList).any isBlank = false := by
    cases style <;> decide
  intro c hc
  simpa using List.any_eq_false.mp hmarks c hc

theorem sublist_reopen (style : Style) (cs : List Char) : cs.Sublist (style.reopen cs) := by
  fun_induction reopen style cs with
  | case1 cs ih =>
    exact (ih.trans (List.sublist_append_right style.opening.toList _)).append_left reset.toList
  | case2 c cs _ ih => exact ih.cons_cons c
  | case3 => exact .slnil

theorem mem_of_mem_reopen {style : Style} {c : Char} {cs : List Char} (hc : isBlank c = true)
    (h : c ∈ style.reopen cs) : c ∈ cs := by
  fun_induction reopen style cs with
  | case1 cs ih =>
    rcases List.mem_append.mp h with hmarks | hrest
    · have hmarks : c ∈ style.opening.toList ++ reset.toList :=
        List.mem_append.mpr (List.mem_append.mp hmarks).symm
      simp [style.isBlank_marks c hmarks] at hc
    · simp [ih hrest]
  | case2 x cs _ ih =>
    rcases List.mem_cons.mp h with rfl | hrest
    · exact List.mem_cons_self
    · exact List.mem_cons_of_mem x (ih hrest)
  | case3 => exact h

end Style

/-- A way to show styles. It leaves a text in place and adds no blanks to it. -/
structure Palette where
  paint : Style → String → String
  sublist_paint (style : Style) (text : String) : text.toList.Sublist (paint style text).toList
  mem_of_mem_paint {style : Style} {text : String} {c : Char} (hc : isBlank c = true)
    (h : c ∈ (paint style text).toList) : c ∈ text.toList

namespace Palette

def plain : Palette where
  paint _ text := text
  sublist_paint _ _ := .refl _
  mem_of_mem_paint _ h := h

def coloured : Palette where
  paint style text := style.opening ++ String.ofList (style.reopen text.toList) ++ Style.reset
  sublist_paint style text := by
    rw [String.toList_append, String.toList_append, String.toList_ofList]
    exact ((style.sublist_reopen text.toList).trans (List.sublist_append_right _ _)).trans
      (List.sublist_append_left _ _)
  mem_of_mem_paint {style text c} hc h := by
    rw [String.toList_append, String.toList_append, String.toList_ofList, List.mem_append,
      List.mem_append] at h
    rcases h with (hopening | htext) | hreset
    · simp [style.isBlank_marks c (List.mem_append_left _ hopening)] at hc
    · exact Style.mem_of_mem_reopen hc htext
    · simp [style.isBlank_marks c (List.mem_append_right _ hreset)] at hc

@[simp] theorem paint_plain (style : Style) (text : String) : plain.paint style text = text := rfl

end Palette

end Workflow.Text
