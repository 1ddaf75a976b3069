/-! White space: the characters with the property White_Space, and the words they separate. -/

namespace Workflow.Text

def isBlank (c : Char) : Bool :=
  let n := c.toNat
  (9 ≤ n && n ≤ 13) || n == 0x20 || n == 0x85 || n == 0xa0 || n == 0x1680 ||
    (0x2000 ≤ n && n ≤ 0x200a) || n == 0x2028 || n == 0x2029 || n == 0x202f || n == 0x205f ||
    n == 0x3000

def removeBlanks (cs : List Char) : List Char := cs.filter fun c => !isBlank c

def words (cs : List Char) : List (List Char) :=
  (cs.splitOnP isBlank).filter fun w => !w.isEmpty

theorem isBlank_of_mem_removeBlanks {c : Char} {cs : List Char} (h : c ∈ removeBlanks cs) :
    isBlank c = false := by
  simpa using (List.mem_filter.mp h).2

@[simp] theorem removeBlanks_append (xs ys : List Char) :
    removeBlanks (xs ++ ys) = removeBlanks xs ++ removeBlanks ys :=
  List.filter_append ..

@[simp] theorem removeBlanks_removeBlanks (cs : List Char) :
    removeBlanks (removeBlanks cs) = removeBlanks cs := by
  simp [removeBlanks]

end Workflow.Text
