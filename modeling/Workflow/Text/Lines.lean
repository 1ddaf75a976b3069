/-! The lines of a sequence of bytes. A line ends with a line feed, before which there may be a
carriage return. -/

namespace Workflow.Text

def dropReturn (line : List UInt8) : List UInt8 :=
  if line.getLast? = some 13 then line.dropLast else line

/-- The lines; one is none if it is not text. The last need not end. -/
def lines (bytes : ByteArray) : List (Option String) :=
  let pieces := bytes.data.toList.splitOn 10
  let last := pieces.getLast?.getD []
  (pieces.dropLast.map dropReturn ++ if last.isEmpty then [] else [last]).map fun line =>
    String.fromUTF8? ⟨line.toArray⟩

end Workflow.Text
