import Workflow.Text.Lines
import Workflow.Trail

/-! The history of earlier sessions, a file with a line for each input. Sessions that read from a
file add nothing to it, but report what they cannot make sense of. -/

namespace Workflow.CommandLine.History

/-- Under this heading a backslash is written twice, and a line feed as a backslash and an `n`. -/
def heading : String := "#V2"

def isWellEscaped : List Char → Bool
  | [] => true
  | '\\' :: 'n' :: cs => isWellEscaped cs
  | '\\' :: '\\' :: cs => isWellEscaped cs
  | '\\' :: _ => false
  | _ :: cs => isWellEscaped cs

def badLines (bytes : ByteArray) : List String :=
  match ((Text.lines bytes).takeWhile Option.isSome).filterMap id with
  | first :: rest => if first = heading then rest.filter fun l => !isWellEscaped l.toList else []
  | [] => []

def complaints (bytes : ByteArray) : List Record :=
  (badLines bytes).map fun line => ⟨.warn, .lineReader, "bad escaped line: " ++ line⟩

end Workflow.CommandLine.History
