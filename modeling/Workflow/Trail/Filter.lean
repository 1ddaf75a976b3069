import Workflow.Trail.Directive

/-! Filters: which records go to the log. -/

namespace Workflow

structure Filter where
  directives : List Directive
  deriving DecidableEq

namespace Filter

def default : Filter := ⟨[{ verbosity := 1 }]⟩

def ofDirectives (ds : List Directive) : Filter := if ds.isEmpty then default else ⟨ds⟩

def pieces (text : String) : List String :=
  ((text.toList.splitOn ',').filter fun piece => !piece.isEmpty).map String.ofList

def ofText? (text : String) : Option Filter :=
  ((pieces text).mapM fun piece => (Directive.ofText piece).toOption).map ofDirectives

def ofTextLossy (text : String) : Filter :=
  ofDirectives ((pieces text).filterMap fun piece => (Directive.ofText piece).toOption)

def malformed (text : String) : List (String × DirectiveError) :=
  (pieces text).filterMap fun piece =>
    match Directive.ofText piece with
    | .ok _ => none
    | .error e => some (piece, e)

/-- The directive that counts for a record: of those that cover it the closest, and of several as
close the last. -/
def directive? (f : Filter) (r : Record) : Option Directive :=
  (f.directives.filter fun d => d.covers r).foldl
    (fun best d =>
      match best with
      | some b => if b.yieldsTo d then some d else some b
      | none => some d)
    none

def allows (f : Filter) (r : Record) : Bool :=
  (f.directive? r).any fun d => r.level.verbosity ≤ d.verbosity

end Filter

namespace Record

/-- A character that a terminal could take for a command is shown as a code. -/
def showChar (c : Char) : List Char :=
  let n := c.toNat
  if n = 0x1b || n = 7 || n = 8 || n = 12 || n = 0x7f then
    ['\\', 'x', Nat.digitChar (n / 16), Nat.digitChar (n % 16)]
  else if 0x80 ≤ n && n ≤ 0x9f then ['\\', 'u', '{'] ++ Nat.toDigits 16 n ++ ['}']
  else [c]

def line (r : Record) : String :=
  r.level.name ++ " " ++ r.source.name ++ ": " ++ String.ofList (r.message.toList.flatMap showChar)

end Record

end Workflow
