import Workflow.Text.Alphanumeric
import Workflow.Text.Blank
import Workflow.Trail

/-! Directives: statements on how verbose some of the records may be. -/

namespace Workflow

structure FieldCondition where
  name : String
  pattern : Option String := none
  deriving DecidableEq

/-- How verbose the records may be, 0 for none at all, whose source begins with `target`, that are
reported inside `span` and that carry `field`. -/
structure Directive where
  target : Option String := none
  span : Option String := none
  field : Option FieldCondition := none
  verbosity : Nat
  deriving DecidableEq

inductive DirectiveError
  | malformed
  | unknownLevel
  deriving DecidableEq

namespace DirectiveError

def message : DirectiveError → String
  | malformed => "invalid filter directive"
  | unknownLevel =>
    "error parsing level filter: expected one of \"off\", \"error\", \"warn\", \"info\", " ++
      "\"debug\", \"trace\", or a number 0-5"

end DirectiveError

namespace FieldCondition

def ofText (cs : List Char) : FieldCondition :=
  match cs.splitOn '=' with
  | name :: pattern :: _ => ⟨String.ofList name, some (String.ofList pattern)⟩
  | _ => ⟨String.ofList cs, none⟩

/-- Patterns are tried on spans alone, so that no record matches one. -/
def holds (f : FieldCondition) (r : Record) : Bool :=
  f.pattern.isNone && r.source.fields.contains f.name

end FieldCondition

namespace Directive

def decimal? (cs : List Char) : Option Nat :=
  if cs.isEmpty || !cs.all Char.isDigit then none
  else some (cs.foldl (fun n d => 10 * n + (d.toNat - '0'.toNat)) 0)

def numbered? (cs : List Char) : Option Nat :=
  (decimal? (if cs.head? = some '+' then cs.drop 1 else cs)).filter (· ≤ 5)

def verbosity? (text : String) : Option Nat :=
  match text.toLower with
  | "off" => some 0
  | "error" => some 1
  | "warn" => some 2
  | "info" => some 3
  | "debug" => some 4
  | "trace" => some 5
  | _ => numbered? text.toList

def mayBegin (c : Char) : Bool := Text.isAlphanumeric c || c = '-' || c = ':' || c = '_'

/-- What a directive consists of: a target, perhaps brackets that hold the name of a span and a
field, and perhaps a level. -/
structure Parts where
  target : List Char
  brackets : Option (List Char × Option (List Char)) := none
  level : Option (List Char) := none

def brackets (cs : List Char) :
    Except DirectiveError ((List Char × Option (List Char)) × List Char) :=
  let span := cs.takeWhile fun c => c ≠ ']' && c ≠ '{'
  match cs.drop span.length with
  | ']' :: rest => .ok ((span, none), rest)
  | '{' :: cs =>
    let field := cs.takeWhile (· ≠ '}')
    match cs.drop field.length with
    | '}' :: ']' :: rest =>
      if field.isEmpty then .error .malformed else .ok ((span, some field), rest)
    | _ => .error .malformed
  | _ => .error .malformed

def ending : List Char → Except DirectiveError (Option (List Char))
  | [] => .ok none
  | '=' :: level => .ok (some level)
  | _ => .error .malformed

def parts (cs : List Char) : Except DirectiveError Parts := do
  if !cs.head?.any (fun c => c = '[' || mayBegin c) then throw .malformed
  let target := cs.takeWhile fun c => c ≠ '=' && c ≠ '['
  match cs.drop target.length with
  | '[' :: inner =>
    let (inside, rest) ← brackets inner
    return { target, brackets := some inside, level := ← ending rest }
  | rest => return { target, level := ← ending rest }

/-- The level after `=`; one that is left out means every level. -/
def levelOf (cs : List Char) : Except DirectiveError Nat :=
  if cs.isEmpty then .ok 5
  else (verbosity? (String.ofList cs)).elim (.error .unknownLevel) .ok

/-- A text without brackets and `=` is a level for all records, or else a target. -/
def ofWord (text : String) : Directive :=
  match verbosity? text with
  | some verbosity => { verbosity }
  | none => { target := some text, verbosity := 5 }

def nonEmpty (cs : List Char) : Option String :=
  if cs.isEmpty then none else some (String.ofList cs)

def ofParts (p : Parts) (verbosity : Nat) : Directive :=
  match p.brackets with
  | none => { target := some (String.ofList p.target), verbosity }
  | some (span, none) =>
    { target := nonEmpty p.target, span := some (String.ofList span), verbosity }
  | some (span, some field) =>
    { target := nonEmpty p.target, span := nonEmpty span
      field := some (FieldCondition.ofText field), verbosity }

/-- Blanks after a level or a target belong to it. After a leading blank no level is recognised, and
what else stands there is the beginning of no source's name. -/
def ofText (text : String) : Except DirectiveError Directive := do
  let body := text.toList.dropWhile Text.isBlank
  let trailing := (body.reverse.takeWhile Text.isBlank).reverse
  let p ← parts (body.take (body.length - trailing.length))
  let led := body.length ≠ text.toList.length
  match p.level with
  | some level =>
    if led then throw .unknownLevel
    return ofParts p (← levelOf (level ++ trailing))
  | none =>
    if led then return { target := some text, verbosity := 5 }
    return if p.brackets.isNone then ofWord text else ofParts p 5

/-- No record is reported inside a span, since the program opens none. -/
def covers (d : Directive) (r : Record) : Bool :=
  d.span.isNone && d.target.all (fun t => t.toList.isPrefixOf r.source.name.toList) &&
    d.field.all fun f => f.holds r

def targetSize (d : Directive) : Nat := d.target.elim 0 fun t => t.utf8ByteSize + 1

/-- A directive with a field is the closer one, and of two with fields that with the later name. -/
def fieldYields : Option FieldCondition → Option FieldCondition → Bool
  | none, _ => true
  | some _, none => false
  | some f, some g =>
    !List.lex (g.name.toList.map Char.toNat) (f.name.toList.map Char.toNat) fun a b => a < b

def yieldsTo (d e : Directive) : Bool :=
  d.targetSize < e.targetSize || (d.targetSize = e.targetSize && fieldYields d.field e.field)

end Directive

end Workflow
