import Workflow.Yaml.Cursor
import Workflow.Yaml.Error

/-! Scalars: how plain, quoted and block scalars are read off the text, and their line breaks
folded. -/

namespace Workflow.Yaml

inductive ScalarStyle
  | plain | singleQuoted | doubleQuoted | literal | folded
  deriving DecidableEq

/-- White space between two parts of a scalar: the blanks of one line, or the first line break and
those after it. -/
structure Gap where
  spaces : List Char := []
  first : List Char := []
  others : List Char := []
  broken : Bool := false

namespace Gap

/-- One line break is a space, and of several the first is dropped. -/
def text (g : Gap) : List Char :=
  if !g.broken then g.spaces
  else if g.first == ['\n'] then (if g.others.isEmpty then [' '] else g.others)
  else g.first ++ g.others

def addBreak (g : Gap) (br : List Char) : Gap :=
  if g.broken then { g with others := g.others ++ br }
  else { g with spaces := [], first := br, broken := true }

end Gap

namespace Cursor

/-- Reads a gap on. On later lines a tab may not stand left of column `least`. -/
def gapFrom (least : Int) : Nat → Gap → Cursor → Except Error (Gap × Cursor)
  | 0, g, c => .ok (g, c)
  | fuel + 1, g, c =>
    match c.rest with
    | [] => .ok (g, c)
    | x :: _ =>
      if isSpaceOrTab x then
        if !g.broken then gapFrom least fuel { g with spaces := g.spaces ++ [x] } (c.skip 1)
        else if x = '\t' && c.column < least then .error .tabIndentation
        else gapFrom least fuel g (c.skip 1)
      else if isBreak x then
        let (br, c) := c.takeBreak
        gapFrom least fuel (g.addBreak br) c
      else .ok (g, c)

def gap (c : Cursor) (least : Int) (g : Gap) : Except Error (Gap × Cursor) :=
  gapFrom least c.rest.length g c

def plainPart (flow : Bool) : List Char → Except Error (List Char)
  | [] => .ok []
  | x :: xs =>
    if isGap x then .ok []
    else if flow && x = ':' && xs.head?.any (fun y => isFlowIndicator y || y = '?') then
      .error .unexpectedColon
    else if x = ':' && endsOr isGap xs then .ok []
    else if flow && isFlowIndicator x then .ok []
    else (plainPart flow xs).map (x :: ·)

def plainFrom (flow : Bool) (least : Int) :
    Nat → List Char → Gap → Cursor → Except Error (List Char × Bool × Cursor)
  | 0, text, g, c => .ok (text, g.broken, c)
  | fuel + 1, text, g, c => do
    if c.atDocumentMark || c.startsWith '#' then return (text, g.broken, c)
    let part ← plainPart flow c.rest
    let (text, g) := if part.isEmpty then (text, g) else (text ++ g.text ++ part, {})
    let c := c.skip part.length
    if !c.atGap then return (text, g.broken, c)
    let (g, c) ← c.gap least g
    if !flow && c.column < least then return (text, g.broken, c)
    plainFrom flow least fuel text g c

/-- The text of a plain scalar, and whether a line break follows it. Outside brackets, its lines
stand at column `least` or right of it. -/
def plainScalar (c : Cursor) (flow : Bool) (least : Int) :
    Except Error (List Char × Bool × Cursor) :=
  plainFrom flow least (c.rest.length + 1) [] {} c

def simpleEscape? : Char → Option Char
  | '0' => some (Char.ofNat 0)
  | 'a' => some (Char.ofNat 7)
  | 'b' => some (Char.ofNat 8)
  | 't' => some '\t'
  | '\t' => some '\t'
  | 'n' => some '\n'
  | 'v' => some (Char.ofNat 11)
  | 'f' => some (Char.ofNat 12)
  | 'r' => some '\r'
  | 'e' => some (Char.ofNat 27)
  | ' ' => some ' '
  | '\"' => some '\"'
  | '/' => some '/'
  | '\\' => some '\\'
  | 'N' => some (Char.ofNat 0x85)
  | '_' => some (Char.ofNat 0xa0)
  | 'L' => some (Char.ofNat 0x2028)
  | 'P' => some (Char.ofNat 0x2029)
  | _ => none

def escapeDigits? : Char → Option Nat
  | 'x' => some 2
  | 'u' => some 4
  | 'U' => some 8
  | _ => none

def hexValue? (c : Char) : Option Nat :=
  if c.isDigit then some (c.toNat - '0'.toNat)
  else if 'a' ≤ c && c ≤ 'f' then some (c.toNat - 'a'.toNat + 10)
  else if 'A' ≤ c && c ≤ 'F' then some (c.toNat - 'A'.toNat + 10)
  else none

def hexNumber? (cs : List Char) : Option Nat :=
  cs.foldlM (fun n c => (hexValue? c).map (16 * n + ·)) 0

def escape? : List Char → Option (Char × Nat)
  | [] => none
  | letter :: rest =>
    match simpleEscape? letter with
    | some c => some (c, 1)
    | none => do
      let digits ← escapeDigits? letter
      if rest.length < digits then none
      let code ← hexNumber? (rest.take digits)
      if code.isValidChar then some (Char.ofNat code, digits + 1) else none

/-- What a quoted scalar holds up to the next gap or its closing quote, what is left after that,
and whether it stops before an escaped line break. -/
def quotedPart (single : Bool) : Nat → List Char → Except Error (List Char × List Char × Bool)
  | 0, rest => .ok ([], rest, false)
  | _ + 1, [] => .ok ([], [], false)
  | fuel + 1, x :: xs => do
    if isGap x then return ([], x :: xs, false)
    if single then
      if x = '\'' then
        match xs with
        | '\'' :: xs =>
          let (part, rest, escaped) ← quotedPart single fuel xs
          return ('\'' :: part, rest, escaped)
        | _ => return ([], x :: xs, false)
      let (part, rest, escaped) ← quotedPart single fuel xs
      return (x :: part, rest, escaped)
    if x = '\"' then return ([], x :: xs, false)
    if x = '\\' then
      if xs.head?.any isBreak then return ([], x :: xs, true)
      match escape? xs with
      | none => .error .unknownEscape
      | some (c, length) =>
        let (part, rest, escaped) ← quotedPart single fuel (xs.drop length)
        return (c :: part, rest, escaped)
    let (part, rest, escaped) ← quotedPart single fuel xs
    return (x :: part, rest, escaped)

def quotedFrom (single : Bool) : Nat → List Char → Cursor → Except Error (List Char × Cursor)
  | 0, _, _ => .error .unclosedQuote
  | fuel + 1, text, c => do
    if c.atDocumentMark || c.rest.isEmpty then throw .unclosedQuote
    let (part, rest, escaped) ← quotedPart single c.rest.length c.rest
    let c := c.skipTo rest
    if escaped then
      let (g, c) ← ((c.skip 1).takeBreak).2.gap 0 { broken := true }
      quotedFrom single fuel (text ++ part ++ g.text) c
    else if c.startsWith (if single then '\'' else '\"') then return (text ++ part, c.skip 1)
    else
      let (g, c) ← c.gap 0 {}
      quotedFrom single fuel (text ++ part ++ g.text) c

def quotedScalar (c : Cursor) (single : Bool) : Except Error (List Char × Cursor) :=
  quotedFrom single (c.rest.length + 1) [] (c.skip 1)

inductive Chomping
  | strip | clip | keep
  deriving DecidableEq

def chomping? : Char → Option Chomping
  | '-' => some .strip
  | '+' => some .keep
  | _ => none

/-- The header of a block scalar: chomping and indentation, in either order, the latter 0 if it is
to be found out. -/
def blockHeader (c : Cursor) : Except Error (Chomping × Nat × Cursor) := do
  let leading := c.rest.head?.bind chomping?
  let c := if leading.isSome then c.skip 1 else c
  let digit := c.rest.head?.filter Char.isDigit
  if digit = some '0' then throw .malformedBlockHeader
  let indentation := digit.elim 0 fun d => d.toNat - '0'.toNat
  let c := if digit.isSome then c.skip 1 else c
  let trailing := if leading.isNone && digit.isSome then c.rest.head?.bind chomping? else none
  let c := if trailing.isSome then c.skip 1 else c
  let c := (c.skipWhile isSpaceOrTab).skipComment
  if !endsOr isBreak c.rest then throw .malformedBlockHeader
  return ((leading.or trailing).getD .clip, indentation, c.takeBreak.2)

def emptyLines (indentation : Nat) :
    Nat → Nat → List Char → Cursor → Except Error (List Char × Nat × Cursor)
  | 0, widest, breaks, c => .ok (breaks, widest, c)
  | fuel + 1, widest, breaks, c => do
    let spaces := (c.rest.takeWhile (· = ' ')).length
    let c := c.skip (if indentation = 0 then spaces else min spaces (indentation - c.column))
    let widest := max widest c.column
    if (indentation = 0 || c.column < indentation) && c.startsWith '\t' then throw .tabIndentation
    if !c.atBreak then return (breaks, widest, c)
    let (br, c) := c.takeBreak
    emptyLines indentation fuel widest (breaks ++ br) c

/-- Lines of a block scalar. `br` is the break before the next line, `breaks` those of the empty
lines after it, and `blank` says that the line before began with a blank. -/
def blockLines (literal : Bool) (chomping : Chomping) (indentation : Nat) :
    Nat → List Char → List Char → List Char → Bool → Cursor → Except Error (List Char × Cursor)
  | 0, text, _, _, _, c => .ok (text, c)
  | fuel + 1, text, br, breaks, blank, c => do
    if c.column = indentation && !c.rest.isEmpty then
      let blankHere := c.rest.head?.any isSpaceOrTab
      let joint :=
        if !literal && br == ['\n'] && !blank && !blankHere then
          if breaks.isEmpty then [' '] else breaks
        else br ++ breaks
      let line := c.rest.takeWhile fun x => !isBreak x
      let (br, c) := (c.skip line.length).takeBreak
      let (breaks, _, c) ← emptyLines indentation (c.rest.length + 1) 0 [] c
      blockLines literal chomping indentation fuel (text ++ joint ++ line) br breaks blankHere c
    else
      return (match chomping with
        | .strip => text
        | .clip => text ++ br
        | .keep => text ++ br ++ breaks, c)

def blockScalar (c : Cursor) (literal : Bool) (parent : Int) :
    Except Error (List Char × Cursor) := do
  let (chomping, given, c) ← (c.skip 1).blockHeader
  let indentation := if given = 0 then 0 else (max parent 0).toNat + given
  let (breaks, widest, c) ← emptyLines indentation (c.rest.length + 1) 0 [] c
  let indentation :=
    if indentation = 0 then max (max widest (parent + 1).toNat) 1 else indentation
  blockLines literal chomping indentation (c.rest.length + 1) [] [] breaks false c

end Cursor

end Workflow.Yaml
