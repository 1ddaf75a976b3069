import Workflow.Yaml.Scalar

/-! Tokens of a YAML text. A mapping shows only at the `:` after its first key, so the place of each
possible key is kept, and its tokens are put in there. -/

namespace Workflow.Yaml

inductive Token
  | versionDirective (major minor : Nat)
  | tagDirective (handle tag : String)
  | documentStart
  | documentEnd
  | blockSequenceStart
  | blockMappingStart
  | blockEnd
  | flowSequenceStart
  | flowSequenceEnd
  | flowMappingStart
  | flowMappingEnd
  | blockEntry
  | flowEntry
  | key
  | value
  | reference (name : String)
  | anchor (name : String)
  | tag (handle suffix : String)
  | scalar (text : String) (style : ScalarStyle)
  deriving DecidableEq

namespace Cursor

def nonEmptyWord (e : Error) (c : Cursor) : Except Error (String × Cursor) :=
  let word := c.rest.takeWhile isWordChar
  if word.isEmpty then .error e else .ok (String.ofList word, c.skip word.length)

def anchorName (c : Cursor) : Except Error (String × Cursor) := do
  let (name, c) ← (c.skip 1).nonEmptyWord .malformedAnchor
  let mayFollow (x : Char) : Bool :=
    isGap x || x = '?' || x = ':' || x = ',' || x = ']' || x = '}' || x = '%' || x = '@' ||
      x.toNat == 0x60
  if endsOr mayFollow c.rest then return (name, c) else throw .malformedAnchor

/-- A handle is `!`, a word and perhaps another `!`, which a handle of a directive has to have. -/
def tagHandle (directive : Bool) (c : Cursor) : Except Error (List Char × Cursor) := do
  if !c.startsWith '!' then throw .malformedTag
  let c := c.skip 1
  let word := c.rest.takeWhile isWordChar
  let c := c.skip word.length
  if c.startsWith '!' then return ('!' :: word ++ ['!'], c.skip 1)
  if directive && !word.isEmpty then throw .malformedTag
  return ('!' :: word, c)

def isTagChar (verbatim : Bool) (x : Char) : Bool :=
  isWordChar x || x = ';' || x = '/' || x = '?' || x = ':' || x = '@' || x = '&' || x = '=' ||
    x = '+' || x = '$' || x = '.' || x = '!' || x = '~' || x = '*' || x = '\'' || x = '(' ||
    x = ')' || (verbatim && (x = ',' || x = '[' || x = ']'))

def octet? : List Char → Option (Nat × List Char)
  | '%' :: high :: low :: rest => (hexNumber? [high, low]).map fun n => (n, rest)
  | _ => none

def continuations? : Nat → Nat → List Char → Option (Nat × List Char)
  | 0, code, rest => some (code, rest)
  | n + 1, code, rest => do
    let (byte, rest) ← octet? rest
    if byte / 64 ≠ 2 then none
    continuations? n (64 * code + byte % 64) rest

def escapedTagChar? (cs : List Char) : Option (Char × List Char) := do
  let (byte, rest) ← octet? cs
  let (count, code) ←
    if byte < 0x80 then some (0, byte)
    else if byte / 32 = 6 then some (1, byte % 32)
    else if byte / 16 = 14 then some (2, byte % 16)
    else if byte / 8 = 30 then some (3, byte % 8)
    else none
  let (code, rest) ← continuations? count code rest
  return (Char.ofNat code, rest)

def tagText (verbatim : Bool) : Nat → List Char → Except Error (List Char × List Char)
  | 0, cs => .ok ([], cs)
  | _ + 1, [] => .ok ([], [])
  | fuel + 1, x :: xs =>
    if x = '%' then
      match escapedTagChar? (x :: xs) with
      | none => .error .malformedTag
      | some (y, rest) => (tagText verbatim fuel rest).map fun (t, rest) => (y :: t, rest)
    else if isTagChar verbatim x then
      (tagText verbatim fuel xs).map fun (t, rest) => (x :: t, rest)
    else .ok ([], x :: xs)

def tagSuffix (verbatim : Bool) (c : Cursor) : Except Error (List Char × Cursor) := do
  let (text, rest) ← tagText verbatim c.rest.length c.rest
  return (text, c.skipTo rest)

def tagToken (flow : Bool) (c : Cursor) : Except Error (Token × Cursor) := do
  let (token, c) ←
    if c.rest.take 2 = ['!', '<'] then do
      let (text, c) ← (c.skip 2).tagSuffix true
      if text.isEmpty || !c.startsWith '>' then throw .malformedTag
      pure (Token.tag "" (String.ofList text), c.skip 1)
    else do
      let (handle, c) ← c.tagHandle false
      let (suffix, c) ← c.tagSuffix false
      if handle.length > 1 && handle.getLast? = some '!' then
        if suffix.isEmpty then throw .malformedTag
        pure (Token.tag (String.ofList handle) (String.ofList suffix), c)
      else
        let suffix := handle.drop 1 ++ suffix
        pure (if suffix.isEmpty then Token.tag "" "!" else .tag "!" (String.ofList suffix), c)
  if (flow && c.startsWith ',') || endsOr isGap c.rest then return (token, c)
  throw .malformedTag

def decimal (c : Cursor) : Except Error (Nat × Cursor) :=
  let digits := c.rest.takeWhile Char.isDigit
  if digits.isEmpty || 9 < digits.length then .error .malformedDirective
  else .ok (digits.foldl (fun n d => 10 * n + (d.toNat - '0'.toNat)) 0, c.skip digits.length)

def directive (c : Cursor) : Except Error (Token × Cursor) := do
  let (name, c) ← (c.skip 1).nonEmptyWord .malformedDirective
  if !endsOr isGap c.rest then throw .malformedDirective
  let c := c.skipWhile isSpaceOrTab
  let (token, c) ← match name with
    | "YAML" => do
      let (major, c) ← c.decimal
      if !c.startsWith '.' then throw .malformedDirective
      let (minor, c) ← (c.skip 1).decimal
      pure (Token.versionDirective major minor, c)
    | "TAG" => do
      let (handle, c) ← c.tagHandle true
      if !c.rest.head?.any isSpaceOrTab then throw .malformedTag
      let (text, c) ← (c.skipWhile isSpaceOrTab).tagSuffix true
      if text.isEmpty || !endsOr isGap c.rest then throw .malformedTag
      pure (Token.tagDirective (String.ofList handle) (String.ofList text), c)
    | _ => throw .malformedDirective
  let c := (c.skipWhile isSpaceOrTab).skipComment
  if !endsOr isBreak c.rest then throw .malformedDirective
  return (token, c.takeBreak.2)

end Cursor

/-- Where a key may turn out to begin, and how many tokens come before it. A required key begins
its line at the indentation of its block. -/
structure PossibleKey where
  start : Cursor
  tokens : Nat
  required : Bool

/-- The tokens read so far. `indents` holds the columns of the open blocks, innermost first, and
`keys` a place for the possible key of each open bracket, and of the text outside. -/
structure Scanner where
  cursor : Cursor
  tokens : Array Token := #[]
  indents : List Int := []
  keys : List (Option PossibleKey) := [none]
  keyAllowed : Bool := true

namespace Scanner

def inFlow (s : Scanner) : Bool := 1 < s.keys.length

def indent (s : Scanner) : Int := s.indents.headD (-1)

def emit (s : Scanner) (t : Token) : Scanner := { s with tokens := s.tokens.push t }

def take (s : Scanner) (n : Nat) (t : Token) : Scanner :=
  { s.emit t with cursor := s.cursor.skip n }

def allowKey (s : Scanner) (allowed : Bool) : Scanner := { s with keyAllowed := allowed }

def unroll (s : Scanner) (column : Int) : Scanner :=
  if s.inFlow then s
  else
    let closed := s.indents.takeWhile (column < ·)
    { s with
      tokens := s.tokens ++ Array.replicate closed.length Token.blockEnd
      indents := s.indents.drop closed.length }

def roll (s : Scanner) (column : Nat) (place : Nat) (t : Token) : Scanner :=
  if s.inFlow || (column : Int) ≤ s.indent then s
  else
    { s with
      tokens := s.tokens.insertIdxIfInBounds place t
      indents := column :: s.indents }

def dropKey (s : Scanner) : Except Error Scanner :=
  match s.keys with
  | some k :: keys =>
    if k.required then .error .missingColon else .ok { s with keys := none :: keys }
  | _ => .ok s

def saveKey (s : Scanner) : Except Error Scanner :=
  if s.keyAllowed then do
    let s ← s.dropKey
    let key : PossibleKey :=
      { start := s.cursor, tokens := s.tokens.size
        required := !s.inFlow && s.indent == s.cursor.column }
    return { s with keys := some key :: s.keys.drop 1 }
  else .ok s

/-- A key stands on one line and is no longer than 1024 bytes. -/
def dropStaleKeys (s : Scanner) : Except Error Scanner := do
  let keys ← s.keys.mapM fun
    | none => Except.ok (ε := Error) none
    | some k =>
      if k.start.line < s.cursor.line || k.start.index + 1024 < s.cursor.index then
        if k.required then .error .missingColon else .ok none
      else .ok (some k)
  return { s with keys }

/-- Passes over white space and comments. A tab does not count as white space where a key may
begin, and a byte order mark may open a line. -/
def toNextToken : Nat → Scanner → Scanner
  | 0, s => s
  | fuel + 1, s =>
    let c := s.cursor
    let c := if c.column = 0 && c.startsWith (Char.ofNat 0xfeff) then c.skip 1 else c
    let tabs := s.inFlow || !s.keyAllowed
    let c := (c.skipWhile fun x => x = ' ' || (tabs && x = '\t')).skipComment
    if c.atBreak then
      toNextToken fuel { s with cursor := c.takeBreak.2, keyAllowed := s.keyAllowed || !s.inFlow }
    else { s with cursor := c }

def atDirective (s : Scanner) : Bool := s.cursor.column = 0 && s.cursor.startsWith '%'

def outermost (s : Scanner) : Except Error Scanner :=
  return ((← (s.unroll (-1)).dropKey).allowKey false)

def takeDirective (s : Scanner) : Except Error Scanner := do
  let s ← s.outermost
  let (token, cursor) ← s.cursor.directive
  return { s.emit token with cursor }

def takeDocumentMark (s : Scanner) (t : Token) : Except Error Scanner :=
  return (← s.outermost).take 3 t

def openFlow (s : Scanner) (t : Token) : Except Error Scanner := do
  let s ← s.saveKey
  return ({ s with keys := none :: s.keys }.allowKey true).take 1 t

def closeFlow (s : Scanner) (t : Token) : Except Error Scanner := do
  let s ← s.dropKey
  let s := if s.inFlow then { s with keys := s.keys.drop 1 } else s
  return (s.allowKey false).take 1 t

def takeFlowEntry (s : Scanner) : Except Error Scanner :=
  return ((← s.dropKey).allowKey true).take 1 .flowEntry

def takeBlockEntry (s : Scanner) : Except Error Scanner := do
  if !s.inFlow && !s.keyAllowed then throw .misplacedEntry
  let s ← (s.roll s.cursor.column s.tokens.size .blockSequenceStart).dropKey
  return (s.allowKey true).take 1 .blockEntry

def takeKey (s : Scanner) : Except Error Scanner := do
  if !s.inFlow && !s.keyAllowed then throw .misplacedKey
  let s ← (s.roll s.cursor.column s.tokens.size .blockMappingStart).dropKey
  return (s.allowKey !s.inFlow).take 1 .key

def takeValue (s : Scanner) : Except Error Scanner :=
  match s.keys with
  | some k :: keys =>
    let s := { s with
      keys := none :: keys
      tokens := s.tokens.insertIdxIfInBounds k.tokens Token.key }
    return ((s.roll k.start.column k.tokens .blockMappingStart).allowKey false).take 1 .value
  | _ => do
    if !s.inFlow && !s.keyAllowed then throw .misplacedValue
    let s := s.roll s.cursor.column s.tokens.size .blockMappingStart
    return (s.allowKey !s.inFlow).take 1 .value

def takeAnchor (s : Scanner) (token : String → Token) : Except Error Scanner := do
  let s ← s.saveKey
  let (name, cursor) ← s.cursor.anchorName
  return { (s.allowKey false).emit (token name) with cursor }

def takeTag (s : Scanner) : Except Error Scanner := do
  let s ← s.saveKey
  let (token, cursor) ← s.cursor.tagToken s.inFlow
  return { (s.allowKey false).emit token with cursor }

def takeBlockScalar (s : Scanner) (literal : Bool) : Except Error Scanner := do
  let s ← s.dropKey
  let (text, cursor) ← s.cursor.blockScalar literal s.indent
  let token := Token.scalar (String.ofList text) (if literal then .literal else .folded)
  return { (s.allowKey true).emit token with cursor }

def takeQuotedScalar (s : Scanner) (single : Bool) : Except Error Scanner := do
  let s ← s.saveKey
  let (text, cursor) ← s.cursor.quotedScalar single
  let style := if single then ScalarStyle.singleQuoted else .doubleQuoted
  return { (s.allowKey false).emit (.scalar (String.ofList text) style) with cursor }

/-- A plain scalar that runs up to a line break leaves room for a key. -/
def takePlainScalar (s : Scanner) : Except Error Scanner := do
  let s ← s.saveKey
  let (text, broken, cursor) ← s.cursor.plainScalar s.inFlow (s.indent + 1)
  return { (s.allowKey broken).emit (.scalar (String.ofList text) .plain) with cursor }

def startsPlain (flow : Bool) (x : Char) (rest : List Char) : Bool :=
  let indicator := isGap x || isFlowIndicator x || x = '-' || x = '?' || x = ':' || x = '#' ||
    x = '&' || x = '*' || x = '!' || x = '|' || x = '>' || x = '\'' || x = '\"' || x = '%' ||
    x = '@' || x.toNat == 0x60
  !indicator || (x = '-' && !rest.head?.any isSpaceOrTab) ||
    (!flow && (x = '?' || x = ':') && !endsOr isGap rest)

def takeToken (s : Scanner) (x : Char) (rest : List Char) : Except Error Scanner :=
  let gapAfter := endsOr isGap rest
  if s.atDirective then s.takeDirective
  else if s.cursor.atMarks '-' then s.takeDocumentMark .documentStart
  else if s.cursor.atMarks '.' then s.takeDocumentMark .documentEnd
  else if x = '[' then s.openFlow .flowSequenceStart
  else if x = '{' then s.openFlow .flowMappingStart
  else if x = ']' then s.closeFlow .flowSequenceEnd
  else if x = '}' then s.closeFlow .flowMappingEnd
  else if x = ',' then s.takeFlowEntry
  else if x = '-' && gapAfter then s.takeBlockEntry
  else if x = '?' && (s.inFlow || gapAfter) then s.takeKey
  else if x = ':' && (s.inFlow || gapAfter) then s.takeValue
  else if x = '*' then s.takeAnchor .reference
  else if x = '&' then s.takeAnchor .anchor
  else if x = '!' then s.takeTag
  else if x = '|' && !s.inFlow then s.takeBlockScalar true
  else if x = '>' && !s.inFlow then s.takeBlockScalar false
  else if x = '\'' then s.takeQuotedScalar true
  else if x = '\"' then s.takeQuotedScalar false
  else if startsPlain s.inFlow x rest then s.takePlainScalar
  else .error .cannotStartToken

def run : Nat → Scanner → Except Error Scanner
  | 0, s => .ok s
  | fuel + 1, s => do
    let s ← (s.toNextToken (s.cursor.rest.length + 1)).dropStaleKeys
    let s := s.unroll s.cursor.column
    match s.cursor.rest with
    | [] => (s.unroll (-1)).dropKey
    | x :: rest => run fuel (← s.takeToken x rest)

end Scanner

def tokens (text : String) : Except Error (List Token) :=
  let cs := text.toList
  if cs.all isAllowed then
    (Scanner.run (cs.length + 1) { cursor := { rest := cs } }).map fun s => s.tokens.toList
  else .error .controlCharacter

end Workflow.Yaml
