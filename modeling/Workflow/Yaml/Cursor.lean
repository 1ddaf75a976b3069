/-! A place in a YAML text, counted in bytes, and in lines and columns. -/

namespace Workflow.Yaml

def isAllowed (c : Char) : Bool :=
  let n := c.toNat
  n == 0x09 || n == 0x0a || n == 0x0d || (0x20 ≤ n && n ≤ 0x7e) || n == 0x85 ||
    (0xa0 ≤ n && n ≤ 0xd7ff) || (0xe000 ≤ n && n ≤ 0xfffd) || 0x10000 ≤ n

def isSpaceOrTab (c : Char) : Bool := c = ' ' || c = '\t'

def isBreak (c : Char) : Bool :=
  c = '\n' || c = '\r' || c.toNat == 0x85 || c.toNat == 0x2028 || c.toNat == 0x2029

def isGap (c : Char) : Bool := isSpaceOrTab c || isBreak c

def isWordChar (c : Char) : Bool := c.isAlphanum || c = '_' || c = '-'

def isFlowIndicator (c : Char) : Bool :=
  c = ',' || c = '[' || c = ']' || c = '{' || c = '}'

def endsOr (p : Char → Bool) (cs : List Char) : Bool := cs.head?.all p

/-- What is left of the text, and where that begins; `index` counts the bytes before it. -/
structure Cursor where
  rest : List Char
  index : Nat := 0
  line : Nat := 0
  column : Nat := 0

namespace Cursor

def skip (c : Cursor) (n : Nat) : Cursor :=
  let passed := c.rest.take n
  { c with
    rest := c.rest.drop n
    index := passed.foldl (fun n x => n + x.utf8Size) c.index
    column := c.column + passed.length }

def skipWhile (c : Cursor) (p : Char → Bool) : Cursor := c.skip (c.rest.takeWhile p).length

def skipTo (c : Cursor) (rest : List Char) : Cursor := c.skip (c.rest.length - rest.length)

/-- A line break as text, and the cursor on the next line. All breaks but the separators of lines
and paragraphs read as a line feed. -/
def takeBreak (c : Cursor) : List Char × Cursor :=
  match c.rest with
  | '\r' :: '\n' :: rest => (['\n'], ⟨rest, c.index + 2, c.line + 1, 0⟩)
  | x :: rest =>
    if isBreak x then
      let text := if x.toNat == 0x2028 || x.toNat == 0x2029 then x else '\n'
      ([text], ⟨rest, c.index + x.utf8Size, c.line + 1, 0⟩)
    else ([], c)
  | [] => ([], c)

def atGap (c : Cursor) : Bool := c.rest.head?.any isGap

def atBreak (c : Cursor) : Bool := c.rest.head?.any isBreak

def startsWith (c : Cursor) (x : Char) : Bool := c.rest.head? == some x

def atMarks (c : Cursor) (mark : Char) : Bool :=
  c.column == 0 && c.rest.take 3 == [mark, mark, mark] && endsOr isGap (c.rest.drop 3)

def atDocumentMark (c : Cursor) : Bool := c.atMarks '-' || c.atMarks '.'

def skipComment (c : Cursor) : Cursor :=
  if c.startsWith '#' then c.skipWhile fun x => !isBreak x else c

end Cursor

end Workflow.Yaml
