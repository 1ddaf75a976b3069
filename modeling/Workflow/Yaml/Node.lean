import Workflow.Yaml.Token

/-! Nodes: the tree that the tokens of a YAML document stand for. -/

namespace Workflow.Yaml

/-- Anchors are numbered. A reference stands for the node with the anchor of that number. -/
inductive Node
  | reference (number : Nat)
  | scalar (anchor : Option Nat) (tag : Option String) (style : ScalarStyle) (text : String)
  | sequence (anchor : Option Nat) (items : List Node)
  | mapping (anchor : Option Nat) (pairs : List (Node × Node))
  deriving Inhabited

namespace Node

def anchor? : Node → Option Nat
  | reference _ => none
  | scalar anchor _ _ _ => anchor
  | sequence anchor _ => anchor
  | mapping anchor _ => anchor

def absent : Node := scalar none none .plain ""

mutual

def nodes : Node → List Node
  | sequence anchor items => sequence anchor items :: nodesOfItems items
  | mapping anchor pairs => mapping anchor pairs :: nodesOfPairs pairs
  | n => [n]

def nodesOfItems : List Node → List Node
  | [] => []
  | n :: ns => nodes n ++ nodesOfItems ns

def nodesOfPairs : List (Node × Node) → List Node
  | [] => []
  | (k, v) :: ps => nodes k ++ nodes v ++ nodesOfPairs ps

end

end Node

structure Remaining where
  tokens : List Token
  anchors : List (String × Nat) := []

namespace Remaining

def next (r : Remaining) (tokens : List Token) : Remaining := { r with tokens }

/-- Numbers an anchor with the count of names met. A name met before is numbered anew. -/
def addAnchor (r : Remaining) (name : String) : Nat × Remaining :=
  let number := r.anchors.length
  let anchors :=
    if (r.anchors.lookup name).isSome then
      r.anchors.map fun a => if a.1 == name then (name, number) else a
    else r.anchors ++ [(name, number)]
  (number, { r with anchors })

def startsWithAny (r : Remaining) (ts : List Token) : Bool :=
  r.tokens.head?.any ts.contains

end Remaining

abbrev Handles := List (String × String)

def defaultHandles : Handles := [("!", "!"), ("!!", "tag:yaml.org,2002:")]

def resolveTag (handles : Handles) (handle suffix : String) : Except Error String :=
  if handle.isEmpty then .ok suffix
  else
    match handles.lookup handle with
    | some start => .ok (start ++ suffix)
    | none => .error (.undefinedHandle handle)

def properties (handles : Handles) (r : Remaining) :
    Except Error (Option Nat × Option String × Remaining) :=
  match r.tokens with
  | .anchor name :: .tag handle suffix :: ts | .tag handle suffix :: .anchor name :: ts => do
    let tag ← resolveTag handles handle suffix
    let (number, r) := (r.next ts).addAnchor name
    return (some number, some tag, r)
  | .anchor name :: ts =>
    let (number, r) := (r.next ts).addAnchor name
    .ok (some number, none, r)
  | .tag handle suffix :: ts => do
    return (none, some (← resolveTag handles handle suffix), r.next ts)
  | _ => .ok (none, none, r)

namespace Node

mutual

/-- The node at the front of the tokens. Blocks are allowed only outside brackets, and a sequence
at the indentation of its mapping only as a key or a value. -/
def parse (handles : Handles) : Nat → Bool → Bool → Remaining → Except Error (Node × Remaining)
  | 0, _, _, _ => .error .unexpectedToken
  | fuel + 1, block, unindented, r =>
    match r.tokens with
    | .reference name :: ts =>
      match r.anchors.lookup name with
      | some number => .ok (reference number, r.next ts)
      | none => .error (.undefinedAnchor name)
    | _ => do
      let (anchor, tag, r) ← properties handles r
      if unindented && r.startsWithAny [.blockEntry] then
        let (items, r) ← unindentedItems handles fuel r
        return (sequence anchor items, r)
      match block, r.tokens with
      | _, .scalar text style :: ts => return (scalar anchor tag style text, r.next ts)
      | _, .flowSequenceStart :: ts =>
        let (items, r) ← flowItems handles fuel true (r.next ts)
        return (sequence anchor items, r)
      | _, .flowMappingStart :: ts =>
        let (pairs, r) ← flowPairs handles fuel true (r.next ts)
        return (mapping anchor pairs, r)
      | true, .blockSequenceStart :: ts =>
        let (items, r) ← blockItems handles fuel (r.next ts)
        return (sequence anchor items, r)
      | true, .blockMappingStart :: ts =>
        let (pairs, r) ← blockPairs handles fuel (r.next ts)
        return (mapping anchor pairs, r)
      | _, _ =>
        if anchor.isSome || tag.isSome then return (scalar anchor tag .plain "", r)
        else throw .unexpectedToken

def parseUnless (handles : Handles) (fuel : Nat) (ends : List Token) (block unindented : Bool)
    (r : Remaining) : Except Error (Node × Remaining) :=
  match fuel with
  | 0 => .error .unexpectedToken
  | fuel + 1 =>
    if r.startsWithAny ends then .ok (absent, r) else parse handles fuel block unindented r

def parseValue (handles : Handles) (fuel : Nat) (ends : List Token) (block : Bool)
    (r : Remaining) : Except Error (Node × Remaining) :=
  match fuel with
  | 0 => .error .unexpectedToken
  | fuel + 1 =>
    match r.tokens with
    | .value :: ts => parseUnless handles fuel ends block block (r.next ts)
    | _ => .ok (absent, r)

def blockItems (handles : Handles) : Nat → Remaining → Except Error (List Node × Remaining)
  | 0, _ => .error .unexpectedToken
  | fuel + 1, r =>
    match r.tokens with
    | .blockEntry :: ts => do
      let (item, r) ←
        parseUnless handles fuel [.blockEntry, .blockEnd] true false (r.next ts)
      let (items, r) ← blockItems handles fuel r
      return (item :: items, r)
    | .blockEnd :: ts => .ok ([], r.next ts)
    | _ => .error .unexpectedToken

def unindentedItems (handles : Handles) : Nat → Remaining → Except Error (List Node × Remaining)
  | 0, _ => .error .unexpectedToken
  | fuel + 1, r =>
    match r.tokens with
    | .blockEntry :: ts => do
      let (item, r) ←
        parseUnless handles fuel [.blockEntry, .key, .value, .blockEnd] true false (r.next ts)
      let (items, r) ← unindentedItems handles fuel r
      return (item :: items, r)
    | _ => .ok ([], r)

def blockPairs (handles : Handles) :
    Nat → Remaining → Except Error (List (Node × Node) × Remaining)
  | 0, _ => .error .unexpectedToken
  | fuel + 1, r =>
    match r.tokens with
    | .key :: ts => do
      let ends := [Token.key, .value, .blockEnd]
      let (k, r) ← parseUnless handles fuel ends true true (r.next ts)
      let (v, r) ← parseValue handles fuel ends true r
      let (pairs, r) ← blockPairs handles fuel r
      return ((k, v) :: pairs, r)
    | .blockEnd :: ts => .ok ([], r.next ts)
    | _ => .error .unexpectedToken

/-- The items up to `]`. An item with a key mark is a mapping of one pair; a key that is left out
takes the token after the mark with it. -/
def flowItems (handles : Handles) :
    Nat → Bool → Remaining → Except Error (List Node × Remaining)
  | 0, _, _ => .error .unexpectedToken
  | fuel + 1, first, r =>
    match r.tokens, first with
    | .flowSequenceEnd :: ts, _ => .ok ([], r.next ts)
    | .flowEntry :: .flowSequenceEnd :: ts, false => .ok ([], r.next ts)
    | .flowEntry :: ts, false => flowItem handles fuel (r.next ts)
    | _, false => .error .unexpectedToken
    | _, true => flowItem handles fuel r

def flowItem (handles : Handles) : Nat → Remaining → Except Error (List Node × Remaining)
  | 0, _ => .error .unexpectedToken
  | fuel + 1, r => do
    let (item, r) ← match r.tokens with
      | .key :: ts => do
        let (k, r) ←
          parseUnless handles fuel [.value, .flowEntry, .flowSequenceEnd] false false (r.next ts)
        let left := if r.tokens.length = ts.length then r.next (ts.drop 1) else r
        let (v, r) ← parseValue handles fuel [.flowEntry, .flowSequenceEnd] false left
        pure (mapping none [(k, v)], r)
      | _ => parse handles fuel false false r
    let (items, r) ← flowItems handles fuel false r
    return (item :: items, r)

/-- The pairs up to the closing bracket. A pair without a key mark is a key alone. -/
def flowPairs (handles : Handles) :
    Nat → Bool → Remaining → Except Error (List (Node × Node) × Remaining)
  | 0, _, _ => .error .unexpectedToken
  | fuel + 1, first, r =>
    match r.tokens, first with
    | .flowMappingEnd :: ts, _ => .ok ([], r.next ts)
    | .flowEntry :: .flowMappingEnd :: ts, false => .ok ([], r.next ts)
    | .flowEntry :: ts, false => flowPair handles fuel (r.next ts)
    | _, false => .error .unexpectedToken
    | _, true => flowPair handles fuel r

def flowPair (handles : Handles) :
    Nat → Remaining → Except Error (List (Node × Node) × Remaining)
  | 0, _ => .error .unexpectedToken
  | fuel + 1, r => do
    let (pair, r) ← match r.tokens with
      | .key :: ts => do
        let (k, r) ←
          parseUnless handles fuel [.value, .flowEntry, .flowMappingEnd] false false (r.next ts)
        let (v, r) ← parseValue handles fuel [.flowEntry, .flowMappingEnd] false r
        pure ((k, v), r)
      | _ => do
        let (k, r) ← parse handles fuel false false r
        pure ((k, absent), r)
    let (pairs, r) ← flowPairs handles fuel false r
    return (pair :: pairs, r)

end

end Node

end Workflow.Yaml
