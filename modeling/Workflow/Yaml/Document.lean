import Workflow.Yaml.Node

/-! Documents: a YAML text holds at most one, and its nodes are read as values of known types. -/

namespace Workflow.Yaml

/-- A text that holds nothing but comments has no root. -/
structure Document where
  root : Option Node

namespace Token

def isDirective : Token → Bool
  | versionDirective .. => true
  | tagDirective .. => true
  | _ => false

/-- Before such a token, a document that began explicitly has no content. -/
def endsContent (t : Token) : Bool := t.isDirective || t = documentStart || t = documentEnd

end Token

namespace Document

def directives : List Token → Except Error (Bool × Handles × List Token)
  | .versionDirective major minor :: ts => do
    if major ≠ 1 || (minor ≠ 1 && minor ≠ 2) then throw .unsupportedVersion
    let (versioned, handles, ts) ← directives ts
    if versioned then throw .repeatedDirective
    return (true, handles, ts)
  | .tagDirective handle tag :: ts => do
    let (versioned, handles, ts) ← directives ts
    if (handles.lookup handle).isSome then throw .repeatedDirective
    return (versioned, (handle, tag) :: handles, ts)
  | ts => .ok (false, [], ts)

def content (ts : List Token) : Except Error (Node × Remaining) := do
  let fuel := 6 * ts.length + 10
  if ts.head?.any fun t => t.isDirective || t = .documentStart then
    let (_, handles, ts) ← directives ts
    match ts with
    | .documentStart :: ts =>
      if ts.head?.all Token.endsContent then return (.absent, { tokens := ts })
      Node.parse (handles ++ defaultHandles) fuel true false { tokens := ts }
    | _ => throw .unexpectedToken
  else Node.parse defaultHandles fuel true false { tokens := ts }

def ofTokens (ts : List Token) : Except Error Document :=
  if ts.isEmpty then .ok ⟨none⟩
  else do
    let (root, r) ← content ts
    if r.tokens.all (· = .documentEnd) then return ⟨some root⟩
    throw .secondDocument

def ofText (text : String) : Except Error Document := do
  ofTokens (← tokens text)

def nodes (d : Document) : List Node := d.root.elim [] Node.nodes

/-- A reference stands for the last node with its anchor. -/
def resolve (d : Document) : Node → Node
  | .reference number =>
    (d.nodes.reverse.find? fun n => n.anchor? == some number).getD (.reference number)
  | n => n

/-! A plain scalar without text counts as an empty list and as an empty section. -/

def isEmptyPlain : Node → Bool
  | .scalar _ _ style text => style = .plain && text.isEmpty
  | _ => false

def text (d : Document) (n : Node) : Except Error String :=
  match d.resolve n with
  | .scalar _ _ _ text => .ok text
  | _ => .error (.expected "a string")

def boolean? : String → Option Bool
  | "true" | "True" | "TRUE" => some true
  | "false" | "False" | "FALSE" => some false
  | _ => none

/-- A truth value is a plain scalar, or a literal one with the tag of truth values. -/
def boolean (d : Document) (n : Node) : Except Error Bool :=
  match d.resolve n with
  | .scalar _ tag style text =>
    if style = .plain || (style = .literal && tag = some "tag:yaml.org,2002:bool") then
      (boolean? text).elim (.error (.expected "a boolean")) .ok
    else .error (.expected "a boolean")
  | _ => .error (.expected "a boolean")

def isNullText (text : String) : Bool :=
  text = "null" || text = "Null" || text = "NULL" || text = "~"

/-- Null is a plain scalar. One without a tag may also be left out. -/
def isNull (d : Document) (n : Node) : Except Error Bool :=
  match d.resolve n with
  | .scalar _ (some tag) .plain text =>
    if tag = "tag:yaml.org,2002:null" then
      if isNullText text then .ok true else .error (.expected "null")
    else .ok false
  | .scalar _ none .plain text => .ok (text.isEmpty || isNullText text)
  | _ => .ok false

def optionalText (d : Document) (n : Node) : Except Error (Option String) := do
  if ← d.isNull n then return none
  return some (← d.text n)

def items (d : Document) (n : Node) : Except Error (List Node) :=
  match d.resolve n with
  | .sequence _ items => .ok items
  | n => if isEmptyPlain n then .ok [] else .error (.expected "a sequence")

def texts (d : Document) (n : Node) : Except Error (List String) := do
  (← d.items n).mapM d.text

abbrev Members := List (String × Node)

def members (d : Document) (n : Node) : Except Error Members :=
  match d.resolve n with
  | .mapping _ pairs => pairs.mapM fun (k, v) => return (← d.text k, v)
  | n => if isEmptyPlain n then .ok [] else .error (.expected "a mapping")

def rootMembers (d : Document) : Except Error Members := d.root.elim (.ok []) d.members

end Document

namespace Document.Members

/-- What `read` makes of the member with a key, or the default without one. A key that is asked for
may not be repeated. -/
def read {α : Type} (ms : Members) (key : String) (default : α) (read : Node → Except Error α) :
    Except Error α :=
  match ms.filter fun m => m.1 == key with
  | [] => .ok default
  | [m] => read m.2
  | _ => .error (.duplicateField key)

end Document.Members

end Workflow.Yaml
