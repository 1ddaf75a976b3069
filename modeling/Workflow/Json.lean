/-! JSON values, and their layout with one member to a line. -/

namespace Workflow

inductive Json
  | null
  | bool (value : Bool)
  | number (mantissa : Int) (exponent : Nat)
  | string (value : String)
  | array (items : List Json)
  | object (members : List (String × Json))
  deriving Inhabited

namespace Json

def escapeControl (c : Char) : List Char :=
  ['\\', 'u', '0', '0', Nat.digitChar (c.toNat / 16), Nat.digitChar (c.toNat % 16)]

def escapeChar (c : Char) : List Char :=
  if c = '\"' then ['\\', '\"']
  else if c = '\\' then ['\\', '\\']
  else if c = '\n' then ['\\', 'n']
  else if c = '\r' then ['\\', 'r']
  else if c = '\t' then ['\\', 't']
  else if c = Char.ofNat 8 then ['\\', 'b']
  else if c = Char.ofNat 12 then ['\\', 'f']
  else if c.toNat < 0x20 then escapeControl c
  else [c]

def quote (s : String) : String :=
  String.ofList ('\"' :: (s.toList.flatMap escapeChar ++ ['\"']))

def indentation (depth : Nat) : String := String.join (List.replicate depth "  ")

def enclose (depth : Nat) (opening closing : String) : List String → String
  | [] => opening ++ closing
  | item :: items =>
    let separator := ",\n" ++ indentation (depth + 1)
    opening ++ "\n" ++ indentation (depth + 1) ++ separator.intercalate (item :: items) ++ "\n" ++
      indentation depth ++ closing

def numeral (mantissa : Int) : Nat → String
  | 0 => toString mantissa
  | exponent + 1 => toString mantissa ++ "e-" ++ toString (exponent + 1)

mutual

def pretty (depth : Nat) : Json → String
  | null => "null"
  | bool value => if value then "true" else "false"
  | number mantissa exponent => numeral mantissa exponent
  | string value => quote value
  | array items => enclose depth "[" "]" (prettyItems (depth + 1) items)
  | object members => enclose depth "\x7b" "\x7d" (prettyMembers (depth + 1) members)

def prettyItems (depth : Nat) : List Json → List String
  | [] => []
  | item :: items => pretty depth item :: prettyItems depth items

def prettyMembers (depth : Nat) : List (String × Json) → List String
  | [] => []
  | (key, value) :: members =>
    (quote key ++ ": " ++ pretty depth value) :: prettyMembers depth members

end

def string? : Json → Option String
  | string value => some value
  | _ => none

def items? : Json → Option (List Json)
  | array items => some items
  | _ => none

/-- The value of a key: `some none` if it is absent, `none` if it is repeated. -/
def member? (members : List (String × Json)) (key : String) : Option (Option Json) :=
  match members.filter fun m => m.1 == key with
  | [] => some none
  | [m] => some (some m.2)
  | _ => none

end Json

end Workflow
