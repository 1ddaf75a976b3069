import Workflow.Text.Printable
import Workflow.Text.Combining

/-! Quoted texts: a text between double quotes in which everything that could be misread, and
everything that has no visible form of its own, is escaped. -/

namespace Workflow.Text

def escapeCode (c : Char) : List Char :=
  ['\\', 'u', '{'] ++ Nat.toDigits 16 c.toNat ++ ['}']

def escapeChar (c : Char) : List Char :=
  if c = '\"' then ['\\', '\"']
  else if c = '\\' then ['\\', '\\']
  else if c = '\n' then ['\\', 'n']
  else if c = '\t' then ['\\', 't']
  else if c = '\r' then ['\\', 'r']
  else if c = Char.ofNat 0 then ['\\', '0']
  else if isCombining c || !isPrintable c then escapeCode c
  else [c]

def quote (s : String) : String :=
  String.ofList ('\"' :: (s.toList.flatMap escapeChar ++ ['\"']))

def quoteList (xs : List String) : String :=
  "[" ++ ", ".intercalate (xs.map quote) ++ "]"

end Workflow.Text
