/-! Declarations: what a definition text says about its states, before anything is checked. -/

namespace Workflow

structure Transition where
  condition : String
  target : String
  deriving DecidableEq

structure Declaration where
  name : String
  onEnter : Option String
  onLeave : Option String
  transitions : List Transition
  deriving DecidableEq

namespace Declaration

def hooks (d : Declaration) : List String := d.onEnter.toList ++ d.onLeave.toList

end Declaration

def addName (names : List String) (name : String) : List String :=
  if names.contains name then names else names ++ [name]

def hookNames (ds : List Declaration) : List String :=
  (ds.flatMap Declaration.hooks).foldl addName []

end Workflow
