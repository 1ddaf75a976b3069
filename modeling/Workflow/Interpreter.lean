import Workflow.Machine.Operation

/-! Interpreters: declarations followed by name, without positions, tables or bound hooks. What
shows of a move is the same for an interpreter as for a machine. -/

namespace Workflow

namespace Host

def callbacks (hosts : List Host) (names : List String) : Trail :=
  (names.filterMap fun name =>
    (hosts.flatMap registrations).find? fun b => b.name == name).flatMap BoundHook.trail

end Host

structure Report where
  outcome : Except String (Reply String)
  current : String
  callbacks : Trail

def Step.report (s : Step (Reply State)) : Report where
  outcome := s.outcome.map (Reply.map State.name)
  current := s.machine.current.name
  callbacks := s.trail.callbacks

/-- The declarations, and the one that is current. -/
structure Interpreter where
  declarations : List Declaration
  current : Declaration

/-- What one move of an interpreter leads to, and the hooks it calls. -/
structure Turn where
  interpreter : Interpreter
  reply : Reply String
  hooks : List String := []

def Turn.report (hosts : List Host) (t : Turn) : Report where
  outcome := .ok t.reply
  current := t.interpreter.current.name
  callbacks := Host.callbacks hosts t.hooks

namespace Interpreter

def start? (ds : List Declaration) : Option Interpreter :=
  ds.head?.map fun current => { declarations := ds, current }

def declared? (i : Interpreter) (name : String) : Option Declaration :=
  i.declarations.find? fun d => d.name == name

/-- The declaration that a condition leads to from the current one, which may be the same. -/
def next? (i : Interpreter) (condition : String) : Option Declaration :=
  (i.current.transitions.find? fun t => t.condition == condition).bind fun t =>
    i.declared? t.target

def crossing (i : Interpreter) (d : Declaration) : List String :=
  i.current.onLeave.toList ++ d.onEnter.toList

def follow (i : Interpreter) (condition : String) : Turn :=
  match i.next? condition with
  | none => { interpreter := i, reply := .moved none }
  | some d =>
    { interpreter := { i with current := d }, reply := .moved (some d.name), hooks := i.crossing d }

/-- Forces a move to a declaration that is not current, with or without calling hooks. -/
def force (i : Interpreter) (name : String) (hooks : Bool) : Turn :=
  match i.declared? name with
  | none => { interpreter := i, reply := .forced false }
  | some d =>
    if name = i.current.name then { interpreter := i, reply := .forced false }
    else
      { interpreter := { i with current := d }, reply := .forced true
        hooks := if hooks then i.crossing d else [] }

def perform (i : Interpreter) : Move → Turn
  | .change condition => i.follow condition.name
  | .changeByName name => i.follow name
  | .set name => i.force name true
  | .sync name => i.force name false

def run (hosts : List Host) (i : Interpreter) : List Move → List Report
  | [] => []
  | x :: xs => (i.perform x).report hosts :: (i.perform x).interpreter.run hosts xs

end Interpreter

end Workflow
