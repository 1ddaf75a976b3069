import Workflow.Machine
import Workflow.Text.Style

/-! The steps of a scripted run, and the listing of a machine with its current state marked. -/

namespace Workflow.CommandLine

def madeLine (palette : Text.Palette) (force : Bool) (source step target : String) : String :=
  if force then
    palette.paint .green "set" ++ " " ++ source ++ " -> " ++ palette.paint .cyan target
  else
    palette.paint .green "moved" ++ " " ++ source ++ " --" ++ step ++ "--> " ++
      palette.paint .cyan target

def refusedLine (palette : Text.Palette) (force : Bool) (source step : String) : String :=
  if force then palette.paint .yellow "unchanged" ++ " " ++ step ++ " (unknown or already current)"
  else palette.paint .yellow "ignored" ++ " '" ++ step ++ "' not declared in " ++ source

/-- One step of a run, and the line about it. A step is a condition, or with `force` a state. -/
def runStep (palette : Text.Palette) (m : Machine) (registries : Registries) (step : String)
    (force : Bool) : Step String :=
  let source := m.current.name
  if force then
    (m.set step registries).map fun moved =>
      if moved then madeLine palette true source step step else refusedLine palette true source step
  else
    (m.changeByName step registries).map fun
      | some target => madeLine palette false source step target.name
      | none => refusedLine palette false source step

def runSteps (palette : Text.Palette) (force : Bool) (m : Machine) (registries : Registries) :
    List String → List (Step String)
  | [] => []
  | name :: names =>
    let step := runStep palette m registries name force
    step :: if step.isFailed then [] else runSteps palette force step.machine step.registries names

def lastMachine (m : Machine) (steps : List (Step String)) : Machine :=
  (steps.getLast?.map Step.machine).getD m

def hookLabels (s : State) : List String :=
  (s.onEnter.map fun h => "enter=" ++ h.name).toList ++
    (s.onLeave.map fun h => "leave=" ++ h.name).toList

def stateLine (palette : Text.Palette) (m : Machine) (s : State) : String :=
  let labels := hookLabels s
  (if m.isIn s.name then "*" else " ") ++ " " ++ palette.paint .bold s.name ++
    (if labels.isEmpty then ""
      else " " ++ palette.paint .dimmed ("[" ++ ", ".intercalate labels ++ "]")) ++ "\n"

def transitionLine (palette : Text.Palette) (m : Machine) (condition : Condition)
    (target : StateId) : String :=
  "    " ++ palette.paint .yellow condition.name ++ " -> " ++ m.targetName target ++ "\n"

def listing (palette : Text.Palette) (m : Machine) : String :=
  String.join (m.graph.states.map fun s =>
    stateLine palette m s ++ String.join (s.transitions.entries.map fun (condition, target) =>
      transitionLine palette m condition target))

end Workflow.CommandLine
