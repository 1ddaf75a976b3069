import Workflow.Machine.Builder
import Workflow.Machine.View

/-! Many machines in one world. They have their places there, and share its registries with each
other and with third parties. -/

namespace Workflow

inductive Deed
  | build (text : String) (requests : List Builder.Request)
  | operate (operation : Operation)

inductive DeedView
  | built (construction : ConstructionView)
  | operated (step : StepView AnswerView)
  | nothing

namespace DeedView

def trail : DeedView → Trail
  | built construction => construction.trail
  | operated step => step.trail
  | nothing => []

end DeedView

structure Scene where
  machine : Option Machine
  registries : Registries
  view : DeedView

namespace Deed

/-- A machine that cannot be built leaves its place as it was. Where there is no machine, nothing can
be operated. -/
def perform (machine : Option Machine) (registries : Registries) : Deed → Scene
  | build text requests =>
    let construction := (Builder.ofRequests text requests).build registries
    { machine := construction.outcome.toOption.or machine
      registries := construction.registries
      view := .built construction.view }
  | operate x =>
    match machine with
    | none => { machine := none, registries, view := .nothing }
    | some m =>
      let step := x.perform m registries
      { machine := some step.machine, registries := step.registries, view := .operated step.view }

def run (machine : Option Machine) (registries : Registries) : List Deed → List DeedView
  | [] => []
  | d :: ds =>
    let scene := d.perform machine registries
    scene.view :: run scene.machine scene.registries ds

end Deed

inductive Happening
  | deed (place : String) (deed : Deed)
  | create
  | label (label : String) (id : RegistryId)
  | intern (id : RegistryId) (name : String)

namespace Happening

def deedAt? (place : String) : Happening → Option Deed
  | deed p d => if p = place then some d else none
  | _ => none

end Happening

structure World where
  machine? : String → Option Machine := fun _ => none
  registries : Registries := {}

namespace World

def put (w : World) (place : String) (machine : Option Machine) : World where
  machine? p := if p = place then machine else w.machine? p
  registries := w.registries

def perform (w : World) : Happening → World × List (String × DeedView)
  | .deed place d =>
    let scene := d.perform (w.machine? place) w.registries
    ({ w.put place scene.machine with registries := scene.registries }, [(place, scene.view)])
  | .create => ({ w with registries := w.registries.create.2 }, [])
  | .label label id => ({ w with registries := w.registries.label label id }, [])
  | .intern id name => ({ w with registries := (w.registries.intern id name).2 }, [])

def run (w : World) : List Happening → List (String × DeedView)
  | [] => []
  | x :: xs => (w.perform x).2 ++ (w.perform x).1.run xs

def viewsAt (place : String) (views : List (String × DeedView)) : List DeedView :=
  views.filterMap fun (p, view) => if p = place then some view else none

end World

end Workflow
