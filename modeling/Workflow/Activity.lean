import Workflow.Condition.Call
import Workflow.World

/-! All that happens to registries over time: they are called directly, and deeds at places of a world
call them. -/

namespace Workflow

inductive Activity
  | call (call : Call)
  | deed (place : String) (deed : Deed)

namespace World

def engage (w : World) : Activity → World
  | .call call => { w with registries := (call.perform w.registries).2 }
  | .deed place d => (w.perform (.deed place d)).1

def engageAll (w : World) (xs : List Activity) : World := xs.foldl engage w

end World

end Workflow
