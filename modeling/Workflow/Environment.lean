/-! The variables that a program finds in its environment. -/

namespace Workflow

structure Environment where
  entries : List (String × String) := []
  deriving DecidableEq

namespace Environment

def get? (env : Environment) (name : String) : Option String := env.entries.lookup name

end Environment

end Workflow
