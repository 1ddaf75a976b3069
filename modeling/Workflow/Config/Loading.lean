import Workflow.Config.Reader
import Workflow.Directory

/-! Loading the configuration: the defaults, over them a file, and over that the environment. -/

namespace Workflow

inductive ConfigError
  | unreadable (path : String) (error : ReadError)
  | malformed (path reason : String)
  deriving DecidableEq

namespace ConfigError

def message : ConfigError → String
  | unreadable path error => "failed to read config file " ++ path ++ ": " ++ error.message
  | malformed path reason => "failed to parse config file " ++ path ++ ": " ++ reason

def detail : ConfigError → String
  | unreadable path error => "IoError(" ++ Text.quote path ++ ", " ++ error.detail ++ ")"
  | malformed path reason => "ParseError(" ++ Text.quote path ++ ", " ++ Text.quote reason ++ ")"

end ConfigError

namespace Config

def ofFile (read : String → Except String Config) (files : Files) (path : String) :
    Except ConfigError Config :=
  match files.text path with
  | .error e => .error (.unreadable path e)
  | .ok text =>
    match read text with
    | .error reason => .error (.malformed path reason)
    | .ok c => .ok c

/-- The file to load: the one asked for, or else the one the environment names. -/
def path? (env : Environment) (asked : Option String) : Option String :=
  asked.or (env.get? "STATEWRIGHT_CONFIG")

def loadBy (read : String → Except String Config) (files : Files) (env : Environment)
    (asked : Option String) : Except ConfigError Config :=
  ((path? env asked).elim (.ok {}) (ofFile read files)).map fun c => c.override env

def load (files : Files) (env : Environment) (asked : Option String) : Except ConfigError Config :=
  loadBy ofText files env asked

end Config

end Workflow
