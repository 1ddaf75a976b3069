import Workflow.Config
import Workflow.Yaml.Document

/-! Configurations written in YAML. What a text leaves out keeps its default. -/

namespace Workflow.Config

open Yaml (Document Node Error)

def readLogging (d : Document) (n : Node) : Except Error LoggingConfig := do
  let ms ← d.members n
  let default : LoggingConfig := {}
  return { filter := ← ms.read "filter" default.filter d.text }

def readHooks (d : Document) (n : Node) : Except Error HooksConfig := do
  let ms ← d.members n
  let default : HooksConfig := {}
  return {
    names := ← ms.read "names" default.names d.texts
    autoBind := ← ms.read "auto_bind" default.autoBind d.boolean }

def readRepl (d : Document) (n : Node) : Except Error ReplConfig := do
  let ms ← d.members n
  let default : ReplConfig := {}
  return {
    historyFile := ← ms.read "history_file" default.historyFile d.optionalText
    prompt := ← ms.read "prompt" default.prompt d.text }

def ofDocument (d : Document) : Except Error Config := do
  let ms ← d.rootMembers
  return {
    logging := ← ms.read "logging" {} (readLogging d)
    hooks := ← ms.read "hooks" {} (readHooks d)
    repl := ← ms.read "repl" {} (readRepl d) }

def ofYaml (text : String) : Except Error Config := do
  ofDocument (← Document.ofText text)

def ofText (text : String) : Except String Config := (ofYaml text).mapError Error.message

end Workflow.Config
