import Workflow.CommandLine.Invocation
import Workflow.Environment

/-! Arguments: how the words of a command line are read as an invocation. -/

namespace Workflow.CommandLine

inductive Flag
  | config | hook | autoBind | json | force | help | version
  deriving DecidableEq

namespace Flag

def name : Flag → String
  | config => "config"
  | hook => "hook"
  | autoBind => "auto-bind"
  | json => "json"
  | force => "force"
  | help => "help"
  | version => "version"

def letter? : Flag → Option Char
  | config => some 'c'
  | force => some 'f'
  | help => some 'h'
  | version => some 'V'
  | _ => none

def option (f : Flag) : String := "--" ++ f.name

def takesValue (f : Flag) : Bool := f = config || f = hook

def isFinal (f : Flag) : Bool := f = help || f = version

end Flag

inductive Scope
  | program | check | run | repl
  deriving DecidableEq

namespace Scope

def flags : Scope → List Flag
  | program => [.config, .hook, .autoBind, .help, .version]
  | check => [.hook, .autoBind, .json, .help]
  | run => [.hook, .autoBind, .force, .help]
  | repl => [.hook, .autoBind, .help]

def long? (s : Scope) (name : String) : Option Flag := s.flags.find? fun f => f.name == name

def short? (s : Scope) (letter : Char) : Option Flag :=
  s.flags.find? fun f => f.letter? == some letter

def ofName? : String → Option Scope
  | "check" => some check
  | "run" => some run
  | "repl" => some repl
  | _ => none

end Scope

inductive Word
  | escape
  | long (name : String) (value : Option String)
  | short (letters : List Char)
  | text (text : String)
  deriving DecidableEq

namespace Word

def ofText (s : String) : Word :=
  match s.toList with
  | ['-', '-'] => escape
  | '-' :: '-' :: cs =>
    long (String.ofList (cs.takeWhile (· ≠ '=')))
      (match cs.dropWhile (· ≠ '=') with
      | [] => none
      | _ :: value => some (String.ofList value))
  | '-' :: c :: cs => short (c :: cs)
  | _ => text s

def isText (s : String) : Bool := ofText s == text s

end Word

structure Gathered where
  config : Option String := none
  hooks : List String := []
  flags : List Flag := []
  texts : List String := []

namespace Gathered

def given (g : Gathered) (f : Flag) : Bool := g.flags.contains f

def isFinal (g : Gathered) : Bool := g.flags.any Flag.isFinal

def addFlag (g : Gathered) (f : Flag) : Except ArgumentError Gathered :=
  if g.given f then .error (.repeated f.option) else .ok { g with flags := g.flags ++ [f] }

def addValue (g : Gathered) (f : Flag) (value : String) : Except ArgumentError Gathered :=
  match f with
  | .hook => .ok { g with hooks := g.hooks ++ [value] }
  | .config =>
    if value.isEmpty then .error (.emptyValue f.option)
    else if g.config.isSome then .error (.repeated f.option)
    else .ok { g with config := some value }
  | _ => .error (.unwantedValue f.option)

/-- The definition comes first, and only the steps of a run may follow it. -/
def addText (g : Gathered) (scope : Scope) (text : String) : Except ArgumentError Gathered :=
  if scope = .program || (scope ≠ .run && !g.texts.isEmpty) then .error (.unexpected text)
  else .ok { g with texts := g.texts ++ [text] }

/-- Flags by their letters. A letter with a value takes the rest of the word for it, or else is
left over for the next word. -/
def addLetters (g : Gathered) (scope : Scope) :
    List Char → Except ArgumentError (Gathered × Option Flag)
  | [] => .ok (g, none)
  | c :: cs =>
    match scope.short? c with
    | none => .error (.unknownOption (String.ofList ['-', c]))
    | some f =>
      if f.takesValue then
        match cs with
        | [] => .ok (g, some f)
        | '=' :: value => return (← g.addValue f (String.ofList value), none)
        | value => return (← g.addValue f (String.ofList value), none)
      else do
        let g ← g.addFlag f
        if f.isFinal then return (g, none) else addLetters g scope cs

def addLong (g : Gathered) (scope : Scope) (name : String) (value : Option String) :
    Except ArgumentError (Gathered × Option Flag) :=
  match scope.long? name, value with
  | none, _ => .error (.unknownOption ("--" ++ name))
  | some f, none => if f.takesValue then .ok (g, some f) else return (← g.addFlag f, none)
  | some f, some value => return (← g.addValue f value, none)

/-- Reads words up to the subcommand, or to the end after it. A value may not look like an
option. -/
def scan (scope : Scope) (g : Gathered) :
    List String → Except ArgumentError (Gathered × List String)
  | [] => .ok (g, [])
  | word :: words => do
    let (g, wanting) ← match Word.ofText word with
      | .escape => return (← words.foldlM (fun g text => g.addText scope text) g, [])
      | .text text =>
        if scope = .program then return (g, word :: words)
        pure (← g.addText scope text, none)
      | .long name value => g.addLong scope name value
      | .short letters => g.addLetters scope letters
    match wanting, words with
    | some f, value :: words =>
      if Word.isText value then scan scope (← g.addValue f value) words
      else throw (.missingValue f.option)
    | some f, [] => throw (.missingValue f.option)
    | none, words => if g.isFinal then return (g, []) else scan scope g words

def command (g : Gathered) : Scope → Except ArgumentError Command
  | .program => .error .missingCommand
  | scope =>
    match g.texts with
    | [] => .error .missingDefinition
    | definition :: steps =>
      .ok (match scope with
        | .run => .run definition steps (g.given .force)
        | .repl => .repl definition
        | _ => .check definition (g.given .json))

def configPath (g : Gathered) (env : Environment) : Except ArgumentError (Option String) :=
  match g.config, env.get? "STATEWRIGHT_CONFIG" with
  | some path, _ => .ok (some path)
  | none, some path =>
    if path.isEmpty then .error (.emptyValue Flag.config.option) else .ok (some path)
  | none, none => .ok none

end Gathered

namespace Request

def helpOn : List String → Except ArgumentError Request
  | [] => .ok help
  | ["help"] => .ok help
  | [name] => if (Scope.ofName? name).isSome then .ok help else .error (.unknownCommand name)
  | _ :: text :: _ => .error (.unexpected text)

/-- Hooks named after the subcommand take the place of those named before it. -/
def ofWords (env : Environment) (words : List String) : Except ArgumentError Request := do
  let (outer, rest) ← Gathered.scan .program {} words
  if outer.given .help then return help
  if outer.given .version then return version
  match rest with
  | [] => throw .missingCommand
  | name :: words =>
    if name = "help" then helpOn words
    else
      match Scope.ofName? name with
      | none => throw (.unknownCommand name)
      | some scope =>
        let (inner, _) ← Gathered.scan scope {} words
        if inner.given .help then return help
        return invoke {
          config := ← outer.configPath env
          hooks := if inner.hooks.isEmpty then outer.hooks else inner.hooks
          autoBind := outer.given .autoBind || inner.given .autoBind
          command := ← inner.command scope }

end Request

end Workflow.CommandLine
