import Workflow.CommandLine.Step
import Workflow.Trail.Filter

/-! What the program writes, and how the trail of a machine shows in it. -/

namespace Workflow.CommandLine

inductive Channel
  | out | err
  deriving DecidableEq

/-- Pieces of text in the order written. -/
abbrev Output := List (Channel × String)

namespace Output

def on (channel : Channel) (o : Output) : String :=
  String.join ((o.filter fun piece => piece.1 = channel).map Prod.snd)

def outLine (text : String) : Output := [(.out, text ++ "\n")]

def errLine (text : String) : Output := [(.err, text ++ "\n")]

end Output

structure Outcome where
  exitCode : Nat
  output : Output
  deriving DecidableEq

namespace Outcome

def after (o : Outcome) (earlier : Output) : Outcome := ⟨o.exitCode, earlier ++ o.output⟩

def abortCode : Nat := 101

end Outcome

structure Reporter where
  palette : Text.Palette
  allows : Record → Bool

namespace Reporter

def paint (r : Reporter) (style : Text.Style) (text : String) : String :=
  r.palette.paint style text

def record (r : Reporter) (x : Record) : Output :=
  if r.allows x then Output.errLine x.line else []

/-- The line of a hook is its name, and the hook logs it before it prints it. -/
def entry (r : Reporter) : Entry → Output
  | .event e => r.record e.record
  | .line name =>
    r.record ⟨.info, .commands, "hook " ++ name ++ " invoked"⟩ ++
      Output.errLine ("  " ++ r.paint .dimmed "hook" ++ " " ++ r.paint .magenta name)

def trail (r : Reporter) (t : Trail) : Output := t.flatMap r.entry

def step (r : Reporter) (s : Step String) : Output :=
  r.trail s.trail ++ s.outcome.toOption.elim [] Output.outLine

def complaint (r : Reporter) (title message : String) : String :=
  r.paint .red title ++ ": " ++ message

end Reporter

end Workflow.CommandLine
