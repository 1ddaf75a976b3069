import Workflow.Activity
import Workflow.Checksum
import Workflow.CommandLine.Arguments
import Workflow.CommandLine.Binding
import Workflow.CommandLine.History
import Workflow.CommandLine.Invocation
import Workflow.CommandLine.Output
import Workflow.CommandLine.Program
import Workflow.CommandLine.Repl
import Workflow.CommandLine.Setting
import Workflow.CommandLine.Step
import Workflow.Condition
import Workflow.Condition.Call
import Workflow.Condition.Map
import Workflow.Condition.Registry
import Workflow.Config
import Workflow.Config.Loading
import Workflow.Config.Reader
import Workflow.Definition
import Workflow.Definition.Error
import Workflow.Definition.Parser
import Workflow.Description
import Workflow.Directory
import Workflow.Environment
import Workflow.Hook
import Workflow.Interpreter
import Workflow.Json
import Workflow.Machine
import Workflow.Machine.Builder
import Workflow.Machine.Operation
import Workflow.Machine.View
import Workflow.Main
import Workflow.Proofs.Activity
import Workflow.Proofs.Bindings
import Workflow.Proofs.Bindings.Resolution
import Workflow.Proofs.Checksum
import Workflow.Proofs.CommandLine.Binding
import Workflow.Proofs.CommandLine.Dispatch
import Workflow.Proofs.CommandLine.Listing
import Workflow.Proofs.CommandLine.Malformed
import Workflow.Proofs.CommandLine.Names
import Workflow.Proofs.CommandLine.Reporting
import Workflow.Proofs.CommandLine.Script
import Workflow.Proofs.CommandLine.Session
import Workflow.Proofs.Condition.Comparison
import Workflow.Proofs.Condition.Footprint
import Workflow.Proofs.Condition.History
import Workflow.Proofs.Condition.Interning
import Workflow.Proofs.Condition.Map
import Workflow.Proofs.Config
import Workflow.Proofs.Config.Reading
import Workflow.Proofs.Definition.Arrangement
import Workflow.Proofs.Definition.Concatenation
import Workflow.Proofs.Definition.Grammar
import Workflow.Proofs.Definition.Image
import Workflow.Proofs.Definition.Names
import Workflow.Proofs.Definition.Outcome
import Workflow.Proofs.Definition.Pieces
import Workflow.Proofs.Definition.Reading
import Workflow.Proofs.Definition.Rejection
import Workflow.Proofs.Definition.Separation
import Workflow.Proofs.Description
import Workflow.Proofs.Hooks
import Workflow.Proofs.Json
import Workflow.Proofs.Machine.Acceptance
import Workflow.Proofs.Machine.Arrangement
import Workflow.Proofs.Machine.Checksum
import Workflow.Proofs.Machine.Construction
import Workflow.Proofs.Machine.Failure
import Workflow.Proofs.Machine.Footprint
import Workflow.Proofs.Machine.Invariant
import Workflow.Proofs.Machine.Log
import Workflow.Proofs.Machine.Lookahead
import Workflow.Proofs.Machine.Moves
import Workflow.Proofs.Machine.Refinement
import Workflow.Proofs.Machine.Rejection
import Workflow.Proofs.Machine.View
import Workflow.Proofs.StateGraph.Additions
import Workflow.Proofs.StateGraph.Compilation
import Workflow.Proofs.StateGraph.Outline
import Workflow.Proofs.StateGraph.Positions
import Workflow.Proofs.StateGraph.Rejection
import Workflow.Proofs.StateGraph.Transitions
import Workflow.Proofs.StateGraph.View
import Workflow.Proofs.Text.Encoding
import Workflow.Proofs.Text.Rows
import Workflow.Proofs.Text.Words
import Workflow.Proofs.Trail
import Workflow.Proofs.World
import Workflow.Proofs.Yaml.Document
import Workflow.Proofs.Yaml.Members
import Workflow.StateGraph
import Workflow.Text.Alphanumeric
import Workflow.Text.Blank
import Workflow.Text.Cased
import Workflow.Text.Combining
import Workflow.Text.Hash
import Workflow.Text.Lines
import Workflow.Text.LowerCase
import Workflow.Text.Printable
import Workflow.Text.Quoted
import Workflow.Text.Ranges
import Workflow.Text.Style
import Workflow.Trail
import Workflow.Trail.Directive
import Workflow.Trail.Filter
import Workflow.TransitionTable
import Workflow.World
import Workflow.Yaml.Cursor
import Workflow.Yaml.Document
import Workflow.Yaml.Error
import Workflow.Yaml.Node
import Workflow.Yaml.Scalar
import Workflow.Yaml.Token
