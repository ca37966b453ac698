import Automation.Calendar
import Automation.Condition
import Automation.Dispatch.Decoding
import Automation.Dispatch.Loop
import Automation.Dispatch.Routing
import Automation.Document
import Automation.Document.Reading
import Automation.Document.Writing
import Automation.Entry
import Automation.Entry.Sharing
import Automation.Exchange
import Automation.Failure
import Automation.Graph.Basic
import Automation.Graph.Edit
import Automation.Graph.Equivalence
import Automation.Graph.Fields
import Automation.Graph.Sharing
import Automation.Graph.Structure
import Automation.Graph.Walk
import Automation.Json.Reader
import Automation.Json.Writer
import Automation.Limits
import Automation.Metadata
import Automation.Notice
import Automation.Number.Binary64
import Automation.Number.Literal
import Automation.Number.Shortest
import Automation.Place
import Automation.Program.Basic
import Automation.Program.Entries
import Automation.Program.Lowering
import Automation.Program.Reading
import Automation.Proofs.Condition
import Automation.Proofs.Condition.Form
import Automation.Proofs.Condition.Lists
import Automation.Proofs.Dispatch.Accepting
import Automation.Proofs.Dispatch.Closure
import Automation.Proofs.Dispatch.Decoding
import Automation.Proofs.Dispatch.Effects
import Automation.Proofs.Dispatch.Emulation
import Automation.Proofs.Dispatch.Joins
import Automation.Proofs.Dispatch.LoopGraph
import Automation.Proofs.Dispatch.Pass
import Automation.Proofs.Dispatch.Refusing
import Automation.Proofs.Dispatch.RoundTrip
import Automation.Proofs.Dispatch.Routing
import Automation.Proofs.Dispatch.Writing
import Automation.Proofs.Document.Answers
import Automation.Proofs.Document.Assembly
import Automation.Proofs.Document.Bounds
import Automation.Proofs.Document.Classification
import Automation.Proofs.Document.Editing
import Automation.Proofs.Document.Fresh
import Automation.Proofs.Document.Header
import Automation.Proofs.Document.Reading
import Automation.Proofs.Document.Regeneration
import Automation.Proofs.Document.Regular
import Automation.Proofs.Document.Renaming
import Automation.Proofs.Document.Reordering
import Automation.Proofs.Document.Rereading
import Automation.Proofs.Document.Return
import Automation.Proofs.Document.Running
import Automation.Proofs.Document.Sections
import Automation.Proofs.Document.Sheet
import Automation.Proofs.Document.Skipping
import Automation.Proofs.Document.Stability
import Automation.Proofs.Document.Storing
import Automation.Proofs.Document.Text
import Automation.Proofs.Document.Tolerance
import Automation.Proofs.Entry
import Automation.Proofs.Entry.Modern
import Automation.Proofs.Entry.OldNames
import Automation.Proofs.Entry.Once
import Automation.Proofs.Entry.Outdated
import Automation.Proofs.Graph.Apart
import Automation.Proofs.Graph.Counterpart
import Automation.Proofs.Graph.Descent
import Automation.Proofs.Graph.Fields
import Automation.Proofs.Graph.Invariants
import Automation.Proofs.Graph.Isomorphism
import Automation.Proofs.Graph.Renaming
import Automation.Proofs.Graph.Restorable
import Automation.Proofs.Graph.Rounds
import Automation.Proofs.Graph.Structure
import Automation.Proofs.Graph.Walk
import Automation.Proofs.Limits
import Automation.Proofs.Outcome
import Automation.Proofs.Program.Answers
import Automation.Proofs.Program.Bounds
import Automation.Proofs.Program.Classification
import Automation.Proofs.Program.Counterpart
import Automation.Proofs.Program.Creation
import Automation.Proofs.Program.Derivation
import Automation.Proofs.Program.Emission
import Automation.Proofs.Program.Entrances
import Automation.Proofs.Program.Entries
import Automation.Proofs.Program.Fitting
import Automation.Proofs.Program.Formation
import Automation.Proofs.Program.Lowering
import Automation.Proofs.Program.Native
import Automation.Proofs.Program.Nesting
import Automation.Proofs.Program.Notices
import Automation.Proofs.Program.Numbering
import Automation.Proofs.Program.Order
import Automation.Proofs.Program.Parsed
import Automation.Proofs.Program.Positions
import Automation.Proofs.Program.Reads
import Automation.Proofs.Program.Regular
import Automation.Proofs.Program.Remade
import Automation.Proofs.Program.Rereading
import Automation.Proofs.Program.Restoring
import Automation.Proofs.Program.RoundTrip
import Automation.Proofs.Program.Running
import Automation.Proofs.Program.Settled
import Automation.Proofs.Program.Shape
import Automation.Proofs.Program.Silence
import Automation.Proofs.Program.Skipping
import Automation.Proofs.Program.Standing
import Automation.Proofs.Program.Text
import Automation.Proofs.Program.Wiring
import Automation.Proofs.Program.Writing
import Automation.Proofs.Record.Editor
import Automation.Proofs.Record.Fields
import Automation.Proofs.Record.Reading
import Automation.Proofs.Record.Text
import Automation.Proofs.Simulation.Agree
import Automation.Proofs.Simulation.Alike
import Automation.Proofs.Simulation.Nested
import Automation.Proofs.Simulation.Run
import Automation.Proofs.Template.Comparison
import Automation.Proofs.Template.Names
import Automation.Proofs.Text.Plain
import Automation.Proofs.Topology.Acyclic
import Automation.Proofs.Topology.Blocks
import Automation.Proofs.Topology.Counterpart
import Automation.Proofs.Topology.Cycles
import Automation.Proofs.Topology.Delimited
import Automation.Proofs.Topology.Finishing
import Automation.Proofs.Topology.Joins
import Automation.Proofs.Topology.Levels
import Automation.Proofs.Topology.Listing
import Automation.Proofs.Topology.Nearest
import Automation.Proofs.Topology.Passing
import Automation.Proofs.Topology.Reaching
import Automation.Proofs.Topology.Redrawing
import Automation.Proofs.Topology.Regions
import Automation.Proofs.Topology.Release
import Automation.Proofs.Topology.Retread
import Automation.Proofs.Topology.Ways
import Automation.Proofs.Value.Copies
import Automation.Proofs.Value.Entries
import Automation.Proofs.Value.Height
import Automation.Proofs.Value.Origins
import Automation.Proofs.Value.Same
import Automation.Proofs.Value.Stripped
import Automation.Proofs.Value.Text
import Automation.Record.Automation
import Automation.Record.Graph
import Automation.Record.Reading
import Automation.Simulation.Context
import Automation.Simulation.GraphRun
import Automation.Simulation.Guard
import Automation.Simulation.LoopRun
import Automation.Template.Evaluation
import Automation.Template.Syntax
import Automation.Template.Token
import Automation.Text.Base64
import Automation.Text.Blank
import Automation.Text.CharName
import Automation.Text.Code
import Automation.Text.Front
import Automation.Text.Identifier
import Automation.Text.Line
import Automation.Text.Normal
import Automation.Text.Printable
import Automation.Text.Range
import Automation.Topology.Cycle
import Automation.Topology.Join
import Automation.Topology.Report
import Automation.Value.Access
import Automation.Value.Basic
import Automation.Value.Edit
import Automation.Value.Order
import Automation.Value.Show
import Automation.Workbench
import Automation.Yaml.Cursor
import Automation.Yaml.Load
import Automation.Yaml.Node
import Automation.Yaml.Part
import Automation.Yaml.Pen
import Automation.Yaml.Printer
import Automation.Yaml.ScalarKind
import Automation.Yaml.ScalarValue
import Automation.Yaml.Token
import Automation.Yaml.Token.Scalar
import Automation.Yaml.Token.Scan
import Automation.Yaml.Token.Tag
import Automation.Yaml.Tree
