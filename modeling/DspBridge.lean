import DspBridge.CommandLine.Arguments
import DspBridge.CommandLine.Run
import DspBridge.Compiler.Backend
import DspBridge.Compiler.Basic
import DspBridge.Compiler.Command
import DspBridge.Compiler.Program
import DspBridge.Compiler.Scratch
import DspBridge.Compiler.Scripted
import DspBridge.Descriptor.Basic
import DspBridge.Descriptor.Declaration
import DspBridge.Descriptor.Draft
import DspBridge.Descriptor.Reader
import DspBridge.Files.Folder
import DspBridge.Files.Path
import DspBridge.Files.Workspace
import DspBridge.Host.Channel
import DspBridge.Host.Message
import DspBridge.Host.Session
import DspBridge.Json.Document
import DspBridge.Json.Error
import DspBridge.Json.Printer
import DspBridge.Json.Reader
import DspBridge.Json.Scan
import DspBridge.Json.Skip
import DspBridge.Json.Value
import DspBridge.Log.Console
import DspBridge.Log.Event
import DspBridge.Log.Filter
import DspBridge.Log.Traced
import DspBridge.Main
import DspBridge.Number.Double
import DspBridge.Number.Layout
import DspBridge.Number.Numeral
import DspBridge.Number.Scaled
import DspBridge.Number.Shortest
import DspBridge.Settings.Basic
import DspBridge.Settings.Reader
import DspBridge.Shell.Command
import DspBridge.Shell.Environment
import DspBridge.Shell.Interpreter
import DspBridge.Shell.Machine
import DspBridge.Shell.Pattern
import DspBridge.Shell.Token
import DspBridge.Shell.Utility
import DspBridge.Text.Blank
import DspBridge.Text.Printable
import DspBridge.Text.Quoted
import DspBridge.Text.Utf8
import DspBridge.Transform
import DspBridge.Yaml.Cursor
import DspBridge.Yaml.Document
import DspBridge.Yaml.Grammar
import DspBridge.Yaml.Indentation
import DspBridge.Yaml.Node
import DspBridge.Yaml.Scalar
import DspBridge.Yaml.Tag
import DspBridge.Yaml.Token
import DspBridge.Yaml.Value
import DspBridge.Proofs.Json.Texts
import DspBridge.Proofs.Text.Utf8
import DspBridge.Proofs.Host.Lines
import DspBridge.Proofs.Log.Actions
import DspBridge.Proofs.Host.Wire
import DspBridge.Proofs.Host.Serving
import DspBridge.Proofs.Host.Refinement
import DspBridge.Proofs.Compiler.Discipline
import DspBridge.Proofs.Compiler.Leftovers
import DspBridge.Proofs.Files.Folder
import DspBridge.Proofs.Files.Clearing
import DspBridge.Proofs.Compiler.Clearing
import DspBridge.Proofs.Compiler.Freshness
import DspBridge.Proofs.Host.Delivery
import DspBridge.Proofs.Host.Limits
import DspBridge.Proofs.Host.Invisible
import DspBridge.Proofs.Compiler.Diagnostics
import DspBridge.Proofs.Files.Inside
import DspBridge.Proofs.Compiler.Containment
import DspBridge.Proofs.Text.Words
import DspBridge.Proofs.Compiler.Arguments
import DspBridge.Proofs.Transformer.Answers
import DspBridge.Proofs.Transformer.Descriptors
import DspBridge.Proofs.CommandLine.Agreement
import DspBridge.Proofs.Json.Grammar
import DspBridge.Proofs.Json.Readers
import DspBridge.Proofs.Descriptor.Checking
import DspBridge.Proofs.Json.Numbers
import DspBridge.Proofs.Json.Strings
import DspBridge.Proofs.Json.Readings
import DspBridge.Proofs.Json.Rows
import DspBridge.Proofs.Json.Values
import DspBridge.Proofs.Json.Skipping
import DspBridge.Proofs.Json.Records
import DspBridge.Proofs.Descriptor.Decoding
import DspBridge.Proofs.Host.Envelopes
import DspBridge.Proofs.Host.RoundTrip
import DspBridge.Proofs.Host.Contents
import DspBridge.Proofs.Host.Protocol
import DspBridge.Proofs.Descriptor.Layout
import DspBridge.Proofs.Descriptor.Quantities
import DspBridge.Proofs.CommandLine.Printing
import DspBridge.Proofs.Descriptor.Recovery
import DspBridge.Proofs.Host.Interruption
import DspBridge.Proofs.Compiler.Renewal
import DspBridge.Proofs.Number.Decimal
import DspBridge.Proofs.Number.Rounding
import DspBridge.Proofs.Number.Conversion
import DspBridge.Proofs.Number.Shortest
import DspBridge.Proofs.Number.Writing
import DspBridge.Proofs.Descriptor.Acceptance
import DspBridge.Proofs.Transformer.Reports
import DspBridge.Proofs.Json.Literals
import DspBridge.Proofs.Number.Scaling
import DspBridge.Proofs.Descriptor.Quoting
import DspBridge.Proofs.Compiler.Launches
import DspBridge.Proofs.CommandLine.Precedence
import DspBridge.Proofs.Descriptor.Revisions
import DspBridge.Proofs.Descriptor.Likeness
import DspBridge.Proofs.Json.Sorting
import DspBridge.Proofs.Json.Unambiguous
import DspBridge.Proofs.Descriptor.Respelling
