import ClassEnhancement.Build.Config
import ClassEnhancement.Build.ConfigFile
import ClassEnhancement.Build.Context
import ClassEnhancement.Build.FileLayer
import ClassEnhancement.Build.Layout
import ClassEnhancement.Build.Message
import ClassEnhancement.Build.Model
import ClassEnhancement.Build.Project
import ClassEnhancement.Build.Sample
import ClassEnhancement.ClassFile.CompiledSet
import ClassEnhancement.ClassFile.Constant
import ClassEnhancement.ClassFile.Encoding
import ClassEnhancement.ClassFile.Header
import ClassEnhancement.ClassFile.Input
import ClassEnhancement.ClassFile.Name
import ClassEnhancement.CommandLine.Help
import ClassEnhancement.CommandLine.Request
import ClassEnhancement.CommandLine.Run
import ClassEnhancement.Decimal.Binary64
import ClassEnhancement.Enhance.Batch
import ClassEnhancement.Enhance.Command
import ClassEnhancement.Enhance.Config
import ClassEnhancement.Enhance.Delivery
import ClassEnhancement.Enhance.Error
import ClassEnhancement.Enhance.Listener
import ClassEnhancement.Enhance.Marking
import ClassEnhancement.Enhance.Resolver
import ClassEnhancement.Enhance.Script
import ClassEnhancement.Enhance.Transformer
import ClassEnhancement.Events.Bus
import ClassEnhancement.Events.Hub
import ClassEnhancement.Events.Scenario
import ClassEnhancement.FilePath
import ClassEnhancement.FileTree.Basic
import ClassEnhancement.FileTree.Error
import ClassEnhancement.FileTree.Operations
import ClassEnhancement.FileTree.Walk
import ClassEnhancement.Json.Render
import ClassEnhancement.Json.Syntax
import ClassEnhancement.Json.Token
import ClassEnhancement.Json.Value
import ClassEnhancement.Main
import ClassEnhancement.Manifest.Attributes
import ClassEnhancement.Manifest.Discovery
import ClassEnhancement.Manifest.Location
import ClassEnhancement.Manifest.PackageSet
import ClassEnhancement.OrderedMap
import ClassEnhancement.Program.Basic
import ClassEnhancement.Proofs.Batch.Freshness
import ClassEnhancement.Proofs.Batch.Moment
import ClassEnhancement.Proofs.Batch.Report
import ClassEnhancement.Proofs.Batch.Rewriting
import ClassEnhancement.Proofs.FileTree.Overwrite
import ClassEnhancement.Proofs.FileTree.Shape
import ClassEnhancement.Proofs.Resolver.Itinerary
import ClassEnhancement.Service.Compilation
import ClassEnhancement.Service.Error
import ClassEnhancement.Service.Workspace
import ClassEnhancement.Settings.State
import ClassEnhancement.Settings.Store
import ClassEnhancement.Shell.Arithmetic
import ClassEnhancement.Shell.Expansion
import ClassEnhancement.Shell.Filename
import ClassEnhancement.Shell.Format
import ClassEnhancement.Shell.Nesting
import ClassEnhancement.Shell.Octets
import ClassEnhancement.Shell.Parse
import ClassEnhancement.Shell.Pattern
import ClassEnhancement.Shell.Programs
import ClassEnhancement.Shell.Run
import ClassEnhancement.Shell.State
import ClassEnhancement.Shell.Syntax
import ClassEnhancement.Shell.Token
import ClassEnhancement.Shell.Utility
import ClassEnhancement.Source.Index
import ClassEnhancement.Source.Scan
import ClassEnhancement.Text.Alphanumeric
import ClassEnhancement.Text.Blank
import ClassEnhancement.Text.CodeRange
import ClassEnhancement.Text.Lines
import ClassEnhancement.Text.Printable
import ClassEnhancement.Text.Quoted
import ClassEnhancement.Text.Split
import ClassEnhancement.Text.Utf8
import ClassEnhancement.Toml.Document
import ClassEnhancement.Toml.Record
import ClassEnhancement.Toml.Scalar
import ClassEnhancement.Toml.Syntax
import ClassEnhancement.Toml.Table
import ClassEnhancement.Proofs.Hub.Registrations
import ClassEnhancement.Proofs.Manifest.WireForm
import ClassEnhancement.Proofs.Json.Lexing
import ClassEnhancement.Proofs.Json.Reading
import ClassEnhancement.Proofs.Json.RoundTrip
import ClassEnhancement.Proofs.Text.Decoding
import ClassEnhancement.Proofs.FileTree.Course
import ClassEnhancement.Proofs.FileTree.Writing
import ClassEnhancement.Proofs.Json.Exact
import ClassEnhancement.Proofs.Service.Closing
import ClassEnhancement.Proofs.Source.Lookup
import ClassEnhancement.Proofs.Text.Pieces
import ClassEnhancement.Proofs.Batch.Verdict
import ClassEnhancement.Proofs.Batch.Repetition
import ClassEnhancement.Proofs.Batch.Isolation
import ClassEnhancement.Proofs.FileTree.Below
import ClassEnhancement.Proofs.FileTree.Descent
import ClassEnhancement.Proofs.Source.Spelling
import ClassEnhancement.Proofs.Source.Scanning
import ClassEnhancement.Proofs.Resolver.Agreement
import ClassEnhancement.Proofs.ClassFile.Format
import ClassEnhancement.Proofs.OrderedMap.Insertion
import ClassEnhancement.Proofs.Manifest.Folding
import ClassEnhancement.Proofs.Manifest.Contributions
import ClassEnhancement.Proofs.Batch.Remarks
import ClassEnhancement.Proofs.Batch.Transcript
import ClassEnhancement.Proofs.Resolver.Transparency
import ClassEnhancement.Proofs.Hub.Delivery
import ClassEnhancement.Proofs.Service.Events
import ClassEnhancement.Proofs.CommandLine.Session
import ClassEnhancement.Proofs.Build.Ownership
import ClassEnhancement.Proofs.Hub.Leaving
import ClassEnhancement.Proofs.Settings.Numbers
import ClassEnhancement.Proofs.Service.Drift
import ClassEnhancement.Proofs.Text.CodeUnits
import ClassEnhancement.Proofs.ClassFile.Literals
import ClassEnhancement.Proofs.ClassFile.Naming
import ClassEnhancement.Proofs.FileTree.Bearing
import ClassEnhancement.Proofs.Resolver.Containment
import ClassEnhancement.Proofs.ClassFile.Truncation
import ClassEnhancement.Proofs.Manifest.Refusal
import ClassEnhancement.Proofs.Manifest.Membership
import ClassEnhancement.Proofs.Build.Innermost
import ClassEnhancement.Proofs.ClassFile.Faithfulness
import ClassEnhancement.Proofs.Manifest.Grouping
import ClassEnhancement.Proofs.Settings.Sparing
import ClassEnhancement.Proofs.ClassFile.Gathering
import ClassEnhancement.Proofs.Hub.Handles
import ClassEnhancement.Proofs.FileTree.Listing
import ClassEnhancement.Proofs.Source.Declaring
import ClassEnhancement.Proofs.Source.Order
import ClassEnhancement.Proofs.Text.Lines
import ClassEnhancement.Proofs.Batch.Output
import ClassEnhancement.Proofs.Stream.Draining
