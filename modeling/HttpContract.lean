import HttpContract.Adapter
import HttpContract.Assoc
import HttpContract.Binding
import HttpContract.CommandLine.Arguments
import HttpContract.CommandLine.Report
import HttpContract.CommandLine.Target
import HttpContract.Description
import HttpContract.Exchange
import HttpContract.Execution
import HttpContract.Failure
import HttpContract.Headers
import HttpContract.Hint.Basic
import HttpContract.Hint.Class
import HttpContract.Hint.Scope
import HttpContract.Hint.Shape
import HttpContract.Hint.Text
import HttpContract.Invocation
import HttpContract.Iteration
import HttpContract.Json
import HttpContract.Limit
import HttpContract.Log
import HttpContract.Loop
import HttpContract.Main
import HttpContract.MediaType.Basic
import HttpContract.MediaType.Reader
import HttpContract.Method.Basic
import HttpContract.Number.Binary64
import HttpContract.Number.Digits
import HttpContract.Number.Text
import HttpContract.Operation
import HttpContract.Parameter
import HttpContract.Plan
import HttpContract.Proofs.CommandLine.Conclusion
import HttpContract.Proofs.CommandLine.Document
import HttpContract.Proofs.Description.Agreement
import HttpContract.Proofs.Description.Defaults
import HttpContract.Proofs.Headers.Items
import HttpContract.Proofs.Headers.Writing
import HttpContract.Proofs.Hint.Argument
import HttpContract.Proofs.Invocation.Arguments
import HttpContract.Proofs.Invocation.Binding
import HttpContract.Proofs.Invocation.Protocol
import HttpContract.Proofs.Iteration.Closing
import HttpContract.Proofs.Iteration.Consumption
import HttpContract.Proofs.MediaType.Control
import HttpContract.Proofs.MediaType.Grammar
import HttpContract.Proofs.MediaType.Listing
import HttpContract.Proofs.MediaType.Reading
import HttpContract.Proofs.MediaType.RoundTrip
import HttpContract.Proofs.Plan.Annotations
import HttpContract.Proofs.Plan.Blocking
import HttpContract.Proofs.Plan.Choice
import HttpContract.Proofs.Plan.Container
import HttpContract.Proofs.Plan.EntityDelivery
import HttpContract.Proofs.Plan.EntityStream
import HttpContract.Proofs.Plan.Lifting
import HttpContract.Proofs.Plan.ShapeSafety
import HttpContract.Proofs.Plan.Spelling
import HttpContract.Proofs.Registry.Replacement
import HttpContract.Proofs.Request.Body
import HttpContract.Proofs.Request.Fields
import HttpContract.Proofs.Request.Groups
import HttpContract.Proofs.Request.History
import HttpContract.Proofs.Request.Reads
import HttpContract.Proofs.Request.Refusal
import HttpContract.Proofs.Service.Creation
import HttpContract.Proofs.Service.Escape
import HttpContract.Proofs.Service.Inheritance
import HttpContract.Proofs.Service.Lineage
import HttpContract.Proofs.Service.Naming
import HttpContract.Proofs.Service.Routing
import HttpContract.Proofs.Template.Address
import HttpContract.Proofs.Template.Declared
import HttpContract.Proofs.Template.Override
import HttpContract.Proofs.Template.Sendable
import HttpContract.Proofs.Template.VerbSpelling
import HttpContract.Publisher
import HttpContract.Raised
import HttpContract.Registry
import HttpContract.Rehearsal.Catalogue
import HttpContract.Rehearsal.Resolvers
import HttpContract.Rehearsal.Script
import HttpContract.Rehearsal.ScriptedTransport
import HttpContract.Rehearsal.Session
import HttpContract.Rehearsal.Shown
import HttpContract.Rehearsal.Workload
import HttpContract.Request
import HttpContract.Sample
import HttpContract.Service.Attributes
import HttpContract.Service.Client
import HttpContract.Service.Compilation
import HttpContract.Service.Dispatcher
import HttpContract.Service.Function
import HttpContract.Service.Interface
import HttpContract.Service.Lineage
import HttpContract.Service.Thing
import HttpContract.Status
import HttpContract.Template
import HttpContract.Text.Ascii
import HttpContract.Text.Blank
import HttpContract.Text.Case
import HttpContract.Text.CaseTable
import HttpContract.Text.ControlSequence
import HttpContract.Text.Cut
import HttpContract.Text.DecimalDigit
import HttpContract.Text.Docstring
import HttpContract.Text.Pattern
import HttpContract.Text.Printable
import HttpContract.Text.Quoted
import HttpContract.Text.Ranges
import HttpContract.Text.Split
import HttpContract.Transport
import HttpContract.Value
import HttpContract.Value.Likeness
import HttpContract.Verb
