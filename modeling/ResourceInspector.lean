import ResourceInspector.NaturalOrder.Chunk
import ResourceInspector.Path.Walk
import ResourceInspector.Json.Reader
import ResourceInspector.Command.Registry
import ResourceInspector.Command.Script
import ResourceInspector.Encoding.Resource
import ResourceInspector.Encoding.Context
import ResourceInspector.Main
import ResourceInspector.Proofs.Command.Decision
import ResourceInspector.Proofs.Command.Agreement
import ResourceInspector.Proofs.Command.Cancellation
import ResourceInspector.Proofs.NaturalOrder.Order
import ResourceInspector.Proofs.Identifier.Discovery
import ResourceInspector.Proofs.Path.Canonical
import ResourceInspector.Proofs.Identifier.Sorting
import ResourceInspector.Proofs.Command.Reading
import ResourceInspector.Proofs.NaturalOrder.Cuts
import ResourceInspector.Proofs.Command.Building
import ResourceInspector.Proofs.Command.Retrying
import ResourceInspector.Proofs.Program.Output
import ResourceInspector.Proofs.NaturalOrder.Continuation
import ResourceInspector.Proofs.Path.Stages
import ResourceInspector.Proofs.Command.Sorting
import ResourceInspector.Proofs.Identifier.Rebuilding
import ResourceInspector.Proofs.Encoding.Record
import ResourceInspector.Proofs.Encoding.Context
import ResourceInspector.Proofs.CommandLine.Matching
import ResourceInspector.Proofs.Encoding.Resource
import ResourceInspector.Proofs.CommandLine.Invocation
import ResourceInspector.Proofs.Program.Requests
import ResourceInspector.Proofs.Json.Places
import ResourceInspector.Proofs.Report.Lines
import ResourceInspector.Proofs.Report.Reading
import ResourceInspector.Proofs.Identifier.Operations
import ResourceInspector.Proofs.NaturalOrder.Positions
