import ServiceFlow.Main
import ServiceFlow.Proofs.Export.Order
import ServiceFlow.Proofs.Export.References
import ServiceFlow.Proofs.Export.Renaming
import ServiceFlow.Proofs.Load.Items
import ServiceFlow.Proofs.Workflow.Reload
import ServiceFlow.Proofs.Session
import ServiceFlow.Proofs.Schema.Passing
import ServiceFlow.Proofs.Canvas.Relevance
import ServiceFlow.Proofs.Export.Relevance
import ServiceFlow.Proofs.Json.Values
import ServiceFlow.Proofs.Workflow.Acceptance
import ServiceFlow.Proofs.FileTree.Write
import ServiceFlow.Proofs.Json.Plain
import ServiceFlow.Proofs.Export.File
import ServiceFlow.Proofs.Load.Text
import ServiceFlow.Proofs.Compile.Shape
import ServiceFlow.Proofs.Workflow.Verdict
import ServiceFlow.Proofs.Json.Limit
import ServiceFlow.Proofs.Load.Payload
import ServiceFlow.Proofs.Schema.Depth
import ServiceFlow.Proofs.Load.Notation
import ServiceFlow.Proofs.Compile.EvenVote
import ServiceFlow.Proofs.Compile.SubSteps
import ServiceFlow.Proofs.Compile.Locality
import ServiceFlow.Proofs.Compile.Findings
import ServiceFlow.Proofs.Compile.Reserved
import ServiceFlow.Proofs.Export.Notes
import ServiceFlow.Proofs.Catalog.Override
import ServiceFlow.Proofs.Load.Overrides
import ServiceFlow.Proofs.Load.Stacking
import ServiceFlow.Proofs.Workflow.Edits
import ServiceFlow.Proofs.Export.Fresh
import ServiceFlow.Proofs.Canvas.Form
import ServiceFlow.Proofs.Export.Classified
