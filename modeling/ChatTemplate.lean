import ChatTemplate.Compilation
import ChatTemplate.Expression.Schema
import ChatTemplate.Message.Schema
import ChatTemplate.Template.Schema
import ChatTemplate.Value.Diagnostic
import ChatTemplate.Proofs.Action
import ChatTemplate.Proofs.Nodes
import ChatTemplate.Proofs.Evaluation
import ChatTemplate.Proofs.Rendering
import ChatTemplate.Proofs.Scope
import ChatTemplate.Proofs.Frame
import ChatTemplate.Proofs.Draft.Step
import ChatTemplate.Proofs.Draft.Ink
import ChatTemplate.Proofs.Compilation
import ChatTemplate.Proofs.Speech
import ChatTemplate.Proofs.Draft.Sound
import ChatTemplate.Proofs.Messages
import ChatTemplate.Proofs.Draft.Policy
import ChatTemplate.Proofs.Lockstep
import ChatTemplate.Proofs.Draft.Outline
import ChatTemplate.Proofs.RootText
import ChatTemplate.Proofs.Draft.Reachable
import ChatTemplate.Proofs.Draft.Isolation
import ChatTemplate.Proofs.Draft.Stretch
import ChatTemplate.Proofs.Draft.Document
import ChatTemplate.Proofs.Draft.Acceptance
import ChatTemplate.Proofs.Flattening
import ChatTemplate.Proofs.Stack
import ChatTemplate.Proofs.Report
import ChatTemplate.Proofs.Location
import ChatTemplate.Proofs.ToolReference
import ChatTemplate.Proofs.Deeds
import ChatTemplate.Proofs.CoupledEvaluation
import ChatTemplate.Proofs.CallOrder
import ChatTemplate.Proofs.CallParts
import ChatTemplate.Proofs.CoupledWalk
import ChatTemplate.Proofs.Alongside
import ChatTemplate.Proofs.Mentions
import ChatTemplate.Proofs.Draft.Allowance
import ChatTemplate.Proofs.Permissive
import ChatTemplate.Proofs.Settled
import ChatTemplate.Proofs.Wire
import ChatTemplate.Proofs.Store
import ChatTemplate.Proofs.NodeForm
import ChatTemplate.Proofs.Trees
import ChatTemplate.Proofs.Composition
import ChatTemplate.Proofs.Cancellation
import ChatTemplate.Proofs.Views
import ChatTemplate.Proofs.OptionalChain
import ChatTemplate.Proofs.CompoundAssignment
import ChatTemplate.Proofs.Recutting
import ChatTemplate.Proofs.Columns
import ChatTemplate.Proofs.Rounds
import ChatTemplate.Proofs.Double.Exact
import ChatTemplate.Proofs.Double.Reading
import ChatTemplate.Proofs.JsonNumber
import ChatTemplate.Proofs.Draft.Containment
import ChatTemplate.Proofs.Draft.Ledger
import ChatTemplate.Proofs.Conversion
import ChatTemplate.Proofs.Double.Denotation
import ChatTemplate.Proofs.NumberText
import ChatTemplate.Proofs.Keys
import ChatTemplate.Proofs.Word
import ChatTemplate.Proofs.Equality
