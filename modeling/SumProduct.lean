import SumProduct.Matching
import SumProduct.Identifier
import SumProduct.Key
import SumProduct.Distribution.Product
import SumProduct.Tensor.PseudoInverse
import SumProduct.Value.Basic
import SumProduct.Value.Buffer
import SumProduct.Value.Comparison
import SumProduct.Value.Document
import SumProduct.Value.Key
import SumProduct.Value.Writing
import SumProduct.Network.Basic
import SumProduct.Network.Build
import SumProduct.Network.Ownership
import SumProduct.Schedule.Order
import SumProduct.Rules.Bundled
import SumProduct.Program.Written
import SumProduct.Algorithm
import SumProduct.Model
import SumProduct.Report
import SumProduct.CommandLine.Files
import SumProduct.CommandLine.Options
import SumProduct.Main
import SumProduct.Proofs.Partial
import SumProduct.Proofs.Association
import SumProduct.Proofs.Latest
import SumProduct.Proofs.Matching
import SumProduct.Proofs.Applicability
import SumProduct.Proofs.Registration
import SumProduct.Proofs.Selection
import SumProduct.Proofs.Resolution
import SumProduct.Proofs.Emission
import SumProduct.Proofs.Evaluation
import SumProduct.Proofs.Compilation
import SumProduct.Proofs.Shapes
import SumProduct.Proofs.Moments
import SumProduct.Proofs.Operations
import SumProduct.Proofs.Soundness
import SumProduct.Proofs.BundledRules
import SumProduct.Proofs.Runs
import SumProduct.Proofs.Typing
import SumProduct.Proofs.Preservation
import SumProduct.Proofs.Progress
import SumProduct.Proofs.Idempotence
import SumProduct.Proofs.Construction
import SumProduct.Proofs.Topology
import SumProduct.Proofs.Consistency
import SumProduct.Proofs.Layout
import SumProduct.Proofs.Locality
import SumProduct.Proofs.Reordering
import SumProduct.Proofs.Exchange
import SumProduct.Proofs.Dependence
import SumProduct.Proofs.Placeholders
import SumProduct.Proofs.Ownership
import SumProduct.Proofs.Nesting
import SumProduct.Proofs.Preorder
import SumProduct.Proofs.Flattening
import SumProduct.Proofs.Unification
import SumProduct.Proofs.Guarantees
import SumProduct.Proofs.RegistrationOrder
import SumProduct.Proofs.Marginals
import SumProduct.Proofs.FirstFailure
import SumProduct.Proofs.Pins
import SumProduct.Proofs.Scheduling
import SumProduct.Proofs.BundledSelection
import SumProduct.Proofs.MarginalFrame
import SumProduct.Proofs.Descriptors
import SumProduct.Proofs.Numbering
import SumProduct.Proofs.Indexing
import SumProduct.Proofs.Refusals
import SumProduct.Proofs.ProductOrder
import SumProduct.Proofs.NaturalParameters
import SumProduct.Proofs.References
import SumProduct.Proofs.Quotation
import SumProduct.Proofs.Rendering
import SumProduct.Proofs.Procedures
