import BuildMatrix.Cli.Arguments
import BuildMatrix.Cli.Run
import BuildMatrix.Command
import BuildMatrix.Console
import BuildMatrix.Description.Fields
import BuildMatrix.Description.Jobs
import BuildMatrix.Description.Parts
import BuildMatrix.Description.Scope
import BuildMatrix.Description.Source
import BuildMatrix.Failure
import BuildMatrix.Job.Basic
import BuildMatrix.Job.Builder
import BuildMatrix.Job.Kind
import BuildMatrix.Job.Parameters
import BuildMatrix.Job.Steps
import BuildMatrix.Json.Reader
import BuildMatrix.Json.Writer
import BuildMatrix.Main
import BuildMatrix.Mapping
import BuildMatrix.Matrix.Basic
import BuildMatrix.Matrix.Default
import BuildMatrix.MatrixFile.Load
import BuildMatrix.MatrixFile.Source
import BuildMatrix.Pipeline.Assemble
import BuildMatrix.Pipeline.Basic
import BuildMatrix.Pipeline.Descriptor
import BuildMatrix.Pipeline.Downstream
import BuildMatrix.Pipeline.Levels
import BuildMatrix.Pipeline.Resolve
import BuildMatrix.Platform
import BuildMatrix.Proofs.Building.Acceptance
import BuildMatrix.Proofs.Building.Commands
import BuildMatrix.Proofs.Building.Covered
import BuildMatrix.Proofs.Building.Defined
import BuildMatrix.Proofs.Building.Faults
import BuildMatrix.Proofs.Building.Kept
import BuildMatrix.Proofs.Building.LineEndings
import BuildMatrix.Proofs.Building.References
import BuildMatrix.Proofs.Building.Verbatim
import BuildMatrix.Proofs.Classes
import BuildMatrix.Proofs.Cli.Agreement
import BuildMatrix.Proofs.Composition.ClosedForm
import BuildMatrix.Proofs.Composition.Commuting
import BuildMatrix.Proofs.Composition.Conflicts
import BuildMatrix.Proofs.FirstSeen
import BuildMatrix.Proofs.Generation.Arrangement
import BuildMatrix.Proofs.Generation.Cells
import BuildMatrix.Proofs.Generation.Independence
import BuildMatrix.Proofs.Generation.Insertion
import BuildMatrix.Proofs.Generation.Machines
import BuildMatrix.Proofs.Generation.Origins
import BuildMatrix.Proofs.Generation.Outcome
import BuildMatrix.Proofs.Generation.Refusals
import BuildMatrix.Proofs.Generation.Sources
import BuildMatrix.Proofs.Generation.Stages
import BuildMatrix.Proofs.Generation.Steps
import BuildMatrix.Proofs.Generation.Suffixes
import BuildMatrix.Proofs.Graph.Chains
import BuildMatrix.Proofs.Graph.Levels
import BuildMatrix.Proofs.Graph.Peeling
import BuildMatrix.Proofs.Graph.Reachability
import BuildMatrix.Proofs.Json.Canonical
import BuildMatrix.Proofs.Json.Descriptor
import BuildMatrix.Proofs.Json.Encodable
import BuildMatrix.Proofs.Json.Faithful
import BuildMatrix.Proofs.Json.Grammar
import BuildMatrix.Proofs.Json.Insertion
import BuildMatrix.Proofs.Json.Keys
import BuildMatrix.Proofs.Json.Layouts
import BuildMatrix.Proofs.Json.Reading
import BuildMatrix.Proofs.Json.Writing
import BuildMatrix.Proofs.Mapping
import BuildMatrix.Proofs.Outcomes
import BuildMatrix.Proofs.Registry
import BuildMatrix.Proofs.Resolution.Blame
import BuildMatrix.Proofs.Resolution.Declarations
import BuildMatrix.Proofs.Resolution.Edges
import BuildMatrix.Proofs.Resolution.Links
import BuildMatrix.Proofs.Resolution.Outcome
import BuildMatrix.Proofs.Resolution.Rearranged
import BuildMatrix.Proofs.Resolution.SelfContained
import BuildMatrix.Proofs.Resolution.Skipped
import BuildMatrix.Proofs.Resolution.Stuck
import BuildMatrix.Proofs.Sorting
import BuildMatrix.Proofs.Words
import BuildMatrix.Registry.Basic
import BuildMatrix.Registry.Catalogue
import BuildMatrix.Report
import BuildMatrix.Settings
import BuildMatrix.Template.Basic
import BuildMatrix.Template.Compose
import BuildMatrix.Text.Printable
import BuildMatrix.Text.Quoted
import BuildMatrix.Trait
import BuildMatrix.Value.Basic
import BuildMatrix.Value.Checked
import BuildMatrix.Value.Literal
import BuildMatrix.Value.Order
import BuildMatrix.Workspace
