import AgentProbe.Plan.Planner
import AgentProbe.Validation.Command
import AgentProbe.Platform.Builtin
import AgentProbe.Files.Walk
import AgentProbe.Files.Glob
import AgentProbe.Files.Commit
import AgentProbe.Files.Source
import AgentProbe.Data.Json
import AgentProbe.Data.Record
import AgentProbe.Data.Yaml.Document
import AgentProbe.Data.Toml
import AgentProbe.Platform.Registry
import AgentProbe.Pattern.Memo
import AgentProbe.Detection.CatalogDocument
import AgentProbe.Config.Load
import AgentProbe.Detection.Detector
import AgentProbe.Main
import AgentProbe.Telemetry.Document
import AgentProbe.Config.Document
import AgentProbe.Telemetry.Logging
import AgentProbe.Proofs.Text.Offset
import AgentProbe.Proofs.Edit.Weaving
import AgentProbe.Proofs.Sequencing
import AgentProbe.Proofs.Syntax.Reference
import AgentProbe.Proofs.Syntax.Anchor
import AgentProbe.Proofs.Plan.Attachment
import AgentProbe.Proofs.Plan.Draft
import AgentProbe.Proofs.Plan.Agreement
import AgentProbe.Proofs.Syntax.Span
import AgentProbe.Proofs.Edit.Addition
import AgentProbe.Proofs.Files.View
import AgentProbe.Proofs.Text.Utf8
import AgentProbe.Proofs.Files.Replacement
import AgentProbe.Proofs.Files.Placement
import AgentProbe.Proofs.Run.Integrity
import AgentProbe.Proofs.Plan.Containment
import AgentProbe.Proofs.Plan.Completeness
import AgentProbe.Proofs.Validation.Blame
import AgentProbe.Proofs.Plan.Repetition
import AgentProbe.Proofs.Plan.Rereading
import AgentProbe.Proofs.Plan.Insertion
import AgentProbe.Proofs.Files.Listing
import AgentProbe.Proofs.Run.Independence
import AgentProbe.Proofs.Run.Recording
import AgentProbe.Proofs.Run.Accounting
import AgentProbe.Proofs.Run.Intact
import AgentProbe.Proofs.Run.Course
import AgentProbe.Proofs.Detection.Grading
import AgentProbe.Proofs.Run.Scope
import AgentProbe.Proofs.Pattern.Replay
import AgentProbe.Proofs.Pattern.Cells
import AgentProbe.Proofs.Pattern.Sharing
import AgentProbe.Proofs.Detection.Degradation
import AgentProbe.Proofs.Detection.SetupScript
import AgentProbe.Proofs.Detection.Growth
import AgentProbe.Proofs.Detection.Declarations
import AgentProbe.Proofs.Detection.RequirementReading
import AgentProbe.Proofs.Platform.Registration
import AgentProbe.Proofs.Edit.Preservation
import AgentProbe.Proofs.Edit.Splicing
import AgentProbe.Proofs.Plan.Targeting
import AgentProbe.Proofs.Plan.Preservation
import AgentProbe.Proofs.Plan.LineRuns
import AgentProbe.Proofs.Plan.Stepwise
import AgentProbe.Proofs.Plan.Acceptance
import AgentProbe.Proofs.Plan.Precedence
import AgentProbe.Proofs.Plan.ModuleOffset
import AgentProbe.Proofs.Files.Way
import AgentProbe.Proofs.Files.Atomicity
import AgentProbe.Proofs.Files.Collection
import AgentProbe.Proofs.Config.Merging
import AgentProbe.Proofs.Telemetry.Summary
import AgentProbe.Proofs.Syntax.Answer
import AgentProbe.Proofs.Syntax.Fault
import AgentProbe.Proofs.Detection.DottedName
import AgentProbe.Proofs.Syntax.Fault
