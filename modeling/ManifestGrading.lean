import ManifestGrading.Main
import ManifestGrading.Session
import ManifestGrading.Proofs.Runner.Yield
import ManifestGrading.Proofs.Runner.Visits
import ManifestGrading.Proofs.Runner.Quiet
import ManifestGrading.Proofs.Scorecard.History
import ManifestGrading.Proofs.Runner.Reference
import ManifestGrading.Proofs.Runner.Pool
import ManifestGrading.Proofs.Runner.Parallel
import ManifestGrading.Proofs.FirstFailure
import ManifestGrading.Proofs.Manifest.Loading
import ManifestGrading.Proofs.Manifest.Discovery
import ManifestGrading.Proofs.Manifest.InOrder
import ManifestGrading.Proofs.Resource.Faults
import ManifestGrading.Proofs.Resource.Flattening
import ManifestGrading.Proofs.Pack.Faults
import ManifestGrading.Proofs.CommandLine.Escape
import ManifestGrading.Proofs.Value.Unwritable
import ManifestGrading.Proofs.Report.Document
import ManifestGrading.Proofs.Gate.Agreement
import ManifestGrading.Proofs.Scorecard.Reachable
import ManifestGrading.Proofs.Report.Consistency
import ManifestGrading.Proofs.Publish.Fields
import ManifestGrading.Proofs.Publish.Annotations
import ManifestGrading.Proofs.Publish.Page
import ManifestGrading.Proofs.Publish.Agreement
import ManifestGrading.Proofs.Publish.Grammar
import ManifestGrading.Proofs.Suppression.Annotation
import ManifestGrading.Proofs.Runner.Erasure
import ManifestGrading.Proofs.Scorecard.Requests
import ManifestGrading.Proofs.Pack.Merging
import ManifestGrading.Proofs.Pack.Policies
import ManifestGrading.Proofs.Value.Equality
import ManifestGrading.Proofs.Scoring.Influence
import ManifestGrading.Proofs.Scoring.Repetition
import ManifestGrading.Proofs.Runner.Failure
import ManifestGrading.Proofs.Runner.Decomposition
import ManifestGrading.Proofs.Runner.Reordering
import ManifestGrading.Proofs.Publish.Spelling
import ManifestGrading.Proofs.Publish.Misspelled
import ManifestGrading.Proofs.Text.Trimming
import ManifestGrading.Proofs.Text.Quoting
import ManifestGrading.Proofs.Identity.Reference
import ManifestGrading.Proofs.Suppression.CommaList
import ManifestGrading.Proofs.Publish.Message
import ManifestGrading.Proofs.Report.Healthy
import ManifestGrading.Proofs.Report.Color
import ManifestGrading.Proofs.Grade.Parsing
import ManifestGrading.Proofs.Scorecard.Refusal
import ManifestGrading.Proofs.Session.Comments
import ManifestGrading.Proofs.Publish.Job
