import Mediation.Text.Blank
import Mediation.Decimal
import Mediation.Json
import Mediation.Descriptor.Basic
import Mediation.Descriptor.Format
import Mediation.Descriptor.Construction
import Mediation.Signature
import Mediation.Declaration
import Mediation.Configuration
import Mediation.Rejection
import Mediation.Mismatch
import Mediation.Classification
import Mediation.Fault
import Mediation.Log.Level
import Mediation.Log.Settings
import Mediation.Log.Event
import Mediation.Metadata.Violation
import Mediation.Metadata.Checked
import Mediation.Metadata.Type
import Mediation.Metadata.Signature
import Mediation.Metadata.Manifest
import Mediation.Metadata.Encoding
import Mediation.Registry.Basic
import Mediation.Registry.Pass
import Mediation.Registry.Run
import Mediation.Registry.Session
import Mediation.Proofs.Classification.Pattern
import Mediation.Proofs.Classification.Requirement
import Mediation.Proofs.Classification.Comparison
import Mediation.Proofs.Classification.Decision
import Mediation.Proofs.Classification.Skeleton
import Mediation.Proofs.Classification.Modes
import Mediation.Proofs.Text.Trim
import Mediation.Proofs.Text.Cut
import Mediation.Proofs.Descriptor.Unambiguity
import Mediation.Proofs.Metadata.Grammar
import Mediation.Proofs.Metadata.Schema
import Mediation.Proofs.Metadata.Path
import Mediation.Proofs.Metadata.Wording
import Mediation.Proofs.Metadata.Validation
import Mediation.Proofs.Metadata.RoundTrip
import Mediation.Proofs.Registry.Preservation
import Mediation.Proofs.Registry.Report
import Mediation.Proofs.Registry.Invariant
import Mediation.Proofs.Registry.Admission
import Mediation.Proofs.Registry.Coherence
import Mediation.Proofs.Registry.FailFast
import Mediation.Proofs.Registry.Growth
import Mediation.Proofs.Registry.Observation
import Mediation.Proofs.Registry.Import
import Mediation.Proofs.Registry.Transfer
import Mediation.Proofs.Registry.Reordering
import Mediation.Proofs.Classification.Widening
import Mediation.Proofs.Classification.Blame
import Mediation.Proofs.Registry.Logging
import Mediation.Proofs.Registry.Registration
import Mediation.Proofs.Registry.Failure
import Mediation.Proofs.Metadata.Normalization
import Mediation.Proofs.Metadata.Relevance
import Mediation.Proofs.Descriptor.Omission
import Mediation.Proofs.Registry.Trimming
import Mediation.Proofs.Registry.Channel
