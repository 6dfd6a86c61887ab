import ControlSchema.ControlInfo
import ControlSchema.ControlList
import ControlSchema.Definition.Report
import ControlSchema.Interpreter
import ControlSchema.Main
import ControlSchema.Proofs.Artifact.Verification
import ControlSchema.Proofs.Bindings.Docstrings
import ControlSchema.Proofs.Bindings.Enumerations
import ControlSchema.Proofs.Bindings.Names
import ControlSchema.Proofs.Cell.RoundTrip
import ControlSchema.Proofs.CommandLine.Generation
import ControlSchema.Proofs.ControlList
import ControlSchema.Proofs.ControlValue.Annotation
import ControlSchema.Proofs.ControlValue.Building
import ControlSchema.Proofs.ControlValue.Counting
import ControlSchema.Proofs.ControlValue.Nesting
import ControlSchema.Proofs.ControlValue.Packing
import ControlSchema.Proofs.Document.Sequence
import ControlSchema.Proofs.Features
import ControlSchema.Proofs.Header.Declarations
import ControlSchema.Proofs.Header.RoundTrip
import ControlSchema.Proofs.Header.Tokens
import ControlSchema.Proofs.Interpreter
import ControlSchema.Proofs.Json.Canonical
import ControlSchema.Proofs.Registry
import ControlSchema.Proofs.Release.Collection
import ControlSchema.Proofs.Session
import ControlSchema.Proofs.Settings
import ControlSchema.Proofs.Version.Ambiguity
import ControlSchema.Proofs.Version.Grammar
import ControlSchema.Record
import ControlSchema.Session
import ControlSchema.Storage.Workspace
