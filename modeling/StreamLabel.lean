import StreamLabel.Unicode.Blank
import StreamLabel.Unicode.Casing
import StreamLabel.Unicode.Digit
import StreamLabel.Unicode.Identifier
import StreamLabel.Unicode.Printable
import StreamLabel.Unicode.Word
import StreamLabel.Number.Literal
import StreamLabel.Condition
import StreamLabel.Template.Parser
import StreamLabel.Template.Builder
import StreamLabel.Template.Printer
import StreamLabel.Pattern.Basic
import StreamLabel.Formatter.BuiltIn
import StreamLabel.Render.Basic
import StreamLabel.Store.Templates
import StreamLabel.Definition
import StreamLabel.Metadata.Groups
import StreamLabel.Catalog
import StreamLabel.Presets
import StreamLabel.Sample
import StreamLabel.Settings
import StreamLabel.Journal.Basic
import StreamLabel.Session
import StreamLabel.Proofs.Template.Layout
import StreamLabel.Proofs.Template.Condition
import StreamLabel.Proofs.Template.Reference
import StreamLabel.Proofs.Template.Modifier
import StreamLabel.Proofs.Template.Placeholder
import StreamLabel.Proofs.Template.Sequence
import StreamLabel.Proofs.Render.Fallback
import StreamLabel.Proofs.Template.Canonical
import StreamLabel.Proofs.Template.Roundtrip
import StreamLabel.Proofs.Store.Transparent
import StreamLabel.Proofs.Store.Retention
import StreamLabel.Proofs.Render.Append
import StreamLabel.Proofs.Template.Append
import StreamLabel.Proofs.Template.Fault
import StreamLabel.Proofs.Template.ErrorPlace
import StreamLabel.Proofs.Template.Limit
import StreamLabel.Proofs.Template.Tiling
import StreamLabel.Proofs.Render.Outcome
import StreamLabel.Proofs.Render.Cut
import StreamLabel.Proofs.Session.Nesting
import StreamLabel.Proofs.Session.StoreLimit
import StreamLabel.Proofs.Pattern.Recent
import StreamLabel.Proofs.Definition.Roundtrip
import StreamLabel.Proofs.Render.CanonicalText
import StreamLabel.Proofs.Template.Completion
import StreamLabel.Proofs.Definition.Frame
import StreamLabel.Proofs.Render.BuiltIn
import StreamLabel.Proofs.Render.Comparison
import StreamLabel.Proofs.Render.Clean
import StreamLabel.Proofs.Render.Dependence
import StreamLabel.Proofs.Formatter.Size
import StreamLabel.Proofs.Value.Sequence
import StreamLabel.Proofs.Store.Lifetime
import StreamLabel.Proofs.Session.UnknownReferences
import StreamLabel.Proofs.Metadata.Typed
import StreamLabel.Proofs.Presets.Numbering
import StreamLabel.Proofs.Template.Termination
