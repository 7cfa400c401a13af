import SchemaSignature.Document.Normalization
import SchemaSignature.Logging.Logger
import SchemaSignature.Main
import SchemaSignature.Model.Family
import SchemaSignature.Program.Step
import SchemaSignature.Proofs.Document.Coverage
import SchemaSignature.Proofs.Document.Draft7
import SchemaSignature.Proofs.Document.Unfolding
import SchemaSignature.Storage.Folder
import SchemaSignature.Proofs.Naming.Cumulation
import SchemaSignature.Proofs.Naming.History
import SchemaSignature.Proofs.Program.Conduct
import SchemaSignature.Proofs.Document.Rejections
import SchemaSignature.Proofs.Program.Names
import SchemaSignature.Proofs.Naming.Expansions
import SchemaSignature.Proofs.Document.Termination
import SchemaSignature.Proofs.Document.Inspection
import SchemaSignature.Proofs.Signature.Likeness
import SchemaSignature.Proofs.Document.Reading
import SchemaSignature.Proofs.Document.Formation
import SchemaSignature.Proofs.Document.Readability
import SchemaSignature.Proofs.Document.Exclusion
import SchemaSignature.Proofs.Document.Escaping
import SchemaSignature.Proofs.Document.Locations
import SchemaSignature.Proofs.Document.Sharing
import SchemaSignature.Proofs.Naming.Stability
import SchemaSignature.Proofs.Program.Renderings
import SchemaSignature.Proofs.Naming.Renaming
import SchemaSignature.Proofs.Document.RenamedForms
import SchemaSignature.Proofs.Document.Relabelling
import SchemaSignature.Proofs.Document.RelabelledForms
import SchemaSignature.Proofs.Document.RenamedDrafts
import SchemaSignature.Proofs.Document.RelabelledSessions
import SchemaSignature.Proofs.Document.Discrimination
import SchemaSignature.Proofs.Document.Retries
import SchemaSignature.Proofs.Document.ReorderedForms
import SchemaSignature.Proofs.Document.ReorderedTags
import SchemaSignature.Proofs.Document.ReorderedDrafts
import SchemaSignature.Proofs.Document.ReorderedSupport
import SchemaSignature.Proofs.Naming.Likeness
import SchemaSignature.Proofs.Document.ReorderedSessions
import SchemaSignature.Proofs.Model.Reachability
import SchemaSignature.Proofs.Model.FieldSchemas
import SchemaSignature.Proofs.Model.FieldTypes
import SchemaSignature.Proofs.Model.Documents
import SchemaSignature.Proofs.Model.Descent
import SchemaSignature.Proofs.Model.Sessions
import SchemaSignature.Proofs.Document.Activation
import SchemaSignature.Proofs.Document.Numbering
import SchemaSignature.Proofs.Document.Interruptions
import SchemaSignature.Proofs.Program.Confinement
import SchemaSignature.Proofs.Document.Pieces
import SchemaSignature.Proofs.Document.Spellings
import SchemaSignature.Proofs.Document.Resolutions
import SchemaSignature.Proofs.Document.Arities
import SchemaSignature.Proofs.Document.Properties
import SchemaSignature.Proofs.Document.Normalization
import SchemaSignature.Proofs.Document.LoosenedSessions
import SchemaSignature.Proofs.CommandLine.Saving
import SchemaSignature.Proofs.Program.Interpretations
import SchemaSignature.Proofs.Program.Registrations
import SchemaSignature.Proofs.Program.Activities
import SchemaSignature.Proofs.Program.Binding
import SchemaSignature.Proofs.Program.Bodies
import SchemaSignature.Proofs.Program.Recursion
import SchemaSignature.Proofs.Signature.Listings
import SchemaSignature.Proofs.Json.Merging
import SchemaSignature.Proofs.Document.Duplicates
