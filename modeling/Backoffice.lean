import Backoffice.Application
import Backoffice.Declaration.Directory
import Backoffice.Proofs.BareLayout
import Backoffice.Proofs.Closedness
import Backoffice.Proofs.Declaration.Acceptance
import Backoffice.Proofs.Enumeration
import Backoffice.Proofs.Equipment
import Backoffice.Proofs.KnownSchemas
import Backoffice.Proofs.Layout.ActiveTabs
import Backoffice.Proofs.Layout.Defaults
import Backoffice.Proofs.Layout.FirstFault
import Backoffice.Proofs.Layout.Inheritance
import Backoffice.Proofs.Layout.Mirroring
import Backoffice.Proofs.Layout.Spelling
import Backoffice.Proofs.Omission
import Backoffice.Proofs.Operation.Convention
import Backoffice.Proofs.Operation.Enumeration
import Backoffice.Proofs.Operation.Initializers
import Backoffice.Proofs.Operation.Origin
import Backoffice.Proofs.Operation.Precedence
import Backoffice.Proofs.Operation.Selection
import Backoffice.Proofs.Query.Appearance
import Backoffice.Proofs.Query.ClauseMeaning
import Backoffice.Proofs.Query.Concealment
import Backoffice.Proofs.Query.DecimalFilters
import Backoffice.Proofs.Query.Erasure
import Backoffice.Proofs.Query.ForeignKeys
import Backoffice.Proofs.Query.IntegerFilters
import Backoffice.Proofs.Query.JoinedValues
import Backoffice.Proofs.Query.NormalForms
import Backoffice.Proofs.Query.Numbering
import Backoffice.Proofs.Query.Rereading
import Backoffice.Proofs.Query.SortedColumns
import Backoffice.Proofs.Query.SortedRows
import Backoffice.Proofs.Query.StableRows
import Backoffice.Proofs.Query.StoredColumns
import Backoffice.Proofs.Query.Vocabulary
import Backoffice.Proofs.Resource.Collisions
import Backoffice.Proofs.Resource.Customization
import Backoffice.Proofs.Resource.DeclarationOrder
import Backoffice.Proofs.Resource.EmbedCycle
import Backoffice.Proofs.Resource.FieldOrder
import Backoffice.Proofs.Resource.Flags
import Backoffice.Proofs.Resource.Linking
import Backoffice.Proofs.Resource.Links
import Backoffice.Proofs.Resource.Provenance
import Backoffice.Proofs.Resource.RegistrationOrder
import Backoffice.Proofs.Resource.RelationshipFields
import Backoffice.Proofs.TabsApart
import Backoffice.Proofs.Text.Separator
import Backoffice.Query.Records
import Backoffice.Query.Select
import Backoffice.Resource.Summary
