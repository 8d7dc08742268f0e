import SchemaDdl.Main
import SchemaDdl.Proofs.Command.Channels
import SchemaDdl.Proofs.Command.Drift
import SchemaDdl.Proofs.Command.History
import SchemaDdl.Proofs.Command.Verdict
import SchemaDdl.Proofs.Layout.Maxima
import SchemaDdl.Proofs.Layout.Slots
import SchemaDdl.Proofs.Options.Occurrence
import SchemaDdl.Proofs.Resolution.Identifiers
import SchemaDdl.Proofs.Resolution.Rearrangement
import SchemaDdl.Proofs.Statement.Body
import SchemaDdl.Proofs.Statement.Composition
import SchemaDdl.Proofs.Statement.Lists
import SchemaDdl.Proofs.Template.Merging
