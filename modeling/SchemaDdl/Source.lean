import SchemaDdl.Loader
import SchemaDdl.Schema
import SchemaDdl.Text.Lines

/-!
# Schema sources

A schema source is the text of a schema document.  It fails to compile when a loader has no value
for it, or when the document is no schema that compiles.
-/

namespace SchemaDdl

/-- Why a schema source does not compile. -/
inductive SourceError
  | unreadable (fault : LoadFault)
  | rejected (error : CompileError)

namespace Source

def document (loader : Loader) (chars : List Char) : Except SourceError Value :=
  (loader (Text.unifyLineEnds chars)).mapError .unreadable

def schema (loader : Loader) (chars : List Char) : Except SourceError Schema := do
  let document ← document loader chars
  (Schema.ofValue document).mapError .rejected

def compile (loader : Loader) (chars : List Char) : Except SourceError String := do
  let document ← document loader chars
  (Schema.compileDocument document).mapError .rejected

end Source

end SchemaDdl
