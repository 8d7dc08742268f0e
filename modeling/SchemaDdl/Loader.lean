import SchemaDdl.Value

/-!
# Loaders

A loader takes the value of a document from a text.  The text of a file may be loaded in more than
one way, since nothing says in which order a set comes out; so what is said of runs is said of any
loaders.
-/

namespace SchemaDdl

/-- Why a text has no value: it is no document, for which there is a report, or its loading breaks
off in a way that nothing reports. -/
inductive LoadFault
  | malformed (report : String)
  | brokenOff (cause : String)

abbrev Loader := List Char → Except LoadFault Value

end SchemaDdl
