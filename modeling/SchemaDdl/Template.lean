import SchemaDdl.Error
import SchemaDdl.Mapping

/-!
# Column templates

A column definition may name a template.  Its properties are then laid over those of the template:
the properties of the template keep their order, a property of the definition replaces the one of
the template, and further properties follow.  The property that names a template is itself dropped,
and a template named inside a template is not looked up.
-/

namespace SchemaDdl

namespace Mapping

def property? (entries : Mapping) (name : String) : Option Value :=
  get? entries (.text name)

end Mapping

namespace Template

def keyword : String := "template"

/-- The properties of a definition laid over those of a template body. -/
def overlay (body definition : Mapping) : Mapping :=
  Mapping.erase (Mapping.insertAll body definition) (.text keyword)

/-- The properties of the body of a template, null being read as none. -/
def bodyProperties (template body : Value) : Except CompileError Mapping :=
  match body with
  | .null => .ok []
  | .map _ entries => .ok entries
  | _ => .error (CompileError.templateNotMapping template).reported

/-- The body of the template that a column of a table names. -/
def find (table : String) (column template : Value) (templates : Mapping) :
    Except CompileError Value :=
  match template.key? with
  | none => .error (.templateNameNotKey table column template)
  | some key =>
      match Mapping.get? templates key with
      | none => .error (CompileError.unknownTemplate table column template).reported
      | some body => .ok body

/-- The properties of a column once its template, if it names one, is taken in. -/
def expand (table : String) (column : Value) (definition templates : Mapping) :
    Except CompileError Mapping :=
  match Mapping.property? definition keyword with
  | none => .ok definition
  | some template => do
      let body ← find table column template templates
      let properties ← bodyProperties template body
      return overlay properties definition

end Template

end SchemaDdl
