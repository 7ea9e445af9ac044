import SchemaDocs.Template.Attribute
import SchemaDocs.Template.Syntax

/-!
# Which template is used

The source of a template that is to be imported is its name. A template that is
to be included may also be given as several names, the first of which that there
is a template of is used. A source may turn out to be anything; what can be no
name is refused for the first thing that is missing in it.
-/

namespace SchemaDocs.Template

/-- Why an item that is no text cannot be the name of a template. -/
def nameFault (item : Item) : RenderError :=
  match item.keyFault? with
  | some fault => fault
  | none =>
    match item with
    | .undefined why _ => .undefined why
    | .bytes _ => .searchNeedsOctets "str"
    | item => .noAttribute item.kind "split"

/-- The name of a template. -/
def templateName (item : Item) : Except RenderError String :=
  match item.text? with
  | some name => .ok name
  | none => .error (nameFault item)

/-- Is the failure that there is no such template? -/
def RenderError.isMissingTemplate : RenderError → Bool
  | .noTemplate _ => true
  | .badTemplateName _ => true
  | .noTemplateOf _ => true
  | .noTemplateGiven => true
  | _ => false

/-- What a name is called that no template was found for. -/
def triedName (item : Item) : String :=
  match item with
  | .undefined why _ => why.message
  | item => (item.text?).getD ""

/-- The first template that is found for some names; `tried` are those before them. -/
def findFirst (find : String → Except RenderError Template) (tried : List String) :
    List Item → Except RenderError (String × Template)
  | [] => .error (.noTemplateOf tried.reverse)
  | item :: rest =>
    let next := findFirst find (triedName item :: tried) rest
    match templateName item with
    | .error (.undefined _) => next
    | .error fault => .error fault
    | .ok name =>
      match find name with
      | .ok t => .ok (name, t)
      | .error fault => if fault.isMissingTemplate then next else .error fault

/-- The template that an item names, by itself or as one of several, and its name. -/
def selectTemplate (find : String → Except RenderError Template) (item : Item) :
    Except RenderError (String × Template) :=
  match item with
  | .undefined why _ => .error (.undefined why)
  | item =>
    match item.text? with
    | some name => (find name).map fun t => (name, t)
    | none => do
      if ← item.truthy then findFirst find [] (← item.elements)
      else throw .noTemplateGiven

end SchemaDocs.Template
