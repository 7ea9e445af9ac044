import SchemaDocs.Layout.Custom
import SchemaDocs.Schema.Load
import SchemaDocs.Schema.Resolve
import SchemaDocs.Site.Navigation

/-!
# Generating documentation

A generation goes from loose data to laid-out pages: load the schema, resolve
its references, name the pages, prepare the style, lay out every page, and build
the navigation. The first stage that fails decides; nothing is left of the
stages before it.

In the navigation the pages stand with their texts.
-/

namespace SchemaDocs

inductive GenerateError
  | load (e : LoadError)
  | resolve (e : ResolveError)
  | route (e : RouteError)
  | template (e : Template.SyntaxError)
  | render (path : String) (e : Template.RenderError)
  | navigation (e : DuplicatePage)

/-- A failure to lay out a page, seen from outside. What belongs to no rule for
templates has its own words. -/
def renderMessage (path : String) (e : Template.RenderError) : String :=
  match e.origin with
  | .engine => path ++ ": failed to render page: " ++ e.message
  | .misuse kind =>
    path ++ ": template does not match the page model: " ++ kind.name ++ ": " ++ e.message
  | .foreign _ => e.message

/-- A template that cannot be compiled, seen from outside. -/
def templateMessage (e : Template.SyntaxError) : String :=
  match e.foreign? with
  | some _ => e.message
  | none => "Custom template could not be compiled: " ++ e.message

def GenerateError.message : GenerateError → String
  | .load e => e.message
  | .resolve e => e.message
  | .route e => e.message
  | .template e => templateMessage e
  | .render path e => renderMessage path e
  | .navigation e => e.message

/-- The name of a failure that belongs to no rule of this program. -/
def GenerateError.foreignKind? : GenerateError → Option String
  | .template e => e.foreign?
  | .render _ e => e.origin.foreign?
  | _ => none

/-- A page with its text. -/
structure Document where
  page : Page
  text : String

def Document.fileName (d : Document) : String := d.page.fileName

structure Generation where
  documents : List Document
  links : LinkTable
  navigation : List (NavTree Document)
  unresolved : List UnresolvedReference

/-- The names that nothing was found for. -/
def Generation.warnings (g : Generation) : List String := g.unresolved.map (·.name)

def layOutPage (style : Layout.Style) (links : LinkTable) (p : Page) :
    Except GenerateError Document := do
  let text ← (style.layOut (p.bind links)).mapError (.render p.file.path)
  return ⟨p, text⟩

/-- The document of a page. -/
def documentOf (documents : List Document) (p : Page) : Document :=
  (documents.find? fun d => d.fileName == p.fileName).getD ⟨p, ""⟩

/-- Lays out the pages of a site and builds their navigation. -/
def layOutSite (style : Layout.Style) (site : Site)
    (unresolved : List UnresolvedReference) :
    Except GenerateError Generation := do
  let documents ← site.pages.mapM (layOutPage style site.links)
  let navigation ← (buildNavigation site.pages).mapError .navigation
  return {
    documents, unresolved
    links := site.links
    navigation := NavTree.mapAll (documentOf documents) navigation }

/-- Documentation for a schema description, with routes below a base, in the
built-in layout or by the text of a template. -/
def generate (raw routeBase : Value) (template : Option String) :
    Except GenerateError Generation := do
  let schema ← (Schema.load raw routeBase).mapError .load
  let resolution ← (resolve schema.files).mapError .resolve
  let site ← (buildSite resolution.files schema.routeBase).mapError .route
  let style ← (Layout.Style.ofSource template).mapError .template
  layOutSite style site resolution.unresolved

end SchemaDocs
