import SchemaDocs.Site.Route

/-!
# Pages

Every file gets one page. Its route follows from the package, or from the path
where there is none, and its name is unique among the pages of a run. The link
of a page is where other pages refer to it; links are kept by the path of the
file, and a later file of the same path replaces the link.

A file whose package has no parts, or that has neither a package nor a path with
a name in it, has no route.
-/

namespace SchemaDocs

inductive RouteError
  | emptyPackage (path package : String)
  | noPath (path : String)
deriving DecidableEq, Repr

def RouteError.message : RouteError → String
  | .emptyPackage path package =>
    "Cannot derive a route for file '" ++ path ++ "' with package '" ++ package ++ "'"
  | .noPath path =>
    "Cannot derive a route for file '" ++ path ++ "': no package and no usable path"

/-- The declarations of one kind on a page. -/
inductive Section
  | messages (ms : List Message)
  | enums (es : List EnumDef)
  | services (ss : List Service)

def Section.kind : Section → EntityKind
  | .messages _ => .message
  | .enums _ => .enum
  | .services _ => .service

def Section.title : Section → String
  | .messages _ => "Messages"
  | .enums _ => "Enums"
  | .services _ => "Services"

/-- The full names of the declarations in a section. -/
def Section.entityNames : Section → List String
  | .messages ms => ms.map (·.fullName)
  | .enums es => es.map (·.fullName)
  | .services ss => ss.map (·.fullName)

def File.sections (f : File) : List Section :=
  [.messages f.messages, .enums f.enums, .services f.services]

structure Page where
  file : File
  route : String
  link : String
  fileName : String
  slug : String
  segments : List String

def Page.title (p : Page) : String := p.file.path

def Page.sections (p : Page) : List Section := p.file.sections

/-- Links by the path of the file they lead to, in the order the paths came. -/
abbrev LinkTable := List (String × String)

def LinkTable.insert (path link : String) : LinkTable → LinkTable
  | [] => [(path, link)]
  | (p, l) :: rest =>
    if p = path then (p, link) :: rest else (p, l) :: LinkTable.insert path link rest

def LinkTable.find? (links : LinkTable) (path : String) : Option String :=
  links.lookup path

/-- The route of a file's page and the name it would like to have. -/
def File.route (f : File) (base : String) : Except RouteError (String × String) :=
  let parts := stemParts f.path
  let slug := parts.getLastD ""
  let segments := f.segments
  if f.package = "" then
    if slug = "" then .error (.noPath f.path)
    else .ok (base ++ "/" ++ Text.join "/" parts, slug)
  else
    match segments.getLast? with
    | none => .error (.emptyPackage f.path f.package)
    | some last =>
      .ok (base ++ "/" ++ Text.join "/" segments, if slug = "" then last else slug)

/-- The page of a file, named apart from the page names that are taken. -/
def Page.build (file : File) (routeBase : String) (taken : List String) :
    Except RouteError Page := do
  let base := normalizeRouteBase routeBase
  let (route, plain) ← file.route base
  let group := groupPrefix file.segments
  let slug := freeSlug taken group plain (trimSlashes file.path)
  let fileName := group ++ slug
  return {
    file, route, fileName, slug
    link := base ++ "/" ++ fileName
    segments := file.segments }

/-- The pages of a run and the links to them. -/
structure Site where
  pages : List Page := []
  links : LinkTable := []

def Site.taken (s : Site) : List String := s.pages.map (·.fileName)

def Site.add (s : Site) (p : Page) : Site :=
  { pages := s.pages ++ [p], links := s.links.insert p.file.path p.link }

/-- How building went: the pages built, and the error that ended it, if one did. -/
structure SiteRun where
  site : Site
  error : Option RouteError

/-- Adds the pages of further files to a site. -/
def Site.extend (routeBase : String) (site : Site) : List File → SiteRun
  | [] => ⟨site, none⟩
  | f :: rest =>
    match Page.build f routeBase site.taken with
    | .ok page => Site.extend routeBase (site.add page) rest
    | .error e => ⟨site, some e⟩

def buildSite (files : List File) (routeBase : String) : Except RouteError Site :=
  match Site.extend routeBase {} files with
  | ⟨site, none⟩ => .ok site
  | ⟨_, some e⟩ => .error e

end SchemaDocs
