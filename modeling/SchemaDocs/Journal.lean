import SchemaDocs.Generation

/-!
# The journal

A generation is accompanied by events: what was read, what was found, and what
deserves a warning. Each comes from a part of the work, which is named in front
of it. When a stage fails, the events of the stages before it remain, and so do
those that the failing stage had noted by then.
-/

namespace SchemaDocs

inductive Severity
  | debug
  | info
  | warning
deriving DecidableEq, Repr

def Severity.text : Severity → String
  | .debug => "DEBUG"
  | .info => "INFO"
  | .warning => "WARNING"

structure Event where
  severity : Severity
  source : String
  message : String
deriving DecidableEq, Repr

def Event.line (e : Event) : String :=
  e.severity.text ++ " " ++ e.source ++ ": " ++ e.message

/-- A part of the work as events name it. -/
def part (name : String) : String := "protoc_docs." ++ name

def Schema.event (schema : Schema) : Event :=
  ⟨.debug, part "parser.descriptor_loader",
    "Loaded " ++ toString schema.files.length ++ " file descriptor(s)"⟩

def UndeclaredUse.event (u : UndeclaredUse) : Event :=
  ⟨.debug, part "resolver",
    u.file ++ ": '" ++ u.referrer ++ "' resolved to '" ++ u.entity ++ "' in '" ++
      u.declaredIn ++ "' which is not a declared dependency"⟩

def UnresolvedReference.event (u : UnresolvedReference) : Event :=
  ⟨.warning, part "resolver",
    "Unresolved type '" ++ u.name ++ "' referenced from " ++ u.referrer ++ " (" ++
      u.file ++ ")"⟩

/-- Warnings are only given at the end of a resolution that succeeds. -/
def ResolutionRun.events (run : ResolutionRun) : List Event :=
  let indexed := match run.index with
    | some index => [⟨.debug, part "resolver",
        "Indexed " ++ toString index.length ++ " fully-qualified name(s)"⟩]
    | none => []
  let warnings := match run.result with
    | .ok r => r.unresolved.map UnresolvedReference.event
    | .error _ => []
  indexed ++ run.diagnostics.undeclared.map UndeclaredUse.event ++ warnings

def Page.event (p : Page) : Event :=
  ⟨.debug, part "builder", "Built page " ++ p.link ++ " for " ++ p.file.path⟩

def templateEvent : Event :=
  ⟨.debug, part "generator.markdown_generator", "Using custom page template"⟩

def navigationEvents (pages : List Page) : List Event :=
  match buildNavigation pages with
  | .ok nodes => [⟨.debug, part "navigation",
      "Navigation tree built with " ++ toString nodes.length ++ " top-level node(s)"⟩]
  | .error _ => []

def Generation.event (g : Generation) : Event :=
  ⟨.info, part "pipeline",
    "Generated " ++ toString g.documents.length ++ " page(s) with " ++
      toString g.unresolved.length ++ " unresolved type name(s)"⟩

/-- The events of laying out a site. Concurrent work builds the navigation
whether or not a page fails. -/
def layOutEvents (style : Layout.Style) (site : Site)
    (unresolved : List UnresolvedReference)
    (concurrent : Bool) : List Event :=
  match layOutSite style site unresolved with
  | .ok g => navigationEvents site.pages ++ [g.event]
  | .error _ => if concurrent then navigationEvents site.pages else []

/-- The events of making pages from a resolved schema. -/
def siteEvents (schema : Schema) (r : Resolution) (template : Option String)
    (concurrent : Bool) :
    List Event :=
  let run := Site.extend schema.routeBase {} r.files
  run.site.pages.map Page.event ++
    match run.error with
    | some _ => []
    | none =>
      (if template.isSome then [templateEvent] else []) ++
        match Layout.Style.ofSource template with
        | .ok style => layOutEvents style run.site r.unresolved concurrent
        | .error _ => []

/-- The events of a generation, in their order. -/
def journal (raw routeBase : Value) (template : Option String) (concurrent : Bool) :
    List Event :=
  match Schema.load raw routeBase with
  | .error _ => []
  | .ok schema =>
    let run := resolveAll schema.files
    schema.event :: run.events ++
      match run.result with
      | .ok r => siteEvents schema r template concurrent
      | .error _ => []

end SchemaDocs
