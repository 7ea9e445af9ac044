import SchemaDocs.Site.Page

/-!
# What a page shows

A page is rendered from bindings: the data of its file, with every type name
replaced by how it is presented. A type that is declared in a file with a page
carries a link there, with the full name of the declaration as the anchor; a
scalar, or a name that means nothing, has none.

`PageBindings.toValue` gives the same as plain data, under the names that
templates use.
-/

namespace SchemaDocs

structure TypeBinding where
  kind : TypeKind
  label : String
  href : Option String
deriving DecidableEq, Repr

structure FieldBinding where
  name : String
  number : Option Int
  label : Label
  kind : TypeKind
  type : TypeBinding
  map : Option (TypeBinding × TypeBinding)
  oneof : Option Value
  defaultValue : Option String
  description : String

structure EnumBinding where
  name : String
  fullName : String
  description : String
  entries : List EnumValue
deriving DecidableEq, Repr

structure MessageBinding where
  name : String
  fullName : String
  description : String
  fields : List FieldBinding
  messages : List MessageBinding
  enums : List EnumBinding

structure MethodBinding where
  name : String
  description : String
  request : TypeBinding
  response : TypeBinding
  clientStreaming : Bool
  serverStreaming : Bool
deriving DecidableEq, Repr

structure ServiceBinding where
  name : String
  fullName : String
  description : String
  methods : List MethodBinding
deriving DecidableEq, Repr

/-- An imported file, with its link if it has a page. -/
structure DependencyBinding where
  path : String
  href : Option String
deriving DecidableEq, Repr

structure PageBindings where
  title : String
  path : String
  package : String
  description : String
  route : String
  link : String
  fileName : String
  slug : String
  dependencies : List DependencyBinding
  messages : List MessageBinding
  enums : List EnumBinding
  services : List ServiceBinding

/-! ## Binding a page -/

/-- How a name is presented, given what it refers to. -/
def bindType (links : LinkTable) (name : String) : Option TypeRef → TypeBinding
  | some (.primitive name) => ⟨.scalar, name, none⟩
  | some (.resolved entity file kind) =>
    ⟨kind.typeKind, entity, (links.find? file).map fun link => link ++ "#" ++ entity⟩
  | some (.unresolved name) => ⟨.unresolved, name, none⟩
  | none => ⟨.unresolved, name, none⟩

def bindField (links : LinkTable) (f : Field) : FieldBinding where
  name := f.name
  number := f.number
  label := f.label
  kind := f.typeKind
  type := bindType links f.typeName f.typeRef
  map := f.map.map fun m =>
    (bindType links m.keyType m.keyRef, bindType links m.valueType m.valueRef)
  oneof := f.oneof
  defaultValue := f.defaultValue
  description := f.description

def bindEnum (e : EnumDef) : EnumBinding := ⟨e.name, e.fullName, e.description, e.values⟩

mutual

def bindMessage (links : LinkTable) : Message → MessageBinding
  | ⟨name, fullName, fields, messages, enums, description, _⟩ =>
    ⟨name, fullName, description, fields.map (bindField links),
      bindMessages links messages, enums.map bindEnum⟩

def bindMessages (links : LinkTable) : List Message → List MessageBinding
  | [] => []
  | m :: rest => bindMessage links m :: bindMessages links rest

end

def bindMethod (links : LinkTable) (m : Method) : MethodBinding where
  name := m.name
  description := m.description
  request := bindType links m.requestType m.requestRef
  response := bindType links m.responseType m.responseRef
  clientStreaming := m.clientStreaming
  serverStreaming := m.serverStreaming

def bindService (links : LinkTable) (s : Service) : ServiceBinding :=
  ⟨s.name, s.fullName, s.description, s.methods.map (bindMethod links)⟩

def Page.bind (links : LinkTable) (p : Page) : PageBindings where
  title := p.title
  path := p.file.path
  package := p.file.package
  description := p.file.description
  route := p.route
  link := p.link
  fileName := p.fileName
  slug := p.slug
  dependencies := p.file.dependencies.map fun path => ⟨path, links.find? path⟩
  messages := bindMessages links p.file.messages
  enums := p.file.enums.map bindEnum
  services := p.file.services.map (bindService links)

/-! ## Bindings as data -/

def optionalText : Option String → Value
  | some s => .text s
  | none => .null

def TypeBinding.toValue (t : TypeBinding) : Value :=
  .object [("kind", .text t.kind.text), ("label", .text t.label),
    ("href", optionalText t.href)]

def FieldBinding.toValue (f : FieldBinding) : Value :=
  .object [
    ("name", .text f.name),
    ("number", match f.number with | some n => .int n | none => .null),
    ("label", .text f.label.text),
    ("kind", .text f.kind.text),
    ("type", f.type.toValue),
    ("map", match f.map with
      | some (key, value) => .object [("key", key.toValue), ("value", value.toValue)]
      | none => .null),
    ("oneof", f.oneof.getD .null),
    ("default_value", optionalText f.defaultValue),
    ("description", .text f.description)]

def enumEntryValue (v : EnumValue) : Value :=
  .object [("name", .text v.name), ("number", .int v.number),
    ("description", .text v.description)]

def EnumBinding.toValue (e : EnumBinding) : Value :=
  .object [
    ("name", .text e.name), ("full_name", .text e.fullName), ("anchor", .text e.fullName),
    ("description", .text e.description),
    ("entries", .list (e.entries.map enumEntryValue))]

mutual

def MessageBinding.toValue : MessageBinding → Value
  | ⟨name, fullName, description, fields, messages, enums⟩ =>
    .object [
      ("name", .text name), ("full_name", .text fullName), ("anchor", .text fullName),
      ("description", .text description),
      ("fields", .list (fields.map FieldBinding.toValue)),
      ("messages", .list (messageValues messages)),
      ("enums", .list (enums.map EnumBinding.toValue))]

def messageValues : List MessageBinding → List Value
  | [] => []
  | m :: rest => m.toValue :: messageValues rest

end

def MethodBinding.toValue (m : MethodBinding) : Value :=
  .object [
    ("name", .text m.name), ("description", .text m.description),
    ("request", m.request.toValue),
    ("response", m.response.toValue), ("client_streaming", .bool m.clientStreaming),
    ("server_streaming", .bool m.serverStreaming)]

def ServiceBinding.toValue (s : ServiceBinding) : Value :=
  .object [
    ("name", .text s.name), ("full_name", .text s.fullName), ("anchor", .text s.fullName),
    ("description", .text s.description),
    ("methods", .list (s.methods.map MethodBinding.toValue))]

def DependencyBinding.toValue (d : DependencyBinding) : Value :=
  .object [("path", .text d.path), ("href", optionalText d.href)]

/-- The sections of a page, empty ones included. -/
def PageBindings.sectionValues (p : PageBindings) : List Value :=
  let part (kind : EntityKind) (title : String) (entities : List Value) : Value :=
    .object [("kind", .text kind.text), ("title", .text title),
      ("entities", .list entities)]
  [part .message "Messages" (messageValues p.messages),
    part .enum "Enums" (p.enums.map EnumBinding.toValue),
    part .service "Services" (p.services.map ServiceBinding.toValue)]

def PageBindings.entries (p : PageBindings) : List (String × Value) := [
  ("title", .text p.title), ("path", .text p.path), ("package", .text p.package),
  ("description", .text p.description), ("route", .text p.route), ("link", .text p.link),
  ("file_name", .text p.fileName), ("slug", .text p.slug),
  ("dependencies", .list (p.dependencies.map DependencyBinding.toValue)),
  ("sections", .list p.sectionValues),
  ("messages", .list (messageValues p.messages)),
  ("enums", .list (p.enums.map EnumBinding.toValue)),
  ("services", .list (p.services.map ServiceBinding.toValue))]

def PageBindings.toValue (p : PageBindings) : Value := .object p.entries

end SchemaDocs
