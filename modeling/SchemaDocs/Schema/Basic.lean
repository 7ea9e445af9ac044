import SchemaDocs.Value

/-!
# Schemas

A schema is a list of files. A file declares messages, enums and services inside
its package; a message declares fields, and further messages and enums inside
itself. Everything keeps the order in which it was declared.

A field or a method names types by text. Beside each such name stands a slot for
what it refers to, empty until references have been resolved. A map field has
two names, for its keys and its values, and its own slot repeats the one of the
values.
-/

namespace SchemaDocs

/-- The names of the built-in scalar types. Any other type name refers to a
message or an enum. -/
def primitiveNames : List String := [
  "double", "float", "int32", "int64", "uint32", "uint64", "sint32", "sint64",
  "fixed32", "fixed64", "sfixed32", "sfixed64", "bool", "string", "bytes"]

def isPrimitive (name : String) : Bool := primitiveNames.contains name

inductive Label
  | optional
  | required
  | repeated
deriving DecidableEq, Repr

def Label.text : Label → String
  | .optional => "optional"
  | .required => "required"
  | .repeated => "repeated"

def Label.all : List Label := [.optional, .required, .repeated]

def Label.ofText? (s : String) : Option Label := Label.all.find? (·.text == s)

/-- What a fully-qualified name may belong to. -/
inductive EntityKind
  | message
  | enum
  | service
deriving DecidableEq, Repr

def EntityKind.text : EntityKind → String
  | .message => "message"
  | .enum => "enum"
  | .service => "service"

/-- What a type name refers to: a scalar, a declaration and the file that holds
it, or nothing known. -/
inductive TypeRef
  | primitive (name : String)
  | resolved (entity file : String) (kind : EntityKind)
  | unresolved (name : String)
deriving DecidableEq, Repr

def TypeRef.label : TypeRef → String
  | .primitive name => name
  | .resolved entity _ _ => entity
  | .unresolved name => name

structure MapType where
  keyType : String
  valueType : String
  keyRef : Option TypeRef := none
  valueRef : Option TypeRef := none
deriving DecidableEq, Repr

/-- `oneof` is whatever value the description gives for the group of the field. -/
structure Field where
  name : String
  typeName : String
  number : Option Int := none
  label : Label := .optional
  map : Option MapType := none
  oneof : Option Value := none
  defaultValue : Option String := none
  description : String := ""
  typeRef : Option TypeRef := none

def Field.isMap (f : Field) : Bool := f.map.isSome

def Field.isRepeated (f : Field) : Bool := f.label == .repeated

/-- How the type of a field is presented; `named` is a type name that has not
been looked up. -/
inductive TypeKind
  | scalar
  | message
  | enum
  | service
  | map
  | unresolved
  | named
deriving DecidableEq, Repr

def TypeKind.text : TypeKind → String
  | .scalar => "scalar"
  | .message => "message"
  | .enum => "enum"
  | .service => "service"
  | .map => "map"
  | .unresolved => "unresolved"
  | .named => "named"

def EntityKind.typeKind : EntityKind → TypeKind
  | .message => .message
  | .enum => .enum
  | .service => .service

def Field.typeKind (f : Field) : TypeKind :=
  if f.isMap then .map
  else match f.typeRef with
    | some (.primitive _) => .scalar
    | some (.resolved _ _ kind) => kind.typeKind
    | some (.unresolved _) => .unresolved
    | none => if isPrimitive f.typeName then .scalar else .named

structure EnumValue where
  name : String
  number : Int
  description : String := ""
deriving DecidableEq, Repr

structure EnumDef where
  name : String
  fullName : String
  values : List EnumValue := []
  description : String := ""
  filePath : String := ""
deriving DecidableEq, Repr

structure Message where
  name : String
  fullName : String
  fields : List Field := []
  messages : List Message := []
  enums : List EnumDef := []
  description : String := ""
  filePath : String := ""

structure Method where
  name : String
  requestType : String
  responseType : String
  clientStreaming : Bool := false
  serverStreaming : Bool := false
  description : String := ""
  requestRef : Option TypeRef := none
  responseRef : Option TypeRef := none
deriving DecidableEq, Repr

structure Service where
  name : String
  fullName : String
  methods : List Method := []
  description : String := ""
  filePath : String := ""
deriving DecidableEq, Repr

structure File where
  path : String
  package : String := ""
  dependencies : List String := []
  messages : List Message := []
  enums : List EnumDef := []
  services : List Service := []
  description : String := ""

/-- A set of files with the base that their pages' routes start from. -/
structure Schema where
  files : List File
  routeBase : String := ""

/-- A simple name inside a scope; the empty scope adds nothing. -/
def qualify (scope name : String) : String :=
  if scope = "" then name else scope ++ "." ++ name

end SchemaDocs
