import SchemaDocs.Text.Blank
import SchemaDocs.Text.Quoted
import SchemaDocs.Value

/-!
# Descriptors

The types of a serialized descriptor set, as far as they matter here. They
describe files the way a schema compiler does: names of messages and enums are
absolute, a map field is a repeated field of a synthetic entry message, and
comments are kept apart from what they are about, each under the path of field
numbers and indices that leads to it.

A string of a descriptor is octets, and need not be text.
-/

namespace SchemaDocs.Descriptor

inductive Str
  | text (s : String)
  | octets (bytes : List UInt8)
deriving DecidableEq, Repr

namespace Str

def empty : Str := .text ""

def isEmpty : Str → Bool
  | .text s => s == ""
  | .octets bytes => bytes.isEmpty

def toValue : Str → Value
  | .text s => .text s
  | .octets bytes => .bytes bytes

/-- The form in which a string stands inside other text. -/
def display : Str → String
  | .text s => s
  | .octets bytes => Text.quotedBytes bytes

/-- The blank octets are the ASCII ones. -/
def isBlankOctet (b : UInt8) : Bool := b == 32 || (9 ≤ b && b ≤ 13)

def trim : Str → Str
  | .text s => .text (Text.trim s)
  | .octets bytes => .octets (Text.trimBy isBlankOctet bytes)

end Str

inductive FieldType
  | double
  | float
  | int64
  | uint64
  | int32
  | fixed64
  | fixed32
  | bool
  | string
  | group
  | message
  | bytes
  | uint32
  | enum
  | sfixed32
  | sfixed64
  | sint32
  | sint64
deriving DecidableEq, Repr

namespace FieldType

/-- In the order of their numbers, which start at one. -/
def all : List FieldType := [
  .double, .float, .int64, .uint64, .int32, .fixed64, .fixed32, .bool, .string, .group,
  .message, .bytes, .uint32, .enum, .sfixed32, .sfixed64, .sint32, .sint64]

def name : FieldType → String
  | .double => "double"
  | .float => "float"
  | .int64 => "int64"
  | .uint64 => "uint64"
  | .int32 => "int32"
  | .fixed64 => "fixed64"
  | .fixed32 => "fixed32"
  | .bool => "bool"
  | .string => "string"
  | .group => "group"
  | .message => "message"
  | .bytes => "bytes"
  | .uint32 => "uint32"
  | .enum => "enum"
  | .sfixed32 => "sfixed32"
  | .sfixed64 => "sfixed64"
  | .sint32 => "sint32"
  | .sint64 => "sint64"

/-- A type that refers to a declaration by name. -/
def isNamed : FieldType → Bool
  | .message => true
  | .enum => true
  | .group => true
  | _ => false

end FieldType

inductive FieldLabel
  | optional
  | required
  | repeated
deriving DecidableEq, Repr

namespace FieldLabel

/-- In the order of their numbers, which start at one. -/
def all : List FieldLabel := [.optional, .required, .repeated]

def name : FieldLabel → String
  | .optional => "optional"
  | .required => "required"
  | .repeated => "repeated"

end FieldLabel

structure FieldProto where
  name : Str := .empty
  number : Int := 0
  label : FieldLabel := .optional
  type : FieldType := .double
  typeName : Str := .empty
  defaultValue : Option Str := none
  oneofIndex : Option Int := none
  proto3Optional : Bool := false
deriving DecidableEq, Repr

structure EnumValueProto where
  name : Str := .empty
  number : Int := 0
deriving DecidableEq, Repr

structure EnumProto where
  name : Str := .empty
  values : List EnumValueProto := []
deriving DecidableEq, Repr

structure MessageProto where
  name : Str := .empty
  fields : List FieldProto := []
  nested : List MessageProto := []
  enums : List EnumProto := []
  oneofs : List Str := []
  mapEntry : Bool := false

structure MethodProto where
  name : Str := .empty
  inputType : Str := .empty
  outputType : Str := .empty
  clientStreaming : Bool := false
  serverStreaming : Bool := false
deriving DecidableEq, Repr

structure ServiceProto where
  name : Str := .empty
  methods : List MethodProto := []
deriving DecidableEq, Repr

/-- The comments at a place in the source. -/
structure Location where
  path : List Int := []
  leading : Str := .empty
  trailing : Str := .empty
deriving DecidableEq, Repr

structure FileProto where
  name : Str := .empty
  package : Str := .empty
  dependencies : List Str := []
  messages : List MessageProto := []
  enums : List EnumProto := []
  services : List ServiceProto := []
  locations : List Location := []

structure FileSet where
  files : List FileProto := []

end SchemaDocs.Descriptor
