import SchemaDocs.Descriptor.Basic
import SchemaDocs.Descriptor.Shape
import SchemaDocs.Text.Utf8

/-!
# Reading descriptors

A set is read when all of it is well formed, and otherwise not at all. Of a
field that comes several times the last scalar counts, repeated ones are
collected, and a message that may come once is the sum of its pieces, which is
what reading them one behind the other gives. A number that is no member of its
enumeration is passed over.
-/

namespace SchemaDocs.Descriptor

open Wire (Record)

/-- The records of octets that are known to be well formed. -/
def recordsOf (bytes : List UInt8) : List Record := (Wire.records? bytes).getD []

def Str.ofOctets (bytes : List UInt8) : Str :=
  match Text.Utf8.decode bytes with
  | .ok s => .text s
  | .error _ => .octets bytes

def str? (records : List Record) (field : Nat) : Option Str :=
  (Wire.lastChunk? records field).map Str.ofOctets

def str (records : List Record) (field : Nat) : Str := (str? records field).getD .empty

def strs (records : List Record) (field : Nat) : List Str :=
  (Wire.chunks records field).map Str.ofOctets

def int? (records : List Record) (field : Nat) : Option Int :=
  (Wire.lastNumber? records field).map Wire.toInt32

def int (records : List Record) (field : Nat) : Int := (int? records field).getD 0

def flag (records : List Record) (field : Nat) : Bool :=
  match Wire.lastNumber? records field with
  | some n => n ≠ 0
  | none => false

/-- The member of an enumeration that is listed from one on. -/
def member? (members : List α) (n : Nat) : Option α :=
  match Wire.toInt32 n with
  | .ofNat (k + 1) => members[k]?
  | _ => none

/-- The last number of a field that is a member. -/
def lastMember? (members : List α) (records : List Record) (field : Nat) : Option α :=
  records.foldl (fun found r => match r with
    | ⟨n, .number v⟩ => if n = field then (member? members v).or found else found
    | _ => found) none

/-- The records of a message that may come in pieces. -/
def merged (records : List Record) (field : Nat) : List Record :=
  recordsOf (Wire.chunks records field).flatten

def FieldProto.ofOctets (bytes : List UInt8) : FieldProto :=
  let r := recordsOf bytes
  { name := str r 1
    number := int r 3
    label := (lastMember? FieldLabel.all r 4).getD .optional
    type := (lastMember? FieldType.all r 5).getD .double
    typeName := str r 6
    defaultValue := str? r 7
    oneofIndex := int? r 9
    proto3Optional := flag r 17 }

def EnumValueProto.ofOctets (bytes : List UInt8) : EnumValueProto :=
  let r := recordsOf bytes
  { name := str r 1, number := int r 2 }

def EnumProto.ofOctets (bytes : List UInt8) : EnumProto :=
  let r := recordsOf bytes
  { name := str r 1, values := (Wire.chunks r 2).map EnumValueProto.ofOctets }

/-- A message inside another has fewer octets than it, so `fuel` may be their number. -/
def MessageProto.ofOctets : (fuel : Nat) → List UInt8 → MessageProto
  | 0, _ => {}
  | fuel + 1, bytes =>
    let r := recordsOf bytes
    { name := str r 1
      fields := (Wire.chunks r 2).map FieldProto.ofOctets
      nested := (Wire.chunks r 3).map (MessageProto.ofOctets fuel)
      enums := (Wire.chunks r 4).map EnumProto.ofOctets
      oneofs := (Wire.chunks r 8).map fun bytes => str (recordsOf bytes) 1
      mapEntry := flag (merged r 7) 7 }

def MethodProto.ofOctets (bytes : List UInt8) : MethodProto :=
  let r := recordsOf bytes
  { name := str r 1
    inputType := str r 2
    outputType := str r 3
    clientStreaming := flag r 5
    serverStreaming := flag r 6 }

def ServiceProto.ofOctets (bytes : List UInt8) : ServiceProto :=
  let r := recordsOf bytes
  { name := str r 1, methods := (Wire.chunks r 2).map MethodProto.ofOctets }

def Location.ofOctets (bytes : List UInt8) : Location :=
  let r := recordsOf bytes
  { path := (Wire.numbers r 1).map Wire.toInt32, leading := str r 3, trailing := str r 4 }

def FileProto.ofOctets (bytes : List UInt8) : FileProto :=
  let r := recordsOf bytes
  { name := str r 1
    package := str r 2
    dependencies := strs r 3
    messages := (Wire.chunks r 4).map fun m => MessageProto.ofOctets m.length.succ m
    enums := (Wire.chunks r 5).map EnumProto.ofOctets
    services := (Wire.chunks r 6).map ServiceProto.ofOctets
    locations := (Wire.chunks (merged r 9) 1).map Location.ofOctets }

/-- The descriptor set in octets, or the first fault of them. -/
def FileSet.decode (bytes : List UInt8) : Except Fault FileSet := do
  check (bytes.length + 1) Wire.nestingLimit .fileSet bytes
  return { files := (Wire.chunks (recordsOf bytes) 1).map FileProto.ofOctets }

end SchemaDocs.Descriptor
