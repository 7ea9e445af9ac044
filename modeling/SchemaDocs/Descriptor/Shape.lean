import SchemaDocs.Descriptor.Wire

/-!
# Well-formed descriptor sets

Every message inside a descriptor set has to be readable, also where its
contents are of no interest here: options, reserved ranges, features. A shape is
a kind of message; its parts say which fields hold messages of which shape, and
which hold numbers that may come packed. A field without a part may hold any
chunk.

Messages nest only so deep, and the first fault on the way through the octets is
the one that counts.
-/

namespace SchemaDocs.Descriptor

inductive Shape
  | fileSet
  | file
  | message
  | extensionRange
  | field
  | oneof
  | enum
  | enumValue
  | service
  | method
  | fileOptions
  | messageOptions
  | fieldOptions
  | oneofOptions
  | enumOptions
  | enumValueOptions
  | serviceOptions
  | methodOptions
  | extensionRangeOptions
  | uninterpretedOption
  | sourceCodeInfo
  | location
  | leaf
deriving DecidableEq, Repr

/-- What the chunk of a field holds. -/
inductive Part
  | message (shape : Shape)
  | numbers
deriving DecidableEq, Repr

def Shape.part? : Shape → Nat → Option Part
  | .fileSet, 1 => some (.message .file)
  | .file, 4 => some (.message .message)
  | .file, 5 => some (.message .enum)
  | .file, 6 => some (.message .service)
  | .file, 7 => some (.message .field)
  | .file, 8 => some (.message .fileOptions)
  | .file, 9 => some (.message .sourceCodeInfo)
  | .file, 10 => some .numbers
  | .file, 11 => some .numbers
  | .message, 2 => some (.message .field)
  | .message, 3 => some (.message .message)
  | .message, 4 => some (.message .enum)
  | .message, 5 => some (.message .extensionRange)
  | .message, 6 => some (.message .field)
  | .message, 7 => some (.message .messageOptions)
  | .message, 8 => some (.message .oneof)
  | .message, 9 => some (.message .leaf)
  | .extensionRange, 3 => some (.message .extensionRangeOptions)
  | .field, 8 => some (.message .fieldOptions)
  | .oneof, 2 => some (.message .oneofOptions)
  | .enum, 2 => some (.message .enumValue)
  | .enum, 3 => some (.message .enumOptions)
  | .enum, 4 => some (.message .leaf)
  | .enumValue, 3 => some (.message .enumValueOptions)
  | .service, 2 => some (.message .method)
  | .service, 3 => some (.message .serviceOptions)
  | .method, 4 => some (.message .methodOptions)
  | .fileOptions, 50 => some (.message .leaf)
  | .fileOptions, 999 => some (.message .uninterpretedOption)
  | .messageOptions, 12 => some (.message .leaf)
  | .messageOptions, 999 => some (.message .uninterpretedOption)
  | .fieldOptions, 19 => some .numbers
  | .fieldOptions, 20 => some (.message .leaf)
  | .fieldOptions, 21 => some (.message .leaf)
  | .fieldOptions, 22 => some (.message .leaf)
  | .fieldOptions, 999 => some (.message .uninterpretedOption)
  | .oneofOptions, 1 => some (.message .leaf)
  | .oneofOptions, 999 => some (.message .uninterpretedOption)
  | .enumOptions, 7 => some (.message .leaf)
  | .enumOptions, 999 => some (.message .uninterpretedOption)
  | .enumValueOptions, 2 => some (.message .leaf)
  | .enumValueOptions, 4 => some (.message .leaf)
  | .enumValueOptions, 999 => some (.message .uninterpretedOption)
  | .serviceOptions, 34 => some (.message .leaf)
  | .serviceOptions, 999 => some (.message .uninterpretedOption)
  | .methodOptions, 35 => some (.message .leaf)
  | .methodOptions, 999 => some (.message .uninterpretedOption)
  | .extensionRangeOptions, 2 => some (.message .leaf)
  | .extensionRangeOptions, 50 => some (.message .leaf)
  | .extensionRangeOptions, 999 => some (.message .uninterpretedOption)
  | .uninterpretedOption, 2 => some (.message .leaf)
  | .sourceCodeInfo, 1 => some (.message .location)
  | .location, 1 => some .numbers
  | .location, 2 => some .numbers
  | _, _ => none

/-- What is wrong with octets that are no descriptor set. -/
inductive Fault
  | corrupt
  | tooDeep
deriving DecidableEq, Repr

def Fault.message (fault : Fault) : String :=
  "Error parsing message with type 'google.protobuf.FileDescriptorSet': " ++
    match fault with
    | .corrupt => "Wire format was corrupt"
    | .tooDeep => "Exceeded upb_DecodeOptions_MaxDepth"

/-- Looks for the first fault of a message in the order of its octets, where a
message inside it comes before what follows that message. Messages may nest as
deep as `depth`; `fuel` bounds the records. -/
def check : (fuel depth : Nat) → Shape → List UInt8 → Except Fault Unit
  | _, _, _, [] => .ok ()
  | 0, _, _, _ :: _ => .error .corrupt
  | fuel + 1, depth, shape, bytes =>
    match Wire.readRecord depth bytes with
    | none => .error .corrupt
    | some (r, rest) => do
      match r.payload, shape.part? r.number, depth with
      | .chunk inner, some (.message inside), depth + 1 => check fuel depth inside inner
      | .chunk _, some (.message _), 0 => .error .tooDeep
      | .chunk inner, some .numbers, _ =>
        if (Wire.packed? inner).isNone then .error .corrupt
      | _, _, _ => .ok ()
      check fuel depth shape rest

end SchemaDocs.Descriptor
