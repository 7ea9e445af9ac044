/-!
# The wire format

A serialized message is a run of tagged records. A tag is a number in base 128
that holds the field number and the kind of payload: a number in base 128, eight
or four octets, a chunk with its length in front, or a group that runs to its
own end tag. A tag and a length take five octets at most, a number ten; what a
number has beyond 64 bits is dropped.

Reading fails on a payload of no known kind, on field number zero, on a group
that does not end or an end without a group, and where the octets run out.
Groups are skipped, as deep as they may nest; what they hold has no meaning, so
field number zero is as good as any there.
-/

namespace SchemaDocs.Wire

/-- A number in base 128, least significant digits first; the last octet has its
top bit clear. -/
def readVarint : (limit : Nat) → List UInt8 → Option (Nat × List UInt8)
  | 0, _ => none
  | _ + 1, [] => none
  | limit + 1, b :: rest =>
    if b.toNat < 128 then some (b.toNat, rest)
    else do
      let (high, rest) ← readVarint limit rest
      return (b.toNat - 128 + 128 * high, rest)

/-- Field number and kind of payload. -/
def readTag (bytes : List UInt8) : Option (Nat × Nat × List UInt8) := do
  let (tag, rest) ← readVarint 5 bytes
  if tag < Nat.pow 2 32 then some (tag / 8, tag % 8, rest) else none

def readNumber (bytes : List UInt8) : Option (Nat × List UInt8) := do
  let (n, rest) ← readVarint 10 bytes
  return (n % Nat.pow 2 64, rest)

def takeExactly (count : Nat) (bytes : List UInt8) : Option (List UInt8 × List UInt8) :=
  if (bytes.take count).length = count then some (bytes.take count, bytes.drop count)
  else none

def readChunk (bytes : List UInt8) : Option (List UInt8 × List UInt8) := do
  let (length, rest) ← readVarint 5 bytes
  if length < Nat.pow 2 31 then takeExactly length rest else none

/-- Payloads that are not looked at are only told apart from the ones that are. -/
inductive Payload
  | number (n : Nat)
  | chunk (bytes : List UInt8)
  | other
deriving DecidableEq, Repr

structure Record where
  number : Nat
  payload : Payload
deriving DecidableEq, Repr

mutual

/-- The payload of a kind, for a field number that its group has to end with.
Groups may nest as deep as `depth`. -/
def readPayload :
    (fuel depth : Nat) → (number kind : Nat) → List UInt8 → Option (Payload × List UInt8)
  | _, _, _, 0, bytes => do
    let (n, rest) ← readNumber bytes
    return (.number n, rest)
  | _, _, _, 1, bytes => do
    let (_, rest) ← takeExactly 8 bytes
    return (.other, rest)
  | _, _, _, 2, bytes => do
    let (chunk, rest) ← readChunk bytes
    return (.chunk chunk, rest)
  | fuel + 1, depth + 1, number, 3, bytes => do
    let rest ← skipGroup fuel depth number bytes
    return (.other, rest)
  | _, _, _, 5, bytes => do
    let (_, rest) ← takeExactly 4 bytes
    return (.other, rest)
  | _, _, _, _, _ => none

/-- What follows the end of a group. -/
def skipGroup : (fuel depth : Nat) → (number : Nat) → List UInt8 → Option (List UInt8)
  | 0, _, _, _ => none
  | fuel + 1, depth, number, bytes => do
    let (inner, kind, rest) ← readTag bytes
    if kind = 4 then
      if inner = number then some rest else none
    else
      let (_, rest) ← readPayload fuel depth inner kind rest
      skipGroup fuel depth number rest

end

/-- The record at the front, and what follows it. -/
def readRecord (depth : Nat) (bytes : List UInt8) : Option (Record × List UInt8) := do
  let (number, kind, rest) ← readTag bytes
  if number = 0 then none
  let (payload, rest) ← readPayload (2 * rest.length + 1) depth number kind rest
  return (⟨number, payload⟩, rest)

def readRecords (depth : Nat) : (fuel : Nat) → List UInt8 → Option (List Record)
  | _, [] => some []
  | 0, _ :: _ => none
  | fuel + 1, bytes => do
    let (record, rest) ← readRecord depth bytes
    let records ← readRecords depth fuel rest
    return record :: records

/-- How deep messages and groups may nest. -/
def nestingLimit : Nat := 100

/-- The records of a message. Each takes at least one octet, which bounds their number. -/
def records? (bytes : List UInt8) : Option (List Record) :=
  readRecords nestingLimit bytes.length bytes

/-- Numbers one after the other in a chunk. -/
def readPacked : (fuel : Nat) → List UInt8 → Option (List Nat)
  | _, [] => some []
  | 0, _ :: _ => none
  | fuel + 1, bytes => do
    let (n, rest) ← readNumber bytes
    let ns ← readPacked fuel rest
    return n :: ns

def packed? (bytes : List UInt8) : Option (List Nat) := readPacked bytes.length bytes

/-! ## Fields of a message -/

/-- The last number given for a field. -/
def lastNumber? (records : List Record) (field : Nat) : Option Nat :=
  records.foldl (fun found r => match r with
    | ⟨n, .number v⟩ => if n = field then some v else found
    | _ => found) none

/-- The chunks given for a field, in order. -/
def chunks (records : List Record) (field : Nat) : List (List UInt8) :=
  records.filterMap fun r => match r with
    | ⟨n, .chunk bytes⟩ => if n = field then some bytes else none
    | _ => none

def lastChunk? (records : List Record) (field : Nat) : Option (List UInt8) :=
  (chunks records field).getLast?

/-- The numbers given for a repeated field, singly or packed. -/
def numbers (records : List Record) (field : Nat) : List Nat :=
  records.flatMap fun r =>
    if r.number = field then match r.payload with
      | .number n => [n]
      | .chunk bytes => (packed? bytes).getD []
      | .other => []
    else []

/-- The low 32 bits as a signed number. -/
def toInt32 (n : Nat) : Int :=
  let low : Nat := n % Nat.pow 2 32
  if low < Nat.pow 2 31 then (low : Int) else (low : Int) - Nat.pow 2 32

end SchemaDocs.Wire
