import SchemaDocs.Text.Hex

/-!
# UTF-8

Files are octets; pages, templates and schema names are text. Decoding stops at
the first octet that rules UTF-8 out and says which octets it was reading: a
character whose octets so far were right spans all of them, and the reason tells
a wrong first octet, a wrong later one and an early end apart.
-/

namespace SchemaDocs.Text.Utf8

inductive Reason
  | invalidStart
  | invalidContinuation
  | unexpectedEnd
deriving DecidableEq, Repr

def Reason.text : Reason → String
  | .invalidStart => "invalid start byte"
  | .invalidContinuation => "invalid continuation byte"
  | .unexpectedEnd => "unexpected end of data"

/-- The octets that could not be read: the first of them, its offset and how
many there are. -/
structure Fault where
  position : Nat
  first : UInt8
  count : Nat
  reason : Reason
deriving DecidableEq, Repr

def Fault.message (f : Fault) : String :=
  if f.count = 1 then
    "'utf-8' codec can't decode byte 0x" ++ String.ofList (hex 2 f.first.toNat) ++
      " in position " ++ toString f.position ++ ": " ++ f.reason.text
  else
    "'utf-8' codec can't decode bytes in position " ++ toString f.position ++ "-" ++
      toString (f.position + f.count - 1) ++ ": " ++ f.reason.text

/-- What a first octet announces: how many octets follow, the bits it carries,
and the range of the octet right after it. -/
structure Lead where
  following : Nat
  bits : Nat
  least : Nat
  greatest : Nat

def lead? (b : Nat) : Option Lead :=
  if b < 0x80 then some ⟨0, b, 0x80, 0xBF⟩
  else if b < 0xC2 then none
  else if b < 0xE0 then some ⟨1, b - 0xC0, 0x80, 0xBF⟩
  else if b = 0xE0 then some ⟨2, 0, 0xA0, 0xBF⟩
  else if b = 0xED then some ⟨2, 13, 0x80, 0x9F⟩
  else if b < 0xF0 then some ⟨2, b - 0xE0, 0x80, 0xBF⟩
  else if b = 0xF0 then some ⟨3, 0, 0x90, 0xBF⟩
  else if b < 0xF4 then some ⟨3, b - 0xF0, 0x80, 0xBF⟩
  else if b = 0xF4 then some ⟨3, 4, 0x80, 0x8F⟩
  else none

/-- Reads the octets after the first. `seen` counts the octets of this character
read so far. -/
def continuation (seen : Nat) (l : Lead) :
    Nat → Nat → List UInt8 → Except (Nat × Reason) (Nat × List UInt8)
  | 0, value, rest => .ok (value, rest)
  | _ + 1, _, [] => .error (seen, .unexpectedEnd)
  | n + 1, value, b :: rest =>
    if l.least ≤ b.toNat ∧ b.toNat ≤ l.greatest then
      continuation (seen + 1) { l with least := 0x80, greatest := 0xBF } n
        (value * 64 + (b.toNat - 0x80)) rest
    else .error (seen, .invalidContinuation)

/-- One character from the front of the octets. -/
def decodeChar (position : Nat) (b : UInt8) (rest : List UInt8) :
    Except Fault (Char × List UInt8) :=
  match lead? b.toNat with
  | none => .error ⟨position, b, 1, .invalidStart⟩
  | some l =>
    match continuation 1 l l.following l.bits rest with
    | .ok (value, rest) => .ok (Char.ofNat value, rest)
    | .error (count, reason) => .error ⟨position, b, count, reason⟩

/-- Decodes from an offset on. `fuel` bounds the octets: a character takes at
least one. -/
def decodeFrom : (fuel : Nat) → (position : Nat) → List UInt8 → Except Fault (List Char)
  | _, _, [] => .ok []
  | 0, _, _ :: _ => .ok []
  | fuel + 1, position, b :: rest =>
    match decodeChar position b rest with
    | .ok (c, rest) => (decodeFrom fuel (position + c.utf8Size) rest).map (c :: ·)
    | .error fault => .error fault

def decode (bytes : List UInt8) : Except Fault String :=
  (decodeFrom bytes.length 0 bytes).map String.ofList

def encode (s : String) : List UInt8 := s.toList.flatMap String.utf8EncodeChar

end SchemaDocs.Text.Utf8
