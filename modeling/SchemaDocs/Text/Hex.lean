/-!
# Hexadecimal numerals

Fixed-width lower-case hexadecimal, as escapes are written, and the value of one
digit of either case.
-/

namespace SchemaDocs.Text

def hexDigit (n : Nat) : Char :=
  if n < 10 then Char.ofNat (n + 48) else Char.ofNat (n + 87)

/-- The lowest `width` hexadecimal digits of a number. -/
def hex : (width : Nat) → Nat → List Char
  | 0, _ => []
  | width + 1, n => hex width (n / 16) ++ [hexDigit (n % 16)]

def hexValue? (c : Char) : Option Nat :=
  if '0' ≤ c ∧ c ≤ '9' then some (c.toNat - 48)
  else if 'a' ≤ c ∧ c ≤ 'f' then some (c.toNat - 87)
  else if 'A' ≤ c ∧ c ≤ 'F' then some (c.toNat - 55)
  else none

/-- Reads exactly `width` digits from the front. -/
def readHex? : (width : Nat) → List Char → Option (Nat × List Char)
  | 0, cs => some (0, cs)
  | _ + 1, [] => none
  | width + 1, c :: rest => do
    let d ← hexValue? c
    let (n, rest) ← readHex? width rest
    return (d * Nat.pow 16 width + n, rest)

end SchemaDocs.Text
