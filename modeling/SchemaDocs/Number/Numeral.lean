import SchemaDocs.Number.Binary64
import SchemaDocs.Text.Blank
import SchemaDocs.Text.Digit

/-!
# Numbers written as text

A number may come as text. An integer is a sign and decimal digits of any
script, with single underscores between digits, and white space around; the
information separators, which count as blank elsewhere, are not white space
here. At most 4300 digits are read. A real number may also have a fraction, an
exponent, or be a name for infinity or for no number at all.
-/

namespace SchemaDocs.Numeral

/-- The most digits an integer text may have, leading zeros included. -/
def digitLimit : Nat := 4300

def isSpace (c : Char) : Bool := Text.isBlank c && !(0x1C ≤ c.toNat && c.toNat ≤ 0x1F)

/-- Digits with single underscores between them. `expectDigit` says that a digit
must come next. -/
def readDigits (expectDigit : Bool) : List Char → Option (List Nat)
  | [] => if expectDigit then none else some []
  | c :: rest =>
    match Text.digitValue? c with
    | some d => (readDigits false rest).map (d :: ·)
    | none => if c = '_' ∧ !expectDigit then readDigits true rest else none

def ofDigits (ds : List Nat) : Nat := ds.foldl (fun n d => 10 * n + d) 0

/-- A sign in front of a number. -/
def readSign : List Char → Bool × List Char
  | '-' :: rest => (true, rest)
  | '+' :: rest => (false, rest)
  | cs => (false, cs)

def readInt? (s : String) : Option Int :=
  let (negative, cs) := readSign (Text.trimBy isSpace s.toList)
  match readDigits true cs with
  | some ds =>
    if ds.length ≤ digitLimit then
      some (if negative then -(ofDigits ds : Int) else ofDigits ds)
    else none
  | none => none

/-! ## Other bases -/

/-- The value of a digit or a letter. Digits of every script count, letters in
either case. -/
def digitOrLetter? (c : Char) : Option Nat :=
  match Text.digitValue? c with
  | some d => some d
  | none =>
    if c.isAlpha then some (c.toLower.toNat - 'a'.toNat + 10) else none

/-- Digits to a base with single underscores between them. -/
def readDigitsToBase (base : Nat) (expectDigit : Bool) : List Char → Option (List Nat)
  | [] => if expectDigit then none else some []
  | c :: rest =>
    match digitOrLetter? c with
    | some d => if d < base then (readDigitsToBase base false rest).map (d :: ·) else none
    | none => if c = '_' ∧ !expectDigit then readDigitsToBase base true rest else none

/-- The base that a mark in front of the digits speaks of. -/
def markedBase? : List Char → Option (Nat × List Char)
  | z :: mark :: rest =>
    if Text.digitValue? z = some 0 then
      match mark.toLower with
      | 'x' => some (16, rest)
      | 'o' => some (8, rest)
      | 'b' => some (2, rest)
      | _ => none
    else none
  | _ => none

/-- Digits behind a mark may begin with an underscore. -/
def dropUnderscore : List Char → List Char
  | '_' :: rest => rest
  | cs => cs

/-- The base of a number and its digits. A mark of the base may stand in front
of them, and where the base is zero the mark decides, and without it the base is
ten. -/
def chooseBase (base : Nat) (cs : List Char) : Nat × List Char :=
  match markedBase? cs with
  | some (marked, rest) =>
    if base = 0 ∨ base = marked then (marked, dropUnderscore rest) else (base, cs)
  | none => (if base = 0 then 10 else base, cs)

/-- The whole number that a text spells to a base from two to thirty-six, or
zero. To a base of its own choice a number has no zeros in front, and only to a
base that is a power of two may it have any number of digits. -/
def readIntToBase? (base : Int) (s : String) : Option Int := do
  if base < 0 ∨ base = 1 ∨ 36 < base then none
  let (negative, cs) := readSign (Text.trimBy isSpace s.toList)
  let (b, digits) := chooseBase base.toNat cs
  let ds ← readDigitsToBase b true digits
  if base = 0 ∧ b = 10 ∧ ds.head? = some 0 ∧ ds.any (· ≠ 0) then none
  if digitLimit < ds.length ∧ b ∉ [2, 4, 8, 16, 32] then none
  let n := ds.foldl (fun n d => b * n + d) 0
  return if negative then -(n : Int) else n

/-- The characters up to the first that satisfies `p`, and the rest without it. -/
def cutAt (p : Char → Bool) (cs : List Char) : List Char × Option (List Char) :=
  match cs.dropWhile (!p ·) with
  | [] => (cs, none)
  | _ :: rest => (cs.takeWhile (!p ·), some rest)

/-- A possibly empty run of digits. -/
def readOptionalDigits (cs : List Char) : Option (List Nat) :=
  if cs.isEmpty then some [] else readDigits true cs

/-- The power of ten after the exponent mark; none stands for zero. -/
def readScale : Option (List Char) → Option Int
  | none => some 0
  | some cs =>
    let (negative, ds) := readSign cs
    (readDigits true ds).map fun ds =>
      if negative then -(ofDigits ds : Int) else ofDigits ds

def readReal? (s : String) : Option Binary64 := do
  let (negative, cs) := readSign (Text.trimBy isSpace s.toList)
  let name := String.ofList (cs.map Char.toLower)
  if name = "inf" ∨ name = "infinity" then return .infinite negative
  if name = "nan" then return .nan
  let (significand, exponent) := cutAt (fun c => c = 'e' || c = 'E') cs
  let (whole, fraction) := cutAt (· = '.') significand
  let wholeDigits ← readOptionalDigits whole
  let fractionDigits ← readOptionalDigits (fraction.getD [])
  if wholeDigits.isEmpty && fractionDigits.isEmpty then none
  let scale ← readScale exponent
  return .ofDecimal negative (ofDigits (wholeDigits ++ fractionDigits))
    (scale - fractionDigits.length)

end SchemaDocs.Numeral
