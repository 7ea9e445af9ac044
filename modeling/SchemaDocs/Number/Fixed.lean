import SchemaDocs.Number.Shortest

/-!
# Decimal text with a given number of digits

A number is rounded to a given number of places behind the point, or to a given
number of significant digits, always from its exact value; a tie goes to the
even digit. The digits are then laid out positionally, with an exponent, or in
whichever of the two ways suits the size of the number.

On request the point is written even where nothing stands behind it.
-/

namespace SchemaDocs.Binary64

/-- The nearest whole number of units of `10 ^ k` to `num / den`. -/
def unitsOf (num den : Nat) (k : Int) : Nat :=
  if k ≥ 0 then divRoundEven num (den * Nat.pow 10 k.toNat)
  else divRoundEven (num * Nat.pow 10 (-k).toNat) den

/-- Digits with a point in front of the last `places` of them. -/
def placePoint (keepPoint : Bool) (places : Nat) (units : Nat) : List Char :=
  let ds := Nat.toDigits 10 units
  let ds := List.replicate (places + 1 - ds.length) '0' ++ ds
  let whole := ds.take (ds.length - places)
  let fraction := ds.drop (ds.length - places)
  whole ++ (if fraction.isEmpty && !keepPoint then [] else '.' :: fraction)

/-- The value with a number of places behind the point. -/
def fixedText (keepPoint : Bool) (places : Nat) (num den : Nat) : List Char :=
  placePoint keepPoint places (unitsOf num den (-(places : Int)))

/-- Significant digits, `places + 1` of them, and the power of ten of the first one. -/
def significant (places : Nat) (num den : Nat) : List Char × Int :=
  if num = 0 then (List.replicate (places + 1) '0', 0)
  else
    let e := decimalExponent num den
    let units := unitsOf num den (e - places)
    if units = Nat.pow 10 (places + 1) then (Nat.toDigits 10 (Nat.pow 10 places), e + 1)
    else (Nat.toDigits 10 units, e)

/-- An exponent with a sign and at least two digits. -/
def exponentText (mark : Char) (e : Int) : List Char :=
  let ds := Nat.toDigits 10 e.natAbs
  mark :: (if e < 0 then '-' else '+') :: (List.replicate (2 - ds.length) '0' ++ ds)

/-- Digits with a point behind the first of them. -/
def pointed (keepPoint : Bool) : List Char → List Char
  | [] => []
  | [d] => if keepPoint then [d, '.'] else [d]
  | d :: rest => d :: '.' :: rest

def scientificText (keepPoint : Bool) (places : Nat) (num den : Nat) : List Char :=
  let (ds, e) := significant places num den
  pointed keepPoint ds ++ exponentText 'e' e

/-- Drops the zeros at the end of digits, of which the first `keep` stay. -/
def dropTrailingZeros (keep : Nat) (ds : List Char) : List Char :=
  ds.take keep ++ ((ds.drop keep).reverse.dropWhile (· = '0')).reverse

/-- The value with a number of significant digits, positionally where the first
of them stands for a power of ten from -4 up to that number. Zeros at the end
are dropped unless the point is kept. -/
def generalText (keepPoint : Bool) (digits : Nat) (num den : Nat) : List Char :=
  let digits := if digits = 0 then 1 else digits
  let (ds, e) := significant (digits - 1) num den
  if -4 ≤ e ∧ e < digits then
    if e < 0 then
      let ds := if keepPoint then ds else dropTrailingZeros 1 ds
      '0' :: '.' :: List.replicate (-e - 1).toNat '0' ++ ds
    else
      let whole := e.toNat + 1
      let ds := if keepPoint then ds else dropTrailingZeros whole ds
      let fraction := ds.drop whole
      ds.take whole ++ (if fraction.isEmpty && !keepPoint then [] else '.' :: fraction)
  else
    let ds := if keepPoint then ds else dropTrailingZeros 1 ds
    pointed keepPoint ds ++ exponentText 'e' e

/-- The ways to lay out a number. -/
inductive Layout
  | fixed
  | scientific
  | general
deriving DecidableEq, Repr

/-- The text of the absolute value of a number. -/
def magnitudeText (layout : Layout) (keepPoint : Bool) (precision : Nat) (x : Binary64) :
    List Char :=
  match x with
  | .nan => "nan".toList
  | .infinite _ => "inf".toList
  | .finite _ m e =>
    let (num, den) := scaleDown m 1 (-e)
    match layout with
    | .fixed => fixedText keepPoint precision num den
    | .scientific => scientificText keepPoint precision num den
    | .general => generalText keepPoint precision num den

end SchemaDocs.Binary64
