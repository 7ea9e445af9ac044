import SchemaDocs.Number.Binary64

/-!
# Shortest decimal text of a number

A number is written with the fewest significant digits that read back as the
same double; of two such decimals the nearer one, and the even one if they are
equally near. `shortest` looks at the two neighbours of the value on the grid of
one digit, then two, and so on, and takes the first grid where one of them reads
back. Seventeen digits always do.

The digits are laid out positionally while the first one stands for a power of
ten from -4 to 15, and with an exponent of at least two digits outside that
range. A whole number keeps a `.0`.
-/

namespace SchemaDocs.Binary64

/-- The largest `t` with `10 ^ t ≤ num / den`, found upward from an estimate
that is never too large. -/
def decimalExponent (num den : Nat) : Int :=
  let estimate := Int.fdiv (((num.log2 : Int) - den.log2 - 1) * 30103) 100000 - 1
  climb 4 estimate
where
  atLeast (t : Int) : Bool :=
    if t ≥ 0 then Nat.pow 10 t.toNat * den ≤ num else den ≤ num * Nat.pow 10 (-t).toNat
  climb : Nat → Int → Int
    | 0, t => t
    | fuel + 1, t => if atLeast (t + 1) then climb fuel (t + 1) else t

/-- A significand and the power of ten it is scaled by. -/
structure Decimal where
  digits : Nat
  exponent : Int

/-- The first neighbour of `num / den` on the grid `10 ^ k` that reads back,
beginning with the nearer one, or with the even one if the value is half way
between them. -/
def gridHit? (x : Binary64) (num den : Nat) (k : Int) : Option Decimal :=
  let (n, d) :=
    if k ≥ 0 then (num, den * Nat.pow 10 k.toNat) else (num * Nat.pow 10 (-k).toNat, den)
  let q := n / d
  let r := n % d
  let below : Decimal := ⟨q, k⟩
  let above : Decimal := ⟨q + 1, k⟩
  let belowFirst := 2 * r < d ∨ (2 * r = d ∧ q % 2 = 0)
  let candidates := if belowFirst then [below, above] else [above, below]
  candidates.find? fun c => ofDecimal x.isNegative c.digits c.exponent == x

/-- Drops the zeros at the end of a significand. -/
def dropZeros : Nat → Decimal → Decimal
  | 0, c => c
  | fuel + 1, c =>
    if c.digits ≠ 0 ∧ c.digits % 10 = 0 then
      dropZeros fuel ⟨c.digits / 10, c.exponent + 1⟩
    else c

/-- The decimal with the fewest digits that reads back as the number of this
mantissa and exponent. -/
def shortest (x : Binary64) (mantissa : Nat) (exponent : Int) : Decimal :=
  let (num, den) := scaleDown mantissa 1 (-exponent)
  let t := decimalExponent num den
  let found := (List.range 17).findSome? fun (n : Nat) => gridHit? x num den (t - n)
  dropZeros 20 (found.getD ⟨0, 0⟩)

/-- Digits with a point, or with an exponent, by the size of the first digit's
power of ten. -/
def layOut (c : Decimal) : String :=
  let ds := toString c.digits
  let count := ds.length
  let first : Int := c.exponent + count - 1
  if first < -4 ∨ first ≥ 16 then
    let mark := if first < 0 then "e-" else "e+"
    let e := toString first.natAbs
    let e := if e.length < 2 then "0" ++ e else e
    match ds.toList with
    | [] => ""
    | d :: [] => String.ofList [d] ++ mark ++ e
    | d :: rest => String.ofList (d :: '.' :: rest) ++ mark ++ e
  else if first < 0 then
    "0." ++ String.ofList (List.replicate (-first - 1).toNat '0') ++ ds
  else
    let whole := first.toNat + 1
    let cs := ds.toList
    let fraction := cs.drop whole
    String.ofList (cs.take whole ++ List.replicate (whole - count) '0' ++ ['.'] ++
      (if fraction.isEmpty then ['0'] else fraction))

def text (x : Binary64) : String :=
  match x with
  | .nan => "nan"
  | .infinite s => if s then "-inf" else "inf"
  | .finite s m e =>
    let sign := if s then "-" else ""
    if m = 0 then sign ++ "0.0" else sign ++ layOut (shortest x m e)

end SchemaDocs.Binary64
