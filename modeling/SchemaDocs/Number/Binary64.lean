/-!
# Binary64 numbers

The floating-point numbers of a descriptor are IEEE 754 doubles, held here as
what they stand for: a sign, and a mantissa times a power of two. Every
operation computes its exact result as a fraction and rounds it once, to the
nearest double, a tie to the even mantissa. `ofRatio` is that rounding, and the
only place where it happens.

The smallest exponent is -1074; a finite number whose mantissa has 53 bits may
have any exponent from there to 971.
-/

namespace SchemaDocs

inductive Binary64
  | nan
  | infinite (negative : Bool)
  | finite (negative : Bool) (mantissa : Nat) (exponent : Int)
deriving DecidableEq, Repr

namespace Binary64

def zero (negative : Bool) : Binary64 := .finite negative 0 (-1074)

/-- Half of the denominator decides; exactly half goes to the even quotient. -/
def divRoundEven (num den : Nat) : Nat :=
  let q := num / den
  let r := num % den
  if 2 * r > den || (2 * r == den && q % 2 == 1) then q + 1 else q

/-- `num / den * 2 ^ (-e)` as a fraction of natural numbers. -/
def scaleDown (num den : Nat) (e : Int) : Nat × Nat :=
  if e ≥ 0 then (num, den * Nat.pow 2 e.toNat) else (num * Nat.pow 2 (-e).toNat, den)

/-- The exponent at which the integer part of `num / den` has 53 bits, or -1074
where that is larger. -/
def roundingExponent (num den : Nat) : Int :=
  let e := (num.log2 : Int) - (den.log2 : Int) - 53
  let (n, d) := scaleDown num den e
  let e := if n / d ≥ Nat.pow 2 53 then e + 1 else e
  if e < -1074 then -1074 else e

/-- The double nearest to `num / den`. -/
def ofRatio (negative : Bool) (num den : Nat) : Binary64 :=
  if num = 0 then zero negative
  else
    let e := roundingExponent num den
    let (n, d) := scaleDown num den e
    let m := divRoundEven n d
    let (m, e) := if m = Nat.pow 2 53 then (Nat.pow 2 52, e + 1) else (m, e)
    if e > 971 then .infinite negative else .finite negative m e

/-- The double nearest to `digits * 10 ^ exponent`. Numbers far outside the
range need no arithmetic: with `count` digits the value lies below
`10 ^ (count + exponent)`. -/
def ofDecimal (negative : Bool) (digits : Nat) (exponent : Int) : Binary64 :=
  let count : Int := digits.log2 / 3 + 1
  if digits = 0 then zero negative
  else if exponent > 400 then .infinite negative
  else if count + exponent < -400 then zero negative
  else if exponent ≥ 0 then ofRatio negative (digits * Nat.pow 10 exponent.toNat) 1
  else ofRatio negative digits (Nat.pow 10 (-exponent).toNat)

def ofInt (n : Int) : Binary64 := ofRatio (n < 0) n.natAbs 1

def isZero : Binary64 → Bool
  | .finite _ m _ => m == 0
  | _ => false

def isNegative : Binary64 → Bool
  | .nan => false
  | .infinite s => s
  | .finite s _ _ => s

def neg : Binary64 → Binary64
  | .nan => .nan
  | .infinite s => .infinite !s
  | .finite s m e => .finite (!s) m e

/-- The value of a finite number as a signed numerator over a power of two, at a
given exponent no larger than its own. -/
def signedAt (e : Int) (negative : Bool) (mantissa : Nat) (exponent : Int) : Int :=
  let n : Int := mantissa * Nat.pow 2 (exponent - e).toNat
  if negative then -n else n

/-- `n * 2 ^ e`, rounded. -/
def ofScaledInt (n : Int) (e : Int) : Binary64 :=
  if e ≥ 0 then ofRatio (n < 0) (n.natAbs * Nat.pow 2 e.toNat) 1
  else ofRatio (n < 0) n.natAbs (Nat.pow 2 (-e).toNat)

def add : Binary64 → Binary64 → Binary64
  | .nan, _ => .nan
  | _, .nan => .nan
  | .infinite s, .infinite t => if s = t then .infinite s else .nan
  | .infinite s, _ => .infinite s
  | _, .infinite t => .infinite t
  | .finite s m e, .finite t n f =>
    let g := min e f
    let sum := signedAt g s m e + signedAt g t n f
    if sum = 0 then zero (s && t) else ofScaledInt sum g

def sub (x y : Binary64) : Binary64 := add x (neg y)

def mul : Binary64 → Binary64 → Binary64
  | .nan, _ => .nan
  | _, .nan => .nan
  | .infinite s, y => if y.isZero then .nan else .infinite (s != y.isNegative)
  | x, .infinite t => if x.isZero then .nan else .infinite (x.isNegative != t)
  | .finite s m e, .finite t n f =>
    let (num, den) := scaleDown (m * n) 1 (-(e + f))
    ofRatio (s != t) num den

/-- The quotient, for a divisor that is not zero. -/
def div : Binary64 → Binary64 → Binary64
  | .nan, _ => .nan
  | _, .nan => .nan
  | .infinite _, .infinite _ => .nan
  | .infinite s, y => .infinite (s != y.isNegative)
  | x, .infinite t => zero (x.isNegative != t)
  | .finite s m e, .finite t n f =>
    let (num, den) := scaleDown m n (-(e - f))
    ofRatio (s != t) num den

/-- The integer part toward minus infinity. -/
def floor : Binary64 → Binary64
  | .finite s m e =>
    if e ≥ 0 then .finite s m e
    else
      let n := Int.fdiv (if s then -(m : Int) else m) (Nat.pow 2 (-e).toNat : Nat)
      if n = 0 then zero s else ofInt n
  | x => x

/-- The integer part toward zero, where there is one. -/
def truncate? : Binary64 → Option Int
  | .finite s m e =>
    let n : Nat := if e ≥ 0 then m * Nat.pow 2 e.toNat else m / Nat.pow 2 (-e).toNat
    some (if s then -(n : Int) else n)
  | _ => none

/-- The remainder with the sign of the dividend, exact, for a divisor that is not zero. -/
def truncatedRemainder : Binary64 → Binary64 → Binary64
  | .finite s m e, .finite _ n f =>
    let g := min e f
    let r := (m * Nat.pow 2 (e - g).toNat) % (n * Nat.pow 2 (f - g).toNat)
    if r = 0 then zero s else ofScaledInt (if s then -(r : Int) else r) g
  | .finite s m e, .infinite _ => .finite s m e
  | _, _ => .nan

/-- The remainder with the sign of the divisor, for a divisor that is not zero. -/
def floorRemainder (x y : Binary64) : Binary64 :=
  let r := truncatedRemainder x y
  if r.isZero then zero y.isNegative
  else if r.isNegative != y.isNegative then add r y else r

/-- The whole number of times that `y` goes into `x`, toward minus infinity, for
`y` not zero. -/
def floorQuotient (x y : Binary64) : Binary64 :=
  let r := truncatedRemainder x y
  let q := div (sub x r) y
  let q := if !r.isZero && r.isNegative != y.isNegative then sub q (ofInt 1) else q
  if q.isZero then zero (x.isNegative != y.isNegative) else
    let whole := floor q
    match sub q whole with
    | .finite false m e =>
      if 2 * m > Nat.pow 2 (-e).toNat && e < 0 then add whole (ofInt 1) else whole
    | _ => whole

/-- The order of two numbers, where they have one. -/
def compare? : Binary64 → Binary64 → Option Ordering
  | .nan, _ => none
  | _, .nan => none
  | .infinite s, .infinite t => some (compare (!s).toNat (!t).toNat)
  | .infinite s, _ => some (if s then .lt else .gt)
  | _, .infinite t => some (if t then .gt else .lt)
  | .finite s m e, .finite t n f =>
    let g := min e f
    some (compare (signedAt g s m e) (signedAt g t n f))

/-- The order of an integer and a number, exact. -/
def compareInt? (n : Int) : Binary64 → Option Ordering
  | .nan => none
  | .infinite t => some (if t then .gt else .lt)
  | .finite t m e =>
    let g := min 0 e
    some (compare (n * Nat.pow 2 (-g).toNat) (signedAt g t m e))

end Binary64

end SchemaDocs
