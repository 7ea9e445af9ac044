import SchemaDocs.Number.Binary64

/-!
# Powers of real numbers

A power is left to the arithmetic of the machine, which knows how to take one
with an exponent that is not whole. Going to its numbers and back loses nothing.
-/

namespace SchemaDocs.Binary64

def toMachine : Binary64 → Float
  | .nan => 0.0 / 0.0
  | .infinite negative => if negative then -1.0 / 0.0 else 1.0 / 0.0
  | .finite negative mantissa exponent =>
    let x := (Float.ofNat mantissa).scaleB exponent
    if negative then -x else x

/-- The sign bit is the highest one; it tells the two zeros apart. -/
def ofMachine (x : Float) : Binary64 :=
  let negative := x.toBits ≥ 0x8000000000000000
  if x.isNaN then .nan
  else if x.isInf then .infinite negative
  else
    let (fraction, exponent) := x.abs.frExp
    let mantissa := (fraction.scaleB 53).toUInt64.toNat
    if mantissa = 0 then zero negative else
      let y := ofScaledInt mantissa (exponent - 53)
      if negative then y.neg else y

def power (x y : Binary64) : Binary64 := ofMachine (Float.pow x.toMachine y.toMachine)

end SchemaDocs.Binary64
