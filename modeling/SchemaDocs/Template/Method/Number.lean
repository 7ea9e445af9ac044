import SchemaDocs.Template.Method.Parameter
import SchemaDocs.Text.Utf8

/-!
# Functions of numbers and octets

Whole numbers know their bits, and real numbers the fraction that they are.
Octets can be read as text.
-/

namespace SchemaDocs.Template

/-! ## Numbers -/

def wholeFunction? (name : String) (n : Int) : Option Item :=
  match name with
  | "bit_length" => some (.int (if n = 0 then 0 else n.natAbs.log2 + 1))
  | "bit_count" => some (.int ((Nat.toDigits 2 n.natAbs).count '1'))
  | "conjugate" => some (.int n)
  | "as_integer_ratio" => some (.tuple [.int n, .int 1])
  | _ => none

def callWhole (owner name : String) (n : Int) (args : Arguments) :
    Option (Except RenderError Item) :=
  (wholeFunction? name n).map fun item =>
    (Convention.nothing.bind owner name args).map fun _ => item

/-- The fraction in lowest terms that a real number is. -/
def fractionOf (x : Binary64) : Except RenderError Item :=
  match x with
  | .nan => refuseValue "cannot convert NaN to integer ratio"
  | .infinite _ => .error (.overflow "cannot convert Infinity to integer ratio")
  | .finite negative mantissa exponent =>
    let (num, den) := Binary64.scaleDown mantissa 1 (-exponent)
    let common := Nat.gcd num den
    let n : Int := (num / common : Nat)
    .ok (.tuple [.int (if negative then -n else n), .int (den / common : Nat)])

/-- A real number to the base sixteen, with all digits of its fraction and a
binary exponent. -/
def hexadecimal (x : Binary64) : String :=
  match x with
  | .finite negative mantissa exponent =>
    let sign := if negative then "-" else ""
    if mantissa = 0 then sign ++ "0x0.0p+0"
    else
      let e : Int := max (exponent + mantissa.log2) (-1022)
      let scaled := mantissa * Nat.pow 2 (exponent + 52 - e).toNat
      let digits := Nat.toDigits 16 (scaled % Nat.pow 2 52)
      let zeros := List.replicate (13 - digits.length) '0'
      sign ++ "0x" ++ toString (scaled / Nat.pow 2 52) ++ "." ++
        String.ofList (zeros ++ digits) ++ "p" ++
        (if e < 0 then "-" else "+") ++ toString e.natAbs
  | x => x.text

def realFunction? (name : String) (x : Binary64) : Option (Except RenderError Item) :=
  match name with
  | "is_integer" =>
    some (.ok (.bool (match x with
      | .finite _ _ _ => Binary64.compare? x x.floor == some .eq
      | _ => false)))
  | "conjugate" => some (.ok (.float x))
  | "as_integer_ratio" => some (fractionOf x)
  | "hex" => some (.ok (.text (hexadecimal x)))
  | _ => none

def callReal (name : String) (x : Binary64) (args : Arguments) :
    Option (Except RenderError Item) :=
  (realFunction? name x).map fun result => do
    let _ ← Convention.nothing.bind "float" name args
    result

/-! ## Octets -/

/-- The text that octets encode, in the one encoding that there is. -/
def decoded (octets : List UInt8) (args : List (Option Item)) :
    Except RenderError Item := do
  let name ← encodingArgument "decode" args
  if ["utf-8", "utf8", "utf_8", "UTF-8"].contains name then
    match Text.Utf8.decode octets with
    | .ok s => return .text s
    | .error fault => throw (.refused .decoding fault.message)
  else throw (.unknownEncoding name)

def callOctets (name : String) (octets : List UInt8) (args : Arguments) :
    Option (Except RenderError Item) :=
  match name with
  | "decode" =>
    some do
      decoded octets
        (← (Convention.keyed ["encoding", "errors"]).bind "bytes" name args)
  | "hex" => some do
    let _ ← (Convention.keyed ["sep", "bytes_per_sep"]).bind "bytes" name args
    return .text (String.ofList (octets.flatMap fun b => Text.hex 2 b.toNat))
  | _ => none

end SchemaDocs.Template
