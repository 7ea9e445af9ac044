import SchemaDocs.Number.Numeral
import SchemaDocs.Template.Comparison

/-!
# Numbers from items

A whole number can be had from any number, cut off behind the point, and from a
text that spells one; a real number from any number and from a text that spells
one. Other items refuse, and say so in their own way where nothing else does.
-/

namespace SchemaDocs.Template

namespace Item

/-- A whole number as a real one, if there is one of its size. -/
def realOfWhole (n : Int) : Except RenderError Binary64 :=
  match Binary64.ofInt n with
  | .infinite _ => .error (.overflow "int too large to convert to float")
  | x => .ok x

def Number.real : Number → Except RenderError Binary64
  | .int n => realOfWhole n
  | .float x => .ok x

/-- The whole part of a real number. -/
def wholePart (x : Binary64) : Except RenderError Int :=
  match x, x.truncate? with
  | _, some n => .ok n
  | .infinite _, none => .error (.overflow "cannot convert float infinity to integer")
  | _, none => .error .wholeOfNan

def Number.whole : Number → Except RenderError Int
  | .int n => .ok n
  | .float x => wholePart x

/-- The octets of a number in ASCII as text. -/
def asciiText? (octets : List UInt8) : Option String :=
  if octets.all (· < 128) then
    some (String.ofList (octets.map fun b => Char.ofNat b.toNat))
  else none

/-- The digits of a text that spells a whole number, however many there are. -/
def digitCount? (s : String) : Option Nat :=
  (Numeral.readDigits true
    (Numeral.readSign (Text.trimBy Numeral.isSpace s.toList)).2).map List.length

/-- The whole number that a text spells. -/
def wholeOfText (shown s : String) : Except RenderError Int :=
  match Numeral.readInt? s, digitCount? s with
  | some n, _ => .ok n
  | none, some count =>
    .error (.refused .value
      (digitLimitMessage (": value has " ++ toString count ++ " digits")))
  | none, none => .error (.notANumber shown)

/-- The whole number in an item, if there could be one. -/
def whole (item : Item) : Except RenderError (Option Int) :=
  match item with
  | .undefined why _ => .error (.undefined why)
  | .bytes octets =>
    match asciiText? octets with
    | some s => (wholeOfText item.literal s).map some
    | none => .error (.notANumber item.literal)
  | item =>
    match item.number?, item.text? with
    | some x, _ => x.whole.map some
    | none, some s => (wholeOfText item.literal s).map some
    | none, none => .ok none

/-- The real number in an item. -/
def real (item : Item) : Except RenderError Binary64 :=
  match item with
  | .undefined why _ => .error (.undefined why)
  | item =>
    match item.number? with
    | some x => x.real
    | none =>
      match item with
      | .bytes octets =>
        match (asciiText? octets).bind Numeral.readReal? with
        | some x => .ok x
        | none =>
          .error (.refused .value ("could not convert string to float: " ++ item.literal))
      | item =>
        match item.text? with
        | some s =>
          match Numeral.readReal? s with
          | some x => .ok x
          | none =>
            .error (.refused .value
              ("could not convert string to float: " ++ item.literal))
        | none =>
          .error (.refused .type
            ("float() argument must be a string or a real number, not '" ++
              item.kind ++ "'"))

end Item

end SchemaDocs.Template
