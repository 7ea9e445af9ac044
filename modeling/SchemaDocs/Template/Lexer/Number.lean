import SchemaDocs.Number.Numeral
import SchemaDocs.Template.Token

/-!
# Numbers in a template

An integer is decimal, or has the mark of another base in front; a real number
has a fraction, an exponent or both. Single underscores may stand between
digits. An integer may use the decimal digits of every script; a real number
that does is recognized as one, but cannot be read.
-/

namespace SchemaDocs.Template

/-- Groups of digits with single underscores between them, as long as they go on. -/
def digitGroups (isDigit : Char → Bool) (cs : List Char) : List Char × List Char :=
  go false cs
where
  /-- An underscore belongs to the number when it has a digit on both sides. -/
  go (behindDigit : Bool) : List Char → List Char × List Char
    | [] => ([], [])
    | c :: rest =>
      if isDigit c then
        let (ds, left) := go true rest
        (c :: ds, left)
      else if c = '_' && behindDigit && rest.head?.any isDigit then go false rest
      else ([], c :: rest)

def isBinaryDigit (c : Char) : Bool := c == '0' || c == '1'

def isOctalDigit (c : Char) : Bool := '0' ≤ c && c ≤ '7'

def isDecimalDigit (c : Char) : Bool := (Text.digitValue? c).isSome

def isHexDigit (c : Char) : Bool := isDecimalDigit c || (Text.hexValue? c).isSome

def valueOf (base : Nat) (ds : List Char) : Nat :=
  ds.foldl (fun n c => base * n + (Numeral.digitOrLetter? c).getD 0) 0

/-! ## Integers -/

/-- Digits after a base mark, each of which may have an underscore in front. -/
def readBased? (base : Nat) (isDigit : Char → Bool) (cs : List Char) :
    Option (Nat × List Char) :=
  match digitGroups isDigit (Numeral.dropUnderscore cs) with
  | ([], _) => none
  | (ds, rest) => some (valueOf base ds, rest)

def readMarked? (cs : List Char) : Option (Nat × List Char) :=
  match cs with
  | '0' :: mark :: rest =>
    if mark = 'b' ∨ mark = 'B' then readBased? 2 isBinaryDigit rest
    else if mark = 'o' ∨ mark = 'O' then readBased? 8 isOctalDigit rest
    else if mark = 'x' ∨ mark = 'X' then readBased? 16 isHexDigit rest
    else none
  | _ => none

/-- An integer at the front of a text. Only zeros follow a zero. -/
def readInteger? (cs : List Char) : Option (Except SyntaxError Nat × List Char) :=
  match readMarked? cs with
  | some (n, rest) => some (.ok n, rest)
  | none =>
    let (begins, isDigit) : Bool × (Char → Bool) := match cs with
      | '0' :: _ => (true, (· == '0'))
      | c :: _ => (c.isDigit, isDecimalDigit)
      | [] => (false, isDecimalDigit)
    if begins then
      let (ds, rest) := digitGroups isDigit cs
      if ds.length ≤ Numeral.digitLimit then some (.ok (valueOf 10 ds), rest)
      else some (.error (.number (.tooManyDigits ds.length)), rest)
    else none

/-! ## Real numbers -/

/-- The digits after an exponent mark, and their sign. -/
def readExponent? (cs : List Char) : Option (Bool × List Char × List Char) :=
  match cs with
  | e :: rest =>
    if e = 'e' ∨ e = 'E' then
      let (negative, digits) := Numeral.readSign rest
      match digitGroups isDecimalDigit digits with
      | ([], _) => none
      | (ds, rest) => some (negative, ds, rest)
    else none
  | [] => none

def foreignDigit? (ds : List Char) : Option SyntaxError :=
  (ds.find? fun c => !c.isDigit).map fun c => .number (.foreignDigit c)

/-- What is wrong with the digits of a real number: the first one that is not of ASCII. -/
def realFault? (significand exponent : List Char) : Option SyntaxError :=
  let inExponent := match exponent with
    | c :: rest =>
      if c.isDigit then foreignDigit? rest else some (.number .foreignExponent)
    | [] => none
  (foreignDigit? significand).or inExponent

def realOf (whole fraction : List Char) (negative : Bool) (exponent : List Char) :
    Except SyntaxError Binary64 :=
  match realFault? (whole ++ fraction) exponent with
  | some fault => .error fault
  | none =>
    let scale : Int :=
      if negative then -(valueOf 10 exponent : Int) else valueOf 10 exponent
    .ok (.ofDecimal false (valueOf 10 (whole ++ fraction)) (scale - fraction.length))

/-- The digits behind a point, if there are any. -/
def readFraction (cs : List Char) : List Char × List Char :=
  match cs with
  | '.' :: digits =>
    match digitGroups isDecimalDigit digits with
    | ([], _) => ([], cs)
    | found => found
  | _ => ([], cs)

/-- A number with a fraction, an exponent or both. It does not begin right
behind a point. -/
def readReal? (previous : Option Char) (cs : List Char) :
    Option (Except SyntaxError Binary64 × List Char) :=
  if previous = some '.' then none
  else match digitGroups isDecimalDigit cs with
    | ([], _) => none
    | (whole, rest) =>
      let (fraction, rest) := readFraction rest
      match readExponent? rest with
      | some (negative, exponent, rest) =>
        some (realOf whole fraction negative exponent, rest)
      | none =>
        if fraction.isEmpty then none else some (realOf whole fraction false [], rest)

end SchemaDocs.Template
