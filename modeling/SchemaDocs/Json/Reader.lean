import SchemaDocs.Number.Numeral
import SchemaDocs.Value

/-!
# Reading JSON

A reader for JSON text that says where it stopped. Beyond the standard it takes
the names `NaN`, `Infinity` and `-Infinity` for numbers. A key that comes twice
keeps its first place and takes its last value. A number with a fraction or an
exponent is a double; any other is an integer of at most 4300 digits.

Readers go over a list of characters and return what is left of it. A fault
remembers how many characters were left where it was found, from which its line
and column follow once the whole text is known. The fuel of the readers counts
calls, and twice the number of characters is never used up.
-/

namespace SchemaDocs.Json

inductive Cause
  | expectingValue
  | expectingName
  | expectingComma
  | expectingColon
  | extraData
  | controlCharacter
  | badEscape
  | badUnit
  | unterminated
  | byteOrderMark
  | tooManyDigits (count : Nat)
deriving DecidableEq, Repr

def Cause.text : Cause → String
  | .expectingValue => "Expecting value"
  | .expectingName => "Expecting property name enclosed in double quotes"
  | .expectingComma => "Expecting ',' delimiter"
  | .expectingColon => "Expecting ':' delimiter"
  | .extraData => "Extra data"
  | .controlCharacter => "Invalid control character at"
  | .badEscape => "Invalid \\escape"
  | .badUnit => "Invalid \\uXXXX escape"
  | .unterminated => "Unterminated string starting at"
  | .byteOrderMark => "Unexpected UTF-8 BOM (decode using utf-8-sig)"
  | .tooManyDigits count =>
    "Exceeds the limit (" ++ toString Numeral.digitLimit ++
      " digits) for integer string conversion: value has " ++ toString count ++
      " digits; use sys.set_int_max_str_digits() to increase the limit"

/-- What is wrong, and how many characters are left from there. -/
structure Fault where
  cause : Cause
  left : Nat
deriving DecidableEq, Repr

/-- The text of a fault in a document: cause, line, column and offset. A number
with too many digits is reported without a place. -/
def Fault.message (f : Fault) (document : List Char) : String :=
  match f.cause with
  | .tooManyDigits _ => f.cause.text
  | _ =>
    let before := document.take (document.length - f.left)
    let line := before.count '\n' + 1
    let column := (before.reverse.takeWhile (· ≠ '\n')).length + 1
    f.cause.text ++ ": line " ++ toString line ++ " column " ++ toString column ++
      " (char " ++ toString before.length ++ ")"

def isSpace (c : Char) : Bool := c == ' ' || c == '\t' || c == '\n' || c == '\r'

def skipSpace (cs : List Char) : List Char := cs.dropWhile isSpace

def simpleEscape? : Char → Option Nat
  | '"' => some 0x22
  | '\\' => some 0x5C
  | '/' => some 0x2F
  | 'b' => some 0x08
  | 'f' => some 0x0C
  | 'n' => some 0x0A
  | 'r' => some 0x0D
  | 't' => some 0x09
  | _ => none

/-- The rest of a string as code points and code units, and what follows its
closing quote. An escape by code needs a character after its digits. -/
def readUnits : (fuel : Nat) → List Char → Except Fault (List Nat × List Char)
  | _, [] => .error ⟨.unterminated, 0⟩
  | 0, _ :: _ => .error ⟨.unterminated, 0⟩
  | fuel + 1, c :: rest =>
    if c = '"' then .ok ([], rest)
    else if c = '\\' then
      match rest with
      | [] => .error ⟨.unterminated, 0⟩
      | 'u' :: digits =>
        match Text.readHex? 4 digits with
        | some (n, after :: rest) => do
          let (units, rest) ← readUnits fuel (after :: rest)
          return (n :: units, rest)
        | _ => .error ⟨.badUnit, digits.length + 1⟩
      | e :: rest =>
        match simpleEscape? e with
        | some n => do
          let (units, rest) ← readUnits fuel rest
          return (n :: units, rest)
        | none => .error ⟨.badEscape, rest.length + 2⟩
    else if c.toNat < 0x20 then .error ⟨.controlCharacter, rest.length + 1⟩
    else do
      let (units, rest) ← readUnits fuel rest
      return (c.toNat :: units, rest)

def isHighSurrogate (n : Nat) : Bool := 0xD800 ≤ n && n < 0xDC00

def isLowSurrogate (n : Nat) : Bool := 0xDC00 ≤ n && n < 0xE000

/-- Joins the two code units of a character beyond the basic plane. A unit
without its other half stands for the replacement character. -/
def joinUnits : List Nat → List Char
  | [] => []
  | [n] => [if isHighSurrogate n || isLowSurrogate n then '\uFFFD' else Char.ofNat n]
  | n :: m :: rest =>
    if isHighSurrogate n && isLowSurrogate m then
      Char.ofNat (0x10000 + (n - 0xD800) * 0x400 + (m - 0xDC00)) :: joinUnits rest
    else
      (if isHighSurrogate n || isLowSurrogate n then '\uFFFD' else Char.ofNat n) ::
        joinUnits (m :: rest)

/-- The rest of a string after its opening quote. A string without an end is a
fault of that quote. -/
def readString (fuel : Nat) (cs : List Char) : Except Fault (String × List Char) :=
  match readUnits fuel cs with
  | .ok (units, rest) => .ok (String.ofList (joinUnits units), rest)
  | .error fault =>
    .error (if fault.cause = .unterminated then ⟨.unterminated, cs.length + 1⟩ else fault)

def digitRun (cs : List Char) : List Nat × List Char :=
  ((cs.takeWhile Char.isDigit).filterMap Text.asciiDigit?, cs.dropWhile Char.isDigit)

/-- A point and at least one digit. -/
def readFraction (cs : List Char) : List Nat × List Char :=
  match cs with
  | '.' :: rest =>
    match digitRun rest with
    | ([], _) => ([], cs)
    | (ds, rest) => (ds, rest)
  | _ => ([], cs)

/-- An exponent mark, a sign and at least one digit. -/
def readExponent (cs : List Char) : Option Int × List Char :=
  match cs with
  | e :: rest =>
    if e = 'e' ∨ e = 'E' then
      let (negative, digits) := Numeral.readSign rest
      match digitRun digits with
      | ([], _) => (none, cs)
      | (ds, rest) =>
        (some (if negative then -(Numeral.ofDigits ds : Int) else Numeral.ofDigits ds),
          rest)
    else (none, cs)
  | [] => (none, cs)

/-- A number; `start` is the text it begins in, for the fault when there is none. -/
def readNumber (start : List Char) : Except Fault (Value × List Char) :=
  let (negative, cs) := match start with
    | '-' :: rest => (true, rest)
    | _ => (false, start)
  let (whole, rest) := match cs with
    | '0' :: rest => ([0], rest)
    | _ => digitRun cs
  if whole.isEmpty then .error ⟨.expectingValue, start.length⟩
  else
    let (fraction, rest) := readFraction rest
    let (exponent, rest) := readExponent rest
    if fraction.isEmpty && exponent.isNone then
      if whole.length ≤ Numeral.digitLimit then
        let n : Int := Numeral.ofDigits whole
        .ok (.int (if negative then -n else n), rest)
      else .error ⟨.tooManyDigits whole.length, start.length⟩
    else
      .ok (.float (.ofDecimal negative (Numeral.ofDigits (whole ++ fraction))
        (exponent.getD 0 - fraction.length)), rest)

/-- The names that stand for values. -/
def names : List (String × Value) := [
  ("null", .null), ("true", .bool true), ("false", .bool false), ("NaN", .float .nan),
  ("Infinity", .float (.infinite false)), ("-Infinity", .float (.infinite true))]

def readName? (cs : List Char) : Option (Value × List Char) :=
  names.findSome? fun (name, v) =>
    if name.toList.isPrefixOf cs then some (v, cs.drop name.toList.length) else none

/-- A later value of a key takes the place of the earlier one. -/
def putEntry (key : String) (v : Value) : List (String × Value) → List (String × Value)
  | [] => [(key, v)]
  | (k, w) :: rest => if k = key then (k, v) :: rest else (k, w) :: putEntry key v rest

mutual

def readValue : (fuel : Nat) → List Char → Except Fault (Value × List Char)
  | 0, cs => .error ⟨.expectingValue, cs.length⟩
  | fuel + 1, cs =>
    match cs with
    | '"' :: rest => do
      let (s, rest) ← readString (fuel + 1) rest
      return (.text s, rest)
    | '[' :: rest =>
      match skipSpace rest with
      | ']' :: rest => .ok (.list [], rest)
      | rest => do
        let (items, rest) ← readItems fuel rest
        return (.list items, rest)
    | '{' :: rest =>
      match skipSpace rest with
      | '}' :: rest => .ok (.object [], rest)
      | rest => do
        let (entries, rest) ← readEntries fuel [] rest
        return (.object entries, rest)
    | _ =>
      match readName? cs with
      | some result => .ok result
      | none => readNumber cs

/-- At least one item, up to and with the closing bracket. -/
def readItems : (fuel : Nat) → List Char → Except Fault (List Value × List Char)
  | 0, cs => .error ⟨.expectingValue, cs.length⟩
  | fuel + 1, cs => do
    let (v, rest) ← readValue fuel cs
    match skipSpace rest with
    | ']' :: rest => return ([v], rest)
    | ',' :: rest => do
      let (items, rest) ← readItems fuel (skipSpace rest)
      return (v :: items, rest)
    | rest => .error ⟨.expectingComma, rest.length⟩

/-- At least one entry, up to and with the closing brace. -/
def readEntries : (fuel : Nat) → List (String × Value) → List Char →
    Except Fault (List (String × Value) × List Char)
  | 0, _, cs => .error ⟨.expectingName, cs.length⟩
  | fuel + 1, entries, cs =>
    match cs with
    | '"' :: rest => do
      let (key, rest) ← readString (fuel + 1) rest
      match skipSpace rest with
      | ':' :: rest => do
        let (v, rest) ← readValue fuel (skipSpace rest)
        let entries := putEntry key v entries
        match skipSpace rest with
        | '}' :: rest => return (entries, rest)
        | ',' :: rest => readEntries fuel entries (skipSpace rest)
        | rest => .error ⟨.expectingComma, rest.length⟩
      | rest => .error ⟨.expectingColon, rest.length⟩
    | _ => .error ⟨.expectingName, cs.length⟩

end

def readDocument (cs : List Char) : Except Fault Value := do
  if cs.head? = some '\uFEFF' then .error ⟨.byteOrderMark, cs.length⟩
  let start := skipSpace cs
  let (v, rest) ← readValue (2 * start.length + 2) start
  match skipSpace rest with
  | [] => return v
  | rest => .error ⟨.extraData, rest.length⟩

/-- The value of a document, or the message of the first fault in it. -/
def parse (document : String) : Except String Value :=
  let cs := document.toList
  (readDocument cs).mapError (·.message cs)

end SchemaDocs.Json
