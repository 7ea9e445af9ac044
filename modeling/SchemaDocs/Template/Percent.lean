import SchemaDocs.Number.Fixed
import SchemaDocs.Template.Conversion

/-!
# Filling in a format

A format is text with places in it, each of which begins with a percent sign and
ends with a letter that says how a value is shown there: `%s` as it is, `%r`
quoted, `%d` as a whole number, `%x` and `%o` to other bases, `%f`, `%e` and
`%g` as a real number, `%c` as a character. In between there may be the key of
the value, flags, a width and a precision; an asterisk takes either of these
from the values. Two percent signs are one.

The values are the items of a tuple in order, or a single item, or the entries
of a mapping by their keys. All of them have to be used, except those of a
mapping.

Markup is filled in with values that are escaped on the way, and octets with
octets. `Medium` says what the format is.
-/

namespace SchemaDocs.Template

namespace Percent

inductive Medium
  | text
  | markup
  | octets
deriving DecidableEq, Repr

structure Flags where
  left : Bool := false
  sign : Bool := false
  blank : Bool := false
  alternate : Bool := false
  zero : Bool := false
deriving DecidableEq, Repr

/-- A place in a format: everything but its key. -/
structure Place where
  flags : Flags
  width : Option Nat
  precision : Option Nat
  conversion : Char

/-- The values that are still to be used. -/
abbrev Filling := StateT (List Item) (Except RenderError)

def refuse (fault : FormatFault) : Filling α := throw (.format fault)

def attempt (result : Except RenderError α) : Filling α :=
  fun supply => result.map (·, supply)

def takeValue : Filling Item := do
  match ← get with
  | [] => refuse .tooFew
  | item :: rest =>
    set rest
    return item

/-! ## Reading a place -/

def readFlags (flags : Flags) : List Char → Flags × List Char
  | '-' :: cs => readFlags { flags with left := true } cs
  | '+' :: cs => readFlags { flags with sign := true } cs
  | ' ' :: cs => readFlags { flags with blank := true } cs
  | '#' :: cs => readFlags { flags with alternate := true } cs
  | '0' :: cs => readFlags { flags with zero := true } cs
  | cs => (flags, cs)

/-- A number in the format, which has to stay below a limit. -/
def readCount (limit : Nat) (fault : FormatFault) (cs : List Char) :
    Except RenderError (Nat × List Char) :=
  let n := (cs.takeWhile Char.isDigit).foldl (fun n c => 10 * n + (c.toNat - 48)) 0
  if n < limit then .ok (n, cs.dropWhile Char.isDigit) else .error (.format fault)

/-- A number from the values, for an asterisk. -/
def takeCount (limit : Int) (overflow : String) : Filling Int := do
  match ← takeValue with
  | .bool b => return b.toNat
  | .int n => if -limit ≤ n ∧ n < limit then return n else throw (.overflow overflow)
  | _ => refuse .widthNotInteger

def readWidth (marked : Bool) (flags : Flags) (cs : List Char) :
    Filling (Flags × Option Nat × List Char) := do
  match cs with
  | '*' :: rest =>
    if marked then
      let _ ← takeValue
      refuse .widthNotInteger
    let n ← takeCount (Nat.pow 2 63) "Python int too large to convert to C ssize_t"
    return (if n < 0 then { flags with left := true } else flags, some n.natAbs, rest)
  | c :: _ =>
    if c.isDigit then
      let (n, rest) ← attempt (readCount (Nat.pow 2 63) .widthTooBig cs)
      return (flags, some n, rest)
    else return (flags, none, cs)
  | [] => return (flags, none, cs)

def readPrecision (marked : Bool) (cs : List Char) :
    Filling (Option Nat × List Char) := do
  match cs with
  | '.' :: '*' :: rest =>
    if marked then
      let _ ← takeValue
      refuse .widthNotInteger
    let n ← takeCount (Nat.pow 2 31) "Python int too large to convert to C int"
    return (some n.toNat, rest)
  | '.' :: rest =>
    let (n, rest) ← attempt (readCount (Nat.pow 2 31) .precisionTooBig rest)
    return (some n, rest)
  | cs => return (none, cs)

/-- A letter that speaks of sizes and means nothing. -/
def skipSize : List Char → List Char
  | 'h' :: rest => rest
  | 'l' :: rest => rest
  | 'L' :: rest => rest
  | cs => cs

/-- A place behind its key, and what follows it. -/
def readPlace (marked : Bool) (cs : List Char) : Filling (Place × List Char) := do
  let (flags, cs) := readFlags {} cs
  let (flags, width, cs) ← readWidth marked flags cs
  let (precision, cs) ← readPrecision marked cs
  match skipSize cs with
  | c :: rest => return (⟨flags, width, precision, c⟩, rest)
  | [] => refuse .incomplete

/-- Passes a number of at most two digits. -/
def skipShortCount? (cs : List Char) : Option (List Char) :=
  if (cs.takeWhile Char.isDigit).length < 3 then some (cs.dropWhile Char.isDigit)
  else none

/-- The letters of the places in a format that only shows values, as they are or
quoted. `fuel` bounds the characters. -/
def showLetters? : (fuel : Nat) → List Char → Option (List Char)
  | _, [] => some []
  | 0, _ :: _ => none
  | fuel + 1, '%' :: '%' :: rest => showLetters? fuel rest
  | fuel + 1, '%' :: rest => do
    let rest ← skipShortCount? (readFlags {} rest).2
    let rest ← match rest with
      | '.' :: digits => skipShortCount? digits
      | _ => some rest
    match rest with
    | c :: rest =>
      if c = 's' ∨ c = 'r' ∨ c = 'a' then return c :: (← showLetters? fuel rest) else none
    | [] => none
  | fuel + 1, _ :: rest => showLetters? fuel rest

/-- The key up to the bracket that closes it, and what follows. -/
def readKey (depth : Nat) : List Char → Option (List Char × List Char)
  | [] => none
  | ')' :: rest =>
    match depth with
    | 0 => some ([], rest)
    | n + 1 => (readKey n rest).map fun (key, left) => (')' :: key, left)
  | '(' :: rest => (readKey (depth + 1) rest).map fun (key, left) => ('(' :: key, left)
  | c :: rest => (readKey depth rest).map fun (key, left) => (c :: key, left)

/-! ## Showing a value -/

/-- The kind of a value as a format of this medium sees it: markup wraps
everything that it is given. -/
def seenKind (medium : Medium) (item : Item) : String :=
  if medium = .markup then "_MarkupEscapeHelper" else item.kind

def isIntegral (conversion : Char) : Bool :=
  conversion = 'o' || conversion = 'x' || conversion = 'X'

def wholeFault (medium : Medium) (conversion : Char) (item : Item) : RenderError :=
  let conversion := if medium = .octets ∧ conversion = 'i' then 'd' else conversion
  if isIntegral conversion then .format (.needsInteger conversion (seenKind medium item))
  else .format (.needsReal conversion (seenKind medium item))

/-- The whole number that a place shows. Outside of markup a text is no number. -/
def wholeValue (medium : Medium) (conversion : Char) (item : Item) :
    Except RenderError Int :=
  let fault := wholeFault medium conversion item
  if isIntegral conversion then
    match medium, item.whole? with
    | .markup, _ => .error fault
    | _, some n => .ok n
    | _, none => .error fault
  else
    match medium, item with
    | .markup, item => do
      match ← item.whole with
      | some n => return n
      | none => throw fault
    | _, .undefined why _ => .error (.undefined why)
    | _, item =>
      match item.number? with
      | some x => x.whole
      | none => .error fault

/-- The real number that a place shows. In octets there is one word for all that
is none. -/
def realValue (medium : Medium) (item : Item) : Except RenderError Binary64 :=
  match medium, item with
  | .markup, item => item.real
  | .octets, item =>
    match item.number?.map Item.Number.real with
    | some (.ok x) => .ok x
    | _ => .error (.format (.floatRequired item.kind))
  | .text, .undefined why _ => .error (.undefined why)
  | .text, item =>
    match item.number? with
    | some x => x.real
    | none => .error (.format (.notReal item.kind))

/-- The absolute value of a whole number to a base, with at least so many digits. -/
def wholeText (p : Place) (n : Int) : Except RenderError (List Char) :=
  let (base, mark) := match p.conversion with
    | 'o' => (8, ['0', 'o'])
    | 'x' => (16, ['0', 'x'])
    | 'X' => (16, ['0', 'X'])
    | _ => (10, [])
  if base = 10 ∧ Nat.pow 10 4300 ≤ n.natAbs then .error .tooManyDigits
  else
    let ds := Nat.toDigits base n.natAbs
    let ds := if p.conversion = 'X' then ds.map Char.toUpper else ds
    let zeros := List.replicate (p.precision.getD 0 - ds.length) '0'
    .ok ((if p.flags.alternate then mark else []) ++ zeros ++ ds)

def signed (isNegative : Bool) (cs : List Char) : List Char :=
  if isNegative then '-' :: cs else cs

def realText (p : Place) (x : Binary64) : List Char :=
  let layout : Binary64.Layout := match p.conversion.toLower with
    | 'f' => .fixed
    | 'e' => .scientific
    | _ => .general
  let cs := Binary64.magnitudeText layout p.flags.alternate (p.precision.getD 6) x
  signed x.isNegative (if p.conversion.isUpper then cs.map Char.toUpper else cs)

def charText (item : Item) : Except RenderError (List Char) :=
  match item.text?.map String.toList, item.whole? with
  | some [c], _ => .ok [c]
  | none, some n =>
    if 0 ≤ n ∧ n < 0x110000 then .ok [Char.ofNat n.toNat]
    else .error (.format .characterRange)
  | _, _ => .error (.format .needsCharacter)

def octetText (item : Item) : Except RenderError (List Char) :=
  match item, item.whole? with
  | .bytes [b], _ => .ok [Char.ofNat b.toNat]
  | _, some n =>
    if 0 ≤ n ∧ n < 256 then .ok [Char.ofNat n.toNat] else .error (.format .octetRange)
  | _, none => .error (.format .needsOctet)

/-- Characters beyond ASCII by their codes. -/
def asciiForm (cs : List Char) : List Char :=
  cs.flatMap fun c => if c.toNat < 128 then [c] else Text.escapeCode c.toNat

def unknownConversion (medium : Medium) (c : Char) (index : Nat) : RenderError :=
  if medium = .octets ∧ 128 ≤ c.toNat then
    .overflow "character argument not in range(0x110000)"
  else
    let isShown := medium = .octets ∨ (31 ≤ c.toNat ∧ c.toNat ≤ 126)
    .format (.unknown (if isShown then String.ofList [c] else "?") c.toNat index)

/-- The text of a value before it is brought to its width, and whether it may
have a sign. -/
def valueText (medium : Medium) (p : Place) (index : Nat) (item : Item) :
    Except RenderError (List Char × Bool) := do
  let escape (s : String) : List Char := (Text.escapeHtml s).toList
  match p.conversion with
  | 's' =>
    match medium, item with
    | .text, item => return ((← item.display).toList, false)
    | .markup, item =>
      let s ← item.display
      return (if item.isMarked then s.toList else escape s, false)
    | .octets, .bytes octets => return (octets.map fun b => Char.ofNat b.toNat, false)
    | .octets, item => throw (.format (.needsOctets item.kind))
  | 'b' =>
    match medium, item with
    | .octets, .bytes octets => return (octets.map fun b => Char.ofNat b.toNat, false)
    | .octets, item => throw (.format (.needsOctets item.kind))
    | medium, _ => throw (unknownConversion medium 'b' index)
  | 'r' =>
    let s ← item.quotedForm
    return (match medium with
      | .text => s.toList
      | .markup => escape s
      | .octets => asciiForm s.toList, false)
  | 'a' =>
    let s ← item.quotedForm
    return (asciiForm (if medium = .markup then escape s else s.toList), false)
  | 'c' =>
    match medium with
    | .text => return (← charText item, false)
    | .markup => throw (.format .needsCharacter)
    | .octets => return (← octetText item, false)
  | c =>
    if c ∈ ['d', 'i', 'u', 'o', 'x', 'X'] then
      let n ← wholeValue medium c item
      return (signed (n < 0) (← wholeText p n), true)
    else if c ∈ ['e', 'E', 'f', 'F', 'g', 'G'] then
      return (realText p (← realValue medium item), true)
    else throw (unknownConversion medium c index)

/-- The sign that a number is shown with, and the number without it. -/
def splitSign (flags : Flags) (cs : List Char) : List Char × List Char :=
  match cs with
  | '-' :: rest => (['-'], rest)
  | '+' :: rest => (['+'], rest)
  | cs => (if flags.sign then ['+'] else if flags.blank then [' '] else [], cs)

/-- Brings a text to its width. Zeros go between the sign or the mark of a base
and the digits. -/
def fit (p : Place) (isNumber : Bool) (cs : List Char) : List Char :=
  let (sign, body) := if isNumber then splitSign p.flags cs else ([], cs)
  let hasMark := p.flags.alternate && isIntegral p.conversion
  let lead := sign ++ if hasMark then body.take 2 else []
  let body := if hasMark then body.drop 2 else body
  let missing := p.width.getD 0 - (lead.length + body.length)
  if p.flags.left then lead ++ body ++ List.replicate missing ' '
  else if p.flags.zero && isNumber then lead ++ List.replicate missing '0' ++ body
  else List.replicate missing ' ' ++ lead ++ body

def clip (p : Place) (cs : List Char) : List Char :=
  match p.precision with
  | some n => if p.conversion ∈ ['s', 'b', 'r', 'a'] then cs.take n else cs
  | none => cs

/-! ## The whole format -/

/-- Is the item asked for values by their keys? -/
def isMapping (medium : Medium) : Item → Bool
  | .list _ _ => true
  | .dict _ _ => true
  | .bytes _ => medium ≠ .octets
  | .range _ _ _ => true
  | .undefined _ _ => true
  | .self => true
  | _ => false

/-- The value that a mapping has for a key. -/
def valueOfKey (medium : Medium) (mapping : Item) (key : List Char) :
    Except RenderError Item :=
  let keyItem : Item :=
    if medium = .octets then .bytes (key.map fun c => UInt8.ofNat c.toNat)
    else .text (String.ofList key)
  let refuse (noun : String) : Except RenderError Item :=
    .error (.refused .type (noun ++ " indices must be integers or slices, not " ++
      keyItem.kind))
  match mapping with
  | .undefined why _ => .error (.undefined why)
  | .dict entries _ => do
    match ← Item.lookUp entries keyItem with
    | some item => return item
    | none => throw (.noKey keyItem.literal)
  | .self => .error (.noKey keyItem.literal)
  | .bytes _ => refuse "byte"
  | item => refuse item.kind

/-- Fills in a format; `total` is the length of all of it. -/
def fillFrom (medium : Medium) (total : Nat) (mapping : Option Item) :
    (fuel : Nat) → List Char → Filling (List Char)
  | _, [] => return []
  | 0, _ :: _ => return []
  | fuel + 1, '%' :: '%' :: rest => do
    return '%' :: (← fillFrom medium total mapping fuel rest)
  | fuel + 1, '%' :: cs => do
    let cs ← match cs with
      | '(' :: rest =>
        match mapping, readKey 0 rest with
        | none, _ => refuse .needsMapping
        | some _, none => refuse .incompleteKey
        | some mapping, some (key, rest) =>
          set [← attempt (valueOfKey medium mapping key)]
          pure rest
      | cs => pure cs
    let (place, rest) ← readPlace (medium = .markup) cs
    let item ← takeValue
    let (shown, isNumber) ← attempt
      (valueText medium place (total - rest.length - 1) item)
    return fit place isNumber (clip place shown) ++
      (← fillFrom medium total mapping fuel rest)
  | fuel + 1, c :: rest => do return c :: (← fillFrom medium total mapping fuel rest)

/-- Fills in a format with an item. -/
def fill (medium : Medium) (format : List Char) (item : Item) :
    Except RenderError (List Char) := do
  let supply := match item with
    | .tuple items => items
    | item => [item]
  let mapping := if isMapping medium item then some item else none
  let (out, left) ←
    (fillFrom medium format.length mapping format.length format).run supply
  if mapping.isNone && !left.isEmpty then throw (.format (.leftover (medium = .octets)))
  return out

end Percent

end SchemaDocs.Template
