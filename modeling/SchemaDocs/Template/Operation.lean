import SchemaDocs.Number.Power
import SchemaDocs.Template.Percent

/-!
# Operations on items

Arithmetic takes integers and floating-point numbers, and truth values count as
zero and one. Adding joins texts, tuples or lists, multiplying repeats them, and
the remainder of a text is the text filled in as a format. Wherever text meets
markup the result is markup, and the text is escaped for HTML on the way.

An operation on an undefined value fails with its reason, unless the other
operand takes it as it is.
-/

namespace SchemaDocs.Template

/-- Concatenates results until one fails. -/
def joinResults : List (Except RenderError String) → Except RenderError String
  | [] => .ok ""
  | r :: rest => do return (← r) ++ (← joinResults rest)

namespace Item

inductive ArithmeticOp
  | add
  | sub
  | mul
  | div
  | floorDiv
  | mod
  | pow
deriving DecidableEq, Repr

/-- An operator as messages about its operands show it. -/
def ArithmeticOp.text : ArithmeticOp → String
  | .add => "+"
  | .sub => "-"
  | .mul => "*"
  | .div => "/"
  | .floorDiv => "//"
  | .mod => "%"
  | .pow => "** or pow()"

/-! ## Numbers -/

/-- The nearest double to the quotient, unless it is out of range. -/
def divideInts (a b : Int) : Except RenderError Item :=
  if b = 0 then .error (.divisionByZero "division by zero")
  else match Binary64.ofRatio ((a < 0) != (b < 0)) a.natAbs b.natAbs with
    | .infinite _ => .error (.overflow "integer division result too large for a float")
    | x => .ok (.float x)

def powerOfFloats (x y : Binary64) : Except RenderError Item :=
  if x.isZero && y.isNegative && !y.isZero then
    .error (.divisionByZero "0.0 cannot be raised to a negative power")
  else match x, y, x.power y with
    | .finite _ _ _, .finite _ _ _, .infinite _ =>
      .error (.overflow "(34, 'Numerical result out of range')")
    | _, _, z => .ok (.float z)

def applyFloats (op : ArithmeticOp) (x y : Binary64) : Except RenderError Item :=
  match op with
  | .add => .ok (.float (x.add y))
  | .sub => .ok (.float (x.sub y))
  | .mul => .ok (.float (x.mul y))
  | .div =>
    if y.isZero then .error (.divisionByZero "float division by zero")
    else .ok (.float (x.div y))
  | .floorDiv =>
    if y.isZero then .error (.divisionByZero "float floor division by zero")
    else .ok (.float (x.floorQuotient y))
  | .mod =>
    if y.isZero then .error (.divisionByZero "float modulo")
    else .ok (.float (x.floorRemainder y))
  | .pow => powerOfFloats x y

def applyInts (op : ArithmeticOp) (a b : Int) : Except RenderError Item :=
  match op with
  | .add => .ok (.int (a + b))
  | .sub => .ok (.int (a - b))
  | .mul => .ok (.int (a * b))
  | .div => divideInts a b
  | .floorDiv =>
    if b = 0 then .error (.divisionByZero "integer division or modulo by zero")
    else .ok (.int (Int.fdiv a b))
  | .mod =>
    if b = 0 then .error (.divisionByZero "integer modulo by zero")
    else .ok (.int (Int.fmod a b))
  | .pow =>
    if 0 ≤ b then .ok (.int (a.pow b.toNat))
    else do powerOfFloats (← realOfWhole a) (← realOfWhole b)

def applyNumbers (op : ArithmeticOp) : Number → Number → Except RenderError Item
  | .int a, .int b => applyInts op a b
  | x, y => do applyFloats op (← x.real) (← y.real)

/-! ## Sequences -/

/-- The largest size that a sequence may be given. -/
def sizeLimit : Int := Nat.pow 2 63

/-- How often a sequence can be repeated. -/
def repetitions (n : Int) : Except RenderError Nat :=
  if n ≥ sizeLimit ∨ n < -sizeLimit then
    .error (.overflow "cannot fit 'int' into an index-sized integer")
  else .ok n.toNat

/-- The sequence repeated, if the item is a sequence other than markup. -/
def repeated? (n : Nat) : Item → Option Item
  | .text s => some (.text (String.ofList (List.replicate n s.toList).flatten))
  | .list items _ => some (.list (List.replicate n items).flatten)
  | .tuple items => some (.tuple (List.replicate n items).flatten)
  | .bytes octets => some (.bytes (List.replicate n octets).flatten)
  | _ => none

def repeatMarkup (s : String) (other : Item) : Except RenderError Item :=
  match other.whole? with
  | some n => do
    return .markup (String.ofList (List.replicate (← repetitions n) s.toList).flatten)
  | none => .error (.notAnInteger other.kind)

def isSequence (item : Item) : Bool := (item.repeated? 0).isSome

/-- A sequence on either side is repeated; of two the left one. -/
def multiplySequences (a b : Item) : Except RenderError Item :=
  let (sequence, other) := if a.isSequence then (a, b) else (b, a)
  match other.whole? with
  | some n => do return (sequence.repeated? (← repetitions n)).getD .null
  | none => .error (.cannotRepeat other.kind)

/-- What an item adds to markup: markup as it is, and text escaped. -/
def markupPart? : Item → Option String
  | .text s => some (Text.escapeHtml s)
  | .markup s => some s
  | .imported _ _ _ body => some body
  | _ => none

def addSequences (a b : Item) : Except RenderError Item :=
  let meetsMarkup := a matches .markup _ || b matches .markup _
  match a, b, a.markupPart?, b.markupPart? with
  | .text s, .text t, _, _ => .ok (.text (s ++ t))
  | .text _, b, s, t =>
    match meetsMarkup, s, t with
    | true, some s, some t => .ok (.markup (s ++ t))
    | _, _, _ => .error (.cannotConcatenate "str" b.kind)
  | .list xs _, .list ys _, _, _ => .ok (.list (xs ++ ys))
  | .list _ _, b, _, _ => .error (.cannotConcatenate "list" b.kind)
  | .tuple xs, .tuple ys, _, _ => .ok (.tuple (xs ++ ys))
  | .tuple _, b, _, _ => .error (.cannotConcatenate "tuple" b.kind)
  | .bytes xs, .bytes ys, _, _ => .ok (.bytes (xs ++ ys))
  | .bytes _, b, _, _ => .error (.cannotAppend b.kind)
  | a, b, s, t =>
    match meetsMarkup, s, t with
    | true, some s, some t => .ok (.markup (s ++ t))
    | _, _, _ => .error (.unsupported "+" a.kind b.kind)

/-! ## Operators -/

/-- Fills in a format. -/
def formatted (medium : Percent.Medium) (format : List Char) (item : Item)
    (make : List Char → Item) : Except RenderError Item :=
  (Percent.fill medium format item).map make

def arithmetic (op : ArithmeticOp) (a b : Item) : Except RenderError Item :=
  match op, a, b with
  | .mod, .text s, b => formatted .text s.toList b fun cs => .text (String.ofList cs)
  | .mod, .markup s, b =>
    formatted .markup s.toList b fun cs => .markup (String.ofList cs)
  | .mod, .bytes octets, b =>
    formatted .octets (octets.map fun x => Char.ofNat x.toNat) b fun cs =>
      .bytes (cs.map fun c => UInt8.ofNat c.toNat)
  | .mul, .markup s, b => repeatMarkup s b
  | _, .undefined why _, _ => .error (.undefined why)
  | .mul, a, .markup s => repeatMarkup s a
  | _, _, .undefined why _ => .error (.undefined why)
  | op, a, b =>
    match a.number?, b.number? with
    | some x, some y => applyNumbers op x y
    | _, _ =>
      match op with
      | .add => addSequences a b
      | .mul =>
        if a.isSequence || b.isSequence then multiplySequences a b
        else .error (.unsupported "*" a.kind b.kind)
      | op => .error (.unsupported op.text a.kind b.kind)

def negate (item : Item) : Except RenderError Item :=
  match item with
  | .undefined why _ => .error (.undefined why)
  | _ => match item.number? with
    | some (.int n) => .ok (.int (-n))
    | some (.float x) => .ok (.float x.neg)
    | none => .error (.badOperand "-" item.kind)

def positive (item : Item) : Except RenderError Item :=
  match item with
  | .undefined why _ => .error (.undefined why)
  | _ => match item.number? with
    | some (.int n) => .ok (.int n)
    | some (.float x) => .ok (.float x)
    | none => .error (.badOperand "+" item.kind)

/-- Joins the plain forms of items. From the first markup on everything is
markup, and what came before it is escaped too. -/
def concat (items : List Item) : Except RenderError Item := do
  let isMarkup : Item → Bool := fun item => item matches .markup _
  if items.any isMarkup then
    return .markup (← joinResults (items.map fun item => match item with
      | .markup s => .ok s
      | item => item.display.map Text.escapeHtml))
  else return .text (← joinResults (items.map display))

end Item

end SchemaDocs.Template
