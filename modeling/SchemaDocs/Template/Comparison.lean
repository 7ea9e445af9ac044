import SchemaDocs.Template.Item

/-!
# Comparing items

Numbers are compared by their values, whatever their kinds, and texts by their
characters, marked up or not. Collections are compared item by item, and an item
that is the same as the other needs no comparison: so a list is equal to itself
even where an item of it cannot be compared, or is a number that differs from
itself.

An undefined value can be compared with nothing.
-/

namespace SchemaDocs.Template

namespace Item

/-! ## Numbers and texts -/

inductive Number
  | int (n : Int)
  | float (x : Binary64)

def number? : Item → Option Number
  | .bool b => some (.int b.toNat)
  | .int n => some (.int n)
  | .float x => some (.float x)
  | _ => none

/-- A whole number that may count or point at something. -/
def whole? : Item → Option Int
  | .bool b => some b.toNat
  | .int n => some n
  | _ => none

def text? : Item → Option String
  | .text s => some s
  | .markup s => some s
  | _ => none

inductive CompareOp
  | eq
  | ne
  | lt
  | le
  | gt
  | ge
  | isIn
  | notIn
deriving DecidableEq, Repr

def compareNumbers? : Number → Number → Option Ordering
  | .int a, .int b => some (compare a b)
  | .int a, .float y => Binary64.compareInt? a y
  | .float x, .int b => (Binary64.compareInt? b x).map Ordering.swap
  | .float x, .float y => Binary64.compare? x y

/-- Do two ranges hold the same numbers? -/
def sameRange (start stop step start' stop' step' : Int) : Bool :=
  let n := rangeLength start stop step
  n == rangeLength start' stop' step' &&
    (n == 0 || start == start' && (n == 1 || step == step'))

/-! ## Equality -/

/-- The place of what can change. -/
def place? : Item → Option Nat
  | .list _ place => place
  | .dict _ place => place
  | .record _ _ place => some place
  | .again item => item.place?
  | _ => none

/-- Are two items one and the same, as far as this can make a difference to a
comparison? -/
def isIdentical : Item → Item → Bool
  | .undefined _ (some m), .undefined _ (some n) => m == n
  | .float .nan, .float .nan => true
  | x, y =>
    match x.place?, y.place? with
    | some m, some n => m == n
    | _, _ => false

/-- How deep a comparison may go. -/
def nestingLimit : Nat := 1000

mutual

/-- Equality, for items that nest no deeper than `fuel`. -/
def equals : (fuel : Nat) → Item → Item → Except RenderError Bool
  | _, .undefined why _, .undefined other _ => do
    why.orElse ()
    other.orElse true
  | _, .undefined why _, _ => why.orElse false
  | _, _, .undefined why _ => why.orElse false
  | 0, _, _ => .error .tooDeep
  | fuel + 1, a, b =>
    match a.number?, b.number? with
    | some x, some y => .ok (compareNumbers? x y == some .eq)
    | _, _ =>
      match a.text?, b.text? with
      | some s, some t => .ok (s == t)
      | _, _ =>
        match a, b with
        | .null, .null => .ok true
        | .bytes x, .bytes y => .ok (x == y)
        | .list xs _, .list ys _ =>
          if xs.length = ys.length then equalItems fuel xs ys else .ok false
        | .tuple xs, .tuple ys =>
          if xs.length = ys.length then equalItems fuel xs ys else .ok false
        | .dict xs _, .dict ys _ =>
          if xs.length = ys.length then equalEntries fuel ys xs else .ok false
        | .range i j k, .range i' j' k' => .ok (sameRange i j k i' j' k')
        | .view .keys xs _, .view .keys ys _ =>
          if xs.length = ys.length then holdsKeys fuel ys xs else .ok false
        | .view .items xs _, .view .items ys _ =>
          if xs.length = ys.length then equalEntries fuel ys xs else .ok false
        | .slice i j k, .slice i' j' k' => equalItems fuel [i, j, k] [i', j', k']
        | .macroAt _ x, .macroAt _ y => .ok (x == y)
        | .imported _ x _ _, .imported _ y _ _ => .ok (x == y)
        | .loop x _ _, .loop y _ _ => .ok (x.place == y.place)
        | .record _ _ x, .record _ _ y => .ok (x == y)
        | .self, .self => .ok true
        | .method x name, .method y other =>
          if x.place?.isSome || y.place?.isSome then
            .ok (x.place? == y.place? && name == other)
          else do return (← sameElement fuel x y) && name == other
        | .type x, .type y => .ok (x == y)
        | .function x, .function y => .ok (x == y)
        | _, _ => .ok false

/-- Equality inside collections, where an item need not be compared with itself. -/
def sameElement (fuel : Nat) (x y : Item) : Except RenderError Bool :=
  if isIdentical x y then .ok true else equals fuel x y

def equalItems (fuel : Nat) : List Item → List Item → Except RenderError Bool
  | x :: xs, y :: ys => do
    if ← sameElement fuel x y then equalItems fuel xs ys else return false
  | _, _ => .ok true

/-- What stands for a key in some entries. -/
def findEntry (fuel : Nat) (key : Item) :
    List (Item × Item) → Except RenderError (Option Item)
  | [] => .ok none
  | (k, item) :: rest => do
    if ← sameElement fuel k key then return some item else findEntry fuel key rest

/-- Does every entry stand among `all`? -/
def equalEntries (fuel : Nat) (all : List (Item × Item)) :
    List (Item × Item) → Except RenderError Bool
  | [] => .ok true
  | (key, x) :: rest => do
    match ← findEntry fuel key all with
    | some y =>
      if ← sameElement fuel x y then equalEntries fuel all rest else return false
    | none => return false

def holdsKeys (fuel : Nat) (all : List (Item × Item)) :
    List (Item × Item) → Except RenderError Bool
  | [] => .ok true
  | (key, _) :: rest => do
    match ← findEntry fuel key all with
    | some _ => holdsKeys fuel all rest
    | none => return false

end

def same (a b : Item) : Except RenderError Bool := equals nestingLimit a b

def sameInside (a b : Item) : Except RenderError Bool := sameElement nestingLimit a b

/-! ## Keys -/

mutual

/-- Why an item can be no key: it can change, or nothing is known about it. -/
def keyFault? : Item → Option RenderError
  | .undefined why _ => if why.isLenient then none else some (.undefined why)
  | .list _ _ => some (.notHashable "list")
  | .dict _ _ => some (.notHashable "dict")
  | .slice _ _ _ => some (.notHashable "slice")
  | .view .keys _ _ => some (.notHashable "dict_keys")
  | .view .items _ _ => some (.notHashable "dict_items")
  | .tuple items => firstKeyFault? items
  | .again item => item.keyFault?
  | _ => none

def firstKeyFault? : List Item → Option RenderError
  | [] => none
  | item :: rest => item.keyFault?.or (firstKeyFault? rest)

end

/-- What stands for a key, if the item can be one. -/
def lookUp (entries : List (Item × Item)) (key : Item) :
    Except RenderError (Option Item) :=
  match key.keyFault? with
  | some fault => .error fault
  | none => findEntry nestingLimit key entries

/-- What stands for a name. -/
def member? (entries : List (Item × Item)) (name : String) : Option Item :=
  entries.findSome? fun (key, item) => if key.text? == some name then some item else none

/-- Puts an entry at the end, or in the place of the entry with its key. -/
def putEntry (entries : List (Item × Item)) (key item : Item) :
    Except RenderError (List (Item × Item)) := do
  match ← lookUp entries key with
  | none => return entries ++ [(key, item)]
  | some _ =>
    entries.mapM fun (k, old) => do return if ← sameInside k key then (k, item)
      else (k, old)

/-- A dictionary of pairs, in which the last pair of a key counts. -/
def ofPairs (pairs : List (Item × Item)) : Except RenderError Item := do
  return .dict (← pairs.foldlM (fun entries (key, item) => putEntry entries key item) [])

/-! ## Order -/

def orderText : CompareOp → String
  | .lt => "<"
  | .le => "<="
  | .gt => ">"
  | .ge => ">="
  | _ => "=="

def holds (op : CompareOp) : Ordering → Bool
  | .lt => op == .lt || op == .le
  | .eq => op == .le || op == .ge
  | .gt => op == .gt || op == .ge

mutual

/-- An order of two items. Texts are ordered by code points, octets by value,
and sequences by their first difference. -/
def ordered (op : CompareOp) : (fuel : Nat) → Item → Item → Except RenderError Bool
  | _, .undefined why _, _ => .error (.undefined why)
  | _, _, .undefined why _ => .error (.undefined why)
  | 0, _, _ => .error .tooDeep
  | fuel + 1, a, b =>
    match a.number?, b.number? with
    | some x, some y => .ok ((compareNumbers? x y).any (holds op))
    | _, _ =>
      match a.text?, b.text? with
      | some s, some t =>
        .ok (holds op (compare (s.toList.map Char.toNat) (t.toList.map Char.toNat)))
      | _, _ =>
        match a, b with
        | .bytes x, .bytes y =>
          .ok (holds op (compare (x.map UInt8.toNat) (y.map UInt8.toNat)))
        | .list xs _, .list ys _ => orderedItems op fuel xs ys
        | .tuple xs, .tuple ys => orderedItems op fuel xs ys
        | _, _ => .error (.notOrdered (orderText op) a.kind b.kind)

def orderedItems (op : CompareOp) (fuel : Nat) :
    List Item → List Item → Except RenderError Bool
  | x :: xs, y :: ys => do
    if ← sameInside x y then orderedItems op fuel xs ys else ordered op fuel x y
  | xs, ys => .ok (holds op (compare xs.length ys.length))

end

/-! ## Containment -/

/-- Does a sequence begin somewhere in another? -/
def containsRun [BEq α] (part : List α) : List α → Bool
  | [] => part.isEmpty
  | c :: rest => part.isPrefixOf (c :: rest) || containsRun part rest

def holdsItem (part : Item) : List Item → Except RenderError Bool
  | [] => .ok false
  | item :: rest => do if ← sameInside item part then return true else holdsItem part rest

/-- Is a number among those of a range? -/
def rangeHolds (start stop step n : Int) : Bool :=
  (n - start) % step = 0 && 0 ≤ Int.fdiv (n - start) step &&
    Int.fdiv (n - start) step < (rangeLength start stop step : Int)

/-- Is an item a pair of a key and what stands for it? -/
def holdsPair (entries : List (Item × Item)) (part : Item) : Except RenderError Bool :=
  match part with
  | .tuple [key, item] => do
    match ← lookUp entries key with
    | some found => sameInside found item
    | none => return false
  | _ => .ok false

def containsOctets (octets : List UInt8) (part : Item) : Except RenderError Bool :=
  match part.whole?, part with
  | some n, _ =>
    if 0 ≤ n ∧ n < 256 then .ok (octets.contains (UInt8.ofNat n.toNat))
    else .error (.refused .value "byte must be in range(0, 256)")
  | none, .bytes inner => .ok (containsRun inner octets)
  | none, part => .error (.searchNeedsOctets part.kind)

def containsText (s : String) (part : Item) : Except RenderError Bool :=
  match part.text? with
  | some t => .ok (containsRun t.toList s.toList)
  | none => .error (.searchNeedsText part.kind)

def contains (whole part : Item) : Except RenderError Bool :=
  match whole with
  | .undefined why _ => why.orElse false
  | .text s => containsText s part
  | .markup s => containsText s part
  | .bytes octets => containsOctets octets part
  | .dict entries _ => do return (← lookUp entries part).isSome
  | .view .keys entries _ => do return (← lookUp entries part).isSome
  | .list items _ => holdsItem part items
  | .tuple items => holdsItem part items
  | .range start stop step =>
    match part.whole? with
    | some n => .ok (rangeHolds start stop step n)
    | none => holdsItem part (rangeItems start stop step)
  | .view .items entries _ => holdsPair entries part
  | .view .values entries _ => holdsItem part (partItems .values entries)
  | .self => .error (.noKey "0")
  | whole => .error (.notSearchable whole.kind)

def compareWith (op : CompareOp) (a b : Item) : Except RenderError Item :=
  match op with
  | .eq => (same a b).map .bool
  | .ne => (same a b).map fun r => .bool !r
  | .isIn => (b.contains a).map .bool
  | .notIn => (b.contains a).map fun r => .bool !r
  | op => (ordered op nestingLimit a b).map .bool

end Item

end SchemaDocs.Template
