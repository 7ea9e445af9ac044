import SchemaDocs.Template.Attribute
import SchemaDocs.Template.Method.Parameter

/-!
# Functions of collections

What dictionaries, lists, tuples and ranges can be asked for. The functions that
change a collection are apart.
-/

namespace SchemaDocs.Template

/-! ## Dictionaries -/

def dictConvention? (name : String) : Option Convention :=
  match name with
  | "get" => some (.counted 1 2)
  | "fromkeys" => some (.counted 1 2)
  | _ => if ["items", "keys", "values", "copy"].contains name then some .nothing else none

/-- An element of a sequence of pairs. -/
def pairOf (index : Nat) (item : Item) : Except RenderError (Item × Item) :=
  match item.elements with
  | .ok [key, value] => .ok (key, value)
  | .ok items =>
    refuseValue ("dictionary update sequence element #" ++ toString index ++
      " has length " ++ toString items.length ++ "; 2 is required")
  | .error (.notIterable _) =>
    refuseType ("cannot convert dictionary update sequence element #" ++
      toString index ++ " to a sequence")
  | .error fault => .error fault

def pairsFrom (entries : List (Item × Item)) (index : Nat) :
    List Item → Except RenderError (List (Item × Item))
  | [] => .ok entries
  | item :: rest => do
    let (key, value) ← pairOf index item
    pairsFrom (← Item.putEntry entries key value) (index + 1) rest

/-- The entries of a dictionary, or of a sequence of pairs. -/
def entriesOf (item : Item) : Except RenderError (List (Item × Item)) :=
  match item with
  | .dict entries _ => .ok entries
  | item => do pairsFrom [] 0 (← item.elements)

/-- More entries for a dictionary, from at most one collection, and names. -/
def dictWith (function : String) (entries : List (Item × Item)) (args : Arguments) :
    Except RenderError (List (Item × Item)) := do
  let more ← match args.positional with
    | [] => pure []
    | [item] => entriesOf item
    | items => throw (.call (.countedMany function 0 1 items.length))
  let entries ← more.foldlM
    (fun entries (key, item) => Item.putEntry entries key item) entries
  args.named.foldlM
    (fun entries (key, item) => Item.putEntry entries (.text key) item) entries

/-- What a dictionary gives that has some entries at a place. -/
def dictFunction (name : String) (entries : List (Item × Item)) (place : Option Nat)
    (args : List (Option Item)) : Except RenderError Item :=
  match name with
  | "items" => .ok (.view .items entries place)
  | "keys" => .ok (.view .keys entries place)
  | "values" => .ok (.view .values entries place)
  | "copy" => .ok (.dict entries)
  | "fromkeys" => do
    let keys ← (argument args 0).elements
    Item.ofPairs (keys.map fun key => (key, argument args 1))
  | _ => do return (← Item.lookUp entries (argument args 0)).getD (argument args 1)

def callDict (name : String) (entries : List (Item × Item)) (place : Option Nat)
    (args : Arguments) :
    Option (Except RenderError Item) :=
  (dictConvention? name).map fun convention => do
    dictFunction name entries place (← convention.bind "dict" name args)

/-! ## Sequences -/

/-- A bound of a search, which has to be a whole number. -/
def searchBound (length : Nat) (default : Int) (args : List (Option Item)) (i : Nat) :
    Except RenderError Int :=
  match argument? args i with
  | none => .ok default
  | some item =>
    match item.whole? with
    | some n => .ok (if n < 0 then max 0 (n + length) else n)
    | none => refuseType "slice indices must be integers or have an __index__ method"

/-- The place of an item from a place on. -/
def indexFrom (wanted : Item) (i : Nat) : List Item → Except RenderError (Option Nat)
  | [] => .ok none
  | item :: rest => do
    if ← Item.sameInside item wanted then return some i else indexFrom wanted (i + 1) rest

def indexIn (items : List Item) (args : List (Option Item)) :
    Except RenderError (Option Nat) := do
  let start ← searchBound items.length 0 args 1
  let stop ← searchBound items.length items.length args 2
  indexFrom (argument args 0) start.toNat ((items.take stop.toNat).drop start.toNat)

def countIn (wanted : Item) : List Item → Except RenderError Nat
  | [] => .ok 0
  | item :: rest => do
    let one := if ← Item.sameInside item wanted then 1 else 0
    return one + (← countIn wanted rest)

def listFunction (name : String) (items : List Item) (args : List (Option Item)) :
    Except RenderError Item :=
  let wanted := argument args 0
  match name with
  | "count" => (countIn wanted items).map .int
  | "index" => do
    match ← indexIn items args with
    | some i => return .int i
    | none => refuseValue ((← wanted.quotedForm) ++ " is not in list")
  | _ => .ok (.list items)

def listConvention? (name : String) : Option Convention :=
  match name with
  | "index" => some (.counted 1 3)
  | "count" => some .one
  | "copy" => some .nothing
  | _ => none

def callList (name : String) (items : List Item) (args : Arguments) :
    Option (Except RenderError Item) :=
  (listConvention? name).map fun convention => do
    listFunction name items (← convention.bind "list" name args)

def callTuple (name : String) (items : List Item) (args : Arguments) :
    Option (Except RenderError Item) :=
  match name with
  | "count" => some do
    let args ← Convention.one.bind "tuple" name args
    return .int (← countIn (argument args 0) items)
  | "index" => some do
    let args ← (Convention.counted 1 3).bind "tuple" name args
    match ← indexIn items args with
    | some i => return .int i
    | none => refuseValue "tuple.index(x): x not in tuple"
  | _ => none

/-- Where a number stands in a range, or any other item that is equal to one of
its numbers. -/
def indexInRange (start stop step : Int) (wanted : Item) :
    Except RenderError (Option Nat) :=
  match wanted.whole? with
  | some n =>
    .ok
      (if Item.rangeHolds start stop step n then some (Int.fdiv (n - start) step).toNat
      else none)
  | none => indexFrom wanted 0 (Item.rangeItems start stop step)

def callRange (name : String) (start stop step : Int) (args : Arguments) :
    Option (Except RenderError Item) :=
  let bound := Convention.one.bind "range" name args
  match name with
  | "count" =>
    some do
      return .int
        (if (← indexInRange start stop step (argument (← bound) 0)).isSome then 1 else 0)
  | "index" => some do
    let wanted := argument (← bound) 0
    match ← indexInRange start stop step wanted, wanted.whole? with
    | some i, _ => return .int i
    | none, some _ => refuseValue ((← wanted.quotedForm) ++ " is not in range")
    | none, none => refuseValue "sequence.index(x): x not in sequence"
  | _ => none

/-! ## Loops -/

/-- One of several items in turn. -/
def cycled (index0 : Nat) (args : Arguments) : Except RenderError Item :=
  match args.named with
  | (key, _) :: _ => .error (.call (.keyword "LoopContext.cycle" key))
  | [] =>
    match args.positional[index0 % args.positional.length]? with
    | some item => .ok item
    | none => refuseType "no items for cycling given"

end SchemaDocs.Template
