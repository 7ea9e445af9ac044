import SchemaDocs.Template.Builtin
import SchemaDocs.Template.Method
import SchemaDocs.Template.Store

/-!
# Functions that change what carries them

A list, a dictionary or a record can be asked to change. What comes of it is an
item, as for any function, and what is held afterwards.

A list is sorted as it is told apart by its order: the run at its beginning that
is in order already is kept, or turned around, and every other item is put
behind those that are not greater, at a place that is found by halving. Nothing
else is compared.
-/

namespace SchemaDocs.Template

/-! ## Sorting -/

def isLess (a b : Item × Item) : Except RenderError Bool :=
  Item.ordered .lt Item.nestingLimit a.1 b.1

/-- How many items from the beginning are each less than the one before, if
`falling`, or each not less. -/
def runLength (falling : Bool) (previous : Item × Item) :
    List (Item × Item) → Except RenderError Nat
  | [] => .ok 1
  | x :: rest => do
    if (← isLess x previous) == falling then return 1 + (← runLength falling x rest)
    else return 1

/-- The place for an item between `low` and `high`, behind all that are not greater. -/
def placeFor (sorted : Array (Item × Item)) (x : Item × Item) (low high : Nat) :
    Except RenderError Nat :=
  if low < high then
    match sorted[(low + high) / 2]? with
    | some y => do
      if ← isLess x y then placeFor sorted x low ((low + high) / 2)
      else placeFor sorted x ((low + high) / 2 + 1) high
    | none => .ok low
  else .ok low
termination_by high - low

def insertAll (sorted : Array (Item × Item)) :
    List (Item × Item) → Except RenderError (Array (Item × Item))
  | [] => .ok sorted
  | x :: rest => do
    let place ← placeFor sorted x 0 sorted.size
    insertAll (sorted.take place ++ #[x] ++ sorted.drop place) rest

/-- Items in the order of the keys in front of them. -/
def sortByKeys (items : List (Item × Item)) : Except RenderError (List (Item × Item)) :=
  match items with
  | x :: y :: rest => do
    let falling ← isLess y x
    let n := 1 + (← runLength falling y rest)
    let run := items.take n
    return (← insertAll
      (if falling then run.reverse else run).toArray (items.drop n)).toList
  | items => .ok items

/-- The key that an item is sorted by. -/
def sortKey (function item : Item) : Except RenderError Item :=
  match function with
  | .null => .ok item
  | .method owner name => callMethod owner name ⟨[item], []⟩
  | .type name => makeOf name ⟨[item], []⟩
  | function => .error (.notCallable function.kind)

def sorted (items : List Item) (args : List (Option Item)) :
    Except RenderError (List Item) := do
  let turned := (← smallArgument 0 args 1) ≠ 0
  let keyed ← items.mapM fun item => do return (← sortKey (argument args 0) item, item)
  let result ← sortByKeys (if turned then keyed.reverse else keyed)
  return (if turned then result.reverse else result).map (·.2)

/-! ## Lists -/

/-- The item at an index, and the items without it. -/
def takeOut (items : List Item) (args : List (Option Item)) :
    Except RenderError (Item × List Item) := do
  let i ← sizeArgument (-1) args 0
  if items.isEmpty then throw (.refused .index "pop from empty list")
  match Item.position? items.length i with
  | some n => return ((items[n]?).getD .null, items.eraseIdx n)
  | none => throw (.refused .index "pop index out of range")

/-- What a list gives that is asked to change, and its items after that. -/
def listChange (name : String) (items : List Item) (args : List (Option Item)) :
    Except RenderError (Item × List Item) :=
  let leaves (items : List Item) : Item × List Item := (.null, items)
  match name with
  | "append" => .ok (leaves (items ++ [argument args 0]))
  | "extend" => (argument args 0).elements.map fun more => leaves (items ++ more)
  | "insert" => do
    let i := (Item.clampBound items.length 0 items.length (← sizeArgument 0 args 0)).toNat
    return leaves (items.take i ++ argument args 1 :: items.drop i)
  | "pop" => takeOut items args
  | "remove" => do
    match ← indexFrom (argument args 0) 0 items with
    | some i => return leaves (items.eraseIdx i)
    | none => refuseValue "list.remove(x): x not in list"
  | "reverse" => .ok (leaves items.reverse)
  | "sort" => (sorted items args).map leaves
  | _ => .ok (leaves [])

def listChangeConvention? (name : String) : Option Convention :=
  match name with
  | "insert" => some (.counted 2 2)
  | "pop" => some (.counted 0 1)
  | "sort" => some (.named ["key", "reverse"])
  | _ =>
    if ["append", "extend", "remove"].contains name then some .one
    else if ["reverse", "clear"].contains name then some .nothing
    else none

/-! ## Dictionaries -/

/-- The entries without the one of a key. -/
def withoutKey (entries : List (Item × Item)) (key : Item) :
    Except RenderError (List (Item × Item)) :=
  entries.filterM fun (k, _) => do return !(← Item.sameInside k key)

/-- What a dictionary gives that is asked to change, and its entries after that. -/
def dictChange (name : String) (entries : List (Item × Item))
    (args : List (Option Item)) :
    Except RenderError (Item × List (Item × Item)) :=
  let key := argument args 0
  match name with
  | "clear" => .ok (.null, [])
  | "popitem" =>
    match entries.getLast? with
    | some (key, item) => .ok (.tuple [key, item], entries.dropLast)
    | none => .error (.noKey "'popitem(): dictionary is empty'")
  | "pop" => do
    match ← if entries.isEmpty then pure none else Item.lookUp entries key with
    | some item => return (item, ← withoutKey entries key)
    | none =>
      match argument? args 1 with
      | some item => return (item, entries)
      | none => throw (.noKey (← key.quotedForm))
  | _ => do
    match ← Item.lookUp entries key with
    | some item => return (item, entries)
    | none => return (argument args 1, entries ++ [(key, argument args 1)])

def dictChangeConvention? (name : String) : Option Convention :=
  match name with
  | "setdefault" => some (.counted 1 2)
  | "pop" => some (.counted 1 2)
  | "clear" => some .nothing
  | "popitem" => some .nothing
  | _ => none

/-! ## Records -/

def turnMembers (items : List Item) (next : Nat) : List (Item × Item) :=
  [(.text "items", .tuple items), (.text "pos", .int next)]

/-- What comes next of items that come in turn, or nothing if they are to start again. -/
def turnChange (name : String) (members : List (Item × Item)) (args : Arguments) :
    Except RenderError (Item × List (Item × Item)) := do
  let _ ← (Declared.mk ("Cycler." ++ (if name = "reset" then name else "next"))
    [("self", false)] 1).bind
    (args.behind .null)
  let (items, next) := Item.turns members
  if name = "reset" then return (.null, turnMembers items 0)
  else return ((items[next]?).getD .null, turnMembers items ((next + 1) % items.length))

/-- The text between others, which is empty before the first of them. -/
def separate (members : List (Item × Item)) (args : Arguments) :
    Except RenderError (Item × List (Item × Item)) := do
  let _ ← (Declared.mk "Joiner.__call__" [("self", false)] 1).bind (args.behind .null)
  let text := (Item.member? members "sep").getD .null
  match Item.member? members "used" with
  | some (.bool true) => return (text, members)
  | _ => return (.text "", [(.text "sep", text), (.text "used", .bool true)])

/-! ## All together -/

/-- What the function of a name gives if it changes the item that carries it,
and what is held after that. -/
def changeOf (owner : Item) (name : String) (args : Arguments) :
    Option (Except RenderError (Item × Content)) :=
  let entries :=
    Except.map (fun (item, entries) => (item, Content.entries entries)) (ε := RenderError)
  match owner with
  | .list items _ => (listChangeConvention? name).map fun convention => do
    let (item, items) ← listChange name items (← convention.bind "list" name args)
    return (item, .items items)
  | .dict held _ =>
    if name = "update" then
      some ((dictWith "update" held args).map fun held => (.null, .entries held))
    else (dictChangeConvention? name).map fun convention => do
      entries (dictChange name held (← convention.bind "dict" name args))
  | .record .turns members _ =>
    if ["next", "reset", "__next__"].contains name then
      some (entries (turnChange name members args))
    else none
  | .record .separator members _ =>
    if name = "__call__" then some (entries (separate members args)) else none
  | _ => none

end SchemaDocs.Template
