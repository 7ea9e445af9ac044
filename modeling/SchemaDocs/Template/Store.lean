import SchemaDocs.Template.Syntax

/-!
# The store of a rendering

What can change in a rendering has a place in its store: the scopes of names,
and the contents of lists, dictionaries and records. An item that stands for
such a thing carries what it held when it was looked up, and is brought up to
date before it is used (`refresh`).

A list or a dictionary that was just made has no place. When it becomes part of
the rendering it is given one, and so is everything in it (`adopt`); from then
on all items with that place stand for the same thing.

The store also holds what can be told from other things of its kind: macros, the
templates that are shared by everything that imports them, and the numbers that
were given out. It only grows: a place that was handed out stays good.
-/

namespace SchemaDocs.Template

/-- The names of a frame, the latest first; an unset name has no item. -/
abbrev Scope := List (String × Option Item)

/-- A macro as it was defined, with the page and the scopes that it sees. -/
structure Closure where
  info : MacroInfo
  params : List (String × Option Expr)
  body : List Stmt
  unset : List String
  page : List (String × Item)
  scopes : List Nat

/-- What is held at a place: the items of a list, or the entries of a dictionary
or a record. -/
inductive Content
  | items (items : List Item)
  | entries (entries : List (Item × Item))

/-- As long as nothing was `changed`, every item is up to date. -/
structure Store where
  scopes : Array Scope
  closures : Array Closure
  contents : Array Content
  changed : Bool
  modules : List (String × Item)
  serials : Nat

namespace Store

def empty : Store := ⟨#[], #[], #[], false, [], 0⟩

/-! ## Scopes and macros -/

/-- A new scope, and its place. -/
def allocate (store : Store) (scope : Scope) : Nat × Store :=
  (store.scopes.size, { store with scopes := store.scopes.push scope })

/-- A new macro, and its place. -/
def define (store : Store) (closure : Closure) : Nat × Store :=
  (store.closures.size, { store with closures := store.closures.push closure })

/-- A number that was not given out before. -/
def number (store : Store) : Nat × Store :=
  (store.serials, { store with serials := store.serials + 1 })

/-- Gives a name an item in the scope at a place. -/
def assign (store : Store) (place : Nat) (name : String) (item : Item) : Store :=
  { store with scopes := store.scopes.modify place ((name, some item) :: ·) }

def scope (store : Store) (place : Nat) : Scope := (store.scopes[place]?).getD []

/-- What the innermost of some scopes that knows a name holds for it. -/
def find? (store : Store) (places : List Nat) (name : String) : Option (Option Item) :=
  places.findSome? fun place => (store.scope place).lookup name

/-! ## Contents -/

/-- A new content, and its place. -/
def hold (store : Store) (content : Content) : Nat × Store :=
  (store.contents.size, { store with contents := store.contents.push content })

/-- Changes the content at a place. -/
def put (store : Store) (place : Nat) (content : Content) : Store :=
  { store with contents := store.contents.setIfInBounds place content, changed := true }

/-- The items at a place, for a list that held some when it was looked up. -/
def itemsAt (store : Store) (place : Option Nat) (held : List Item) : List Item :=
  match place.bind (store.contents[·]?) with
  | some (.items items) => items
  | _ => held

/-- The entries at a place, for a dictionary that held some when it was looked up. -/
def entriesAt (store : Store) (place : Option Nat) (held : List (Item × Item)) :
    List (Item × Item) :=
  match place.bind (store.contents[·]?) with
  | some (.entries entries) => entries
  | _ => held

mutual

/-- Gives places to the lists and dictionaries in an item that have none. -/
def adopt : Item → StateM Store Item
  | .list items none => do
    let items ← adoptItems items
    return .list items (some (← modifyGet (·.hold (.items items))))
  | .dict entries none => do
    let entries ← adoptEntries entries
    return .dict entries (some (← modifyGet (·.hold (.entries entries))))
  | .tuple items => do return .tuple (← adoptItems items)
  | item => return item

def adoptItems : List Item → StateM Store (List Item)
  | [] => return []
  | item :: rest => do return (← adopt item) :: (← adoptItems rest)

def adoptEntries : List (Item × Item) → StateM Store (List (Item × Item))
  | [] => return []
  | (key, item) :: rest => do
    let key ← adopt key
    let item ← adopt item
    return (key, item) :: (← adoptEntries rest)

end

/-- An item as it is now, down to a depth of `fuel`. `way` are the things that
it stands in, each by its place and whether it is a view of what is there. -/
def current (store : Store) : (fuel : Nat) → (way : List (Bool × Nat)) → Item → Item
  | 0, _, item => item
  | fuel + 1, way, item =>
    let onWay (isView : Bool) (place : Option Nat) : Bool :=
      place.any fun place => way.contains (isView, place)
    let inside (isView : Bool) (place : Option Nat) : Item → Item :=
      store.current fuel ((place.map fun place => (isView, place)).toList ++ way)
    let entriesInside (isView : Bool) (place : Option Nat) (held : List (Item × Item)) :
        List (Item × Item) :=
      (store.entriesAt place held).map fun (key, item) =>
        (inside isView place key, inside isView place item)
    match item with
    | .list held place =>
      if onWay false place then .again item
      else .list ((store.itemsAt place held).map (inside false place)) place
    | .dict held place =>
      if onWay false place then .again item
      else .dict (entriesInside false place held) place
    | .view part held place =>
      if onWay true place then .again item
      else .view part (entriesInside true place held) place
    | .record kind held place =>
      if onWay false (some place) then .again item
      else .record kind (entriesInside false (some place) held) place
    | .again item => store.current fuel way item
    | .tuple items => .tuple (items.map (inside false none))
    | .method owner name => .method (inside false none owner) name
    | item => item

/-- An item as it is now. -/
def refresh (store : Store) (item : Item) : Item :=
  if store.changed then store.current Item.nestingLimit [] item else item

end Store

end SchemaDocs.Template
