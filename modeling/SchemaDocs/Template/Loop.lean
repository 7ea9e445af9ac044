import SchemaDocs.Template.Evaluate

/-!
# Loops and targets

A target takes an item: a name gets it, a member of something gets it, and
several targets get one item each of what they are given.

A loop looks at its condition one item at a time. What the body may ask about
the loop as a whole, whether there is a next round and how many there are, looks
ahead and fails if the condition does. When the list that a loop goes over
changes, the loop goes on in the changed list.
-/

namespace SchemaDocs.Template

/-! ## Scopes -/

/-- A view into a new scope inside this one. -/
def View.enter (view : View) (scope : Scope) : Rendering View := fun store =>
  let (place, store) := store.allocate scope
  .ok ({ view with scopes := place :: view.scopes }, store)

def View.assign (view : View) (name : String) (item : Item) : Rendering Unit :=
  modify fun store => match view.scopes with
    | place :: _ => store.assign place name item
    | [] => store

def unsetScope (names : List String) : Scope := names.map fun name => (name, none)

/-! ## Targets -/

/-- As many items as there are targets. -/
def unpack (count : Nat) (item : Item) : Except RenderError (List Item) := do
  let items ← match item.elements with
    | .error (.notIterable kind) => throw (.notUnpackable kind)
    | result => result
  if items.length < count then throw (.unpackFew count items.length)
  if count < items.length then throw (.unpackMany count)
  return items

/-- Why nothing can be put into an item under a name. -/
def memberFault (item : Item) : RenderError :=
  let refuse (kind : String) : RenderError :=
    .refused .type ("'" ++ kind ++ "' object does not support item assignment")
  match item with
  | .list _ _ => .refused .type "list indices must be integers or slices, not str"
  | .undefined (.unbound _) none => refuse "MissingType"
  | item => refuse item.kind

/-- Gives what a name stands for a member, which names with members and
dictionaries keep under this name. -/
def View.assignMember (view : View) (object label : String) (item : Item) :
    Rendering Unit := do
  let keep (members : List (Item × Item)) (place : Nat) : Rendering Unit := do
    let members ← attempt (Item.putEntry members (.text label) item)
    modify (·.put place (.entries members))
  match view.find (← get) object with
  | .record .names members place => keep members place
  | .dict entries (some place) => keep entries place
  | found => throw (memberFault found)

mutual

def View.assignTarget (view : View) : Target → Item → Rendering Unit
  | .name s, item => view.assign s item
  | .member object label, item => view.assignMember object label item
  | .tuple targets, item => do
    view.assignTargets targets (← attempt (unpack targets.length (← now item)))

def View.assignTargets (view : View) : List Target → List Item → Rendering Unit
  | target :: targets, item :: items => do
    view.assignTarget target item
    view.assignTargets targets items
  | _, _ => return ()

end

/-- Only names with members have members that can be assigned to. -/
def View.checkObjects (view : View) (target : Target) : Rendering Unit := do
  let store ← get
  unless target.objects.all fun object =>
      view.find store object matches .record .names _ _ do
    throw .notNamespace

/-! ## Rounds -/

/-- Does the condition of a loop hold for an item? -/
def passes (outside : Outside) (view : View) (target : Target) (condition : Option Expr)
    (item : Item) : Rendering Bool :=
  match condition with
  | none => return true
  | some e => do
    let inner ← view.enter []
    inner.assignTarget target item
    attempt (← e.evaluate outside inner).truthy

/-- The first item that passes, if there is one, with no failure before it. -/
def firstPassing (test : Item → Rendering Bool) : List Item → Rendering (List Item)
  | [] => return []
  | item :: rest => do if ← test item then return [item] else firstPassing test rest

def countPassing (test : Item → Rendering Bool) : List Item → Rendering Nat
  | [] => return 0
  | item :: rest => do
    let one := if ← test item then 1 else 0
    return one + (← countPassing test rest)

/-- The state of a loop after some rounds, between the items before and after
the current one. -/
def loopItem (test : Item → Rendering Bool) (place done : Nat) (previous rest : List Item)
    (store : Store) : Item :=
  let next := (firstPassing test rest).run' store
  let left := (countPassing test rest).run' store
  .loop
    ⟨place, done, next.map fun items => !items.isEmpty, left.map fun n => done + 1 + n⟩
    previous next

/-- The items that a loop over something has before it when it has taken some. A
list may change meanwhile; a dictionary may not become larger or smaller. -/
def upcoming (source : Item) (taken : Nat) : Rendering (List Item) := do
  let store ← get
  let fixed (held : List (Item × Item)) (place : Option Nat) (part : DictPart) :
      Rendering (List Item) := do
    let entries := store.entriesAt place held
    if entries.length = held.length then return (Item.partItems part entries).drop taken
    else throw .changedInLoop
  match source with
  | .list held place => return (store.itemsAt place held).drop taken
  | .dict held place => fixed held place .keys
  | .view part held place => fixed held place part
  | source => return (← attempt source.elements).drop taken

/-- A loop in progress: how many items it has taken, how many of them passed,
the last of these, and the text so far. -/
structure Progress where
  taken : Nat
  done : Nat
  previous : List Item
  out : String

def Progress.start : Progress := ⟨0, 0, [], ""⟩

/-- Runs the body for each item of `source` that passes, `rest` being those that
were not taken yet when nothing has changed. A loop comes to an end after `fuel`
items. -/
def runRounds (test : Item → Rendering Bool) (round : Item → Item → Rendering String)
    (place : Nat)
    (source : Item) : (fuel : Nat) → Progress → List Item → Rendering Progress
  | 0, _, _ => throw .tooDeep
  | fuel + 1, progress, rest => do
    match ← if (← get).changed then upcoming source progress.taken else pure rest with
    | [] => return progress
    | item :: rest =>
      let item ← now item
      let progress := { progress with taken := progress.taken + 1 }
      if ← test item then
        let state := loopItem test place progress.done progress.previous rest (← get)
        let out ← round item state
        runRounds test round place source fuel
          { progress with
            done := progress.done + 1
            previous := [item]
            out := progress.out ++ out } rest
      else runRounds test round place source fuel progress rest

/-- How many items a loop may go over. -/
def roundLimit : Nat := Nat.pow 10 12

end SchemaDocs.Template
