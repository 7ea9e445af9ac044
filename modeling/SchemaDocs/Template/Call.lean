import SchemaDocs.Template.Comparison

/-!
# Arguments of calls

A call has arguments by position and by name, and it may spread a collection
over its positions and the entries of a dictionary over its names. Before a
function looks at any of them it checks that they fit.

There are two families. `Declared` functions have parameters with names; an
argument may come either way, and a fault of a name is found before a fault of
the count. The functions that values carry follow one of a few conventions, each
with its own words; most of them have no names for their parameters at all.
-/

namespace SchemaDocs.Template

/-- How an argument is given. -/
inductive ArgumentKind
  | positional
  | named (key : String)
  | spread
  | spreadNamed
deriving DecidableEq, Repr

structure Arguments where
  positional : List Item
  named : List (String × Item)

namespace Arguments

def none : Arguments := ⟨[], []⟩

/-- The same with the item in front that they stand behind. -/
def behind (args : Arguments) (item : Item) : Arguments :=
  { args with positional := item :: args.positional }

/-- How many arguments there are. -/
def count (args : Arguments) : Nat := args.positional.length + args.named.length

def call (fault : CallFault) : Except RenderError α := .error (.call fault)

/-- Names for the entries of a dictionary, each of which has to be new. -/
def addNames (function : String) (args : Arguments) :
    List (Item × Item) → Except RenderError Arguments
  | [] => .ok args
  | (key, item) :: rest =>
    match key.text? with
    | some name =>
      if args.named.any (·.1 == name) then call (.repeatedKeyword function name)
      else addNames function { args with named := args.named ++ [(name, item)] } rest
    | Option.none => call .keysNotText

/-- One more argument. `function` is what the called function is named in full. -/
def add (function : String) (args : Arguments) (kind : ArgumentKind) (item : Item) :
    Except RenderError Arguments :=
  match kind with
  | .positional => .ok { args with positional := args.positional ++ [item] }
  | .named key =>
    .ok { args with named := args.named.filter (·.1 != key) ++ [(key, item)] }
  | .spread =>
    match item.elements with
    | .ok items => .ok { args with positional := args.positional ++ items }
    | .error (.notIterable kind) => call (.notSpreadable kind)
    | .error fault => .error fault
  | .spreadNamed =>
    match item with
    | .dict entries _ => addNames function args entries
    | .undefined why _ => .error (.undefined why)
    | item => call (.notMapping function item.kind)

end Arguments

/-! ## Declared functions -/

/-- A function with parameters by name, with those that may be left out marked.
The first `unnamed` of them can only be given by position. -/
structure Declared where
  name : String
  params : List (String × Bool)
  unnamed : Nat := 0

namespace Declared

def call (fault : CallFault) : Except RenderError α := .error (.call fault)

/-- Puts an argument by name in its place. -/
def place (f : Declared) (args : Arguments) (bound : List (Option Item))
    (key : String) (item : Item) :
    Except RenderError (List (Option Item)) :=
  let names := f.params.map (·.1)
  match (names.drop f.unnamed).findIdx? (· == key) with
  | some i =>
    let i := f.unnamed + i
    match bound[i]? with
    | some (some _) => call (.repeated f.name key)
    | _ => .ok (bound.set i (some item))
  | none =>
    let clashes := (names.take f.unnamed).filter fun name => args.named.any (·.1 == name)
    if clashes.isEmpty then call (.keyword f.name key)
    else call (.positionalOnly f.name clashes)

def placeAll (f : Declared) (args : Arguments) (bound : List (Option Item)) :
    List (String × Item) → Except RenderError (List (Option Item))
  | [] => .ok bound
  | (key, item) :: rest => do placeAll f args (← f.place args bound key item) rest

/-- The arguments in the order of the parameters. -/
def bind (f : Declared) (args : Arguments) : Except RenderError (List (Option Item)) := do
  let most := f.params.length
  let given := (args.positional.take most).map some
  let bound ← f.placeAll args (given ++ List.replicate (most - given.length) none)
    args.named
  let least := (f.params.filter fun p => !p.2).length
  if most < args.positional.length then
    call (.surplus f.name least most args.positional.length)
  let absent := (f.params.zip bound).filterMap fun (p, item) =>
    if !p.2 && item.isNone then some p.1 else none
  unless absent.isEmpty do call (.absent f.name absent)
  return bound

end Declared

/-! ## Functions of values -/

/-- How a function of a value takes its arguments: none; exactly one; a number
of them; a number of them, counted by other words; by parameters that have names
and may all be left out; or by such names alone. -/
inductive Convention
  | nothing
  | one
  | counted (least most : Nat)
  | parsed (least most : Nat)
  | keyed (params : List String)
  | named (params : List String)
  /-- A function with underscores around its name. -/
  | wrapped (count : Nat)
deriving DecidableEq, Repr

namespace Convention

def call (fault : CallFault) : Except RenderError α := .error (.call fault)

/-- Arguments for parameters with names, which may be given by position too. -/
def bindKeyed (name : String) (params : List String) (byPosition : Bool)
    (args : Arguments) :
    Except RenderError (List (Option Item)) := do
  let given := args.positional.length
  if params.length < args.count then
    call (.parsedMany name (if given = 0 then "keyword " else "") params.length
      args.count)
  if !byPosition && given ≠ 0 then call (.noPositional name)
  for (param, i) in params.zipIdx do
    if i < given && args.named.any (·.1 == param) then call (.bothWays name param (i + 1))
  for (key, _) in args.named do
    unless params.contains key do call (.badKeyword name key)
  return params.zipIdx.map fun (param, i) =>
    args.positional[i]?.or (args.named.lookup param)

/-- The arguments of a call by a convention. `owner` is the kind of the value
that carries the function. -/
def bind (convention : Convention) (owner name : String) (args : Arguments) :
    Except RenderError (List (Option Item)) := do
  let full := owner ++ "." ++ name
  let given := args.positional.length
  let items := args.positional.map some
  let refuseNames (shown : String) : Except RenderError Unit :=
    unless args.named.isEmpty do call (.noKeywords shown)
  match convention with
  | .nothing =>
    refuseNames full
    if given = 0 then return [] else call (.noArguments full given)
  | .one =>
    refuseNames full
    if given = 1 then return items else call (.oneArgument full given)
  | .counted least most =>
    refuseNames full
    if given < least then call (.countedFew name least most given)
    if most < given then call (.countedMany name least most given)
    return items
  | .parsed least most =>
    refuseNames name
    if given < least then call (.parsedFew name least given)
    if most < given then call (.parsedMany name "" most given)
    return items
  | .keyed params => bindKeyed name params true args
  | .named params => bindKeyed name params false args
  | .wrapped count =>
    refuseNames ("wrapper " ++ name)
    if given = count then return items else call (.wrapped count given)

end Convention

end SchemaDocs.Template
