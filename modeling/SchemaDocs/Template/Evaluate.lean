import SchemaDocs.Template.Constant
import SchemaDocs.Template.Method.Change
import SchemaDocs.Template.Scope

/-!
# Evaluating expressions

An expression gives an item. Only calling a macro and using another template
lead out of the text at hand; how these go on is a parameter here (`Outside`),
and the recursion runs over the syntax. Calls may nest as deep as `Outside`
goes.

Operands are evaluated from left to right, and an operation finds them as they
are after the last of them. The items of a tuple that is put into a constant
format are evaluated in the same order; a format that does nothing but show them
shows each before it goes on. Every undefined value that comes up on the way is
told from all others from then on, and every list and dictionary gets its place
in the store.
-/

namespace SchemaDocs.Template

abbrev Rendering := StateT Store (Except RenderError)

/-- What leads out of a template: the macro at a place, templates by name, and
running them on a page. -/
structure Outside where
  call : Nat → Arguments → Rendering Item
  find : String → Except RenderError Template
  run : Template → List (String × Item) → Rendering (String × Scope)

def attempt (result : Except RenderError α) : Rendering α :=
  fun store => result.map (·, store)

/-- A number that was not given out before. -/
def freshSerial : Rendering Nat := fun store => .ok store.number

/-- An item as it is now. What is evaluated after it may have changed it. -/
def now (item : Item) : Rendering Item := do return (← get).refresh item

def allNow (items : List Item) : Rendering (List Item) := items.mapM now

/-- The item as part of the rendering: as it is now, with places for what can
change in it, and told from others if it is undefined. -/
def stamp (item : Item) : Rendering Item := do
  match item with
  | .undefined why none => return .undefined why (some (← freshSerial))
  | item =>
    let item ← fun store => .ok (store.adopt item)
    return (← get).refresh item

/-- What an operation on items gives. -/
def give (result : Except RenderError Item) : Rendering Item := do
  stamp (← attempt result)

/-! ## Calls -/

def newRecord (kind : RecordKind) (args : Arguments) : Rendering Item := do
  let members ← attempt (recordMembers kind args)
  return .record kind members (← modifyGet (·.hold (.entries members)))

/-- A loop cannot be started again from inside. -/
def callLoop (args : Arguments) : Except RenderError Item := do
  let _ ← (Declared.mk "LoopContext.__call__"
    [("self", false), ("iterable", false)] 1).bind
    (args.behind .null)
  throw (.refused .type
    "The loop must have the 'recursive' marker to be called recursively.")

/-- Are the arguments others than those of the call before? They are held at a
place for the next call. -/
def hasChanged (place : Nat) (args : Arguments) : Rendering Item := do
  if let (key, _) :: _ := args.named then
    throw (.call (.keyword "LoopContext.changed" key))
  let given := Item.tuple args.positional
  let changed ← match ← allNow ((← get).itemsAt (some place) []) with
    | last :: _ => attempt ((Item.same last given).map (!·))
    | [] => pure true
  if changed then modify (·.put place (.items [given]))
  return .bool changed

/-- Calls the function of a name that an item carries. -/
def callCarried (owner : Item) (name : String) (args : Arguments) : Rendering Item :=
  match owner, name with
  | .loop state _ _, "changed" => hasChanged state.place args
  | owner, name =>
    match changeOf owner name args with
    | some change => do
      let (item, content) ← attempt change
      if let some place := owner.place? then modify (·.put place content)
      stamp item
    | none => give (callMethod owner name args)

def callItem (outside : Outside) (item : Item) (args : Arguments) : Rendering Item := do
  let named ← args.named.mapM fun (key, item) => do return (key, ← now item)
  let args : Arguments := ⟨← allNow args.positional, named⟩
  match ← now item with
  | .macroAt _ place => outside.call place args
  | .method owner name => callCarried owner name args
  | .type name =>
    match recordKind? name with
    | some kind => newRecord kind args
    | none => give (makeOf name args)
  | .record .separator members place =>
    callCarried (.record .separator members place) "__call__" args
  | .loop _ _ _ => attempt (callLoop args)
  | .undefined why _ => throw (.undefined why)
  | item => throw (.notCallable item.kind)

/-- What calls are named in messages about their arguments. -/
def callName : String := "jinja2.runtime.Context.call"

/-! ## Expressions -/

/-- A constant, unless it is written by a name that stands for nothing. -/
def constantItem (item : Item) : Except RenderError Item :=
  match item.unwritable? with
  | some name => .error (.unwritable name)
  | none => .ok item

mutual

def Expr.evaluate (outside : Outside) (view : View) : Expr → Rendering Item
  | .const item => give (constantItem item)
  | .name s => do stamp (view.find (← get) s)
  | .list items => do stamp (.list (← Expr.evaluateAll outside view items))
  | .tuple items => do stamp (.tuple (← Expr.evaluateAll outside view items))
  | .dict entries => do give (Item.ofPairs (← Expr.evaluateEntries outside view entries))
  | .attr e label => do give ((← e.evaluate outside view).attr label)
  | .element e key => do
    let item ← e.evaluate outside view
    let key ← key.evaluate outside view
    give ((← now item).element key)
  | .cut e start stop step => do
    let item ← e.evaluate outside view
    let start ← start.evaluate outside view
    let stop ← stop.evaluate outside view
    let step ← step.evaluate outside view
    give ((← now item).cut start stop step)
  | .call f args => do
    let f ← f.evaluate outside view
    callItem outside f (← Expr.evaluateArguments outside view callName .none args)
  | .filter e word args => do
    let item ← e.evaluate outside view
    let args ← Expr.evaluateArguments outside view (functionName filters word) .none args
    give (applyFilter word (args.behind (← now item)))
  | .test e word args => do
    let item ← e.evaluate outside view
    let args ← Expr.evaluateArguments outside view (functionName tests word) .none args
    give (applyTest word (args.behind (← now item)))
  | .not e => do
    let holds ← attempt (← e.evaluate outside view).truthy
    return .bool !holds
  | .negate e => do attempt (← e.evaluate outside view).negate
  | .positive e => do attempt (← e.evaluate outside view).positive
  | .and l r => do
    let item ← l.evaluate outside view
    if ← attempt item.truthy then r.evaluate outside view else return item
  | .or l r => do
    let item ← l.evaluate outside view
    if ← attempt item.truthy then return item else r.evaluate outside view
  | .arithmetic .mod (.const (.text format)) (.tuple items) => do
    let items ← match Percent.showLetters? format.length format.toList with
      | some letters =>
        if letters.length = items.length then
          Expr.evaluateShown outside view letters items
        else allNow (← Expr.evaluateAll outside view items)
      | none => allNow (← Expr.evaluateAll outside view items)
    attempt (Item.arithmetic .mod (.text format) (.tuple items))
  | .arithmetic op l r => do
    let left ← l.evaluate outside view
    let right ← r.evaluate outside view
    give ((← now left).arithmetic op right)
  | .compare first links => do
    Expr.evaluateLinks outside view (← first.evaluate outside view) links
  | .concat parts => do
    attempt (Item.concat (← allNow (← Expr.evaluateAll outside view parts)))
  | .choose condition yes no => do
    if ← attempt (← condition.evaluate outside view).truthy then yes.evaluate outside view
    else no.evaluate outside view
  | .only condition yes line => do
    if ← attempt (← condition.evaluate outside view).truthy then yes.evaluate outside view
    else stamp (.undefined (.alternative line) none)

def Expr.evaluateAll (outside : Outside) (view : View) : List Expr → Rendering (List Item)
  | [] => return []
  | e :: rest => do
    let item ← e.evaluate outside view
    return item :: (← Expr.evaluateAll outside view rest)

/-- Evaluates the items that a format shows, each of which has to have its form
before the next comes up. -/
def Expr.evaluateShown (outside : Outside) (view : View) :
    List Char → List Expr → Rendering (List Item)
  | letter :: letters, e :: rest => do
    let item ← e.evaluate outside view
    let _ ← attempt (if letter = 's' then item.display else item.quotedForm)
    return item :: (← Expr.evaluateShown outside view letters rest)
  | _, _ => return []

def Expr.evaluateArguments (outside : Outside) (view : View)
    (function : String) (args : Arguments) :
    List (ArgumentKind × Expr) → Rendering Arguments
  | [] => return args
  | (kind, e) :: rest => do
    let item ← e.evaluate outside view
    Expr.evaluateArguments outside view
      function (← attempt (args.add function kind item)) rest

/-- Whether comparisons in a row hold, from the item on the left of the first.
The first that does not decides, and what stands behind it is not evaluated. -/
def Expr.evaluateLinks (outside : Outside) (view : View) (left : Item) :
    List (Item.CompareOp × Expr) → Rendering Item
  | [] => return .bool true
  | (op, e) :: rest => do
    let right ← e.evaluate outside view
    let left ← now left
    if ← attempt do (← left.compareWith op right).truthy then
      Expr.evaluateLinks outside view right rest
    else return .bool false

def Expr.evaluateEntries (outside : Outside) (view : View) :
    List (Expr × Expr) → Rendering (List (Item × Item))
  | [] => return []
  | (key, e) :: rest => do
    let key ← key.evaluate outside view
    let item ← e.evaluate outside view
    return (key, item) :: (← Expr.evaluateEntries outside view rest)

end

end SchemaDocs.Template
