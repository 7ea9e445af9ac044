import SchemaDocs.Template.Loop
import SchemaDocs.Template.Names
import SchemaDocs.Template.Selection

/-!
# Rendering

Statements give text. A template that is used sees what is set here, or, without
the context, only the names that every template knows; what it is then does not
depend on where it is used, so it is run once and shared.

A captured text is markup, and so is what a macro gives.
-/

namespace SchemaDocs.Template

/-! ## Templates in use -/

mutual

/-- The names that stand for imported templates in some statements. -/
def Stmt.loadedNames : Stmt → List String
  | .load _ name _ => [name]
  | .branch _ body otherwise => Stmt.allLoadedNames body ++ Stmt.allLoadedNames otherwise
  | _ => []

def Stmt.allLoadedNames : List Stmt → List String
  | [] => []
  | s :: rest => s.loadedNames ++ Stmt.allLoadedNames rest

end

/-- What a template offers when it is imported: the names that it sets itself,
except those with an underscore first. -/
def exports (t : Template) (scope : Scope) : List (String × Item) :=
  let hidden := "self" :: Stmt.allLoadedNames t.body
  scope.filterMap fun (name, item) =>
    if "_".toList.isPrefixOf name.toList || hidden.contains name then none
    else item.map fun item => (name, item)

/-- A template that ran on a page, as it is imported. -/
def importedItem (outside : Outside) (page : List (String × Item))
    (name : String) (t : Template) :
    Rendering Item := do
  let (body, scope) ← outside.run t page
  return .imported name (← freshSerial) (exports t scope) body

/-- The template that everything shares that imports it without the context. -/
def sharedItem (outside : Outside) (name : String) (t : Template) : Rendering Item := do
  match (← get).modules.lookup name with
  | some item => return item
  | none =>
    let item ← importedItem outside builtins name t
    modify fun store => { store with modules := (name, item) :: store.modules }
    return item

def loadItem (outside : Outside) (view : View) (use : Inclusion) (source : Item) :
    Rendering Item := do
  let name ← attempt (templateName source)
  let t ← attempt (outside.find name)
  if use.withContext then importedItem outside (view.flatten (← get)) name t
  else sharedItem outside name t

def embedText (outside : Outside) (view : View) (use : Inclusion) (source : Item) :
    Rendering String := do
  match selectTemplate outside.find source with
  | .error fault =>
    if use.mayBeMissing && fault.isMissingTemplate then return "" else throw fault
  | .ok (name, t) =>
    if use.withContext then return (← outside.run t (view.flatten (← get))).1
    else attempt (← sharedItem outside name t).display

/-! ## Statements -/

/-- Passes an item through filters, the first one first. -/
def applyFilters (outside : Outside) (view : View) (item : Item) :
    List FilterUse → Rendering Item
  | [] => return item
  | use :: rest => do
    let args ← Expr.evaluateArguments outside view
      (functionName filters use.name) .none use.args
    applyFilters outside view (← give (applyFilter use.name (args.behind item))) rest

mutual

def Stmt.run (outside : Outside) (view : View) : Stmt → Rendering String
  | .text s => return s
  | .print e => do attempt (← e.evaluate outside view).printed
  | .branch condition body otherwise => do
    if ← attempt (← condition.evaluate outside view).truthy then
      Stmt.runAll outside view body
    else Stmt.runAll outside view otherwise
  | .loop target items condition body otherwise info => do
    let source ← items.evaluate outside view
    let items ← attempt source.elements
    let round (item state : Item) : Rendering String := do
      let own : Scope := if info.namesState then [("loop", some state)] else []
      let inner ← view.enter (own ++ unsetScope info.unset)
      inner.assignTarget target item
      Stmt.runAll outside inner body
    let place ← modifyGet (·.hold (.items []))
    let progress ← runRounds (passes outside view target condition)
      round place source roundLimit .start items
    if progress.done ≠ 0 then return progress.out
    let inner ← view.enter (unsetScope info.unsetOtherwise)
    Stmt.runAll outside inner otherwise
  | .assign target e => do
    view.checkObjects target
    view.assignTarget target (← e.evaluate outside view)
    return ""
  | .capture target filters body unset => do
    let inner ← view.enter (unsetScope unset)
    let out ← Stmt.runAll outside inner body
    let item ← applyFilters outside inner (.markup out) filters
    view.assignTarget target (.markup (← attempt item.display))
    return ""
  | .define info params body unset => do
    let (place, store) :=
      (← get).define ⟨info, params, body, unset, view.page, view.scopes⟩
    set store
    view.assign info.name (.macroAt info place)
    return ""
  | .load source name use => do
    view.assign name (← loadItem outside view use (← source.evaluate outside view))
    return ""
  | .embed source use => do embedText outside view use (← source.evaluate outside view)

def Stmt.runAll (outside : Outside) (view : View) : List Stmt → Rendering String
  | [] => return ""
  | s :: rest => do
    let first ← s.run outside view
    return first ++ (← Stmt.runAll outside view rest)

end

/-- The text of a template on a page, and the scope that it leaves. -/
def run (outside : Outside) (t : Template) (page : List (String × Item)) :
    Rendering (String × Scope) := do
  let own : Scope := if t.mentionsSelf then [("self", some .self)] else []
  let view ← (View.mk page []).enter (own ++ unsetScope t.unset)
  let out ← Stmt.runAll outside view t.body
  match view.scopes with
  | place :: _ => return (out, (← get).scope place)
  | [] => return (out, [])

/-! ## Macros -/

/-- Gives parameters their arguments by position and then by name; what is left
over of each. -/
def bindArguments (named : List (String × Item)) :
    List String → List Item → Scope × List Item × List (String × Item)
  | [], args => ([], args, named)
  | name :: params, arg :: args =>
    let (scope, rest) := bindArguments named params args
    ((name, some arg) :: scope, rest)
  | name :: params, [] =>
    let (scope, args, rest) := bindArguments (named.filter (·.1 != name)) params []
    ((name, named.lookup name) :: scope, args, rest)

/-- The block that a macro is called with, unless it has a parameter for it. -/
def bindCaller (info : MacroInfo) (named : List (String × Item)) :
    Rendering (Scope × List (String × Item)) :=
  if info.takesCaller && !info.params.contains "caller" then do
    let caller ← match named.lookup "caller" with
      | none => stamp (.undefined .caller none)
      | some .null => stamp (.undefined .caller none)
      | some item => pure item
    return ([("caller", some caller)], named.filter (·.1 != "caller"))
  else return ([], named)

/-- Arguments by name that no parameter takes. -/
def bindNamed (info : MacroInfo) (named : List (String × Item)) :
    Except RenderError Scope :=
  if info.takesNamed then
    .ok [("kwargs", some (.dict (named.map fun (key, item) => (.text key, item))))]
  else match named with
    | [] => .ok []
    | (key, _) :: _ =>
      if named.any (·.1 == "caller") then .error (.call (.macroCallers info.name))
      else .error (.call (.macroKeyword info.name key))

/-- Arguments by position that no parameter takes. -/
def bindSurplus (info : MacroInfo) (surplus : List Item) : Except RenderError Scope :=
  if info.takesSurplus then .ok [("varargs", some (.tuple surplus))]
  else if surplus.isEmpty then .ok []
  else .error (.call (.macroSurplus info.name info.params.length))

/-- Fills the parameters that have no argument with their defaults. -/
def fillDefaults (outside : Outside) (view : View) (scope : Scope) :
    List (String × Option Expr) → Rendering Unit
  | [] => return ()
  | (name, default) :: rest => do
    match scope.lookup name, default with
    | some none, some e => view.assign name (← e.evaluate outside view)
    | some none, none => view.assign name (← stamp (.undefined (.parameter name) none))
    | _, _ => pure ()
    fillDefaults outside view scope rest

/-- The markup that a macro gives for arguments. -/
def Closure.apply (outside : Outside) (closure : Closure) (args : Arguments) :
    Rendering Item := do
  let (scope, surplus, named) :=
    bindArguments args.named closure.info.params args.positional
  let (caller, named) ← bindCaller closure.info named
  let rest :=
    (← attempt (bindNamed closure.info named)) ++
      (← attempt (bindSurplus closure.info surplus))
  let rest ← rest.mapM fun (name, item) => do return (name, ← item.mapM stamp)
  let view ← (View.mk closure.page closure.scopes).enter
    (scope ++ caller ++ rest ++ unsetScope closure.unset)
  fillDefaults outside view scope closure.params
  return .markup (← Stmt.runAll outside view closure.body)

end SchemaDocs.Template
