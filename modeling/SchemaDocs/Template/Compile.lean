import SchemaDocs.Template.Constant
import SchemaDocs.Template.Names
import SchemaDocs.Template.Lexer
import SchemaDocs.Template.Parser.Stmt

/-!
# Compiling a template

Compiling reads a template, works out what is constant in it, and makes sure
that the filters and tests it names exist. Inside a branch or a choice a missing
one is passed over, because it may never be needed; the body of a loop or a
macro starts afresh. A constant that cannot be written down is refused
everywhere.

A constant that is printed is escaped for HTML; it does not pass the escaping
for MDX that everything else passes.
-/

namespace SchemaDocs.Template

/-- Refuses a filter or a test that does not exist, unless it may never be needed. -/
def checkFunction (inBranch : Bool) (table : List (String × NamedFunction))
    (name : String) (fault : SyntaxError) : Except SyntaxError Unit :=
  if !inBranch && (table.lookup name).isNone then .error fault else .ok ()

mutual

/-- Refuses filters and tests that do not exist, the outer ones first. -/
def Expr.check (inBranch : Bool) : Expr → Except SyntaxError Unit
  | .const item => if item.isShowable then .ok () else .error (.constant .tooManyDigits)
  | .name _ => .ok ()
  | .list items => Expr.checkAll inBranch items
  | .tuple items => Expr.checkAll inBranch items
  | .dict entries => Expr.checkEntries inBranch entries
  | .attr e _ => e.check inBranch
  | .element e key => do
    e.check inBranch
    key.check inBranch
  | .cut e start stop step => do
    e.check inBranch
    start.check inBranch
    stop.check inBranch
    step.check inBranch
  | .call f args => do
    f.check inBranch
    Expr.checkArguments inBranch args
  | .filter e word args => do
    checkFunction inBranch filters word (.noFilter word)
    e.check inBranch
    Expr.checkArguments inBranch args
  | .test e word args => do
    checkFunction inBranch tests word (.noTest word)
    e.check inBranch
    Expr.checkArguments inBranch args
  | .not e => e.check inBranch
  | .negate e => e.check inBranch
  | .positive e => e.check inBranch
  | .and l r => do
    l.check inBranch
    r.check inBranch
  | .or l r => do
    l.check inBranch
    r.check inBranch
  | .arithmetic _ l r => do
    l.check inBranch
    r.check inBranch
  | .compare first links => do
    first.check inBranch
    Expr.checkLinks inBranch links
  | .concat parts => Expr.checkAll inBranch parts
  | .choose condition yes no => do
    yes.check true
    condition.check true
    no.check true
  | .only condition yes _ => do
    yes.check true
    condition.check true

def Expr.checkAll (inBranch : Bool) : List Expr → Except SyntaxError Unit
  | [] => .ok ()
  | e :: rest => do
    e.check inBranch
    Expr.checkAll inBranch rest

def Expr.checkArguments (inBranch : Bool) :
    List (ArgumentKind × Expr) → Except SyntaxError Unit
  | [] => .ok ()
  | (_, e) :: rest => do
    e.check inBranch
    Expr.checkArguments inBranch rest

def Expr.checkLinks (inBranch : Bool) :
    List (Item.CompareOp × Expr) → Except SyntaxError Unit
  | [] => .ok ()
  | (_, e) :: rest => do
    e.check inBranch
    Expr.checkLinks inBranch rest

def Expr.checkEntries (inBranch : Bool) : List (Expr × Expr) → Except SyntaxError Unit
  | [] => .ok ()
  | (key, e) :: rest => do
    key.check inBranch
    e.check inBranch
    Expr.checkEntries inBranch rest

end

mutual

/-- Simplifies and checks an expression; `inBranch` lets missing filters and
tests pass. A collection that is no part of an operation is left as it is, and
what it holds is prepared. -/
def Expr.prepare (inBranch : Bool) : Expr → Except SyntaxError Expr
  | .list items => do return .list (← Expr.prepareAll inBranch items)
  | .tuple items => do return .tuple (← Expr.prepareAll inBranch items)
  | .dict entries => do return .dict (← Expr.prepareEntries inBranch entries)
  | e => do
    let e ← e.simplify
    e.check inBranch
    return e

def Expr.prepareAll (inBranch : Bool) : List Expr → Except SyntaxError (List Expr)
  | [] => .ok []
  | e :: rest => do return (← e.prepare inBranch) :: (← Expr.prepareAll inBranch rest)

def Expr.prepareEntries (inBranch : Bool) :
    List (Expr × Expr) → Except SyntaxError (List (Expr × Expr))
  | [] => .ok []
  | (key, e) :: rest => do
    return (← key.prepare inBranch, ← e.prepare inBranch) ::
      (← Expr.prepareEntries inBranch rest)

end

def prepareOptional (inBranch : Bool) : Option Expr → Except SyntaxError (Option Expr)
  | some e => do return some (← e.prepare inBranch)
  | none => .ok none

def prepareParameters :
    List (String × Option Expr) → Except SyntaxError (List (String × Option Expr))
  | [] => .ok []
  | (name, default) :: rest => do
    return (name, ← prepareOptional false default) :: (← prepareParameters rest)

/-- Refuses a stranger that is left in the arguments of a filter. -/
def FilterUse.checkStrangers (use : FilterUse) : Except SyntaxError Unit :=
  match (Expr.namesOfArguments use.args).find? use.strangers.contains with
  | some name => .error (.unknownName name)
  | none => .ok ()

/-- The filters of a captured text, the last of which is the outermost. -/
def prepareFilters (filters : List FilterUse) : Except SyntaxError (List FilterUse) := do
  let simplified ← filters.mapM fun use => do
    return { use with args := ← Expr.simplifyArguments use.args }
  for use in simplified.reverse do
    checkFunction false Template.filters use.name (.noFilter use.name)
  for use in simplified do
    use.checkStrangers
    Expr.checkArguments false use.args
  return simplified

/-- A macro that reads the block it is called with may have it as a parameter
only with a default. -/
def checkCaller (info : MacroInfo) (params : List (String × Option Expr)) :
    Except SyntaxError Unit :=
  if info.takesCaller &&
      params.any (fun (name, default) => name == "caller" && default.isNone) then
    .error .callerNeedsDefault
  else .ok ()

mutual

/-- Is anything inside assigned to the name that stands for the state of a loop? -/
def Stmt.assignsLoop : Stmt → Bool
  | .assign target _ => target.names.contains "loop"
  | .capture target _ body _ => target.names.contains "loop" || Stmt.anyAssignsLoop body
  | .branch _ body otherwise => Stmt.anyAssignsLoop body || Stmt.anyAssignsLoop otherwise
  | .loop target _ _ body otherwise _ =>
    target.names.contains "loop" || Stmt.anyAssignsLoop body ||
      Stmt.anyAssignsLoop otherwise
  | .define _ _ body _ => Stmt.anyAssignsLoop body
  | _ => false

def Stmt.anyAssignsLoop : List Stmt → Bool
  | [] => false
  | s :: rest => s.assignsLoop || Stmt.anyAssignsLoop rest

end

/-- What a constant expression prints, unless this is only known to fail. -/
def Expr.constantText? (e : Expr) : Option String :=
  match e.constant with
  | .ok item => item.printedConstant.toOption
  | .error _ => none

mutual

def Stmt.prepare (inBranch : Bool) : Stmt → Except SyntaxError Stmt
  | .text s => .ok (.text s)
  | .print e =>
    match e.constantText? with
    | some s => .ok (.text s)
    | none => do return .print (← e.prepare inBranch)
  | .branch condition body otherwise => do
    return .branch (← condition.prepare true) (← Stmt.prepareAll true body)
      (← Stmt.prepareAll true otherwise)
  | .loop target items condition body otherwise info => do
    let condition ← prepareOptional false condition
    if target.names.contains "loop" || Stmt.anyAssignsLoop body ||
        Stmt.anyAssignsLoop otherwise then
      throw .cannotAssignLoop
    return .loop target (← items.prepare inBranch) condition
      (← Stmt.prepareAll false body)
      (← Stmt.prepareAll false otherwise) info
  | .assign target e => do return .assign target (← e.prepare inBranch)
  | .capture target filters body unset => do
    let body ← Stmt.prepareAll false body
    return .capture target (← prepareFilters filters) body unset
  | .define info params body unset => do
    checkCaller info params
    return .define info (← prepareParameters params) (← Stmt.prepareAll false body) unset
  | .load source name use => do return .load (← source.prepare inBranch) name use
  | .embed source use => do return .embed (← source.prepare inBranch) use

def Stmt.prepareAll (inBranch : Bool) : List Stmt → Except SyntaxError (List Stmt)
  | [] => .ok []
  | s :: rest => do return (← s.prepare inBranch) :: (← Stmt.prepareAll inBranch rest)

end

/-- The template of a text. -/
def compile (source : String) : Except SyntaxError Template := do
  let template := ofStatements (← parse (tokens source))
  return { template with body := ← Stmt.prepareAll false template.body }

end SchemaDocs.Template
