import SchemaDocs.Template.Filter
import SchemaDocs.Template.Syntax
import SchemaDocs.Template.Token

/-!
# Constant expressions

What does not depend on the page is worked out before the page is known.
`Expr.constant` gives the item of such an expression, and `Expr.simplify` puts
it in its place wherever it can be written down. An operation that fails is left
to fail when the page is rendered; only the condition of a choice, the text of a
part of a join and the keys of a dictionary have to be known at once.

A join of constants is plain text, whatever markup goes into it. A constant is
written down by its quoted form, which a whole number of too many digits does
not have, and in which infinity is a mere name.
-/

namespace SchemaDocs.Template

/-- Why an expression has no constant item: it depends on the page or fails like
something that does, or it cannot even be asked what it is. -/
inductive NoConstant
  | varying
  | failing (why : RenderError)

/-- A failure that is left for later. -/
def NoConstant.later : Except RenderError α → Except NoConstant α
  | .ok a => .ok a
  | .error _ => .error .varying

/-- A failure that is reported at once. -/
def NoConstant.atOnce : Except RenderError α → Except NoConstant α
  | .ok a => .ok a
  | .error why => .error (.failing why)

open NoConstant (later atOnce)

namespace Item

mutual

/-- Can the item stand in a template as a constant? -/
def isPlain : Item → Bool
  | .null => true
  | .bool _ => true
  | .int _ => true
  | .float _ => true
  | .text _ => true
  | .markup _ => true
  | .range _ _ _ => true
  | .list items _ => arePlain items
  | .tuple items => arePlain items
  | .dict entries _ => areEntriesPlain entries
  | _ => false

def arePlain : List Item → Bool
  | [] => true
  | item :: rest => item.isPlain && arePlain rest

def areEntriesPlain : List (Item × Item) → Bool
  | [] => true
  | (key, item) :: rest => key.isPlain && item.isPlain && areEntriesPlain rest

end

end Item

namespace Item

mutual

/-- The name that stands for a number that has no digits, if there is one in a
constant. -/
def unwritable? : Item → Option String
  | .float .nan => some "nan"
  | .float (.infinite _) => some "inf"
  | .list items _ => anyUnwritable? items
  | .tuple items => anyUnwritable? items
  | .dict entries _ => anyEntryUnwritable? entries
  | _ => none

def anyUnwritable? : List Item → Option String
  | [] => none
  | item :: rest => item.unwritable?.or (anyUnwritable? rest)

def anyEntryUnwritable? : List (Item × Item) → Option String
  | [] => none
  | (key, item) :: rest =>
    (key.unwritable?.or item.unwritable?).or (anyEntryUnwritable? rest)

end

end Item

mutual

def Expr.constant : Expr → Except NoConstant Item
  | .const item => .ok item
  | .name _ => .error .varying
  | .list items => do return .list (← Expr.constants items)
  | .tuple items => do return .tuple (← Expr.constants items)
  | .dict entries => do return .dict (← Expr.constantEntries [] entries)
  | .attr e label => do later ((← e.constant).attr label)
  | .element e key => do
    let item ← e.constant
    later (item.element (← key.constant))
  | .cut e start stop step => do
    let item ← e.constant
    let start ← start.constant
    let stop ← stop.constant
    later (item.element (.slice start stop (← step.constant)))
  | .call _ _ => .error .varying
  | .filter e word args => do
    let args ← Expr.constantArguments (functionName filters word) .none args
    let item ← e.constant
    later (applyFilter word (args.behind item))
  | .test e word args => do
    let args ← Expr.constantArguments (functionName tests word) .none args
    let item ← e.constant
    later (applyTest word (args.behind item))
  | .not e => do
    let holds ← later (← e.constant).truthy
    return .bool !holds
  | .negate e => do later (← e.constant).negate
  | .positive e => do later (← e.constant).positive
  | .and l r => do
    let item ← l.constant
    if ← atOnce item.truthy then r.constant else return item
  | .or l r => do
    let item ← l.constant
    if ← atOnce item.truthy then return item else r.constant
  | .arithmetic op l r => do
    let item ← l.constant
    later (item.arithmetic op (← r.constant))
  | .compare first links => do Expr.constantLinks (← first.constant) links
  | .concat parts => do return .text (← Expr.constantText parts)
  | .choose condition yes no => do
    if ← atOnce (← condition.constant).truthy then yes.constant else no.constant
  | .only condition yes _ => do
    if ← atOnce (← condition.constant).truthy then yes.constant else .error .varying

def Expr.constants : List Expr → Except NoConstant (List Item)
  | [] => .ok []
  | e :: rest => do
    let item ← e.constant
    return item :: (← Expr.constants rest)

/-- The plain forms of constants in a row, without regard to markup. -/
def Expr.constantText : List Expr → Except NoConstant String
  | [] => .ok ""
  | e :: rest => do
    let s ← atOnce (← e.constant).display
    return s ++ (← Expr.constantText rest)

def Expr.constantArguments (function : String) (args : Arguments) :
    List (ArgumentKind × Expr) → Except NoConstant Arguments
  | [] => .ok args
  | (kind, e) :: rest => do
    let item ← e.constant
    Expr.constantArguments function (← later (args.add function kind item)) rest

/-- Whether comparisons in a row hold, from the item on the left of the first. -/
def Expr.constantLinks (left : Item) :
    List (Item.CompareOp × Expr) → Except NoConstant Item
  | [] => .ok (.bool true)
  | (op, e) :: rest => do
    let right ← e.constant
    let result ← later (left.compareWith op right)
    if ← later result.truthy then Expr.constantLinks right rest else return .bool false

/-- Entries of a dictionary, each of which is put in before the next is looked at. -/
def Expr.constantEntries (entries : List (Item × Item)) :
    List (Expr × Expr) → Except NoConstant (List (Item × Item))
  | [] => .ok entries
  | (key, e) :: rest => do
    let key ← key.constant
    let item ← e.constant
    Expr.constantEntries (← atOnce (Item.putEntry entries key item)) rest

end

/-- The constant in the place of an expression, if there is one that can be
written down. -/
def Expr.settle (e : Expr) : Except SyntaxError Expr :=
  match e.constant with
  | .ok item => .ok (if item.isPlain then .const item else e)
  | .error .varying => .ok e
  | .error (.failing why) => .error (.constant why)

mutual

/-- Replaces constant expressions by their items, from the inside out. -/
def Expr.simplify : Expr → Except SyntaxError Expr
  | .const item => .ok (.const item)
  | .name s => .ok (.name s)
  | .list items => do Expr.settle (.list (← Expr.simplifyAll items))
  | .tuple items => do Expr.settle (.tuple (← Expr.simplifyAll items))
  | .dict entries => do Expr.settle (.dict (← Expr.simplifyEntries entries))
  | .attr e label => do Expr.settle (.attr (← e.simplify) label)
  | .element e key => do Expr.settle (.element (← e.simplify) (← key.simplify))
  | .cut e start stop step => do
    let e ← e.simplify
    let start ← start.simplify
    Expr.settle (.cut e start (← stop.simplify) (← step.simplify))
  | .call f args => do return .call (← f.simplify) (← Expr.simplifyArguments args)
  | .filter e word args => do
    Expr.settle (.filter (← e.simplify) word (← Expr.simplifyArguments args))
  | .test e word args => do
    Expr.settle (.test (← e.simplify) word (← Expr.simplifyArguments args))
  | .not e => do Expr.settle (.not (← e.simplify))
  | .negate e => do Expr.settle (.negate (← e.simplify))
  | .positive e => do Expr.settle (.positive (← e.simplify))
  | .and l r => do Expr.settle (.and (← l.simplify) (← r.simplify))
  | .or l r => do Expr.settle (.or (← l.simplify) (← r.simplify))
  | .arithmetic op l r => do Expr.settle (.arithmetic op (← l.simplify) (← r.simplify))
  | .compare first links => do
    Expr.settle (.compare (← first.simplify) (← Expr.simplifyLinks links))
  | .concat parts => do Expr.settle (.concat (← Expr.simplifyAll parts))
  | .choose condition yes no => do
    Expr.settle (.choose (← condition.simplify) (← yes.simplify) (← no.simplify))
  | .only condition yes line => do
    Expr.settle (.only (← condition.simplify) (← yes.simplify) line)

def Expr.simplifyAll : List Expr → Except SyntaxError (List Expr)
  | [] => .ok []
  | e :: rest => do return (← e.simplify) :: (← Expr.simplifyAll rest)

def Expr.simplifyArguments :
    List (ArgumentKind × Expr) → Except SyntaxError (List (ArgumentKind × Expr))
  | [] => .ok []
  | (kind, e) :: rest => do return (kind, ← e.simplify) :: (← Expr.simplifyArguments rest)

def Expr.simplifyLinks :
    List (Item.CompareOp × Expr) → Except SyntaxError (List (Item.CompareOp × Expr))
  | [] => .ok []
  | (op, e) :: rest => do return (op, ← e.simplify) :: (← Expr.simplifyLinks rest)

def Expr.simplifyEntries : List (Expr × Expr) → Except SyntaxError (List (Expr × Expr))
  | [] => .ok []
  | (key, e) :: rest => do
    return (← key.simplify, ← e.simplify) :: (← Expr.simplifyEntries rest)

end

end SchemaDocs.Template
