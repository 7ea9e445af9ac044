import SchemaDocs.Template.Builtin
import SchemaDocs.Template.Constant

/-!
# A dialect of templates

A failure is contained if it is reported as a failure of the template or as the
misuse of a value. Arithmetic that has no result is not, and neither is what
comes of numbers without digits; so for templates that calculate these have to be
let through. Calls that nest too deep are left out of account everywhere.

A `Dialect` is a part of the language of templates in which there is nothing
else that could escape. What is called in it are macros, by their own name or as
part of an imported template, and the names for these are given nothing else.
So the functions of values, which would need a rule each, are never called, and
nothing changes an item in its place. There are no dictionaries in the text of
a template.
-/

namespace SchemaDocs.Template

/-- What comes of calculating: arithmetic without a result, results that are too
large, and numbers that cannot be written down. -/
def RenderError.isArithmetic : RenderError → Bool
  | .divisionByZero _ => true
  | .overflow _ => true
  | .unwritable _ => true
  | .format .characterRange => true
  | .format .octetRange => true
  | _ => false

/-- Reported as a failure of the template or as a misuse of a value, apart from
calls that nest too deep and from what calculating may come to. -/
def RenderError.Contained (calculates : Bool) (e : RenderError) : Prop :=
  e.origin.foreign? = none ∨ e = .tooDeep ∨ calculates = true ∧ e.isArithmetic = true

namespace RenderError.Contained

variable {calculates : Bool} {e : RenderError}

theorem own (h : e.origin.foreign? = none) : e.Contained calculates := .inl h

theorem tooDeep : RenderError.tooDeep.Contained calculates := .inr (.inl rfl)

theorem arithmetic (h : e.isArithmetic = true) : e.Contained true := .inr (.inr ⟨rfl, h⟩)

theorem undefined (why : Missing) :
    (RenderError.undefined why).Contained calculates := .inl rfl

theorem call (fault : CallFault) :
    (RenderError.call fault).Contained calculates := .inl rfl

end RenderError.Contained

/-! ## Names -/

/-- The macros of the built-in layout. -/
def layoutMacros : List String :=
  ["heading", "type_ref", "field_type", "enum", "message", "service"]

/-- The names that are called, those that stand for nothing but macros, and those
that stand for imported templates. The block that a macro is called with may be
anything, and what every template knows may be a type. -/
structure Dialect where
  called : List String
  macros : List String
  aliases : List String
  called_macros : ∀ name ∈ called, name ∈ macros := by decide
  macros_free : ∀ name ∈ "caller" :: builtins.map (·.1), name ∉ macros := by decide
  aliases_free : ∀ name ∈ ["caller", "kwargs", "page"], name ∉ aliases := by decide

namespace Dialect

variable (d : Dialect)

/-- May the name be given anything? -/
def leaves (name : String) : Bool := !d.macros.contains name && !d.aliases.contains name

/-- Names that may be given anything, and no members. -/
def takes (target : Target) : Bool := target.objects.isEmpty && target.names.all d.leaves

end Dialect

/-! ## Expressions -/

mutual

/-- Can the item stand in a template, as a part of its text or in place of it?
Only calculating makes numbers that have no digits. -/
def Item.isWritten (calculates : Bool) : Item → Bool
  | .null => true
  | .bool _ => true
  | .int _ => true
  | .float x => calculates || (Item.float x).unwritable?.isNone
  | .text _ => true
  | .markup _ => true
  | .list items _ => Item.areWritten calculates items
  | .tuple items => Item.areWritten calculates items
  | _ => false

def Item.areWritten (calculates : Bool) : List Item → Bool
  | [] => true
  | item :: rest => item.isWritten calculates && Item.areWritten calculates rest

end

section

variable (calculates : Bool) (d : Dialect)

/-- Is it a macro that is called here? -/
def Expr.isMacro : Expr → Bool
  | .name s => d.called.contains s
  | .attr (.name s) label => d.aliases.contains s && layoutMacros.contains label
  | _ => false

mutual

/-- Does the expression keep to the dialect, calculating only if this is asked for?
To take the whole part of a number counts as calculating. -/
def Expr.isWithin : Expr → Bool
  | .const item => item.isWritten calculates
  | .name _ => true
  | .list items => Expr.allWithin items
  | .tuple items => Expr.allWithin items
  | .dict _ => false
  | .attr e _ => e.isWithin
  | .element e key => e.isWithin && key.isWithin
  | .cut e start stop step =>
    e.isWithin && start.isWithin && stop.isWithin && step.isWithin
  | .call f args => f.isMacro d && Expr.argumentsWithin args
  | .filter e word args =>
    (calculates || word != "int") && e.isWithin && Expr.argumentsWithin args
  | .test e _ args => e.isWithin && Expr.argumentsWithin args
  | .not e => e.isWithin
  | .negate e => e.isWithin
  | .positive e => e.isWithin
  | .and l r => l.isWithin && r.isWithin
  | .or l r => l.isWithin && r.isWithin
  | .arithmetic _ l r => calculates && l.isWithin && r.isWithin
  | .compare first links => first.isWithin && Expr.linksWithin links
  | .concat parts => Expr.allWithin parts
  | .choose condition yes no => condition.isWithin && yes.isWithin && no.isWithin
  | .only condition yes _ => condition.isWithin && yes.isWithin

def Expr.allWithin : List Expr → Bool
  | [] => true
  | e :: rest => e.isWithin && Expr.allWithin rest

def Expr.argumentsWithin : List (ArgumentKind × Expr) → Bool
  | [] => true
  | (_, e) :: rest => e.isWithin && Expr.argumentsWithin rest

def Expr.linksWithin : List (Item.CompareOp × Expr) → Bool
  | [] => true
  | (_, e) :: rest => e.isWithin && Expr.linksWithin rest

end

/-! ## Statements -/

/-- Are the parameters names that may be given anything, with defaults that keep to
the dialect? -/
def paramsWithin (params : List (String × Option Expr)) : Bool :=
  params.all fun p => d.leaves p.1 && p.2.all (Expr.isWithin calculates d)

mutual

/-- Does the statement keep to the dialect? The templates of the built-in layout
calculate, so what uses them does. -/
def Stmt.isWithin : Stmt → Bool
  | .text _ => true
  | .print e => e.isWithin calculates d
  | .branch condition body otherwise =>
    condition.isWithin calculates d && Stmt.allWithin body && Stmt.allWithin otherwise
  | .loop target items condition body otherwise _ =>
    d.takes target && items.isWithin calculates d &&
      condition.all (Expr.isWithin calculates d) && Stmt.allWithin body &&
      Stmt.allWithin otherwise
  | .assign target e => d.takes target && e.isWithin calculates d
  | .capture target filters body _ =>
    d.takes target && filters.isEmpty && Stmt.allWithin body
  | .define info params body _ =>
    info.params.all d.leaves && paramsWithin calculates d params && Stmt.allWithin body
  | .load source _ _ => calculates && source.isWithin calculates d
  | .embed source _ => calculates && source.isWithin calculates d

def Stmt.allWithin : List Stmt → Bool
  | [] => true
  | s :: rest => s.isWithin && Stmt.allWithin rest

end

end

end SchemaDocs.Template
