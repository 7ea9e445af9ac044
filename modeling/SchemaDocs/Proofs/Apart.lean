import SchemaDocs.Proofs.CleanOperations
import SchemaDocs.Template.Store

/-!
# Templates that keep markup apart

Only what may be plain text is escaped when it is printed, so a template leaks
as soon as a join makes markup of plain text. `Apart` is a discipline of the
syntax that rules this out. It goes through a template with two levels, `true`
for what may have markup or macros in it and `false` for what has none:

* the text of the template itself has no structure, and a constant is clean;
* what is captured is marked, and so is what a marked name gives when it is
  called;
* texts are only put together when none of them is marked;
* macros are `marked` names, and so is a name that takes something marked;
* what is called is one of the `called` names, which stand for macros, for
  types, or for something that cannot be called.

The last rule keeps the functions of values out, which would need a rule each,
and with them whatever changes an item in its place.
-/

namespace SchemaDocs.Template

open Text (Unstructured)

/-- The names that may be called and those that may be marked. Whether macros may
be given something marked holds for all of them. -/
structure Marking where
  called : List String
  marked : List String
  passes : Bool

namespace Marking

/-- May the name be marked? -/
def allows (k : Marking) (name : String) : Bool := k.marked.contains name

/-- The names take what is at a level, and are not called. -/
def Takes (k : Marking) (level : Bool) (names : List String) : Prop :=
  ∀ name ∈ names, name ∉ k.called ∧ (level → k.allows name)

end Marking

/-- Nothing that a call would change or go through to something else. -/
def Item.Free : Item → Prop
  | .method _ _ => False
  | .record _ _ _ => False
  | _ => True

/-- The names that a macro gives something when it is called. -/
def MacroInfo.taken (info : MacroInfo) : List String :=
  info.params ++ (if info.takesNamed then ["kwargs"] else []) ++
    (if info.takesSurplus then ["varargs"] else []) ++
    (if info.takesCaller then ["caller"] else [])

/-- The names that a loop gives something in each round. -/
def LoopInfo.taken (info : LoopInfo) (target : Target) : List String :=
  target.names ++ if info.namesState then ["loop"] else []

section

variable (k : Marking)

def Expr.IsCalled : Expr → Prop
  | .name s => s ∈ k.called
  | _ => False

mutual

/-- What the expression gives is at a level. -/
def Expr.Apart (level : Bool) : Expr → Prop
  | .const item => item.Clean level
  | .name s => k.allows s → level
  | .list items => Expr.AllApart level items
  | .tuple items => Expr.AllApart level items
  | .dict entries => Expr.EntriesApart level entries
  | .attr e _ => e.Apart level
  | .element e key => e.Apart level ∧ key.Apart true
  | .cut e start stop step =>
    e.Apart level ∧ start.Apart true ∧ stop.Apart true ∧ step.Apart true
  -- An unmarked name is no macro, so what it makes is made of the arguments.
  | .call f args =>
    f.IsCalled k ∧ f.Apart level ∧ Expr.ArgumentsApart (level && k.passes) args
  | .filter e word args =>
    (word ≠ "safe" ∧ word ≠ "yaml_str") ∧ e.Apart level ∧ Expr.ArgumentsApart level args
  | .test e _ args => e.Apart true ∧ Expr.ArgumentsApart true args
  | .not e => e.Apart true
  | .negate e => e.Apart true
  | .positive e => e.Apart true
  | .and l r => l.Apart level ∧ r.Apart level
  | .or l r => l.Apart level ∧ r.Apart level
  | .arithmetic op l r => l.Apart (level && !op.joins) ∧ r.Apart (level && !op.joins)
  | .compare first links => first.Apart true ∧ Expr.LinksApart links
  | .concat parts => Expr.AllApart false parts
  | .choose condition yes no => condition.Apart true ∧ yes.Apart level ∧ no.Apart level
  | .only condition yes _ => condition.Apart true ∧ yes.Apart level

def Expr.AllApart (level : Bool) : List Expr → Prop
  | [] => True
  | e :: rest => e.Apart level ∧ Expr.AllApart level rest

def Expr.ArgumentsApart (level : Bool) : List (ArgumentKind × Expr) → Prop
  | [] => True
  | (_, e) :: rest => e.Apart level ∧ Expr.ArgumentsApart level rest

def Expr.LinksApart : List (Item.CompareOp × Expr) → Prop
  | [] => True
  | (_, e) :: rest => e.Apart true ∧ Expr.LinksApart rest

def Expr.EntriesApart (level : Bool) : List (Expr × Expr) → Prop
  | [] => True
  | (key, e) :: rest => key.Apart level ∧ e.Apart level ∧ Expr.EntriesApart level rest

end

/-- The defaults of parameters are at the level of what macros are given. -/
def ParamsApart (params : List (String × Option Expr)) : Prop :=
  ∀ p ∈ params, k.Takes k.passes [p.1] ∧ ∀ e ∈ p.2, e.Apart k k.passes

mutual

def Stmt.Apart : Stmt → Prop
  | .text s => Unstructured s
  | .print e => e.Apart k true
  | .branch condition body otherwise =>
    condition.Apart k true ∧ Stmt.AllApart body ∧ Stmt.AllApart otherwise
  | .loop target items condition body otherwise info =>
    (∃ level, items.Apart k level ∧ k.Takes level (info.taken target)) ∧
      (∀ e ∈ condition, e.Apart k true) ∧ target.objects = [] ∧ Stmt.AllApart body ∧
      Stmt.AllApart otherwise
  | .assign target e =>
    (∃ level, e.Apart k level ∧ k.Takes level target.names) ∧ target.objects = []
  -- A filter could put plain text in the place of what was captured.
  | .capture target filters body _ =>
    filters = [] ∧ k.Takes true target.names ∧ target.objects = [] ∧ Stmt.AllApart body
  | .define info params body _ =>
    k.allows info.name ∧ k.Takes k.passes info.taken ∧ ParamsApart k params ∧
      Stmt.AllApart body
  | .load _ _ _ => False
  | .embed _ _ => False

def Stmt.AllApart : List Stmt → Prop
  | [] => True
  | s :: rest => s.Apart ∧ Stmt.AllApart rest

end

end

end SchemaDocs.Template
