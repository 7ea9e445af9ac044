import SchemaDocs.Template.Call
import SchemaDocs.Template.Operation

/-!
# The syntax of templates

An expression is made of constants and names by taking attributes and elements,
calling, filtering, testing and calculating. A template is a list of statements:
text, output, branches, loops, assignments, macros, and the use of other
templates.

A statement that opens a frame (a loop, a macro, a captured text, the template
itself) knows the names that start out unset in it: `Names` says which these
are.
-/

namespace SchemaDocs.Template

inductive Expr
  | const (item : Item)
  | name (s : String)
  | list (items : List Expr)
  | tuple (items : List Expr)
  | dict (entries : List (Expr × Expr))
  | attr (e : Expr) (name : String)
  | element (e key : Expr)
  | cut (e start stop step : Expr)
  /-- The arguments of a call stand in the order in which they are worked out. -/
  | call (f : Expr) (args : List (ArgumentKind × Expr))
  | filter (e : Expr) (name : String) (args : List (ArgumentKind × Expr))
  | test (e : Expr) (name : String) (args : List (ArgumentKind × Expr))
  | not (e : Expr)
  | negate (e : Expr)
  | positive (e : Expr)
  | and (l r : Expr)
  | or (l r : Expr)
  | arithmetic (op : Item.ArithmeticOp) (l r : Expr)
  /-- Comparisons in a row hold when each of them does. -/
  | compare (first : Expr) (links : List (Item.CompareOp × Expr))
  | concat (parts : List Expr)
  | choose (condition yes no : Expr)
  /-- A choice without an alternative, on a line of the template. -/
  | only (condition yes : Expr) (line : Nat)

/-- What can be assigned to: a name, a member of something that has a name, or
several of these at once. -/
inductive Target
  | name (s : String)
  | member (object label : String)
  | tuple (items : List Target)

mutual

/-- The names that a target sets, in their order. -/
def Target.names : Target → List String
  | .name s => [s]
  | .member _ _ => []
  | .tuple items => Target.namesOfAll items

def Target.namesOfAll : List Target → List String
  | [] => []
  | t :: rest => t.names ++ Target.namesOfAll rest

end

mutual

/-- The names whose members a target sets. -/
def Target.objects : Target → List String
  | .name _ => []
  | .member object _ => [object]
  | .tuple items => Target.objectsOfAll items

def Target.objectsOfAll : List Target → List String
  | [] => []
  | t :: rest => t.objects ++ Target.objectsOfAll rest

end

/-- A filter that a captured text passes. Strangers are names in its arguments
that nothing around it mentions, and neither does the text; they cannot be
looked up there. -/
structure FilterUse where
  name : String
  args : List (ArgumentKind × Expr)
  strangers : List String := []

/-- How another template is used: with the names that are known here or without,
and whether it may be missing. -/
structure Inclusion where
  withContext : Bool
  mayBeMissing : Bool := false
deriving DecidableEq, Repr

/-- What is known about the frames of a loop: whether its rounds have a name for
its state, and the names that start out unset in a round and in what comes
instead when there are none. -/
structure LoopInfo where
  namesState : Bool := false
  unset : List String := []
  unsetOtherwise : List String := []
deriving DecidableEq, Repr

inductive Stmt
  | text (s : String)
  | print (e : Expr)
  | branch (condition : Expr) (body otherwise : List Stmt)
  /-- A loop over the items for which the condition holds; `otherwise` is for
  when there are none. -/
  | loop (target : Target) (items : Expr) (condition : Option Expr)
    (body otherwise : List Stmt)
    (info : LoopInfo)
  | assign (target : Target) (e : Expr)
  /-- The text of a body becomes markup, filtered on the way. -/
  | capture (target : Target) (filters : List FilterUse) (body : List Stmt)
    (unset : List String)
  | define (info : MacroInfo) (params : List (String × Option Expr)) (body : List Stmt)
    (unset : List String)
  | load (source : Expr) (name : String) (use : Inclusion)
  | embed (source : Expr) (use : Inclusion)

end SchemaDocs.Template

namespace SchemaDocs

open Template (Stmt)

/-- A template that is ready for use, with the names that start out unset in it.
It may mention itself. -/
structure Template where
  body : List Stmt
  unset : List String
  mentionsSelf : Bool

end SchemaDocs
