import SchemaDocs.Schema.Index
import SchemaDocs.Text.Split

/-!
# Scopes

A type name with a leading dot is absolute. Any other is relative to the scope
it stands in, the full name of the enclosing message or the package, and is
tried in that scope first, then in each scope around it, and last without any.
The first name that belongs to a message or an enum is meant; a service has a
name of the same space but is never a type, so it hides nothing.
-/

namespace SchemaDocs

/-- The parts of a scope; the empty scope has none. -/
def scopeParts (scope : String) : List String :=
  if scope = "" then [] else Text.splitOn '.' scope

/-- The beginnings of a list, the whole list first. -/
def prefixesDown (parts : List α) : List (List α) :=
  (List.range (parts.length + 1)).reverse.map parts.take

/-- The full names that a type name may mean, in the order they are tried. -/
def candidates (name scope : String) : List String :=
  match name.toList with
  | '.' :: rest => [String.ofList rest]
  | _ =>
    (prefixesDown (scopeParts scope)).map fun parts => qualify (Text.join "." parts) name

/-- The type declared under a full name. -/
def Index.findType? (index : Index) (fullName : String) : Option Declaration :=
  match index.find? fullName with
  | some d => if d.kind = .service then none else some d
  | none => none

/-- The declaration that a type name means in a scope. -/
def Index.lookup? (index : Index) (scope name : String) : Option Declaration :=
  (candidates name scope).findSome? index.findType?

end SchemaDocs
