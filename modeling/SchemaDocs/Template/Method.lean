import SchemaDocs.Template.Method.Collection
import SchemaDocs.Template.Method.Number
import SchemaDocs.Template.Method.Text

/-!
# Calling the functions of values

The function of a name that an item carries, called with arguments. The
functions that have a name between double underscores are few: the length of an
item, and its two forms.
-/

namespace SchemaDocs.Template

/-- The functions that every item has. -/
def callCommon (owner : Item) (name : String) (args : Arguments) :
    Option (Except RenderError Item) :=
  let answer (result : Except RenderError Item) :
      Option (Except RenderError Item) := some do
    let _ ← (Convention.wrapped 0).bind owner.kind name args
    result
  match name with
  | "__str__" => answer (owner.display.map .text)
  | "__repr__" => answer (owner.quotedForm.map .text)
  | "__len__" => owner.length?.bind fun n => answer (n.map fun n => .int n)
  | _ => none

/-- The functions of an item by its kind. -/
def callByKind (owner : Item) (name : String) (args : Arguments) :
    Option (Except RenderError Item) :=
  match owner with
  | .text s => callText "str" name s args
  | .markup s => callMarkup name s args
  | .dict entries place => callDict name entries place args
  | .list items _ => callList name items args
  | .tuple items => callTuple name items args
  | .range start stop step => callRange name start stop step args
  | .bool b => callWhole "bool" name b.toNat args
  | .int n => callWhole "int" name n args
  | .float x => callReal name x args
  | .bytes octets => callOctets name octets args
  | .loop state _ _ => if name = "cycle" then some (cycled state.index0 args) else none
  | _ => none

/-- What the function of a name gives that an item carries. -/
def callMethod (owner : Item) (name : String) (args : Arguments) :
    Except RenderError Item :=
  match (callByKind owner name args).or (callCommon owner name args) with
  | some result => result
  | none => .error (.notCallable (Item.functionKind owner name))

end SchemaDocs.Template
