import SchemaDocs.Number.Shortest
import SchemaDocs.Text.Quoted

/-!
# Values

A schema description arrives as loose data: what a JSON document holds, and
octets where the binary form carries a string that is not text. An object is a
list of entries in the order they were written.

A value is shown in two ways. `display` is the plain form, in which text stands
for itself; `literal` is the quoted form, which is also how anything inside a
list or an object is shown.
-/

namespace SchemaDocs

inductive Value
  | null
  | bool (b : Bool)
  | int (n : Int)
  | float (x : Binary64)
  | text (s : String)
  | bytes (octets : List UInt8)
  | list (items : List Value)
  | object (entries : List (String × Value))

instance : Inhabited Value := ⟨.null⟩

namespace Value

/-- The word for a kind of value in messages. -/
def kind : Value → String
  | .null => "NoneType"
  | .bool _ => "bool"
  | .int _ => "int"
  | .float _ => "float"
  | .text _ => "str"
  | .bytes _ => "bytes"
  | .list _ => "list"
  | .object _ => "dict"

/-- The entry of a key. Keys that occur once make the order irrelevant. -/
def get? (entries : List (String × Value)) (key : String) : Option Value :=
  entries.lookup key

/-- Empty, zero and null values count as absent. -/
def isFalsy : Value → Bool
  | .null => true
  | .bool b => !b
  | .int n => n == 0
  | .float x => x.isZero
  | .text s => s == ""
  | .bytes octets => octets.isEmpty
  | .list items => items.isEmpty
  | .object entries => entries.isEmpty

mutual

/-- How deep lists and objects nest in a value. -/
def depth : Value → Nat
  | .list items => depthItems items + 1
  | .object entries => depthEntries entries + 1
  | _ => 1

def depthItems : List Value → Nat
  | [] => 0
  | v :: rest => max v.depth (depthItems rest)

def depthEntries : List (String × Value) → Nat
  | [] => 0
  | (_, v) :: rest => max v.depth (depthEntries rest)

end

mutual

def literal : Value → String
  | .null => "None"
  | .bool b => if b then "True" else "False"
  | .int n => toString n
  | .float x => x.text
  | .text s => Text.quoted s
  | .bytes octets => Text.quotedBytes octets
  | .list items => "[" ++ literalItems items ++ "]"
  | .object entries => "\x7b" ++ literalEntries entries ++ "\x7d"

def literalItems : List Value → String
  | [] => ""
  | [v] => v.literal
  | v :: rest => v.literal ++ ", " ++ literalItems rest

def literalEntries : List (String × Value) → String
  | [] => ""
  | [(key, v)] => Text.quoted key ++ ": " ++ v.literal
  | (key, v) :: rest =>
    Text.quoted key ++ ": " ++ v.literal ++ ", " ++ literalEntries rest

end

def display : Value → String
  | .text s => s
  | v => v.literal

end Value

end SchemaDocs
