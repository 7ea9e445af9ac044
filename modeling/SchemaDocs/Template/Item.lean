import SchemaDocs.Template.Fault
import SchemaDocs.Text.Mdx
import SchemaDocs.Value

/-!
# Values inside templates

A template works with the data of a page and with a few things of its own: text
that is markup already, tuples, ranges and views of dictionaries, macros,
imported templates, the state of a loop, names with members, the functions that
values carry and the types they have, and what a name stands for that nothing is
known about.

Every item has a kind, which messages speak of, a quoted form, in which it is
shown inside a list, and a plain form, in which it is shown by itself.
-/

namespace SchemaDocs.Template

/-- The state of a loop as its body sees it. Whether there is a next item, and
how many there are, may depend on a condition that fails. A loop is known by its
place in the store. -/
structure LoopState where
  place : Nat
  index0 : Nat
  hasNext : Except RenderError Bool
  length : Except RenderError Nat

/-- What a macro takes: its parameters, and on demand what is left over of the
arguments, and a block. -/
structure MacroInfo where
  name : String
  params : List String
  takesNamed : Bool
  takesSurplus : Bool
  takesCaller : Bool
deriving DecidableEq, Repr

/-- What a view of a dictionary shows. -/
inductive DictPart
  | keys
  | values
  | items
deriving DecidableEq, Repr

/-- What records are for: members that a template sets, items that come in turn,
and a text that comes only between others. -/
inductive RecordKind
  | names
  | turns
  | separator
deriving DecidableEq, Repr

def RecordKind.name : RecordKind → String
  | .names => "Namespace"
  | .turns => "Cycler"
  | .separator => "Joiner"

def RecordKind.typeName (kind : RecordKind) : String := "jinja2.utils." ++ kind.name

/-- A macro is known by its place in the store of the rendering. What can change
has a place there too, and carries what it held when it was looked up: lists,
dictionaries with their views, and records. A list or a dictionary without a
place is not yet part of the rendering. An undefined value may have a serial
number, by which it is told from others; without one it is not even the same as
itself. -/
inductive Item
  | null
  | bool (b : Bool)
  | int (n : Int)
  | float (x : Binary64)
  | text (s : String)
  | bytes (octets : List UInt8)
  | markup (s : String)
  | list (items : List Item) (place : Option Nat := none)
  | tuple (items : List Item)
  | dict (entries : List (Item × Item)) (place : Option Nat := none)
  | range (start stop step : Int)
  | view (part : DictPart) (entries : List (Item × Item)) (place : Option Nat := none)
  | slice (start stop step : Item)
  | undefined (why : Missing) (serial : Option Nat)
  | macroAt (info : MacroInfo) (address : Nat)
  /-- A template as it was imported, which is told from others by its serial number. -/
  | imported (name : String) (serial : Nat) (exports : List (String × Item))
    (body : String)
  /-- The state of a loop, the item before the current one, if there is one, and
  the one after it. -/
  | loop (state : LoopState) (previous : List Item)
    (next : Except RenderError (List Item))
  | record (kind : RecordKind) (members : List (Item × Item)) (place : Nat)
  /-- What can change, standing somewhere inside itself. It is not shown there again. -/
  | again (item : Item)
  /-- The template that is being rendered. -/
  | self
  /-- A function that an item carries. -/
  | method (owner : Item) (name : String)
  | type (name : String)
  | function (name : String)

namespace Item

mutual

def ofValue : Value → Item
  | .null => .null
  | .bool b => .bool b
  | .int n => .int n
  | .float x => .float x
  | .text s => .text s
  | .bytes octets => .bytes octets
  | .list items => .list (ofValues items)
  | .object entries => .dict (ofEntries entries)

def ofValues : List Value → List Item
  | [] => []
  | v :: rest => ofValue v :: ofValues rest

def ofEntries : List (String × Value) → List (Item × Item)
  | [] => []
  | (key, v) :: rest => (.text key, ofValue v) :: ofEntries rest

end

/-! ## Functions of values -/

/-- The functions of markup that keep it markup; it has the others as any text
has them. -/
def markupFunctions : List String := [
  "join", "split", "rsplit", "splitlines", "unescape", "striptags", "escape",
  "capitalize", "title", "lower", "upper", "replace", "ljust", "rjust", "lstrip",
  "rstrip", "center", "strip", "translate", "expandtabs", "swapcase", "zfill",
  "casefold", "removeprefix", "removesuffix", "partition", "rpartition", "format",
  "format_map", "__html__", "__add__", "__radd__", "__mul__", "__rmul__", "__mod__",
  "__repr__", "__getitem__", "__html_format__"]

/-- Functions with a double underscore around their names that are made like any
other function. -/
def plainSpecials : List String := [
  "__dir__", "__format__", "__getnewargs__", "__getstate__", "__init_subclass__",
  "__new__", "__reduce__", "__reduce_ex__", "__sizeof__", "__subclasshook__",
  "__class_getitem__", "__reversed__", "__ceil__", "__floor__", "__round__",
  "__trunc__", "__getformat__", "__bytes__"]

def isSpecial (name : String) : Bool :=
  "__".toList.isPrefixOf name.toList && "__".toList.isSuffixOf name.toList

/-- The word for the kind of function that a name stands for on an item. -/
def functionKind (owner : Item) (name : String) : String :=
  match owner with
  | .markup _ =>
    if markupFunctions.contains name then "method" else "builtin_function_or_method"
  | .loop _ _ _ => "method"
  | .record _ _ _ =>
    if isSpecial name && name != "__next__" && name != "__call__" then
      if plainSpecials.contains name then "builtin_function_or_method"
      else "method-wrapper"
    else "method"
  | .dict _ _ =>
    if isSpecial name && !plainSpecials.contains name && name != "__contains__" &&
        name != "__getitem__" then
      "method-wrapper"
    else "builtin_function_or_method"
  | .list _ _ =>
    if isSpecial name && !plainSpecials.contains name && name != "__getitem__" then
      "method-wrapper"
    else "builtin_function_or_method"
  | _ =>
    if isSpecial name && !plainSpecials.contains name then "method-wrapper"
    else "builtin_function_or_method"

/-- The word for a kind of item in messages about operations. -/
def kind : Item → String
  | .null => "NoneType"
  | .bool _ => "bool"
  | .int _ => "int"
  | .float _ => "float"
  | .text _ => "str"
  | .bytes _ => "bytes"
  | .markup _ => "Markup"
  | .list _ _ => "list"
  | .tuple _ => "tuple"
  | .dict _ _ => "dict"
  | .range _ _ _ => "range"
  | .view .keys _ _ => "dict_keys"
  | .view .values _ _ => "dict_values"
  | .view .items _ _ => "dict_items"
  | .slice _ _ _ => "slice"
  | .undefined why _ => if why.isLenient then "Undefined" else "StrictUndefined"
  | .macroAt _ _ => "Macro"
  | .imported _ _ _ _ => "TemplateModule"
  | .loop _ _ _ => "LoopContext"
  | .record kind _ _ => kind.name
  | .again item => item.kind
  | .self => "TemplateReference"
  | .method owner name => functionKind owner name
  | .type _ => "type"
  | .function _ => "function"

/-- The full name of the type of an item. -/
def typeName : Item → String
  | .markup _ => "markupsafe.Markup"
  | .undefined why _ =>
    if why.isLenient then "jinja2.runtime.Undefined" else "jinja2.runtime.StrictUndefined"
  | .macroAt _ _ => "jinja2.runtime.Macro"
  | .imported _ _ _ _ => "jinja2.environment.TemplateModule"
  | .loop _ _ _ => "jinja2.runtime.LoopContext"
  | .record kind _ _ => kind.typeName
  | .again item => item.typeName
  | .self => "jinja2.runtime.TemplateReference"
  | item => item.kind

/-- What an item is called in messages about its attributes. -/
def objectName : Item → String
  | .null => "None"
  | item => item.typeName ++ " object"

/-! ## Showing items -/

def partName : DictPart → String
  | .keys => "dict_keys"
  | .values => "dict_values"
  | .items => "dict_items"

mutual

/-- The quoted form, in which an item is shown inside a list. -/
def literal : Item → String
  | .null => "None"
  | .bool b => if b then "True" else "False"
  | .int n => toString n
  | .float x => x.text
  | .text s => Text.quoted s
  | .bytes octets => Text.quotedBytes octets
  | .markup s => "Markup(" ++ Text.quoted s ++ ")"
  | .list items _ => "[" ++ literalItems items ++ "]"
  | .tuple [item] => "(" ++ item.literal ++ ",)"
  | .tuple items => "(" ++ literalItems items ++ ")"
  | .dict entries _ => "\x7b" ++ literalEntries entries ++ "\x7d"
  | .range start stop step =>
    "range(" ++ toString start ++ ", " ++ toString stop ++
      (if step = 1 then "" else ", " ++ toString step) ++ ")"
  | .view part entries _ => partName part ++ "([" ++ literalParts part entries ++ "])"
  | .slice start stop step =>
    "slice(" ++ start.literal ++ ", " ++ stop.literal ++ ", " ++ step.literal ++ ")"
  | .undefined _ _ => "Undefined"
  | .macroAt info _ => "<Macro " ++ Text.quoted info.name ++ ">"
  | .imported name _ _ _ => "<TemplateModule " ++ Text.quoted name ++ ">"
  | .loop state _ _ =>
    "<LoopContext " ++ toString (state.index0 + 1) ++ "/" ++
      (match state.length with | .ok n => toString n | .error _ => "") ++ ">"
  | .record .names members _ => "<Namespace \x7b" ++ literalEntries members ++ "\x7d>"
  | .record kind _ _ => "<" ++ kind.typeName ++ " object>"
  | .again (.list _ _) => "[...]"
  | .again (.dict _ _) => "\x7b...\x7d"
  | .again (.record .names _ _) => "<Namespace \x7b...\x7d>"
  | .again _ => "..."
  | .self => "<TemplateReference None>"
  | .method owner name =>
    match functionKind owner name with
    | "method" =>
      "<bound method " ++ owner.kind ++ "." ++ name ++ " of " ++ owner.literal ++ ">"
    | "method-wrapper" =>
      "<method-wrapper '" ++ name ++ "' of " ++ owner.kind ++ " object>"
    | _ => "<built-in method " ++ name ++ " of " ++ owner.kind ++ " object>"
  | .type name => "<class '" ++ name ++ "'>"
  | .function name => "<function " ++ name ++ ">"

def literalItems : List Item → String
  | [] => ""
  | [item] => item.literal
  | item :: rest => item.literal ++ ", " ++ literalItems rest

def literalEntries : List (Item × Item) → String
  | [] => ""
  | [(key, item)] => key.literal ++ ": " ++ item.literal
  | (key, item) :: rest =>
    key.literal ++ ": " ++ item.literal ++ ", " ++ literalEntries rest

def literalParts (part : DictPart) : List (Item × Item) → String
  | [] => ""
  | (key, item) :: rest =>
    let shown := match part with
      | .keys => key.literal
      | .values => item.literal
      | .items => "(" ++ key.literal ++ ", " ++ item.literal ++ ")"
    shown ++ (if rest.isEmpty then "" else ", ") ++ literalParts part rest

end

mutual

/-- Has every whole number at most 4300 digits? -/
def isShowable : Item → Bool
  | .int n => n.natAbs < Nat.pow 10 4300
  | .list items _ => areShowable items
  | .tuple items => areShowable items
  | .dict entries _ => areEntriesShowable entries
  | .view _ entries _ => areEntriesShowable entries
  | .record _ members _ => areEntriesShowable members
  | _ => true

def areShowable : List Item → Bool
  | [] => true
  | item :: rest => item.isShowable && areShowable rest

def areEntriesShowable : List (Item × Item) → Bool
  | [] => true
  | (key, item) :: rest => key.isShowable && item.isShowable && areEntriesShowable rest

end

/-- The quoted form where it is text of the template. -/
def quotedForm (item : Item) : Except RenderError String :=
  if item.isShowable then .ok item.literal else .error .tooManyDigits

/-- The plain form of an item. Undefined has none, and neither has a number of
more than 4300 digits. -/
def display : Item → Except RenderError String
  | .text s => .ok s
  | .markup s => .ok s
  | .undefined why _ => why.orElse ""
  | .imported _ _ _ body => .ok body
  | item => item.quotedForm

/-- What an output expression prints: markup as it is, nothing for none, all
else escaped for MDX. -/
def printed : Item → Except RenderError String
  | .markup s => .ok s
  | .null => .ok ""
  | item => item.display.map Text.escapeMdx

/-- What a constant prints, which is escaped for HTML only. -/
def printedConstant : Item → Except RenderError String
  | .markup s => .ok s
  | item => item.display.map Text.escapeHtml

/-- Markup and imported templates need no escaping inside markup. -/
def isMarked : Item → Bool
  | .markup _ => true
  | .imported _ _ _ _ => true
  | _ => false

/-! ## Collections -/

/-- How many numbers a range has. -/
def rangeLength (start stop step : Int) : Nat :=
  if 0 < step then (Int.fdiv (stop - start + step - 1) step).toNat
  else if step < 0 then (Int.fdiv (start - stop - step - 1) (-step)).toNat
  else 0

def rangeItems (start stop step : Int) : List Item :=
  (List.range (rangeLength start stop step)).map fun (i : Nat) => .int (start + step * i)

def partItems (part : DictPart) (entries : List (Item × Item)) : List Item :=
  entries.map fun (key, item) => match part with
    | .keys => key
    | .values => item
    | .items => .tuple [key, item]

def chars (s : String) : List Item := s.toList.map fun c => .text (String.ofList [c])

/-- The number of items in a collection. -/
def length? : Item → Option (Except RenderError Nat)
  | .text s => some (.ok s.toList.length)
  | .markup s => some (.ok s.toList.length)
  | .bytes octets => some (.ok octets.length)
  | .list items _ => some (.ok items.length)
  | .tuple items => some (.ok items.length)
  | .dict entries _ => some (.ok entries.length)
  | .range start stop step =>
    let n := rangeLength start stop step
    some
      (if n < Nat.pow 2 63 then .ok n
      else .error (.overflow "Python int too large to convert to C ssize_t"))
  | .view _ entries _ => some (.ok entries.length)
  | .undefined why _ => some (why.orElse 0)
  | .loop state _ _ => some state.length
  | _ => none

def truthy : Item → Except RenderError Bool
  | .null => .ok false
  | .bool b => .ok b
  | .int n => .ok (n ≠ 0)
  | .float x => .ok !x.isZero
  | .undefined why _ => why.orElse false
  | .range start stop step => .ok (rangeLength start stop step ≠ 0)
  | item => match item.length? with
    | some n => n.map (· ≠ 0)
    | none => .ok true

/-- What a loop goes over: the items of a collection, the keys of a dictionary,
the characters of a text. -/
def elements : Item → Except RenderError (List Item)
  | .list items _ => .ok items
  | .tuple items => .ok items
  | .dict entries _ => .ok (entries.map (·.1))
  | .range start stop step => .ok (rangeItems start stop step)
  | .view part entries _ => .ok (partItems part entries)
  | .text s => .ok (chars s)
  | .markup s => .ok (chars s)
  | .bytes octets => .ok (octets.map fun b => .int b.toNat)
  | .undefined why _ => why.orElse []
  | .self => .error (.noKey "0")
  | item => .error (.notIterable item.kind)

end Item

end SchemaDocs.Template
