import SchemaDocs.Template.Comparison

/-!
# Attributes and elements

An item has attributes, which are asked for by name, and it may have elements,
which are asked for by a key or an index. Either way of asking tries the other
one too: behind a point the attribute comes first and then the element of that
name, in brackets the element comes first. What an item does not have is
undefined.

Every item carries functions as attributes, by its kind; numbers and ranges have
parts, and loops and macros say what they are. To ask anything of an undefined
value fails.
-/

namespace SchemaDocs.Template

namespace Item

/-! ## Names of attributes -/

def commonNames : List String := [
  "__class__", "__delattr__", "__dir__", "__doc__", "__eq__", "__format__", "__ge__",
  "__getattribute__", "__getstate__", "__gt__", "__hash__", "__init__",
  "__init_subclass__", "__le__", "__lt__", "__ne__", "__new__", "__reduce__",
  "__reduce_ex__", "__repr__", "__setattr__", "__sizeof__", "__str__",
  "__subclasshook__"]

def textNames : List String := [
  "capitalize", "casefold", "center", "count", "encode", "endswith", "expandtabs",
  "find", "format", "format_map", "index", "isalnum", "isalpha", "isascii", "isdecimal",
  "isdigit", "isidentifier", "islower", "isnumeric", "isprintable", "isspace",
  "istitle", "isupper", "join", "ljust", "lower", "lstrip", "maketrans", "partition",
  "removeprefix", "removesuffix", "replace", "rfind", "rindex", "rjust", "rpartition",
  "rsplit", "rstrip", "split", "splitlines", "startswith", "strip", "swapcase", "title",
  "translate", "upper", "zfill", "__add__", "__contains__", "__getitem__",
  "__getnewargs__", "__iter__", "__len__", "__mod__", "__mul__", "__rmod__", "__rmul__"]

def markupNames : List String := textNames ++ [
  "unescape", "striptags", "escape", "__html__", "__html_format__", "__radd__",
  "__module__"]

def octetNames : List String := [
  "capitalize", "center", "count", "decode", "endswith", "expandtabs", "find",
  "fromhex", "hex", "index", "isalnum", "isalpha", "isascii", "isdigit", "islower",
  "isspace", "istitle", "isupper", "join", "ljust", "lower", "lstrip", "maketrans",
  "partition", "removeprefix", "removesuffix", "replace", "rfind", "rindex", "rjust",
  "rpartition", "rsplit", "rstrip", "split", "splitlines", "startswith", "strip",
  "swapcase", "title", "translate", "upper", "zfill", "__add__", "__bytes__",
  "__contains__", "__getitem__", "__getnewargs__", "__iter__", "__len__", "__mod__",
  "__mul__", "__rmod__", "__rmul__"]

def dictNames : List String := [
  "clear", "copy", "fromkeys", "get", "items", "keys", "pop", "popitem", "setdefault",
  "update", "values", "__class_getitem__", "__contains__", "__delitem__", "__getitem__",
  "__ior__", "__iter__", "__len__", "__or__", "__reversed__", "__ror__", "__setitem__"]

def listNames : List String := [
  "append", "clear", "copy", "count", "extend", "index", "insert", "pop", "remove",
  "reverse", "sort", "__add__", "__class_getitem__", "__contains__", "__delitem__",
  "__getitem__", "__iadd__", "__imul__", "__iter__", "__len__", "__mul__",
  "__reversed__", "__rmul__", "__setitem__"]

def tupleNames : List String := [
  "count", "index", "__add__", "__class_getitem__", "__contains__", "__getitem__",
  "__getnewargs__", "__iter__", "__len__", "__mul__", "__rmul__"]

def numberNames : List String := [
  "as_integer_ratio", "conjugate", "__abs__", "__add__", "__bool__", "__ceil__",
  "__divmod__", "__float__", "__floor__", "__floordiv__", "__getnewargs__", "__int__",
  "__mod__", "__mul__", "__neg__", "__pos__", "__pow__", "__radd__", "__rdivmod__",
  "__rfloordiv__", "__rmod__", "__rmul__", "__round__", "__rpow__", "__rsub__",
  "__rtruediv__", "__sub__", "__truediv__", "__trunc__"]

def wholeNames : List String := numberNames ++ [
  "bit_count", "bit_length", "from_bytes", "to_bytes", "__and__", "__index__",
  "__invert__", "__lshift__", "__or__", "__rand__", "__rlshift__", "__ror__",
  "__rrshift__", "__rshift__", "__rxor__", "__xor__"]

def realNames : List String :=
  numberNames ++ ["fromhex", "hex", "is_integer", "__getformat__"]

def rangeNames : List String := [
  "count", "index", "__bool__", "__contains__", "__getitem__", "__iter__", "__len__",
  "__reversed__"]

def viewNames : DictPart → List String
  | .values => ["__iter__", "__len__", "__reversed__"]
  | _ => [
    "isdisjoint", "__and__", "__contains__", "__iter__", "__len__",
    "__or__", "__rand__", "__reversed__",
    "__ror__", "__rsub__", "__rxor__", "__sub__", "__xor__"]

/-- The names of the functions that an item carries, apart from the common ones. -/
def functionNames : Item → List String
  | .bool _ => wholeNames
  | .int _ => wholeNames
  | .float _ => realNames
  | .text _ => textNames
  | .markup _ => markupNames
  | .bytes _ => octetNames
  | .list _ _ => listNames
  | .tuple _ => tupleNames
  | .dict _ _ => dictNames
  | .range _ _ _ => rangeNames
  | .view part _ _ => viewNames part
  | .loop _ _ _ => ["cycle", "changed", "__len__", "__iter__", "__next__", "__call__"]
  | .imported _ _ _ _ => ["__html__"]
  | .record .turns _ _ => ["next", "reset", "__next__"]
  | .slice _ _ _ => ["indices"]
  | .null => ["__bool__"]
  | _ => ["__call__"]

/-! ## Attributes with a value -/

def LoopState.part? (state : LoopState) : String → Option (Except RenderError Item)
  | "index" => some (.ok (.int (state.index0 + 1)))
  | "index0" => some (.ok (.int state.index0))
  | "first" => some (.ok (.bool (state.index0 == 0)))
  | "last" => some (state.hasNext.map fun next => .bool !next)
  | "length" => some (state.length.map fun n => .int n)
  | "revindex" => some (state.length.map fun n => .int (n - state.index0))
  | "revindex0" => some (state.length.map fun n => .int ((n : Int) - state.index0 - 1))
  | "depth" => some (.ok (.int 1))
  | "depth0" => some (.ok (.int 0))
  | _ => none

def neighbour (why : Missing) : List Item → Item
  | item :: _ => item
  | [] => .undefined why none

def MacroInfo.part? (info : MacroInfo) : String → Option Item
  | "name" => some (.text info.name)
  | "arguments" => some (.tuple (info.params.map .text))
  | "catch_kwargs" => some (.bool info.takesNamed)
  | "catch_varargs" => some (.bool info.takesSurplus)
  | "caller" => some (.bool info.takesCaller)
  | "explicit_caller" => some (.bool (info.params.contains "caller"))
  | _ => none

/-- The items that come in turn, and which of them is the next. -/
def turns (members : List (Item × Item)) : List Item × Nat :=
  match member? members "items", member? members "pos" with
  | some (.tuple items), some (.int n) => (items, n.toNat)
  | _, _ => ([], 0)

/-- The name of a type without the place it comes from. -/
def shortName (name : String) : String :=
  String.ofList ((name.toList.reverse.takeWhile (· ≠ '.')).reverse)

/-- The attributes that have a value of their own. -/
def part? (item : Item) (name : String) : Option (Except RenderError Item) :=
  match item, name with
  | .bool b, "real" => some (.ok (.int b.toNat))
  | .bool b, "numerator" => some (.ok (.int b.toNat))
  | .bool _, "imag" => some (.ok (.int 0))
  | .bool _, "denominator" => some (.ok (.int 1))
  | .int n, "real" => some (.ok (.int n))
  | .int n, "numerator" => some (.ok (.int n))
  | .int _, "imag" => some (.ok (.int 0))
  | .int _, "denominator" => some (.ok (.int 1))
  | .float x, "real" => some (.ok (.float x))
  | .float _, "imag" => some (.ok (.float (.zero false)))
  | .range start _ _, "start" => some (.ok (.int start))
  | .range _ stop _, "stop" => some (.ok (.int stop))
  | .range _ _ step, "step" => some (.ok (.int step))
  | .slice start _ _, "start" => some (.ok start)
  | .slice _ stop _, "stop" => some (.ok stop)
  | .slice _ _ step, "step" => some (.ok step)
  | .view _ entries _, "mapping" => some (.ok (.dict entries))
  | .loop _ previous _, "previtem" => some (.ok (neighbour .previousItem previous))
  | .loop _ _ next, "nextitem" => some (next.map (neighbour .nextItem))
  | .loop state _ _, name => LoopState.part? state name
  | .macroAt info _, name => (MacroInfo.part? info name).map .ok
  | .record .turns members _, "current" => ((turns members).1[(turns members).2]?).map .ok
  | .record _ members _, name => (member? members name).map .ok
  | .imported name _ _ _, "__name__" => some (.ok (.text name))
  | .imported _ _ exports _, name => (exports.lookup name).map .ok
  | .method _ name, "__name__" => some (.ok (.text name))
  | .method owner _, "__self__" => some (.ok owner)
  | .method owner name, "__qualname__" => some (.ok (.text (owner.kind ++ "." ++ name)))
  | .type name, "__name__" => some (.ok (.text (shortName name)))
  | .type name, "__qualname__" => some (.ok (.text (shortName name)))
  | .function name, "__name__" => some (.ok (.text name))
  | .function name, "__qualname__" => some (.ok (.text name))
  | _, _ => none

/-- Can the hash of the item not be asked for? -/
def hasNoHash : Item → Bool
  | .list _ _ => true
  | .dict _ _ => true
  | .slice _ _ _ => true
  | .view .keys _ _ => true
  | .view .items _ _ => true
  | _ => false

/-- An attribute by name, if the item has it. -/
def attribute? (item : Item) (name : String) : Option (Except RenderError Item) :=
  match item with
  | .undefined why _ => some (.error (.undefined why))
  | .record .names members _ =>
    if name = "__class__" then some (.ok (.type item.typeName))
    else (member? members name).map .ok
  | item =>
    match item.part? name with
    | some found => some found
    | none =>
      if name = "__class__" then some (.ok (.type item.typeName))
      else if name = "__hash__" && item.hasNoHash then some (.ok .null)
      else if item.functionNames.contains name || commonNames.contains name then
        some (.ok (.method item name))
      else none

/-! ## Elements -/

/-- The place in a sequence, counted from the end when negative. -/
def position? (length : Nat) (i : Int) : Option Nat :=
  if i < 0 then
    if -i ≤ length then some (length + i).toNat else none
  else if i < length then some i.toNat else none

def elementAt? (xs : List α) (i : Int) : Option α := (position? xs.length i).bind (xs[·]?)

/-- A bound of a cut, brought into the range from `low` to `high`; a negative
one counts from the end. -/
def clampBound (length : Nat) (low high : Int) (i : Int) : Int :=
  let i := if i < 0 then i + length else i
  if i < low then low else if high < i then high else i

/-- A bound of a cut that may be left out. -/
def bound? (default : Int) : Item → Except RenderError (Option Int)
  | .null => .ok (some default)
  | item => match item.whole? with
    | some n => .ok (some n)
    | none =>
      .error (.refused .type
        "slice indices must be integers or None or have an __index__ method")

/-- Where a cut begins, where it ends, and how far it goes at a time. -/
structure Cut where
  first : Int
  last : Int
  step : Int

/-- The cut of a sequence of some length by bounds that may be left out. -/
def cutOf (length : Nat) (start stop step : Item) : Except RenderError Cut := do
  let step := (← bound? 1 step).getD 1
  if step = 0 then throw (.refused .value "slice step cannot be zero")
  let n : Int := length
  let (low, high) := if 0 < step then ((0 : Int), n) else (-1, n - 1)
  let at? (default : Int) : Item → Except RenderError Int
    | .null => .ok default
    | item => do return clampBound length low high ((← bound? 0 item).getD 0)
  let first ← at? (if 0 < step then low else high) start
  return ⟨first, ← at? (if 0 < step then high else low) stop, step⟩

def Cut.take (c : Cut) (xs : List α) : List α :=
  let table := xs.toArray
  (List.range (rangeLength c.first c.last c.step)).filterMap fun (i : Nat) =>
    table[(c.first + c.step * i).toNat]?

/-- The part of a sequence that a cut takes. -/
def cut (item start stop step : Item) : Except RenderError Item :=
  match item with
  | .text s => do
    let cs := s.toList
    return .text (String.ofList ((← cutOf cs.length start stop step).take cs))
  | .markup s => do
    let cs := s.toList
    return .markup (String.ofList ((← cutOf cs.length start stop step).take cs))
  | .bytes octets => do
    return .bytes ((← cutOf octets.length start stop step).take octets)
  | .list items _ => do return .list ((← cutOf items.length start stop step).take items)
  | .tuple items => do return .tuple ((← cutOf items.length start stop step).take items)
  | .range i j k => do
    let c ← cutOf (rangeLength i j k) start stop step
    return .range (i + k * c.first) (i + k * c.last) (k * c.step)
  | .dict _ _ => .error (.notHashable "slice")
  | .self => .error (.notHashable "slice")
  | .undefined why _ => .error (.undefined why)
  | item => .error (.notSubscriptable item.kind)

/-- The element of a key or an index, if the item has it. -/
def element? (item key : Item) : Except RenderError (Option Item) :=
  match item, key with
  | .undefined why _, _ => .error (.undefined why)
  | .dict entries _, key =>
    match key.keyFault? with
    | some (.undefined why) => .error (.undefined why)
    | some _ => .ok none
    | none => lookUp entries key
  | .self, .undefined why _ => if why.isLenient then .ok none else .error (.undefined why)
  | item, .slice start stop step =>
    match cut item start stop step with
    | .ok found => .ok (some found)
    | .error (.undefined why) => .error (.undefined why)
    | .error fault => if fault.origin = .misuse .type then .ok none else .error fault
  | item, key =>
    match key.whole? with
    | none => .ok none
    | some i => .ok (match item with
      | .list items _ => elementAt? items i
      | .tuple items => elementAt? items i
      | .text s => (elementAt? s.toList i).map fun c => .text (String.ofList [c])
      | .markup s => (elementAt? s.toList i).map fun c => .markup (String.ofList [c])
      | .bytes octets => (elementAt? octets i).map fun b => .int b.toNat
      | .range start stop step =>
        (position? (rangeLength start stop step) i).map fun (n : Nat) =>
          .int (start + step * n)
      | _ => none)

/-- What stands for an attribute or an element that is not there. -/
def absent (item key : Item) : Item :=
  match key.text? with
  | some _ => .undefined (.attribute item.objectName key.literal) none
  | none => .undefined (.element item.objectName key.literal) none

/-- What stands behind a point: an attribute, or else an element. -/
def attr (item : Item) (name : String) : Except RenderError Item :=
  match item.attribute? name with
  | some found => found
  | none => do return (← item.element? (.text name)).getD (item.absent (.text name))

/-- What stands in brackets: an element, or else an attribute. -/
def element (item key : Item) : Except RenderError Item := do
  match ← item.element? key with
  | some found => return found
  | none =>
    match key.text?.bind item.attribute? with
    | some found => found
    | none => return item.absent key

end Item

end SchemaDocs.Template
