import SchemaDocs.Json.Writer
import SchemaDocs.Template.Attribute
import SchemaDocs.Template.Call
import SchemaDocs.Template.Conversion
import SchemaDocs.Text.Lowercase
import SchemaDocs.Text.Numeric
import SchemaDocs.Text.Split
import SchemaDocs.Text.Uppercase

/-!
# Filters and tests

A filter turns an item into another, a test asks a question about it. Both are
known by name, and whether a name exists is checked before a template is used.
Both are functions that are declared with parameters, of which the first is the
item itself. `default` and the tests accept an undefined value; every other
filter works on the value itself and fails with its reason.
-/

namespace SchemaDocs.Template

namespace Item

/-- Declares the plain form to be markup. -/
def markSafe (item : Item) : Except RenderError Item := item.display.map .markup

/-- The plain form on one line, and nothing for none. -/
def foldLines (item : Item) : Except RenderError Item :=
  match item with
  | .null => .ok (.text "")
  | item => item.display.map fun s => .text (Text.oneLine s)

/-- The plain form as a double-quoted string, which needs no escaping. -/
def quoteText (item : Item) : Except RenderError Item :=
  match item with
  | .null => .ok (.markup (Json.quote ""))
  | item => item.display.map fun s => .markup (Json.quote s)

def upper (item : Item) : Except RenderError Item :=
  match item with
  | .markup s => .ok (.markup (Text.upper s))
  | item => item.display.map fun s => .text (Text.upper s)

/-- The number of items in a collection. Nothing else has a length. -/
def length (item : Item) : Except RenderError Item :=
  match item.length? with
  | some n => n.map fun n => .int n
  | none => .error (.noLength item.kind)

/-- The whole number in a text to some base, or the whole part of the real
number in it. -/
def readWhole? (base : Item) (s : String) : Option Int :=
  match base.whole?.bind fun b => Numeral.readIntToBase? b s with
  | some n => some n
  | none => (Numeral.readReal? s).bind Binary64.truncate?

/-- The whole number in an item, or a fallback. Infinity is too large to be
passed over. -/
def toInt (item fallback base : Item) : Except RenderError Item :=
  match item, item.text? with
  | _, some s => .ok (((readWhole? base s).map .int).getD fallback)
  | .undefined why _, _ => .error (.undefined why)
  | .float (.infinite _), _ =>
    .error (.overflow "cannot convert float infinity to integer")
  | item, _ =>
    match item.whole with
    | .ok (some n) => .ok (.int n)
    | _ => .ok (((item.real.toOption.bind Binary64.truncate?).map .int).getD fallback)

/-- Replaces an undefined value, and on request every value that counts as false. -/
def replaceMissing (item replacement onFalse : Item) : Except RenderError Item := do
  match item with
  | .undefined _ _ => return replacement
  | item =>
    if ← onFalse.truthy then return if ← item.truthy then item else replacement
    else return item

/-! ## The least item -/

/-- The keys on the way to an attribute: names and numbers between points. -/
def pathKeys : Item → List Item
  | .null => []
  | item =>
    match item.text? with
    | some s => (Text.splitOn '.' s).map fun part =>
      if !part.isEmpty && part.toList.all Text.isAnyDigit then
        .int ((Numeral.readInt? part).getD 0)
      else .text part
    | none => [item]

/-- What an item is compared by: an attribute of it, and texts without regard to
case on request. -/
def sortKey (caseSensitive : Bool) (path : List Item) (item : Item) :
    Except RenderError Item := do
  let found ← path.foldlM (fun item key => item.element key) item
  return match found with
    | .text s => if caseSensitive then found else .text (Text.lower s)
    | .markup s => if caseSensitive then found else .markup (Text.lower s)
    | found => found

/-- The least item, and the first of several. -/
def least (item caseSensitive path : Item) : Except RenderError Item := do
  match ← item.elements with
  | [] => return .undefined .leastOfNone none
  | first :: rest =>
    let key := sortKey (← caseSensitive.truthy) (pathKeys path)
    let (found, _) ← rest.foldlM (fun (found, foundKey) item => do
      let itemKey ← key item
      return if ← ordered .lt nestingLimit itemKey foundKey then (item, itemKey)
        else (found, foundKey))
      (first, ← key first)
    return found

end Item

/-! ## By name -/

/-- A function by its name in full, and what it gives for arguments. -/
structure NamedFunction where
  name : String
  apply : Arguments → Except RenderError Item

/-- A function that is declared with the item, and with parameters that may be
left out. `before` are parameters in front of the item, which are always
given. -/
def NamedFunction.declare (path name : String) (before : List String) (item : String)
    (optional : List String) (run : Item → List (Option Item) → Except RenderError Item) :
    NamedFunction :=
  let params :=
    (before ++ [item]).map (fun p => (p, false)) ++ optional.map fun p => (p, true)
  ⟨path ++ name, fun args => do
    let given := before.map (fun _ => Item.null) ++ args.positional
    let bound :=
      (← (Declared.mk name params 0).bind { args with positional := given }).drop
        before.length
    run ((bound.headD none).getD .null) (bound.drop 1)⟩

/-- A function of the item alone. -/
def NamedFunction.simple (path name item : String)
    (run : Item → Except RenderError Item) : NamedFunction :=
  declare path name [] item [] fun item _ => run item

/-- The argument at a place, or a default. -/
def argumentOr (default : Item) (args : List (Option Item)) (i : Nat) : Item :=
  (args[i]?.join).getD default

def lengthFunction : NamedFunction :=
  ⟨"len", fun args => do
    unless args.named.isEmpty do Arguments.call (.noKeywords "len")
    match args.positional with
    | [item] => item.length
    | items => Arguments.call (.oneArgument "len" items.length)⟩

def defaultFunction : NamedFunction :=
  .declare "jinja2.filters." "do_default" [] "value"
    ["default_value", "boolean"] fun item args =>
      item.replaceMissing (argumentOr (.text "") args 0) (argumentOr (.bool false) args 1)

def wholeFunction : NamedFunction :=
  .declare "jinja2.filters." "do_int" [] "value" ["default", "base"] fun item args =>
    item.toInt (argumentOr (.int 0) args 0) (argumentOr (.int 10) args 1)

def leastFunction : NamedFunction :=
  .declare "jinja2.filters." "do_min" ["environment"] "value"
    ["case_sensitive", "attribute"] fun item args =>
      item.least (argumentOr (.bool false) args 0) (argumentOr .null args 1)

/-- The filters by name. -/
def filters : List (String × NamedFunction) := [
  ("safe", .simple "jinja2.filters." "do_mark_safe" "value" Item.markSafe),
  ("oneline", .simple "" "_oneline" "value" Item.foldLines),
  ("yaml_str", .simple "" "_yaml_str" "value" Item.quoteText),
  ("upper", .simple "jinja2.filters." "do_upper" "s" Item.upper),
  ("length", lengthFunction), ("count", lengthFunction), ("int", wholeFunction),
  ("default", defaultFunction), ("d", defaultFunction), ("min", leastFunction)]

/-- A test by what it says about the item. -/
def testFunction (name : String) (holds : Item → Bool) : String × NamedFunction :=
  (name, .simple "jinja2.tests." ("test_" ++ name) "value" fun item =>
    .ok (.bool (holds item)))

/-- The tests by name. -/
def tests : List (String × NamedFunction) := [
  testFunction "defined" fun item => !(item matches .undefined _ _),
  testFunction "undefined" fun item => item matches .undefined _ _,
  testFunction "none" fun item => item matches .null]

def applyFilter (name : String) (args : Arguments) : Except RenderError Item :=
  match filters.lookup name with
  | some f => f.apply args
  | none => .error (.noFilterFound name)

def applyTest (name : String) (args : Arguments) : Except RenderError Item :=
  match tests.lookup name with
  | some f => f.apply args
  | none => .error (.noTestFound name)

/-- The full name of the function of a filter or a test. -/
def functionName (table : List (String × NamedFunction)) (name : String) : String :=
  ((table.lookup name).map NamedFunction.name).getD name

end SchemaDocs.Template
