import SchemaDocs.Template.Method.Collection

/-!
# Names that every template knows

Besides what is on the page a template knows a few names of its own, unless the
page has something of the same name. Two of them make a collection when they are
called: a range of numbers, and a dictionary.
-/

namespace SchemaDocs.Template

def builtins : List (String × Item) := [
  ("range", .type "range"), ("dict", .type "dict"),
  ("lipsum", .function "generate_lorem_ipsum"),
  ("cycler", .type RecordKind.turns.typeName),
  ("joiner", .type RecordKind.separator.typeName),
  ("namespace", .type RecordKind.names.typeName)]

/-- The numbers from a start, or from zero, up to a stop, by a step. -/
def makeRange (args : Arguments) : Except RenderError Item := do
  unless args.named.isEmpty do Arguments.call (.noKeywords "range")
  match args.positional with
  | [] => Arguments.call (.countedFew "range" 1 3 0)
  | [stop] => return .range 0 (← wholeArgument stop) 1
  | [start, stop] => return .range (← wholeArgument start) (← wholeArgument stop) 1
  | [start, stop, step] =>
    let range := Item.range (← wholeArgument start) (← wholeArgument stop)
    let step ← wholeArgument step
    if step = 0 then refuseValue "range() arg 3 must not be zero"
    return range step
  | items => Arguments.call (.countedMany "range" 1 3 items.length)

/-- The members of a new record. -/
def recordMembers (kind : RecordKind) (args : Arguments) :
    Except RenderError (List (Item × Item)) :=
  match kind with
  | .names => dictWith "dict" [] args
  | .turns =>
    match args.named, args.positional with
    | (key, _) :: _, _ => Arguments.call (.keyword "Cycler.__init__" key)
    | [], [] => .error .nothingToTurn
    | [], items => .ok [(.text "items", .tuple items), (.text "pos", .int 0)]
  | .separator => do
    let bound ← (Declared.mk "Joiner.__init__" [("self", false), ("sep", true)] 1).bind
      (args.behind .null)
    return [(.text "sep", (argument? bound 1).getD (.text ", ")),
      (.text "used", .bool false)]

/-- The kind of record that a type has. -/
def recordKind? (type : String) : Option RecordKind :=
  [RecordKind.names, .turns, .separator].find? (·.typeName == type)

/-- A new collection of a type. -/
def makeOf (type : String) (args : Arguments) : Except RenderError Item :=
  match type with
  | "range" => makeRange args
  | "dict" => (dictWith "dict" [] args).map fun entries => .dict entries
  | _ => .error (.notCallable "type")

end SchemaDocs.Template
