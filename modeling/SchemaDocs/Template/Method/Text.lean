import SchemaDocs.Template.Method.Parameter
import SchemaDocs.Text.Casefold
import SchemaDocs.Text.Identifier
import SchemaDocs.Text.Numeric
import SchemaDocs.Text.Search
import SchemaDocs.Text.Titlecase
import SchemaDocs.Text.Utf8

/-!
# Functions of texts

What a text can be asked for and made into. Markup has the same functions. Those
that make another text of it make markup, and escape for HTML what they put in;
they are declared with parameters, while the functions of plain texts follow the
conventions for values.
-/

namespace SchemaDocs.Template

open Text

/-! ## Conventions -/

def textConvention? (name : String) : Option Convention :=
  match name with
  | "replace" => some (.counted 2 3)
  | "center" => some (.counted 1 2)
  | "ljust" => some (.counted 1 2)
  | "rjust" => some (.counted 1 2)
  | "strip" => some (.counted 0 1)
  | "lstrip" => some (.counted 0 1)
  | "rstrip" => some (.counted 0 1)
  | "split" => some (.keyed ["sep", "maxsplit"])
  | "rsplit" => some (.keyed ["sep", "maxsplit"])
  | "splitlines" => some (.keyed ["keepends"])
  | "expandtabs" => some (.keyed ["tabsize"])
  | "encode" => some (.keyed ["encoding", "errors"])
  | _ =>
    if ["count", "find", "rfind", "index", "rindex", "startswith",
        "endswith"].contains name then
      some (.parsed 1 3)
    else if ["join", "zfill", "partition", "rpartition", "removeprefix",
        "removesuffix"].contains name then
      some .one
    else if ["capitalize", "casefold", "lower", "swapcase", "title", "upper", "isalnum",
        "isalpha", "isascii", "isdecimal", "isdigit", "isidentifier", "islower",
        "isnumeric", "isprintable", "isspace", "istitle", "isupper"].contains name then
      some .nothing
    else none

/-- The parameters of the functions that keep markup what it is; its own place
is the first. -/
def markupDeclared? (name : String) : Option Declared :=
  let declare (required optional : List String) (unnamed : Nat) : Option Declared :=
    some ⟨"Markup." ++ name,
      (("self" :: required).map fun p => (p, false)) ++
        optional.map fun p => (p, true), unnamed⟩
  match name with
  | "replace" => declare ["old", "new"] ["count"] 4
  | "split" => declare [] ["sep", "maxsplit"] 1
  | "rsplit" => declare [] ["sep", "maxsplit"] 1
  | "splitlines" => declare [] ["keepends"] 1
  | "expandtabs" => declare [] ["tabsize"] 1
  | "join" => declare ["iterable"] [] 2
  | "zfill" => declare ["width"] [] 2
  | "removeprefix" => declare ["prefix"] [] 2
  | "removesuffix" => declare ["suffix"] [] 2
  | "unescape" => declare [] [] 1
  | "striptags" => declare [] [] 1
  | _ =>
    if ["partition", "rpartition"].contains name then declare ["sep"] [] 2
    else if ["ljust", "rjust", "center"].contains name then
      declare ["width"] ["fillchar"] 3
    else if ["strip", "lstrip", "rstrip"].contains name then declare [] ["chars"] 2
    else if ["capitalize", "title", "lower", "upper", "swapcase",
        "casefold"].contains name then
      declare [] [] 1
    else none

/-! ## Making other texts -/

def mustBeText (kind : String) : String := "must be str, not " ++ kind

def stripped (name : String) (cs : List Char) (args : List (Option Item)) :
    Except RenderError (List Char) := do
  let drops ← match argument args 0 with
    | .null => pure isBlank
    | item => match item.text? with
      | some s => pure fun c => s.toList.contains c
      | none => refuseType (name ++ " arg must be None or str")
  return match name with
    | "lstrip" => cs.dropWhile drops
    | "rstrip" => dropEnd drops cs
    | _ => trimBy drops cs

/-- The one character that fills a text up. -/
def fillCharacter (args : List (Option Item)) : Except RenderError Char :=
  match argument? args 1 with
  | none => .ok ' '
  | some item =>
    match item.text?.map String.toList with
    | some [c] => .ok c
    | some _ => refuseType "The fill character must be exactly one character long"
    | none =>
      refuseType ("The fill character must be a unicode character, not " ++ item.kind)

/-- How much goes to the left of a text in the middle: of an odd rest the larger
half, if the width is odd. -/
def leftOfCenter (missing width : Nat) : Nat :=
  missing / 2 + if missing % 2 = 1 ∧ width % 2 = 1 then 1 else 0

def justified (name : String) (cs : List Char) (args : List (Option Item)) :
    Except RenderError (List Char) := do
  let width := (← sizeArgument 0 args 0).toNat
  let c ← fillCharacter args
  let missing := width - cs.length
  let left := match name with
    | "ljust" => 0
    | "rjust" => missing
    | _ => leftOfCenter missing width
  return List.replicate left c ++ cs ++ List.replicate (missing - left) c

def zeroFilled (cs : List Char) (args : List (Option Item)) :
    Except RenderError (List Char) := do
  let zeros := List.replicate ((← sizeArgument 0 args 0).toNat - cs.length) '0'
  return match cs with
    | '+' :: rest => '+' :: zeros ++ rest
    | '-' :: rest => '-' :: zeros ++ rest
    | cs => zeros ++ cs

def replaced (cs : List Char) (args : List (Option Item)) :
    Except RenderError (List Char) := do
  let refusal (i : Nat) (kind : String) : String :=
    "replace() argument " ++ toString i ++ " must be str, not " ++ givenKind kind
  let old ← textArgument (refusal 1) args 0
  let new ← textArgument (refusal 2) args 1
  return replaceParts old new (← limitArgument args 2) cs

def withoutAffix (name : String) (cs : List Char) (args : List (Option Item)) :
    Except RenderError (List Char) := do
  let refusal (kind : String) : String :=
    name ++ "() argument must be str, not " ++ givenKind kind
  let part ← textArgument refusal args 0
  return match name with
    | "removeprefix" => if part.isPrefixOf cs then cs.drop part.length else cs
    | _ => if part.isSuffixOf cs then cs.take (cs.length - part.length) else cs

def tabsExpanded (cs : List Char) (args : List (Option Item)) :
    Except RenderError (List Char) := do
  return expandTabs (← smallArgument 8 args 0).toNat 0 cs

/-! ## Cutting and joining -/

def pieces (name : String) (cs : List Char) (args : List (Option Item)) :
    Except RenderError (List (List Char)) := do
  let limit ← limitArgument args 1
  match argument args 0 with
  | .null =>
    return if name = "split" then splitBlanks limit cs else splitBlanksRight limit cs
  | item =>
    match item.text?.map String.toList with
    | some [] => refuseValue "empty separator"
    | some sep =>
      return if name = "split" then splitBy sep limit cs else splitByRight sep limit cs
    | none => refuseType ("must be str or None, not " ++ item.kind)

/-- What stands before a separator, the separator, and what stands behind it. -/
def parts (name : String) (cs : List Char) (args : List (Option Item)) :
    Except RenderError (List (List Char)) := do
  let sep ← textArgument mustBeText args 0
  if sep.isEmpty then refuseValue "empty separator"
  return match name with
    | "partition" => match cutFirst? sep cs with
      | some (before, behind) => [before, sep, behind]
      | none => [cs, [], []]
    | _ => match cutLast? sep cs with
      | some (before, behind) => [before, sep, behind]
      | none => [[], [], cs]

def joinTexts (sep : List Char) (index : Nat) : List Item → Except RenderError (List Char)
  | [] => .ok []
  | item :: rest =>
    match item.text? with
    | some s => do
      let more ← joinTexts sep (index + 1) rest
      return s.toList ++ if rest.isEmpty then [] else sep ++ more
    | none =>
      refuseType ("sequence item " ++ toString index ++ ": expected str instance, " ++
        item.kind ++ " found")

/-- The items of an argument that is to be joined. -/
def joinable (item : Item) : Except RenderError (List Item) :=
  match item.elements with
  | .error (.notIterable _) => refuseType "can only join an iterable"
  | found => found

/-! ## Questions -/

/-- Is there a character of a class, and are all of them in it? -/
def allOf (holds : Char → Bool) (cs : List Char) : Bool := !cs.isEmpty && cs.all holds

/-- Is there a cased character, and none of them in the wrong case? -/
def hasCase (right : Char → Bool) (cs : List Char) : Bool :=
  cs.any right && cs.all fun c => right c || !isCased c

/-- Do capitals stand at the beginnings of words and nowhere else? -/
def isTitled (inWord seen : Bool) : List Char → Bool
  | [] => seen
  | c :: rest =>
    if isUppercase c || isTitlecase c then !inWord && isTitled true true rest
    else if isLowercase c then inWord && isTitled true true rest
    else isTitled false seen rest

def question? (name : String) (cs : List Char) : Option Bool :=
  match name with
  | "isalnum" => some (allOf isAlphanumeric cs)
  | "isalpha" => some (allOf isLetter cs)
  | "isascii" => some (cs.all fun c => c.toNat < 128)
  | "isdecimal" => some (allOf isDecimal cs)
  | "isdigit" => some (allOf isAnyDigit cs)
  | "isidentifier" => some (isIdentifier cs)
  | "islower" => some (hasCase isLowercase cs)
  | "isnumeric" => some (allOf isNumeric cs)
  | "isprintable" => some (cs.all isPrintable)
  | "isspace" => some (allOf isBlank cs)
  | "istitle" => some (isTitled false false cs)
  | "isupper" => some (hasCase isUppercase cs)
  | _ => none

/-- The place of a part, for the functions that look for one. -/
def placeOf (name : String) (cs : List Char) (args : List (Option Item)) :
    Except RenderError (Option Nat) := do
  let found ← windowArgument cs args 1
  let part ← textArgument mustBeText args 0
  return found.bind fun (start, window) =>
    let place :=
      if name = "find" ∨ name = "index" then findFirst? part window
      else findLast? part window
    place.map (start + ·)

def occurrences (cs : List Char) (args : List (Option Item)) :
    Except RenderError Nat := do
  let found ← windowArgument cs args 1
  let part ← textArgument mustBeText args 0
  return match found with
    | some (_, window) => countParts part window
    | none => 0

/-- Does the text begin or end with a part, or with one of several? -/
def touches (name : String) (cs : List Char) (args : List (Option Item)) :
    Except RenderError Bool := do
  let window ← windowArgument cs args 1
  let matchesPart (part : String) : Bool := match window with
    | some (_, window) =>
      if name = "startswith" then part.toList.isPrefixOf window
      else part.toList.isSuffixOf window
    | none => false
  match argument args 0 with
  | .tuple items =>
    let rec search : List Item → Except RenderError Bool
      | [] => return false
      | item :: rest =>
        match item.text? with
        | some part => if matchesPart part then return true else search rest
        | none =>
          refuseType ("tuple for " ++ name ++ " must only contain str, not " ++ item.kind)
    search items
  | item =>
    match item.text? with
    | some part => return matchesPart part
    | none =>
      refuseType (name ++ " first arg must be str or a tuple of str, not " ++ item.kind)

/-! ## Octets -/

/-- The octets of a text, in the one encoding that there is. -/
def encoded (cs : List Char) (args : List (Option Item)) : Except RenderError Item := do
  let name ← encodingArgument "encode" args
  if ["utf-8", "utf8", "utf_8"].contains (lower name) then
    return .bytes (Utf8.encode (String.ofList cs))
  else throw (.unknownEncoding name)

/-! ## All functions -/

/-- What a function of a text gives; `make` makes an item of a text. -/
def textFunction (make : List Char → Item) (name : String) (cs : List Char)
    (args : List (Option Item)) :
    Except RenderError Item :=
  let made (result : Except RenderError (List Char)) : Except RenderError Item :=
    result.map make
  let changed (change : String → String) : Except RenderError Item :=
    .ok (make (change (String.ofList cs)).toList)
  match name with
  | "capitalize" => changed capitalize
  | "casefold" => changed foldCase
  | "lower" => changed lower
  | "upper" => changed upper
  | "title" => changed titleWords
  | "swapcase" => changed swapCase
  | "replace" => made (replaced cs args)
  | "zfill" => made (zeroFilled cs args)
  | "expandtabs" => made (tabsExpanded cs args)
  | "join" => made do joinTexts cs 0 (← joinable (argument args 0))
  | "count" => do return .int (← occurrences cs args)
  | "encode" => encoded cs args
  | "splitlines" => do
    let keep ← smallArgument 0 args 0
    return .list ((linesOf (keep ≠ 0) cs).map make)
  | _ =>
    match question? name cs with
    | some answer => .ok (.bool answer)
    | none =>
      if ["strip", "lstrip", "rstrip"].contains name then made (stripped name cs args)
      else if ["center", "ljust", "rjust"].contains name then
        made (justified name cs args)
      else if ["removeprefix", "removesuffix"].contains name then
        made (withoutAffix name cs args)
      else if ["split", "rsplit"].contains name then do
        return .list ((← pieces name cs args).map make)
      else if ["partition", "rpartition"].contains name then do
        return .tuple ((← parts name cs args).map make)
      else if ["find", "rfind"].contains name then do
        return .int (((← placeOf name cs args).map Int.ofNat).getD (-1))
      else if ["index", "rindex"].contains name then do
        match ← placeOf name cs args with
        | some i => return .int i
        | none => refuseValue "substring not found"
      else do return .bool (← touches name cs args)

/-- A value as it is put into markup. -/
def intoMarkup (item : Item) : Except RenderError Item :=
  if item.isMarked then item.display.map .markup
  else item.display.map fun s => .markup (escapeHtml s)

/-- The arguments of a function of markup, with those escaped that go into it. -/
def escapeArguments (name : String) (args : List (Option Item)) :
    Except RenderError (List (Option Item)) := do
  let escapeAt (i : Nat) : Except RenderError (List (Option Item)) := do
    match argument? args i with
    | some item => return args.set i (some (← intoMarkup item))
    | none => return args
  if name = "replace" then escapeAt 1
  else if ["ljust", "rjust", "center"].contains name then escapeAt 1
  else if name = "join" then do
    let items ← (argument args 0).elements
    return [some (.list (← items.mapM intoMarkup))]
  else return args

/-- A call of a function of a text. -/
def callText (owner name : String) (s : String) (args : Arguments) :
    Option (Except RenderError Item) :=
  (textConvention? name).map fun convention => do
    textFunction (fun cs => .text (String.ofList cs)) name s.toList
      (← convention.bind owner name args)

/-- A call of a function of markup. -/
def callMarkup (name : String) (s : String) (args : Arguments) :
    Option (Except RenderError Item) :=
  match markupDeclared? name with
  | some f => some do
    let bound ← f.bind { args with positional := .markup s :: args.positional }
    let make := fun cs => Item.markup (String.ofList cs)
    textFunction make name s.toList (← escapeArguments name (bound.drop 1))
  | none => callText "Markup" name s args

end SchemaDocs.Template
