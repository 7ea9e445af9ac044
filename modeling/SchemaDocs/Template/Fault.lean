import SchemaDocs.Text.Quoted

/-!
# What can go wrong in a template

An undefined value may be passed on and asked whether it is defined; any other
use of it fails with the reason why it is undefined. `Missing` is that reason.

`RenderError` is everything that can go wrong while a page is rendered,
`CallFault` the part of it that concerns the arguments of a call, and
`FormatFault` the part that concerns formats. Some failures are the template
engine's own, most are a misuse of values, and some escape as themselves:
arithmetic that has no result, and what lies outside of any rule for templates.
-/

namespace SchemaDocs.Template

/-- Why a value is undefined: no such name, no such attribute or element of an
object, a parameter of a macro that was left out, no block for a macro to call,
no item before the first or after the last one of a loop, the least item of
nothing, or a conditional expression without an alternative. -/
inductive Missing
  | unbound (name : String)
  /-- An attribute that is not there, as its name is shown. -/
  | attribute (object : String) (shown : String)
  | element (object : String) (key : String)
  | parameter (name : String)
  | caller
  | previousItem
  | nextItem
  | leastOfNone
  | alternative (line : Nat)
deriving DecidableEq, Repr

/-- The missing alternative of a conditional expression may be printed and gone
over, as nothing. -/
def Missing.isLenient : Missing → Bool
  | .alternative _ => true
  | _ => false

def Missing.message : Missing → String
  | .unbound name => Text.quoted name ++ " is undefined"
  | .attribute object shown => Text.quoted object ++ " has no attribute " ++ shown
  | .element object key => object ++ " has no element " ++ key
  | .parameter name => "parameter " ++ Text.quoted name ++ " was not provided"
  | .caller => "No caller defined"
  | .previousItem => "there is no previous item"
  | .nextItem => "there is no next item"
  | .leastOfNone => "No aggregated item, sequence was empty."
  | .alternative line =>
    "the inline if-expression on line " ++ toString line ++
      " evaluated to false and no else section was defined."

/-- Arguments that do not fit. Macros, declared functions and the functions of
values each have words of their own for it. A declared function counts what it
works on as an argument. -/
inductive CallFault
  | macroSurplus (macroName : String) (count : Nat)
  | macroKeyword (macroName key : String)
  | macroCallers (macroName : String)
  | keyword (function key : String)
  | repeated (function key : String)
  | positionalOnly (function : String) (keys : List String)
  | surplus (function : String) (least most given : Nat)
  | absent (function : String) (names : List String)
  | noArguments (function : String) (given : Nat)
  | oneArgument (function : String) (given : Nat)
  | noKeywords (function : String)
  | noPositional (function : String)
  | badKeyword (function key : String)
  | countedFew (function : String) (least most given : Nat)
  | countedMany (function : String) (least most given : Nat)
  | parsedFew (function : String) (least given : Nat)
  | parsedMany (function noun : String) (most given : Nat)
  | bothWays (function name : String) (position : Nat)
  | wrapped (count given : Nat)
  | repeatedKeyword (function key : String)
  | keysNotText
  | notSpreadable (kind : String)
  | notMapping (function kind : String)
deriving DecidableEq, Repr

/-- A noun for a number of things. -/
def counted (n : Nat) (noun : String) : String := noun ++ if n = 1 then "" else "s"

/-- Names in a row, the last one behind `and`. -/
def enumerated : List String → String
  | [] => ""
  | [name] => Text.quoted name
  | [first, last] => Text.quoted first ++ " and " ++ Text.quoted last
  | names =>
    String.join (names.dropLast.map fun name => Text.quoted name ++ ", ") ++ "and " ++
      Text.quoted (names.getLastD "")

def CallFault.message : CallFault → String
  | .macroSurplus name count =>
    "macro " ++ Text.quoted name ++ " takes not more than " ++
      toString count ++ " argument(s)"
  | .macroKeyword name key =>
    "macro " ++ Text.quoted name ++ " takes no keyword argument " ++ Text.quoted key
  | .macroCallers name =>
    "macro " ++ Text.quoted name ++
      " was invoked with two values for the special caller argument. " ++
      "This is most likely a bug."
  | .keyword function key =>
    function ++ "() got an unexpected keyword argument " ++ "'" ++ key ++ "'"
  | .repeated function key =>
    function ++ "() got multiple values for argument " ++ "'" ++ key ++ "'"
  | .positionalOnly function keys =>
    function ++ "() got some positional-only arguments passed as keyword arguments: '" ++
      (", ".intercalate keys) ++ "'"
  | .surplus function least most given =>
    let allowed :=
      if least = most then toString most ++ " " ++ counted most "positional argument"
      else "from " ++ toString least ++ " to " ++ toString most ++ " positional arguments"
    function ++ "() takes " ++ allowed ++ " but " ++ toString given ++
      (if given = 1 then " was given" else " were given")
  | .absent function names =>
    function ++ "() missing " ++ toString names.length ++ " required " ++
      counted names.length "positional argument" ++ ": " ++ enumerated names
  | .noArguments function given =>
    function ++ "() takes no arguments (" ++ toString given ++ " given)"
  | .oneArgument function given =>
    function ++ "() takes exactly one argument (" ++ toString given ++ " given)"
  | .noKeywords function => function ++ "() takes no keyword arguments"
  | .noPositional function => function ++ "() takes no positional arguments"
  | .badKeyword function key =>
    "'" ++ key ++ "' is an invalid keyword argument for " ++ function ++ "()"
  | .countedFew function least most given =>
    let bound := if least = most then "" else "at least "
    function ++ " expected " ++ bound ++ toString least ++ " " ++
      counted least "argument" ++ ", got " ++ toString given
  | .countedMany function least most given =>
    let bound := if least = most then "" else "at most "
    function ++ " expected " ++ bound ++ toString most ++ " " ++
      counted most "argument" ++ ", got " ++ toString given
  | .parsedFew function least given =>
    function ++ "() takes at least " ++ toString least ++ " " ++
      counted least "argument" ++ " (" ++ toString given ++ " given)"
  | .parsedMany function noun most given =>
    function ++ "() takes at most " ++ toString most ++ " " ++
      noun ++ counted most "argument" ++ " (" ++ toString given ++ " given)"
  | .bothWays function name position =>
    "argument for " ++ function ++ "() given by name ('" ++ name ++ "') and position (" ++
      toString position ++ ")"
  | .wrapped count given =>
    "expected " ++ toString count ++ " " ++ counted count "argument" ++
      ", got " ++ toString given
  | .repeatedKeyword function key =>
    function ++ "() got multiple values for keyword argument '" ++ key ++ "'"
  | .keysNotText => "keywords must be strings"
  | .notSpreadable kind => "Value after * must be an iterable, not " ++ kind
  | .notMapping function kind =>
    function ++ "() argument after ** must be a mapping, not " ++ kind

/-- What is wrong with a format or with what is to be put into it. -/
inductive FormatFault
  | leftover (ofOctets : Bool)
  | tooFew
  | incomplete
  | incompleteKey
  | needsMapping
  | unknown (shown : String) (code index : Nat)
  | widthNotInteger
  | widthTooBig
  | precisionTooBig
  | needsReal (conversion : Char) (kind : String)
  | needsInteger (conversion : Char) (kind : String)
  | notReal (kind : String)
  | floatRequired (kind : String)
  | needsCharacter
  | characterRange
  | needsOctet
  | octetRange
  | needsOctets (kind : String)
deriving DecidableEq, Repr

def FormatFault.message : FormatFault → String
  | .leftover ofOctets =>
    "not all arguments converted during " ++
      (if ofOctets then "bytes" else "string") ++ " formatting"
  | .tooFew => "not enough arguments for format string"
  | .incomplete => "incomplete format"
  | .incompleteKey => "incomplete format key"
  | .needsMapping => "format requires a mapping"
  | .unknown shown code index =>
    "unsupported format character '" ++ shown ++ "' (0x" ++
      String.ofList (Nat.toDigits 16 code) ++ ") at index " ++ toString index
  | .widthNotInteger => "* wants int"
  | .widthTooBig => "width too big"
  | .precisionTooBig => "precision too big"
  | .needsReal c kind =>
    "%" ++ String.ofList [c] ++ " format: a real number is required, not " ++ kind
  | .needsInteger c kind =>
    "%" ++ String.ofList [c] ++ " format: an integer is required, not " ++ kind
  | .notReal kind => "must be real number, not " ++ kind
  | .floatRequired kind => "float argument required, not " ++ kind
  | .needsCharacter => "%c requires int or char"
  | .characterRange => "%c arg not in range(0x110000)"
  | .needsOctet => "%c requires an integer in range(256) or a single byte"
  | .octetRange => "%c arg not in range(256)"
  | .needsOctets kind =>
    "%b requires a bytes-like object, or an object that implements __bytes__, not '" ++
      kind ++ "'"

/-- The kinds of misuse, as they are reported. -/
inductive Misuse
  | type
  | value
  | attribute
  | key
  | index
  | decoding
deriving DecidableEq, Repr

def Misuse.name : Misuse → String
  | .type => "TypeError"
  | .value => "ValueError"
  | .attribute => "AttributeError"
  | .key => "KeyError"
  | .index => "IndexError"
  | .decoding => "UnicodeDecodeError"

inductive RenderError
  | undefined (why : Missing)
  | noTemplate (name : String)
  | badTemplateName (name : String)
  | noTemplateOf (names : List String)
  | noTemplateGiven
  | noFilterFound (name : String)
  | noTestFound (name : String)
  | notNamespace
  | notIterable (kind : String)
  | notCallable (kind : String)
  | noLength (kind : String)
  | notSubscriptable (kind : String)
  | unsupported (op left right : String)
  | badOperand (op kind : String)
  | cannotConcatenate (sequence other : String)
  | cannotAppend (other : String)
  | cannotRepeat (kind : String)
  | notAnInteger (kind : String)
  | notOrdered (op left right : String)
  | notSearchable (kind : String)
  | notHashable (kind : String)
  | searchNeedsText (kind : String)
  | searchNeedsOctets (kind : String)
  | noAttribute (kind name : String)
  | noKey (shown : String)
  | notUnpackable (kind : String)
  | unpackFew (expected given : Nat)
  | unpackMany (expected : Nat)
  | call (fault : CallFault)
  | format (fault : FormatFault)
  | notANumber (shown : String)
  | wholeOfNan
  | tooManyDigits
  /-- A function of a value refuses an argument in words of its own. -/
  | refused (misuse : Misuse) (text : String)
  | divisionByZero (operation : String)
  | overflow (text : String)
  | unwritable (name : String)
  | unknownEncoding (name : String)
  | nothingToTurn
  | changedInLoop
  | tooDeep
deriving DecidableEq, Repr

/-- Where a failure belongs: to the template, to a kind of misuse of a value, or
to neither, under a name of its own. -/
inductive Origin
  | engine
  | misuse (kind : Misuse)
  | foreign (kind : String)
deriving DecidableEq, Repr

/-- The name of a failure that belongs neither to the template nor to a misuse. -/
def Origin.foreign? : Origin → Option String
  | .foreign kind => some kind
  | _ => none

def FormatFault.origin : FormatFault → Origin
  | .incomplete => .misuse .value
  | .incompleteKey => .misuse .value
  | .unknown _ _ _ => .misuse .value
  | .widthTooBig => .misuse .value
  | .precisionTooBig => .misuse .value
  | .characterRange => .foreign "OverflowError"
  | .octetRange => .foreign "OverflowError"
  | _ => .misuse .type

def RenderError.origin : RenderError → Origin
  | .undefined _ => .engine
  | .noTemplate _ => .engine
  | .badTemplateName _ => .engine
  | .noTemplateOf _ => .engine
  | .noTemplateGiven => .engine
  | .noFilterFound _ => .engine
  | .noTestFound _ => .engine
  | .notNamespace => .engine
  | .noAttribute _ _ => .misuse .attribute
  | .noKey _ => .misuse .key
  | .unpackFew _ _ => .misuse .value
  | .unpackMany _ => .misuse .value
  | .format fault => fault.origin
  | .notANumber _ => .misuse .value
  | .wholeOfNan => .misuse .value
  | .tooManyDigits => .misuse .value
  | .refused kind _ => .misuse kind
  | .divisionByZero _ => .foreign "ZeroDivisionError"
  | .overflow _ => .foreign "OverflowError"
  | .unwritable _ => .foreign "NameError"
  | .unknownEncoding _ => .foreign "LookupError"
  | .nothingToTurn => .foreign "RuntimeError"
  | .changedInLoop => .foreign "RuntimeError"
  | .tooDeep => .foreign "RecursionError"
  | _ => .misuse .type

def operands (op left right : String) : String :=
  "unsupported operand type(s) for " ++ op ++ ": '" ++ left ++ "' and '" ++ right ++ "'"

/-- A whole number has more digits than are ever shown or read. -/
def digitLimitMessage (detail : String) : String :=
  "Exceeds the limit (4300 digits) for integer string conversion" ++ detail ++
    "; use sys.set_int_max_str_digits() to increase the limit"

def RenderError.message : RenderError → String
  | .undefined why => why.message
  | .noTemplate name => Text.quoted name ++ " not found in search path: '<templates>'"
  | .badTemplateName name => name
  | .noTemplateOf names =>
    "none of the templates given were found: " ++ ", ".intercalate names
  | .noTemplateGiven => "Tried to select from an empty list of templates."
  | .noFilterFound name => "No filter named " ++ Text.quoted name ++ " found."
  | .noTestFound name => "No test named " ++ Text.quoted name ++ " found."
  | .notNamespace => "cannot assign attribute on non-namespace object"
  | .notIterable kind => "'" ++ kind ++ "' object is not iterable"
  | .notCallable kind => "'" ++ kind ++ "' object is not callable"
  | .noLength kind => "object of type '" ++ kind ++ "' has no len()"
  | .notSubscriptable kind => "'" ++ kind ++ "' object is not subscriptable"
  | .unsupported op left right => operands op left right
  | .badOperand op kind => "bad operand type for unary " ++ op ++ ": '" ++ kind ++ "'"
  | .cannotConcatenate sequence other =>
    "can only concatenate " ++ sequence ++ " (not \"" ++ other ++ "\") to " ++ sequence
  | .cannotAppend other => "can't concat " ++ other ++ " to bytes"
  | .cannotRepeat kind => "can't multiply sequence by non-int of type '" ++ kind ++ "'"
  | .notAnInteger kind => "'" ++ kind ++ "' object cannot be interpreted as an integer"
  | .notOrdered op left right =>
    "'" ++ op ++ "' not supported between instances of '" ++
      left ++ "' and '" ++ right ++ "'"
  | .notSearchable kind => "argument of type '" ++ kind ++ "' is not iterable"
  | .notHashable kind => "unhashable type: '" ++ kind ++ "'"
  | .searchNeedsText kind => "'in <string>' requires string as left operand, not " ++ kind
  | .searchNeedsOctets kind => "a bytes-like object is required, not '" ++ kind ++ "'"
  | .noAttribute kind name =>
    "'" ++ kind ++ "' object has no attribute " ++ Text.quoted name
  | .noKey shown => shown
  | .notUnpackable kind => "cannot unpack non-iterable " ++ kind ++ " object"
  | .unpackFew expected given =>
    "not enough values to unpack (expected " ++ toString expected ++
      ", got " ++ toString given ++ ")"
  | .unpackMany expected =>
    "too many values to unpack (expected " ++ toString expected ++ ")"
  | .call fault => fault.message
  | .format fault => fault.message
  | .notANumber shown => "invalid literal for int() with base 10: " ++ shown
  | .wholeOfNan => "cannot convert float NaN to integer"
  | .tooManyDigits => digitLimitMessage ""
  | .refused _ text => text
  | .divisionByZero operation => operation
  | .overflow text => text
  | .unwritable name => "name " ++ Text.quoted name ++ " is not defined"
  | .unknownEncoding name => "unknown encoding: " ++ name
  | .nothingToTurn => "at least one item has to be provided"
  | .changedInLoop => "dictionary changed size during iteration"
  | .tooDeep => "maximum recursion depth exceeded"

/-- What an undefined value stands for where nothing will do; otherwise its use fails. -/
def Missing.orElse (why : Missing) (nothing : α) : Except RenderError α :=
  if why.isLenient then .ok nothing else .error (.undefined why)

end SchemaDocs.Template
