import SchemaDocs.Number.Binary64
import SchemaDocs.Template.Fault

/-!
# Tokens of a template

A template is text with three kinds of tags in it: one that prints a value, one
that is a statement, and comments. Inside a tag there are names, numbers,
strings and operators. Every token knows its line.

`SyntaxError` is everything that can be wrong with the text of a template, found
while it is cut into tokens, parsed, or checked for filters and tests that do
not exist. A number that cannot be read, and a constant that cannot be worked
out, may be no fault of the template engine; such a fault goes by a name of its
own.
-/

namespace SchemaDocs.Template

inductive Token
  | data (s : String)
  | printBegin
  | printEnd
  | tagBegin
  | tagEnd
  | name (s : String)
  | string (s : String)
  | integer (n : Nat)
  | float (x : Binary64)
  | operator (s : String)
  | eof
deriving DecidableEq, Repr

/-- What a token is called in messages. A name is called by itself. -/
def Token.describe : Token → String
  | .data _ => "template data / text"
  | .printBegin => "begin of print statement"
  | .printEnd => "end of print statement"
  | .tagBegin => "begin of statement block"
  | .tagEnd => "end of statement block"
  | .name s => s
  | .string _ => "string"
  | .integer _ => "integer"
  | .float _ => "float"
  | .operator s => s
  | .eof => "end of template"

/-- What can be wrong with a number in a template: it has too many digits, or a
real number has a digit of another script, at the beginning of its exponent or
elsewhere. -/
inductive NumberFault
  | tooManyDigits (count : Nat)
  | foreignDigit (c : Char)
  | foreignExponent
deriving DecidableEq, Repr

inductive SyntaxError
  | unexpectedChar (c : Char) (offset : Nat)
  | unexpectedCloser (closer : Char)
  | mismatchedCloser (closer expected : Char)
  | unclosedComment
  | unclosedRaw
  | badEscape (reason : String)
  | badIdentifier
  | expectedToken (what got : String)
  | endedBefore (what : String)
  | unexpected (got : String)
  | noExpression (got : String)
  | tagNameExpected
  /-- A tag that nothing here is closed or continued by, or the end of the
  template in place of one. `looking` are the tags that would do, `nested` says
  that an outer block waits for this one. -/
  | strayTag (name : Option String) (looking : List String) (nested : Bool)
    (innermost : Option String)
  | cannotAssign (what : String)
  | cannotAssignLoop
  | requiredAfterDefault
  | attributeExpected
  | badCall
  | chainedTests
  | noFilter (name : String)
  | noTest (name : String)
  | callerNeedsDefault
  | unknownName (name : String)
  | number (fault : NumberFault)
  /-- A constant expression that fails when it is worked out beforehand. -/
  | constant (why : RenderError)
deriving DecidableEq, Repr

def quotedList (names : List String) : String :=
  match names with
  | [] => ""
  | first :: rest =>
    rest.foldl (fun out n => out ++ " or " ++ Text.quoted n) (Text.quoted first)

def strayTagMessage (name : Option String) (looking : List String) (nested : Bool)
    (innermost : Option String) : String :=
  let opening := match name with
    | some n => "Encountered unknown tag " ++ Text.quoted n ++ "."
    | none => "Unexpected end of template."
  let wanted :=
    if looking.isEmpty then ""
    else if nested then
      " You probably made a nesting mistake. " ++
        "Jinja is expecting this tag, but currently looking for " ++
        quotedList looking ++ "."
    else " Jinja was looking for the following tags: " ++ quotedList looking ++ "."
  let block := match innermost with
    | some tag =>
      " The innermost block that needs to be closed is " ++ Text.quoted tag ++ "."
    | none => ""
  opening ++ wanted ++ block

def charText (c : Char) : String := String.ofList [c]

def NumberFault.message : NumberFault → String
  | .tooManyDigits count =>
    digitLimitMessage (": value has " ++ toString count ++ " digits")
  | .foreignDigit c =>
    "invalid character '" ++ charText c ++ "' (U+" ++
      String.ofList ((Text.hex (max 4 (Nat.toDigits 16 c.toNat).length) c.toNat).map
        Char.toUpper) ++
      ") (<unknown>, line 1)"
  | .foreignExponent => "invalid decimal literal (<unknown>, line 1)"

def SyntaxError.message : SyntaxError → String
  | .unexpectedChar c offset =>
    "unexpected char " ++ Text.quoted (charText c) ++ " at " ++ toString offset
  | .unexpectedCloser closer => "unexpected '" ++ charText closer ++ "'"
  | .mismatchedCloser closer expected =>
    "unexpected '" ++ charText closer ++ "', expected '" ++ charText expected ++ "'"
  | .unclosedComment => "Missing end of comment tag"
  | .unclosedRaw => "Missing end of raw directive"
  | .badEscape reason => reason
  | .badIdentifier => "Invalid character in identifier"
  | .expectedToken what got =>
    "expected token " ++ Text.quoted what ++ ", got " ++ Text.quoted got
  | .endedBefore what =>
    "unexpected end of template, expected " ++ Text.quoted what ++ "."
  | .unexpected got => "unexpected " ++ Text.quoted got
  | .noExpression got => "Expected an expression, got " ++ Text.quoted got
  | .tagNameExpected => "tag name expected"
  | .strayTag name looking nested innermost =>
    strayTagMessage name looking nested innermost
  | .cannotAssign what => "can't assign to " ++ Text.quoted what
  | .cannotAssignLoop => "Can't assign to special loop variable in for-loop target"
  | .requiredAfterDefault => "non-default argument follows default argument"
  | .attributeExpected => "expected name or number"
  | .badCall => "invalid syntax for function call expression"
  | .chainedTests => "You cannot chain multiple tests with is"
  | .noFilter name => "No filter named " ++ Text.quoted name ++ "."
  | .noTest name => "No test named " ++ Text.quoted name ++ "."
  | .callerNeedsDefault =>
    "When defining macros or call blocks the special \"caller\" argument " ++
      "must be omitted or be given a default."
  | .unknownName name =>
    "Tried to resolve a name to a reference that was unknown to the frame (" ++
      Text.quoted name ++ ")"
  | .number fault => fault.message
  | .constant why => why.message

/-- The name under which a fault escapes that is none of the template engine's own. -/
def SyntaxError.foreign? : SyntaxError → Option String
  | .number (.tooManyDigits _) => some "ValueError"
  | .number _ => some "SyntaxError"
  | .unknownName _ => some "AssertionError"
  | .constant why =>
    match why.origin with
    | .engine => none
    | .misuse kind => some kind.name
    | .foreign kind => some kind
  | _ => none

/-- A token and its line, or the fault that the text has in its place. -/
inductive Lexeme
  | token (t : Token) (line : Nat)
  | fault (e : SyntaxError)
deriving DecidableEq, Repr

end SchemaDocs.Template
