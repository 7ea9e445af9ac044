import SchemaDocs.Template.Lexer.Escape
import SchemaDocs.Template.Lexer.Number
import SchemaDocs.Text.Identifier

/-!
# Cutting a template into tokens

Outside of tags everything up to the next tag is data. White space around tags
can be removed: a minus sign inside a tag strips all of it on that side;
otherwise a statement or a comment takes the blanks in front of it on its line,
if there is nothing else there, and the line end right behind it. A plus sign
keeps the blanks. Tags that print keep everything.

Inside a tag the end of the tag is only looked for while all brackets are
closed. A fault ends the tokens; it stands where the token would, so that what
is wrong before it is found first.
-/

namespace SchemaDocs.Template

/-- Every kind of line end becomes a line feed. -/
def normalizeNewlines : List Char → List Char
  | [] => []
  | '\r' :: '\n' :: rest => '\n' :: normalizeNewlines rest
  | '\r' :: rest => '\n' :: normalizeNewlines rest
  | c :: rest => c :: normalizeNewlines rest

/-- What follows a given beginning. -/
def after? (token : List Char) (cs : List Char) : Option (List Char) :=
  if token.isPrefixOf cs then some (cs.drop token.length) else none

def skipBlank (cs : List Char) : List Char := cs.dropWhile Text.isBlank

inductive Sign
  | none
  | minus
  | plus
deriving DecidableEq, Repr

def readSign : List Char → Sign × List Char
  | '-' :: rest => (.minus, rest)
  | '+' :: rest => (.plus, rest)
  | cs => (.none, cs)

inductive TagKind
  | raw
  | comment
  | statement
  | print
deriving DecidableEq, Repr

/-- The tag at the front of the text, the sign at its beginning, and what follows. -/
def readOpening? (cs : List Char) : Option (TagKind × Sign × List Char) :=
  match cs with
  | '{' :: '%' :: rest =>
    let (sign, inner) := readSign rest
    match (after? "raw".toList (skipBlank inner)).map skipBlank with
    | some ('-' :: '%' :: '}' :: rest) => some (.raw, sign, skipBlank rest)
    | some ('%' :: '}' :: rest) => some (.raw, sign, rest)
    | _ => some (.statement, sign, inner)
  | '{' :: '#' :: rest => let (sign, rest) := readSign rest; some (.comment, sign, rest)
  | '{' :: '{' :: rest => let (sign, rest) := readSign rest; some (.print, sign, rest)
  | _ => none

/-- An end of a tag: with a minus sign it takes the white space behind it,
otherwise at most a line end. -/
def readEnding? (closer : List Char) (cs : List Char) : Option (List Char) :=
  match after? ('+' :: closer) cs with
  | some rest => some rest
  | none =>
    match after? ('-' :: closer) cs with
    | some rest => some (skipBlank rest)
    | none =>
      match after? closer cs with
      | some ('\n' :: rest) => some rest
      | found => found

/-- The end of raw text, with the sign at its beginning. -/
def readEndRaw? (cs : List Char) : Option (Sign × List Char) := do
  let rest ← after? ['{', '%'] cs
  let (sign, rest) := readSign rest
  let rest ← after? "endraw".toList (skipBlank rest)
  let rest ← readEnding? ['%', '}'] (skipBlank rest)
  return (sign, rest)

/-- Searches for the first place where a reader succeeds: the text before it and
what was read. -/
def searchFor (read : List Char → Option α) : List Char → Option (List Char × α)
  | [] => (read []).map fun a => ([], a)
  | c :: rest =>
    match read (c :: rest) with
    | some a => some ([], a)
    | none => (searchFor read rest).map fun (before, a) => (c :: before, a)

/-- The part of a text on its last line. -/
def lastLine (cs : List Char) : List Char := (cs.reverse.takeWhile (· ≠ '\n')).reverse

/-- The data in front of a tag. `lineStart` says that it begins at the beginning
of a line. -/
def trimBefore (sign : Sign) (takesBlanks lineStart : Bool) (cs : List Char) :
    List Char :=
  match sign with
  | .minus => Text.dropEnd Text.isBlank cs
  | .plus => cs
  | .none =>
    let line := lastLine cs
    if takesBlanks && (lineStart || cs.contains '\n') && line.all Text.isBlank then
      cs.take (cs.length - line.length)
    else cs

/-- How many characters of `whole` stand before `rest`, its end. -/
def consumed (whole rest : List Char) : List Char :=
  whole.take (whole.length - rest.length)

def countLines (cs : List Char) : Nat := cs.count '\n'

/-- Does the part of `whole` in front of `rest` end with a line feed? -/
def endsLine (whole rest : List Char) : Bool :=
  (consumed whole rest).getLast? == some '\n'

/-! ## Inside a tag -/

/-- Operators, the longer ones first. -/
def operators : List String := [
  "//", "**", "==", "!=", ">=", "<=", "+", "-", "/", "*", "%", "~", "[", "]", "(", ")",
  "\x7b", "\x7d", ">", "<", "=", ".", ":", "|", ",", ";"]

def readOperator? (cs : List Char) : Option (String × List Char) :=
  operators.findSome? fun op => (after? op.toList cs).map fun rest => (op, rest)

/-- The brackets still to be closed after an operator. -/
def balance (op : String) (closers : List Char) : Except SyntaxError (List Char) :=
  match op.toList with
  | ['{'] => .ok ('}' :: closers)
  | ['('] => .ok (')' :: closers)
  | ['['] => .ok (']' :: closers)
  | [c] =>
    if c = '}' ∨ c = ')' ∨ c = ']' then
      match closers with
      | [] => .error (.unexpectedCloser c)
      | closer :: rest =>
        if c = closer then .ok rest else .error (.mismatchedCloser c closer)
    else .ok closers
  | _ => .ok closers

/-- What a name may be made of, whether or not it is an identifier then. -/
def isNamePart (c : Char) : Bool := Text.isWord c || Text.isExtraPart c

/-- A name, string, number or operator at the front of the text; `previous` is
the character before it. -/
def readToken (closers : List Char) (previous : Option Char) (offset : Nat) (c : Char)
    (rest : List Char) : Except SyntaxError (Token × List Char × List Char) :=
  let cs := c :: rest
  match readReal? previous cs with
  | some (x, left) => do return (.float (← x), closers, left)
  | none =>
    match readInteger? cs with
    | some (n, left) => do return (.integer (← n), closers, left)
    | none =>
      if isNamePart c then
        let name := cs.takeWhile isNamePart
        if Text.isIdentifier name then
          .ok (.name (String.ofList name), closers, cs.dropWhile isNamePart)
        else .error .badIdentifier
      else
        match if c = '\'' ∨ c = '"' then readQuoted? c rest else none with
        | some (inner, left) => do
          let s ← unescape inner.length inner
          return (.string (String.ofList s), closers, left)
        | none =>
          match readOperator? cs with
          | some (op, left) => do return (.operator op, ← balance op closers, left)
          | none => .error (.unexpectedChar c offset)

/-! ## The whole template -/

/-- Where the reader stands: in data, or inside a tag that prints or is a
statement, with the brackets that are open there. -/
inductive Mode
  | data
  | inside (kind : TagKind) (closers : List Char)

def dataToken (cs : List Char) (line : Nat) : List Lexeme :=
  if cs.isEmpty then [] else [.token (.data (String.ofList cs)) line]

/-- The end of a tag of a kind, and its token. -/
def readTagEnd? (kind : TagKind) (cs : List Char) : Option (Token × List Char) :=
  match kind with
  | .print =>
    match after? ['-', '}', '}'] cs with
    | some rest => some (.printEnd, skipBlank rest)
    | none => (after? ['}', '}'] cs).map fun rest => (.printEnd, rest)
  | _ => (readEnding? ['%', '}'] cs).map fun rest => (.tagEnd, rest)

/-- Reads on from a place. `total` is the length of the whole template,
`lineStart` says that data here begins at the beginning of a line. Each call
uses up a character, so their number is fuel enough. -/
def scan (total : Nat) : (fuel : Nat) → Mode → (line : Nat) → (lineStart : Bool) →
    (previous : Option Char) → List Char → List Lexeme
  | _, _, line, _, _, [] => [.token .eof line]
  | 0, _, line, _, _, _ :: _ => [.token .eof line]
  | fuel + 1, .data, line, lineStart, _, cs =>
    match searchFor readOpening? cs with
    | none => dataToken cs line ++ [.token .eof (line + countLines cs)]
    | some (before, kind, sign, rest) =>
      let text := trimBefore sign (kind ≠ .print) lineStart before
      let line' := line + countLines (consumed cs rest)
      dataToken text line ++
        match kind with
        | .print =>
          .token .printBegin line' ::
            scan total fuel (.inside .print []) line' false none rest
        | .statement =>
          .token .tagBegin line' ::
            scan total fuel (.inside .statement []) line' false none rest
        | .comment =>
          match searchFor (readEnding? ['#', '}']) rest with
          | some (_, rest') =>
            scan total fuel .data (line' + countLines (consumed rest rest'))
              (endsLine rest rest') none rest'
          | none =>
            if rest.isEmpty then [.token .eof line'] else [.fault .unclosedComment]
        | .raw =>
          match searchFor readEndRaw? rest with
          | some (inner, sign, rest') =>
            dataToken (trimBefore sign true (endsLine cs rest) inner) line' ++
              scan total fuel .data (line' + countLines (consumed rest rest'))
                (endsLine rest rest') none rest'
          | none => if rest.isEmpty then [.token .eof line'] else [.fault .unclosedRaw]
  | fuel + 1, .inside kind closers, line, _, previous, c :: rest =>
    let cs := c :: rest
    match if closers.isEmpty then readTagEnd? kind cs else none with
    | some (t, left) =>
      .token t line ::
        scan total fuel .data (line + countLines (consumed cs left))
          (endsLine cs left) none left
    | none =>
      if Text.isBlank c then
        scan total fuel (.inside kind closers) (line + countLines [c]) false (some c) rest
      else
        match readToken closers previous (total - cs.length) c rest with
        | .error e => [.fault e]
        | .ok (t, closers, left) =>
          .token t line ::
            scan total fuel (.inside kind closers)
              (line + countLines (consumed cs left)) false
              (consumed cs left).getLast? left

/-- The tokens of a template; the last is the end or a fault. -/
def tokens (source : String) : List Lexeme :=
  let cs := normalizeNewlines source.toList
  scan cs.length (cs.length + 1) .data 1 true none cs

end SchemaDocs.Template
