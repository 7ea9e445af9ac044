import SchemaDocs.Template.Token
import SchemaDocs.Text.CharacterName

/-!
# Strings in a template

A string stands between single or double quotes. A backslash takes the meaning
of the next character away, or begins an escape: a control character by a
letter, any character by its code or by its name.
-/

namespace SchemaDocs.Template

/-- The characters of a string up to its closing quote, escapes left as they are. -/
def readQuoted? (quote : Char) : List Char → Option (List Char × List Char)
  | [] => none
  | '\\' :: c :: rest =>
    (readQuoted? quote rest).map fun (cs, left) => ('\\' :: c :: cs, left)
  | c :: rest =>
    if c = quote then some ([], rest)
    else if c = '\\' then none
    else (readQuoted? quote rest).map fun (cs, left) => (c :: cs, left)

def controlEscape? : Char → Option Char
  | '\\' => some '\\'
  | '\'' => some '\''
  | '"' => some '"'
  | 'a' => some '\x07'
  | 'b' => some '\x08'
  | 'f' => some '\x0c'
  | 'n' => some '\n'
  | 'r' => some '\r'
  | 't' => some '\t'
  | 'v' => some '\x0b'
  | _ => none

/-- An escape by code of a fixed number of digits. -/
def codeEscape (width : Nat) (shape : String) (cs : List Char) :
    Except SyntaxError (Char × List Char) :=
  match Text.readHex? width cs with
  | some (n, rest) =>
    if n < 0x110000 then .ok (if n.isValidChar then Char.ofNat n else '\uFFFD', rest)
    else .error (.badEscape "illegal Unicode character")
  | none => .error (.badEscape ("truncated " ++ shape ++ " escape"))

/-- An escape by name, between braces. -/
def nameEscape (cs : List Char) : Except SyntaxError (Char × List Char) :=
  let malformed : SyntaxError := .badEscape "malformed \\N character escape"
  match cs with
  | '{' :: rest =>
    match rest.takeWhile (· ≠ '}'), rest.dropWhile (· ≠ '}') with
    | [], _ => .error malformed
    | _, [] => .error malformed
    | name, _ :: rest =>
      match Text.characterOfName? (String.ofList name) with
      | some c => .ok (c, rest)
      | none => .error (.badEscape "unknown Unicode character name")
  | _ => .error malformed

def readOctal : (width : Nat) → Nat → List Char → Nat × List Char
  | width + 1, n, c :: rest =>
    if '0' ≤ c ∧ c ≤ '7' then readOctal width (8 * n + (c.toNat - 48)) rest
    else (n, c :: rest)
  | _, n, cs => (n, cs)

/-- The text that a string stands for. A backslash in front of a character that
needs none stays, and a character beyond ASCII behind a backslash is shown by
its code. `fuel` bounds the characters. -/
def unescape : (fuel : Nat) → List Char → Except SyntaxError (List Char)
  | _, [] => .ok []
  | 0, _ :: _ => .ok []
  | fuel + 1, '\\' :: c :: rest =>
    if c = '\n' then unescape fuel rest
    else if c = 'x' ∨ c = 'u' ∨ c = 'U' ∨ c = 'N' then do
      let (decoded, rest) ←
        if c = 'x' then codeEscape 2 "\\xXX" rest
        else if c = 'u' then codeEscape 4 "\\uXXXX" rest
        else if c = 'U' then codeEscape 8 "\\UXXXXXXXX" rest
        else nameEscape rest
      return decoded :: (← unescape fuel rest)
    else if '0' ≤ c ∧ c ≤ '7' then do
      let (n, rest) := readOctal 3 0 (c :: rest)
      return Char.ofNat n :: (← unescape fuel rest)
    else match controlEscape? c with
      | some decoded => do return decoded :: (← unescape fuel rest)
      | none => do
        let shown := if c.toNat < 128 then [c] else (Text.escapeCode c.toNat).drop 1
        return '\\' :: shown ++ (← unescape fuel rest)
  | fuel + 1, c :: rest => do return c :: (← unescape fuel rest)

end SchemaDocs.Template
