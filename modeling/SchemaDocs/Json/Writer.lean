import SchemaDocs.Value

/-!
# Writing JSON

A string is written in ASCII: the quote, the backslash and five control
characters have short escapes, and everything else outside the range from the
space to the tilde is written as UTF-16 code units of four hexadecimal digits
each. Such a string is a double-quoted YAML scalar as well, and holds no line
end of any kind.

A document is laid out with one member to a line and a fixed indent for each
level; an empty list or object stays on its line. Octets have no JSON form and
are written as a string of hexadecimal digits.
-/

namespace SchemaDocs.Json

def unitEscape (n : Nat) : List Char := '\\' :: 'u' :: Text.hex 4 n

/-- The two code units of a character beyond the basic plane. -/
def surrogates (n : Nat) : Nat × Nat :=
  (0xD800 + (n - 0x10000) / 0x400, 0xDC00 + (n - 0x10000) % 0x400)

def escapeChar (c : Char) : List Char :=
  match c with
  | '"' => ['\\', '"']
  | '\\' => ['\\', '\\']
  | '\n' => ['\\', 'n']
  | '\r' => ['\\', 'r']
  | '\t' => ['\\', 't']
  | '\x08' => ['\\', 'b']
  | '\x0c' => ['\\', 'f']
  | c =>
    if 32 ≤ c.toNat ∧ c.toNat < 127 then [c]
    else if c.toNat < 0x10000 then unitEscape c.toNat
    else unitEscape (surrogates c.toNat).1 ++ unitEscape (surrogates c.toNat).2

def quote (s : String) : String :=
  String.ofList ('"' :: s.toList.flatMap escapeChar ++ ['"'])

def floatText : Binary64 → String
  | .nan => "NaN"
  | .infinite false => "Infinity"
  | .infinite true => "-Infinity"
  | x => x.text

/-- A line end and the indent of a level. -/
def newline (indent level : Nat) : String :=
  String.ofList ('\n' :: List.replicate (indent * level) ' ')

mutual

/-- The document with `indent` blanks for each level, standing at `level`. -/
def write (indent level : Nat) : Value → String
  | .null => "null"
  | .bool b => if b then "true" else "false"
  | .int n => toString n
  | .float x => floatText x
  | .text s => quote s
  | .bytes octets => quote (String.ofList (octets.flatMap fun b => Text.hex 2 b.toNat))
  | .list [] => "[]"
  | .list (v :: rest) =>
    "[" ++ newline indent (level + 1) ++ write indent (level + 1) v ++
      writeItems indent (level + 1) rest ++ newline indent level ++ "]"
  | .object [] => "\x7b\x7d"
  | .object ((key, v) :: rest) =>
    "\x7b" ++ newline indent (level + 1) ++ quote key ++ ": " ++
      write indent (level + 1) v ++ writeEntries indent (level + 1) rest ++
      newline indent level ++ "\x7d"

def writeItems (indent level : Nat) : List Value → String
  | [] => ""
  | v :: rest =>
    "," ++ newline indent level ++ write indent level v ++ writeItems indent level rest

def writeEntries (indent level : Nat) : List (String × Value) → String
  | [] => ""
  | (key, v) :: rest =>
    "," ++ newline indent level ++ quote key ++ ": " ++ write indent level v ++
      writeEntries indent level rest

end

mutual

/-- The document on one line. -/
def compact : Value → String
  | .list items => "[" ++ compactItems items ++ "]"
  | .object entries => "\x7b" ++ compactEntries entries ++ "\x7d"
  | v => write 0 0 v

def compactItems : List Value → String
  | [] => ""
  | [v] => compact v
  | v :: rest => compact v ++ ", " ++ compactItems rest

def compactEntries : List (String × Value) → String
  | [] => ""
  | [(key, v)] => quote key ++ ": " ++ compact v
  | (key, v) :: rest => quote key ++ ": " ++ compact v ++ ", " ++ compactEntries rest

end

end SchemaDocs.Json
