import SchemaDocs.Text.Hex
import SchemaDocs.Text.Printable

/-!
# Quoted text

Messages show a value that does not fit in quoted form. Text stands between
single quotes, or between double quotes when it holds a single quote and no
double one. The quote, the backslash, the tab and the two line ends are escaped
by name; any other character that cannot be printed is written as its code, in
as few of two, four or eight digits as hold it. Octets are quoted the same way
after the letter b, with everything beyond ASCII as a code.
-/

namespace SchemaDocs.Text

def quoteFor (cs : List Char) : Char :=
  if cs.contains '\'' && !cs.contains '"' then '"' else '\''

def escapeCode (n : Nat) : List Char :=
  if n < 0x100 then '\\' :: 'x' :: hex 2 n
  else if n < 0x10000 then '\\' :: 'u' :: hex 4 n
  else '\\' :: 'U' :: hex 8 n

def quotedChar (quote : Char) (c : Char) : List Char :=
  if c = quote ∨ c = '\\' then ['\\', c]
  else if c = '\t' then ['\\', 't']
  else if c = '\n' then ['\\', 'n']
  else if c = '\r' then ['\\', 'r']
  else if isPrintable c then [c]
  else escapeCode c.toNat

def quoted (s : String) : String :=
  let cs := s.toList
  let quote := quoteFor cs
  String.ofList (quote :: cs.flatMap (quotedChar quote) ++ [quote])

def quotedBytes (bytes : List UInt8) : String :=
  let cs := bytes.map fun b => Char.ofNat b.toNat
  let quote := quoteFor cs
  let show1 (c : Char) : List Char :=
    if c.toNat < 0x80 then quotedChar quote c else escapeCode c.toNat
  String.ofList ('b' :: quote :: cs.flatMap show1 ++ [quote])

end SchemaDocs.Text
