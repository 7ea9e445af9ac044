import SchemaDocs.Text.Blank
import SchemaDocs.Text.Word

/-!
# Map types written out

A map field may give its type as `map<key, value>`. The two names are runs of
word characters and dots, and white space may stand between any two parts. The
text is read from front to back; none of its parts can be continued by the one
after it, so there is never a choice.
-/

namespace SchemaDocs.MapNotation

def isNameChar (c : Char) : Bool := Text.isWord c || c == '.'

def skipBlank (cs : List Char) : List Char := cs.dropWhile Text.isBlank

/-- A given text at the front. -/
def expect? (token : List Char) (cs : List Char) : Option (List Char) :=
  if token.isPrefixOf cs then some (cs.drop token.length) else none

/-- A type name at the front, of one character at least. -/
def readName? (cs : List Char) : Option (String × List Char) :=
  match cs.takeWhile isNameChar with
  | [] => none
  | name => some (String.ofList name, cs.dropWhile isNameChar)

/-- The key and value names of a map type that is written out. -/
def parse? (s : String) : Option (String × String) := do
  let cs ← expect? "map".toList s.toList
  let cs ← expect? ['<'] (skipBlank cs)
  let (key, cs) ← readName? (skipBlank cs)
  let cs ← expect? [','] (skipBlank cs)
  let (value, cs) ← readName? (skipBlank cs)
  let cs ← expect? ['>'] (skipBlank cs)
  if cs.isEmpty then some (key, value) else none

end SchemaDocs.MapNotation
