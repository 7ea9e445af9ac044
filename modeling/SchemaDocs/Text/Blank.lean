import SchemaDocs.Text.Ranges

/-!
# White space

Names are trimmed, and descriptions are folded onto one line before they go into
a table cell. Both use one class of white space: the characters with the Unicode
property `White_Space`, and the four information separators U+001C to U+001F. A
zero-width space is not in it.

`oneLine` replaces every run of white space by one space and trims the ends.
What it leaves is `words` joined by single spaces.
-/

namespace SchemaDocs.Text

def blankRanges : List (Nat × Nat) := [
  (0x09, 0x0D), (0x1C, 0x20), (0x85, 0x85), (0xA0, 0xA0), (0x1680, 0x1680),
  (0x2000, 0x200A), (0x2028, 0x2029), (0x202F, 0x202F), (0x205F, 0x205F),
  (0x3000, 0x3000)]

def isBlank (c : Char) : Bool := inRanges blankRanges c.toNat

/-- Drops what satisfies `p` from the end. -/
def dropEnd (p : α → Bool) (cs : List α) : List α := (cs.reverse.dropWhile p).reverse

/-- Drops what satisfies `p` from both ends. -/
def trimBy (p : α → Bool) (cs : List α) : List α := dropEnd p (cs.dropWhile p)

def trim (s : String) : String := String.ofList (trimBy isBlank s.toList)

/-- Every run of white space becomes one space; `inRun` says that the character
before was white. -/
def squeeze (inRun : Bool) : List Char → List Char
  | [] => []
  | c :: rest =>
    if isBlank c then
      if inRun then squeeze true rest else ' ' :: squeeze true rest
    else c :: squeeze false rest

def oneLine (s : String) : String :=
  String.ofList (trimBy isBlank (squeeze false s.toList))

/-- The maximal runs of characters that are not white space. -/
def words (cs : List Char) : List (List Char) :=
  go [] cs
where
  /-- `word` holds the run being read, last character first. -/
  go (word : List Char) : List Char → List (List Char)
    | [] => if word.isEmpty then [] else [word.reverse]
    | c :: rest =>
      if isBlank c then
        if word.isEmpty then go [] rest else word.reverse :: go [] rest
      else go (c :: word) rest

end SchemaDocs.Text
