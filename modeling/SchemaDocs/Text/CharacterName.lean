import SchemaDocs.Text.CharacterName.Alias
import SchemaDocs.Text.CharacterName.From0000
import SchemaDocs.Text.CharacterName.From0900
import SchemaDocs.Text.CharacterName.From1800
import SchemaDocs.Text.CharacterName.From2000
import SchemaDocs.Text.CharacterName.From2800
import SchemaDocs.Text.CharacterName.From3000
import SchemaDocs.Text.CharacterName.From10000
import SchemaDocs.Text.CharacterName.From13000
import SchemaDocs.Text.CharacterName.From1D000
import SchemaDocs.Text.Hex
import SchemaDocs.Text.Ranges

/-!
# Characters by name

Every character has a name that no other has, and some have other names beside
it (version 14 of the standard). The name of an ideograph is a common beginning
with the code behind it, the name of a Korean syllable is spelled from its
letters, and all other names are in tables.

A table lists names in the order of their codes. The parts of a name are its
words, each with the space or hyphen in front of it. An entry begins with a
small letter that says how many parts it shares with the entry before it: `a`
for none, `b` for one, and so on. The code of the character follows between an
equals sign and a colon, unless it is the next one, and then the parts that are
left, without the space in front of them. Line ends between entries do not
count.

Names in tables and ideographs named by tables may be written in small letters
too.
-/

namespace SchemaDocs.Text

namespace CharacterName

/-! ## Tables -/

/-- Puts a character in front of parts that begin with certain characters. -/
def extend (begins : Char → Bool) (c : Char) : List (List Char) → List (List Char)
  | [] => [[c]]
  | part :: parts =>
    if part.head?.any begins then [c] :: part :: parts else (c :: part) :: parts

/-- Cuts a text in front of certain characters. -/
def splitBefore (begins : Char → Bool) (cs : List Char) : List (List Char) :=
  cs.foldr (extend begins) []

def isJoint (c : Char) : Bool := c == ' ' || c == '-'

/-- A character and the parts of its name. -/
structure Entry where
  code : Nat
  parts : List (List Char)

def valueOfHex (cs : List Char) : Nat :=
  cs.foldl (fun n c => 16 * n + (hexValue? c).getD 0) 0

/-- The parts that an entry has of its own. -/
def ownParts (shares : Bool) (cs : List Char) : List (List Char) :=
  splitBefore isJoint (if shares && !cs.head?.any isJoint then ' ' :: cs else cs)

/-- The entry that a text of the table stands for, from the entry before it. -/
def Entry.next (before : Entry) : List Char → Entry
  | [] => before
  | count :: cs =>
    let shared := count.toNat - 'a'.toNat
    let (code, own) := match cs with
      | '=' :: rest =>
        (valueOfHex (rest.takeWhile (· ≠ ':')), (rest.dropWhile (· ≠ ':')).drop 1)
      | cs => (before.code + 1, cs)
    ⟨code, before.parts.take shared ++ ownParts (0 < shared) own⟩

/-- The code of a name in a table. -/
def find? (name : List Char) (before : Entry) : List (List Char) → Option Nat
  | [] => none
  | text :: rest =>
    let entry := before.next text
    if entry.parts.flatten == name then some entry.code else find? name entry rest

def tables : List String := [
  from0000, from0900, from1800, from2000, from2800, from3000,
  from10000, from13000, from1D000, aliases]

/-- The texts of the entries of a table. -/
def entryTexts (table : String) : List (List Char) :=
  splitBefore Char.isLower (table.toList.filter (· ≠ '\n'))

def findInTables? (name : List Char) : Option Nat :=
  tables.findSome? fun table => find? name ⟨0, []⟩ (entryTexts table)

/-! ## Names that follow from codes -/

/-- What follows a given beginning. -/
def remainder? (start : String) (name : List Char) : Option (List Char) :=
  if start.toList.isPrefixOf name then some (name.drop start.toList.length) else none

/-- Characters whose names end with their codes. -/
def coded : List (String × List (Nat × Nat)) := [
  ("CJK COMPATIBILITY IDEOGRAPH-",
    [(0xF900, 0xFA6D), (0xFA70, 0xFAD9), (0x2F800, 0x2FA1D)]),
  ("KHITAN SMALL SCRIPT CHARACTER-", [(0x18B00, 0x18CD5)]),
  ("NUSHU CHARACTER-", [(0x1B170, 0x1B2FB)])]

/-- A code in as many digits as it has, but at least four, with capital letters. -/
def codeText (n : Nat) : List Char :=
  (hex (if n < 0x10000 then 4 else 5) n).map Char.toUpper

def findCoded? (name : List Char) : Option Nat :=
  coded.findSome? fun (start, ranges) => do
    let digits ← remainder? start name
    let n := valueOfHex digits
    if codeText n = digits ∧ inRanges ranges n then some n else none

def ideographRanges : List (Nat × Nat) := [
  (0x3400, 0x4DBF), (0x4E00, 0x9FFF), (0x20000, 0x2A6DF), (0x2A700, 0x2B738),
  (0x2B740, 0x2B81D), (0x2B820, 0x2CEA1), (0x2CEB0, 0x2EBE0), (0x30000, 0x3134A)]

/-- A digit of a code in the name of an ideograph. -/
def isCodeDigit (c : Char) : Bool := c.isDigit || ('A' ≤ c && c ≤ 'F')

/-- An ideograph, of which the code is written with four or five digits. -/
def findIdeograph? (name : List Char) : Option Nat := do
  let digits ← remainder? "CJK UNIFIED IDEOGRAPH-" name
  let n := valueOfHex digits
  if (digits.length = 4 ∨ digits.length = 5) ∧ digits.all isCodeDigit ∧
      inRanges ideographRanges n then
    some n
  else none

/-! ## Korean syllables -/

/-- The letters that a syllable begins with. -/
def initials : List String := [
  "G", "GG", "N", "D", "DD", "R", "M", "B", "BB", "S", "SS", "", "J", "JJ", "C", "K",
  "T", "P", "H"]

def vowels : List String := [
  "A", "AE", "YA", "YAE", "EO", "E", "YEO", "YE", "O", "WA", "WAE", "OE", "YO", "U",
  "WEO", "WE", "WI", "YU", "EU", "YI", "I"]

/-- The letters that a syllable ends with. -/
def finals : List String := [
  "", "G", "GG", "GS", "N", "NJ", "NH", "D", "L", "LG", "LM", "LB", "LS", "LT", "LP",
  "LH", "M", "B", "BS", "S", "SS", "NG", "J", "C", "K", "T", "P", "H"]

/-- The place of the longest of some spellings that a text begins with, and what
follows it. -/
def longest? (spellings : List String) (cs : List Char) : Option (Nat × List Char) :=
  spellings.zipIdx.foldl (fun best (spelling, i) =>
    match remainder? spelling cs, best with
    | some rest, some (_, left) =>
      if rest.length < left.length then some (i, rest) else best
    | some rest, none => some (i, rest)
    | none, best => best) none

def findSyllable? (name : List Char) : Option Nat := do
  let (initial, rest) ← longest? initials (← remainder? "HANGUL SYLLABLE " name)
  let (vowel, rest) ← longest? vowels rest
  let (final, rest) ← longest? finals rest
  if rest.isEmpty then
    some (0xAC00 + (initial * vowels.length + vowel) * finals.length + final)
  else none

end CharacterName

open CharacterName in
/-- The character of a name. -/
def characterOfName? (name : String) : Option Char :=
  let cs := name.toList
  let capitals := cs.map Char.toUpper
  (((findSyllable? cs).or (findIdeograph? cs)).or
    ((findCoded? capitals).or (findInTables? capitals))).map Char.ofNat

end SchemaDocs.Text
