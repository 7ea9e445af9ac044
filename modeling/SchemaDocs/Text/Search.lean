import SchemaDocs.Text.Blank

/-!
# Searching, replacing and cutting texts

A part is looked for from the left or from the right, and its occurrences may
not overlap. The empty part is found everywhere: in front of every character,
and at the end. Texts are cut at a part, at white space, or at line ends;
`limit` bounds the number of cuts or replacements where it is given.
-/

namespace SchemaDocs.Text

/-- The first place of a part, counted from the beginning. -/
def findFirst? (part : List Char) : List Char → Option Nat
  | [] => if part.isEmpty then some 0 else none
  | c :: rest =>
    if part.isPrefixOf (c :: rest) then some 0 else (findFirst? part rest).map (· + 1)

/-- The last place of a part. -/
def findLast? (part whole : List Char) : Option Nat :=
  (findFirst? part.reverse whole.reverse).map fun i => whole.length - i - part.length

/-- What stands before the first occurrence of a part, and what stands behind it. -/
def cutFirst? (part whole : List Char) : Option (List Char × List Char) :=
  (findFirst? part whole).map fun i => (whole.take i, whole.drop (i + part.length))

def cutLast? (part whole : List Char) : Option (List Char × List Char) :=
  (findLast? part whole).map fun i => (whole.take i, whole.drop (i + part.length))

/-- Is there a cut left to make? -/
def mayCut : Option Nat → Bool
  | some 0 => false
  | _ => true

/-- The pieces between the occurrences of a part, which is not empty; `fuel`
bounds the cuts. -/
def splitAt (part : List Char) :
    (fuel : Nat) → (limit : Option Nat) → List Char → List (List Char)
  | 0, _, cs => [cs]
  | fuel + 1, limit, cs =>
    match if mayCut limit then cutFirst? part cs else none with
    | some (before, behind) => before :: splitAt part fuel (limit.map (· - 1)) behind
    | none => [cs]

def splitBy (part : List Char) (limit : Option Nat) (cs : List Char) : List (List Char) :=
  splitAt part cs.length limit cs

/-- The same with the cuts made from the right. -/
def splitByRight (part : List Char) (limit : Option Nat) (cs : List Char) :
    List (List Char) :=
  ((splitBy part.reverse limit cs.reverse).map List.reverse).reverse

/-- The pieces between runs of white space. What is left behind the last cut
keeps its end. -/
def splitBlanksAt : (fuel : Nat) → (limit : Option Nat) → List Char → List (List Char)
  | 0, _, _ => []
  | fuel + 1, limit, cs =>
    match cs.dropWhile isBlank with
    | [] => []
    | c :: rest =>
      if mayCut limit then
        let word := (c :: rest).takeWhile (!isBlank ·)
        word :: splitBlanksAt fuel (limit.map (· - 1)) (rest.drop (word.length - 1))
      else [c :: rest]

def splitBlanks (limit : Option Nat) (cs : List Char) : List (List Char) :=
  splitBlanksAt (cs.length + 1) limit cs

def splitBlanksRight (limit : Option Nat) (cs : List Char) : List (List Char) :=
  ((splitBlanks limit cs.reverse).map List.reverse).reverse

/-- Puts a text in front of every character. -/
def weave (new : List Char) : (limit : Option Nat) → List Char → List Char
  | limit, [] => if mayCut limit then new else []
  | limit, c :: rest =>
    if mayCut limit then new ++ c :: weave new (limit.map (· - 1)) rest else c :: rest

/-- Replaces the occurrences of a part. -/
def replaceParts (old new : List Char) (limit : Option Nat) (cs : List Char) :
    List Char :=
  if old.isEmpty then weave new limit cs
  else (splitBy old limit cs).intersperse new |>.flatten

/-- How often a part occurs. -/
def countParts (part cs : List Char) : Nat :=
  if part.isEmpty then cs.length + 1 else (splitBy part none cs).length - 1

/-! ## Lines -/

def isLineEnd (c : Char) : Bool :=
  inRanges [(0x0A, 0x0D), (0x1C, 0x1E), (0x85, 0x85), (0x2028, 0x2029)] c.toNat

/-- The lines of a text. A carriage return and a line feed behind it are one
end; `line` holds the line being read, last character first. -/
def linesFrom (keepEnds : Bool) (line : List Char) : List Char → List (List Char)
  | [] => if line.isEmpty then [] else [line.reverse]
  | '\r' :: '\n' :: rest =>
    (line.reverse ++ if keepEnds then ['\r', '\n'] else []) :: linesFrom keepEnds [] rest
  | c :: rest =>
    if isLineEnd c then
      (line.reverse ++ if keepEnds then [c] else []) :: linesFrom keepEnds [] rest
    else linesFrom keepEnds (c :: line) rest

def linesOf (keepEnds : Bool) (cs : List Char) : List (List Char) :=
  linesFrom keepEnds [] cs

/-- Spaces for tabs up to the next column that is a multiple of the size. -/
def expandTabs (size : Nat) (column : Nat) : List Char → List Char
  | [] => []
  | c :: rest =>
    if c = '\t' then
      let width := if size = 0 then 0 else size - column % size
      List.replicate width ' ' ++ expandTabs size (column + width) rest
    else c :: expandTabs size (if c = '\n' ∨ c = '\r' then 0 else column + 1) rest

end SchemaDocs.Text
