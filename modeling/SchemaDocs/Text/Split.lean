/-!
# Cutting and joining at one character

Dotted names and slashed paths are cut at every occurrence of their separator,
empty parts included, so that joining the parts gives the text back. An empty
text has one empty part.
-/

namespace SchemaDocs.Text

def splitChars (sep : Char) : List Char → List (List Char)
  | [] => [[]]
  | c :: rest =>
    if c = sep then [] :: splitChars sep rest
    else match splitChars sep rest with
      | [] => [[c]]
      | part :: parts => (c :: part) :: parts

def joinChars (sep : List Char) : List (List Char) → List Char
  | [] => []
  | [part] => part
  | part :: parts => part ++ sep ++ joinChars sep parts

def splitOn (sep : Char) (s : String) : List String :=
  (splitChars sep s.toList).map String.ofList

/-- The parts one after the other with `sep` between them. -/
def join (sep : String) : List String → String
  | [] => ""
  | [part] => part
  | part :: parts => part ++ sep ++ join sep parts

/-- The separator of paths. -/
def isSlash (c : Char) : Bool := c == '/'

/-- Lines with a line end behind each. -/
def lines (ls : List String) : String := ls.foldr (fun l rest => l ++ "\n" ++ rest) ""

theorem splitChars_ne_nil (sep : Char) (cs : List Char) : splitChars sep cs ≠ [] := by
  induction cs with
  | nil => simp [splitChars]
  | cons c rest ih =>
    simp only [splitChars]
    split
    · simp
    · split <;> simp

theorem joinChars_splitChars (sep : Char) (cs : List Char) :
    joinChars [sep] (splitChars sep cs) = cs := by
  induction cs with
  | nil => rfl
  | cons c rest ih =>
    simp only [splitChars]
    split
    · next h =>
      subst h
      cases hs : splitChars c rest with
      | nil => exact absurd hs (splitChars_ne_nil c rest)
      | cons part parts => rw [hs] at ih; simp [joinChars, ih]
    · cases hs : splitChars sep rest with
      | nil => exact absurd hs (splitChars_ne_nil sep rest)
      | cons part parts =>
        rw [hs] at ih
        cases parts with
        | nil => simpa [joinChars] using ih
        | cons p ps => simpa [joinChars] using ih

/-- Does the text begin with these characters? -/
def startsWith (head : String) (s : String) : Bool := head.toList.isPrefixOf s.toList

/-- Does the text end with these characters? -/
def endsWith (tail : String) (s : String) : Bool := tail.toList.isSuffixOf s.toList

/-- The text with every `old` character replaced by `new`. -/
def replaceChar (old new : Char) (s : String) : String :=
  String.ofList (s.toList.map fun c => if c = old then new else c)

end SchemaDocs.Text
