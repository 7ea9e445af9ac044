import SchemaDocs.Text.Blank
import SchemaDocs.Text.Split

/-!
# Paths of files

A path is text with slashes. Its parts are what stands between them, and it
starts at the root if it begins with a slash. Its folder is what stands before
the last part. The plain form of a path leaves out what does not matter: doubled
slashes, a slash at the end, and parts that are a single point.
-/

namespace SchemaDocs.Path

open Text (isSlash)

def parts (path : String) : List String := Text.splitOn '/' path

def isAbsolute (path : String) : Bool := Text.startsWith "/" path

/-- The text up to the last slash, and the text behind it. -/
def cut (cs : List Char) : List Char × List Char :=
  let last := (cs.reverse.takeWhile (!isSlash ·)).reverse
  (cs.take (cs.length - last.length), last)

/-- The folder of a path and its last part. Slashes between them are left out,
unless there is nothing else. -/
def split (path : String) : String × String :=
  let (head, last) := cut path.toList
  (String.ofList (if head.all isSlash then head else Text.dropEnd isSlash head),
    String.ofList last)

def folder (path : String) : String := (split path).1

/-- A path below a folder. A path from the root stays as it is. -/
def join (base path : String) : String :=
  if isAbsolute path then path
  else if base = "" ∨ Text.endsWith "/" base then base ++ path
  else base ++ "/" ++ path

/-- The slashes that a path from the root begins with in its plain form: exactly
two are kept. -/
def rootMark (path : String) : String :=
  match (path.toList.takeWhile isSlash).length with
  | 0 => ""
  | 2 => "//"
  | _ => "/"

def plain (path : String) : String :=
  let kept := (parts path).filter fun part => part != "" && part != "."
  let text := rootMark path ++ Text.join "/" kept
  if text = "" then "." else text

end SchemaDocs.Path
