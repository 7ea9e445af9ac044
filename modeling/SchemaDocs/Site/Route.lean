import SchemaDocs.Schema.Basic
import SchemaDocs.Text.Blank
import SchemaDocs.Text.Split

/-!
# Routes and page names

A page lives under a route that starts from a common base. The base is written
in one form, with a slash in front and none behind, or it is empty. Below it,
pages are grouped: by the parts of the package, or for a file without a package
by its directory. Inside its group a page is named after its file, without the
extension.

When that name is taken, the whole path of the file becomes the name, its
slashes turned into underscores, and if need be with a number behind it.
`slugCandidate` is this sequence, and `freeSlug` its first member that is free.
-/

namespace SchemaDocs

def trimSlashes (s : String) : String := String.ofList (Text.trimBy Text.isSlash s.toList)

/-- White space is trimmed before slashes are. -/
def normalizeRouteBase (base : String) : String :=
  let inner := trimSlashes (Text.trim base)
  if inner = "" then "" else "/" ++ inner

/-- A route base that cannot be one: a value of this kind is no text. -/
structure RouteBaseFault where
  kind : String
deriving DecidableEq, Repr

def RouteBaseFault.message (f : RouteBaseFault) : String :=
  "'" ++ f.kind ++ "' object has no attribute 'strip'"

/-- The base that loose data gives. An absent one is empty. -/
def readRouteBase (v : Value) : Except RouteBaseFault String :=
  if v.isFalsy then .ok ""
  else match v with
    | .text s => .ok (normalizeRouteBase s)
    | v => .error ⟨v.kind⟩

/-- The parts of a path between its slashes, those at its ends left out. -/
def pathParts (path : String) : List String := Text.splitOn '/' (trimSlashes path)

/-- What stands before the last `c`, if there is one. -/
def beforeLast? (c : Char) (cs : List Char) : Option (List Char) :=
  match cs.reverse.dropWhile (· ≠ c) with
  | [] => none
  | _ :: rest => some rest.reverse

/-- A file name without its extension. Dots in front belong to the name. -/
def stem (fileName : String) : String :=
  let cs := fileName.toList
  let name := cs.dropWhile (· == '.')
  match beforeLast? '.' name with
  | some before => String.ofList (cs.takeWhile (· == '.') ++ before)
  | none => fileName

/-- The parts of a path, the last without its extension. -/
def stemParts (path : String) : List String :=
  let parts := pathParts path
  parts.dropLast ++ [stem (parts.getLastD "")]

/-- A path without the extension of its last part. Slashes at its ends count. -/
def stripExtension (path : String) : String :=
  let parts := Text.splitOn '/' path
  Text.join "/" (parts.dropLast ++ [stem (parts.getLastD "")])

/-- The groups that a file's page stands in. -/
def File.segments (f : File) : List String :=
  let parts :=
    if f.package = "" then (pathParts f.path).dropLast else Text.splitOn '.' f.package
  parts.filter (· ≠ "")

/-- Groups as the beginning of a page name, each followed by a slash. -/
def groupPrefix (segments : List String) : String :=
  segments.foldr (fun s rest => s ++ "/" ++ rest) ""

/-- The names that a page may get, in the order they are tried. -/
def slugCandidate (slug flat : String) : Nat → String
  | 0 => slug
  | 1 => flat
  | n + 2 => flat ++ "_" ++ toString (n + 2)

/-- The first candidate from the `n`-th on whose page name is not taken. -/
def searchSlug (taken : List String) (group slug flat : String) :
    (fuel : Nat) → (n : Nat) → String
  | 0, n => slugCandidate slug flat n
  | fuel + 1, n =>
    let candidate := slugCandidate slug flat n
    if taken.contains (group ++ candidate) then
      searchSlug taken group slug flat fuel (n + 1)
    else candidate

/-- The path on one level, its slashes turned into underscores. -/
def flatName (slug path : String) : String :=
  let flat := Text.replaceChar '/' '_' (stripExtension path)
  if flat = "" then slug else flat

/-- As many names as are taken can be passed over, and the first two candidates
may be the same. -/
def freeSlug (taken : List String) (group slug path : String) : String :=
  searchSlug taken group slug (flatName slug path) (taken.length + 1) 0

end SchemaDocs
