import SchemaDocs.Site.Page

/-!
# Navigation

The pages of a site form a tree of groups. A page is entered under the groups of
its segments; a group that is there already is used again, and a new one is put
after what came before. Groups and pages of one group stand in the order in
which they were first met. No two pages may have one file name.
-/

namespace SchemaDocs

inductive NavTree (α : Type)
  | leaf (label : String) (page : α)
  | group (label : String) (children : List (NavTree α))

namespace NavTree

def label : NavTree α → String
  | .leaf label _ => label
  | .group label _ => label

/-- Changes the contents of the first group of a label, which is put last if
there is none. -/
def enter (label : String) (change : List (NavTree α) → List (NavTree α)) :
    List (NavTree α) → List (NavTree α)
  | [] => [.group label (change [])]
  | .leaf l page :: rest => .leaf l page :: enter label change rest
  | .group l children :: rest =>
    if l = label then .group l (change children) :: rest
    else .group l children :: enter label change rest

/-- Puts a page at the end of the group that its segments lead to. -/
def insert (label : String) (page : α) : List String → List (NavTree α) → List (NavTree α)
  | [], siblings => siblings ++ [.leaf label page]
  | segment :: rest, siblings => enter segment (insert label page rest) siblings

/-- The contents of the first group of a label. -/
def findGroup? (label : String) : List (NavTree α) → Option (List (NavTree α))
  | [] => none
  | .leaf _ _ :: rest => findGroup? label rest
  | .group l children :: rest =>
    if l = label then some children else findGroup? label rest

mutual

/-- The pages below a node, in reading order, each with its label. -/
def leaves : NavTree α → List (String × α)
  | .leaf label page => [(label, page)]
  | .group _ children => leavesAll children

def leavesAll : List (NavTree α) → List (String × α)
  | [] => []
  | t :: rest => t.leaves ++ leavesAll rest

end

mutual

/-- The tree with every page replaced. -/
def map (f : α → β) : NavTree α → NavTree β
  | .leaf label page => .leaf label (f page)
  | .group label children => .group label (mapAll f children)

def mapAll (f : α → β) : List (NavTree α) → List (NavTree β)
  | [] => []
  | t :: rest => t.map f :: mapAll f rest

end

mutual

/-- The tree as data; `page` says what is shown of a page. -/
def toValue (page : α → List (String × Value)) : NavTree α → Value
  | .leaf label p => .object (("label", .text label) :: page p)
  | .group label children =>
    .object [("label", .text label), ("children", .list (toValues page children))]

def toValues (page : α → List (String × Value)) : List (NavTree α) → List Value
  | [] => []
  | t :: rest => t.toValue page :: toValues page rest

end

end NavTree

/-- The page that came a second time. -/
structure DuplicatePage where
  fileName : String
deriving DecidableEq, Repr

def DuplicatePage.message (d : DuplicatePage) : String :=
  "Page '" ++ d.fileName ++ "' was given twice"

/-- Enters pages one after the other; `seen` holds the names of those entered before. -/
def enterPages (seen : List String) (nodes : List (NavTree Page)) :
    List Page → Except DuplicatePage (List (NavTree Page))
  | [] => .ok nodes
  | p :: rest =>
    if seen.contains p.fileName then .error ⟨p.fileName⟩
    else enterPages (p.fileName :: seen) (NavTree.insert p.slug p p.segments nodes) rest

/-- The top-level nodes of the navigation. -/
def buildNavigation (pages : List Page) : Except DuplicatePage (List (NavTree Page)) :=
  enterPages [] [] pages

/-- What the tree shows of a page. -/
def Page.navEntries (p : Page) : List (String × Value) :=
  [("pageRoute", .text p.link), ("fileName", .text p.fileName)]

end SchemaDocs
