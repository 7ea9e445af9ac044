import SchemaDocs.Json.Writer
import SchemaDocs.Site.Navigation

/-!
# The sidebar module

The navigation goes to the site as a JavaScript module that exports one object:
under the name of the sidebar, a list of items. A group is a category with items
of its own; a page is a document, whose id is its file name, behind a common
prefix if there is one. The object is written as JSON with two blanks to a
level.
-/

namespace SchemaDocs

inductive SidebarItem
  | doc (id label : String)
  | category (label : String) (items : List SidebarItem)

/-- The id of a document. Slashes around the prefix are left out. -/
def docId (idPrefix fileName : String) : String :=
  let inner := trimSlashes idPrefix
  if inner = "" then fileName else inner ++ "/" ++ fileName

mutual

def sidebarItem (idPrefix : String) (fileName : α → String) : NavTree α → SidebarItem
  | .leaf label page => .doc (docId idPrefix (fileName page)) label
  | .group label children => .category label (sidebarItems idPrefix fileName children)

def sidebarItems (idPrefix : String) (fileName : α → String) :
    List (NavTree α) → List SidebarItem
  | [] => []
  | t :: rest => sidebarItem idPrefix fileName t :: sidebarItems idPrefix fileName rest

end

mutual

def SidebarItem.toValue : SidebarItem → Value
  | .doc id label =>
    .object [("type", .text "doc"), ("id", .text id), ("label", .text label)]
  | .category label items =>
    .object [("type", .text "category"), ("label", .text label),
      ("items", .list (sidebarValues items))]

def sidebarValues : List SidebarItem → List Value
  | [] => []
  | item :: rest => item.toValue :: sidebarValues rest

end

def sidebarObject (name : String) (items : List SidebarItem) : Value :=
  .object [(name, .list (sidebarValues items))]

def defaultSidebarName : String := "protobufSidebar"

def sidebarModule (name : String) (items : List SidebarItem) : String :=
  "module.exports = " ++ Json.write 2 0 (sidebarObject name items) ++ ";\n"

end SchemaDocs
