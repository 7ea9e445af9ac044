import SchemaDocs.Layout.Bindings
import SchemaDocs.Layout.Markdown
import SchemaDocs.Layout.Sources
import SchemaDocs.Template.Compile
import SchemaDocs.Template.Render
import SchemaDocs.Text.Split

/-!
# Laying out pages

A page is laid out by the built-in layout or by a custom template. A custom
template sees the bindings of the page by their names, and all of them together
as `page`. It may use the two templates of the built-in layout, and no others.
-/

namespace SchemaDocs.Layout

open Template (RenderError Outside Item Rendering)

/-- The built-in templates that can be used. -/
def builtIn : List (String × Except Template.SyntaxError Template) := [
  ("macros.mdx.j2", Template.compile macrosSource),
  ("page.mdx.j2", Template.compile pageSource)]

/-- The built-in template of a name. Empty parts of the name and single points
do not count, and it may not lead out of the place where the templates are. -/
def findBuiltIn (name : String) : Except RenderError Template :=
  let parts := Text.splitOn '/' name
  if parts.contains ".." then .error (.badTemplateName name)
  else
    match builtIn.lookup
        (Text.join "/" (parts.filter fun part => part != "" && part != ".")) with
    | some (.ok t) => .ok t
    | _ => .error (.noTemplate name)

/-- How macros and built-in templates are run when calls may nest as deep as `depth`. -/
def outside : (depth : Nat) → Outside
  | 0 => ⟨fun _ _ => throw .tooDeep, findBuiltIn, fun _ _ => throw .tooDeep⟩
  | depth + 1 => {
      call := fun place args => do
        match (← get).closures[place]? with
        | some closure => closure.apply (outside depth) args
        | none => throw .tooDeep
      find := findBuiltIn
      run := fun t page => t.run (outside depth) page }

/-- How deep calls may nest. -/
def callDepth : Nat := 1000

/-- Data as part of the rendering. -/
def bring (v : Value) : Rendering Item := Template.stamp (Item.ofValue v)

/-- Entries as part of the rendering, each one that some items are given for
being one of these. -/
def bringEntries (given : List (String × Item)) (entries : List (String × Value)) :
    Rendering (List (String × Item)) :=
  entries.mapM fun (name, v) => do return (name, ← (given.lookup name).getDM (bring v))

def textKeys (entries : List (String × Item)) : List (Item × Item) :=
  entries.map fun (name, item) => (.text name, item)

/-- A section, with the entities that are found under a name of their own too. -/
def bringSection (entities : Item) : Value → Rendering Item
  | .object entries => do
    return .dict (textKeys (← bringEntries [("entities", entities)] entries))
  | v => bring v

/-- The names that a template finds on a page, which come before those that
every template knows. What stands on the page in several places is there
once. -/
def pageItems (p : PageBindings) : Rendering (List (String × Item)) := do
  let messages ← bring (.list (messageValues p.messages))
  let enums ← bring (.list (p.enums.map EnumBinding.toValue))
  let services ← bring (.list (p.services.map ServiceBinding.toValue))
  let sections ← (p.sectionValues.zip [messages, enums, services]).mapM fun (v,
      entities) =>
    bringSection entities v
  let sections ← Template.stamp (.list sections)
  let entries ← bringEntries
    [("sections", sections), ("messages", messages), ("enums", enums),
      ("services", services)] p.entries
  let page ← Template.stamp (.dict (textKeys entries))
  return ("page", page) :: entries ++ Template.builtins

def fill (t : Template) (p : PageBindings) : Except RenderError String :=
  ((do t.run (outside callDepth) (← pageItems p) : Rendering _).run' .empty).map (·.1)

/-- How pages are laid out. -/
inductive Style
  | builtIn
  | custom (t : Template)

/-- The style that a template text asks for, if there is one. -/
def Style.ofSource : Option String → Except Template.SyntaxError Style
  | none => .ok .builtIn
  | some source => (Template.compile source).map .custom

def Style.layOut (style : Style) (p : PageBindings) : Except RenderError String :=
  match style with
  | .builtIn => .ok (page p)
  | .custom t => fill t p

end SchemaDocs.Layout
