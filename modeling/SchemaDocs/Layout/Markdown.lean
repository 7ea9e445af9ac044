import SchemaDocs.Json.Writer
import SchemaDocs.Layout.Bindings
import SchemaDocs.Text.Mdx

/-!
# The built-in layout

A page begins with front matter that holds the path of the file as its title.
Below it come the title again, the package, the description and the imported
files, then a section for each kind of declaration that the file has. A
declaration starts with an anchor of its full name and a heading; fields, values
and methods are the rows of a table. Nested messages and enums follow the
message they belong to, one heading level deeper, down to the sixth.

All text from the schema is escaped where it is put in. A description in a table
is folded onto one line.
-/

namespace SchemaDocs.Layout

open Text (escapeMdx oneLine)

/-- Concatenates what a function gives for each item. -/
def each (render : α → String) (items : List α) : String :=
  items.foldr (fun item rest => render item ++ rest) ""

def heading (level : Nat) : String := String.ofList (List.replicate (min level 6) '#')

def anchor (fullName : String) : String :=
  "<a id=\"" ++ escapeMdx fullName ++ "\"></a>\n\n"

/-- The beginning of every declaration: anchor, heading, and the description if
there is one. -/
def opening (level : Nat) (fullName name description : String) : String :=
  anchor fullName ++ heading level ++ " " ++ escapeMdx name ++ "\n\n" ++
    (if description = "" then "" else escapeMdx description ++ "\n\n")

def link (label : String) : Option String → String
  | some href => "[" ++ escapeMdx label ++ "](" ++ escapeMdx href ++ ")"
  | none => escapeMdx label

def typeRef (t : TypeBinding) : String := link t.label t.href

def fieldType (f : FieldBinding) : String :=
  match f.map with
  | some (key, value) => "map&lt;" ++ typeRef key ++ ", " ++ typeRef value ++ "&gt;"
  | none => typeRef f.type

def cell (description : String) : String := escapeMdx (oneLine description)

def enumRow (v : EnumValue) : String :=
  "| " ++ escapeMdx v.name ++ " | " ++ escapeMdx (toString v.number) ++ " | " ++
    cell v.description ++ " |\n"

/-- What stands above the rows of a table of values. -/
def valueTableHead : String :=
  "| Name | Number | Description |\n| ---- | ------ | ----------- |\n"

def enum (level : Nat) (e : EnumBinding) : String :=
  opening level e.fullName e.name e.description ++ valueTableHead ++
    each enumRow e.entries ++ "\n"

def oneofNote : Option Value → String
  | some v => " (oneof " ++ escapeMdx v.display ++ ")"
  | none => ""

def fieldRow (f : FieldBinding) : String :=
  "| " ++ escapeMdx f.name ++ " | " ++ fieldType f ++ " | " ++
    escapeMdx f.label.text ++ " | " ++ cell f.description ++ oneofNote f.oneof ++ " |\n"

/-- What stands above the rows of a table of fields. -/
def fieldTableHead : String :=
  "| Field | Type | Label | Description |\n| ----- | ---- | ----- | ----------- |\n"

def fieldTable (fields : List FieldBinding) : String :=
  if fields.isEmpty then "" else fieldTableHead ++ each fieldRow fields ++ "\n"

mutual

def message (level : Nat) : MessageBinding → String
  | ⟨name, fullName, description, fields, messages, enums⟩ =>
    opening level fullName name description ++ fieldTable fields ++
      nested (level + 1) messages ++ each (fun e => enum (level + 1) e ++ "\n") enums

/-- Messages one after the other, each with a line end behind it. -/
def nested (level : Nat) : List MessageBinding → String
  | [] => ""
  | m :: rest => message level m ++ "\n" ++ nested level rest

end

def streamed (streaming : Bool) (t : TypeBinding) : String :=
  (if streaming then "stream " else "") ++ typeRef t

def methodRow (m : MethodBinding) : String :=
  "| " ++ escapeMdx m.name ++ " | " ++ streamed m.clientStreaming m.request ++ " | " ++
    streamed m.serverStreaming m.response ++ " | " ++ cell m.description ++ " |\n"

/-- What stands above the rows of a table of methods. -/
def methodTableHead : String :=
  "| Method | Request | Response | Description |\n| ------ | ------- | -------- | ----------- |\n"

def service (level : Nat) (s : ServiceBinding) : String :=
  opening level s.fullName s.name s.description ++ methodTableHead ++
    each methodRow s.methods ++ "\n"

def frontMatter (title : String) : String :=
  "---\ntitle: " ++ Json.quote title ++ "\nhide_title: true\n---\n"

def dependency (d : DependencyBinding) : String := "- " ++ link d.path d.href ++ "\n"

/-- A titled part of the page, left out when there is nothing in it. -/
def titled (title : String) (isEmpty : Bool) (body : String) : String :=
  if isEmpty then "" else title ++ body

def sections (p : PageBindings) : String :=
  titled "## Messages\n\n" p.messages.isEmpty (nested 3 p.messages) ++
    titled "## Enums\n\n" p.enums.isEmpty (each (fun e => enum 3 e ++ "\n") p.enums) ++
    titled "## Services\n\n" p.services.isEmpty
      (each (fun s => service 3 s ++ "\n") p.services)

def body (p : PageBindings) : String :=
  "\n# " ++ escapeMdx p.title ++ "\n\n" ++
    (if p.package = "" then "" else "Package: **" ++ escapeMdx p.package ++ "**\n\n") ++
    (if p.description = "" then "" else escapeMdx p.description ++ "\n\n") ++
    titled "Imports:\n\n" p.dependencies.isEmpty
      (each dependency p.dependencies ++ "\n") ++
    sections p

def page (p : PageBindings) : String := frontMatter p.title ++ body p

end SchemaDocs.Layout
