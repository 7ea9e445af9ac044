import SchemaDocs.Text.Split

/-!
# The built-in layout as templates

A custom template may use the pieces of the built-in layout: the macros that
present declarations, and the whole page. Here they are in the language of
templates, in the form in which a custom template could have written them.
-/

namespace SchemaDocs.Layout

def headingMacro : List String := [
  "\x7b% macro heading(level) %\x7d\x7b\x7b \"#\" * ([level, 6] | min) \x7d\x7d" ++
    "\x7b% endmacro %\x7d",
  ""]

def typeMacros : List String := [
  "\x7b% macro type_ref(t) %\x7d\x7b% if t.href %\x7d" ++
    "[\x7b\x7b t.label \x7d\x7d](\x7b\x7b t.href \x7d\x7d)" ++
    "\x7b% else %\x7d\x7b\x7b t.label \x7d\x7d\x7b% endif %\x7d\x7b% endmacro %\x7d",
  "",
  "\x7b% macro field_type(f) %\x7d\x7b% if f.map %\x7d" ++
    "map&lt;\x7b\x7b type_ref(f.map.key) \x7d\x7d, " ++
    "\x7b\x7b type_ref(f.map.value) \x7d\x7d&gt;" ++
    "\x7b% else %\x7d\x7b\x7b type_ref(f.type) \x7d\x7d" ++
    "\x7b% endif %\x7d\x7b% endmacro %\x7d",
  ""]

/-- How a declaration begins, given the name that the macro has for it. -/
def openingLines (e : String) : List String := [
  "<a id=\"\x7b\x7b " ++ e ++ ".anchor \x7d\x7d\"></a>",
  "",
  "\x7b\x7b heading(level) \x7d\x7d \x7b\x7b " ++ e ++ ".name \x7d\x7d",
  "",
  "\x7b% if " ++ e ++ ".description %\x7d",
  "\x7b\x7b " ++ e ++ ".description \x7d\x7d",
  "",
  "\x7b% endif %\x7d"]

def enumMacro : List String :=
  ["\x7b% macro enum(e, level) %\x7d"] ++ openingLines "e" ++ [
  "| Name | Number | Description |",
  "| ---- | ------ | ----------- |",
  "\x7b% for v in e.entries %\x7d",
  "| \x7b\x7b v.name \x7d\x7d | \x7b\x7b v.number \x7d\x7d | " ++
    "\x7b\x7b v.description | oneline \x7d\x7d |",
  "\x7b% endfor %\x7d",
  "",
  "\x7b% endmacro %\x7d",
  ""]

def messageMacro : List String :=
  ["\x7b% macro message(m, level) %\x7d"] ++ openingLines "m" ++ [
  "\x7b% if m.fields %\x7d",
  "| Field | Type | Label | Description |",
  "| ----- | ---- | ----- | ----------- |",
  "\x7b% for f in m.fields %\x7d",
  "| \x7b\x7b f.name \x7d\x7d | \x7b\x7b field_type(f) \x7d\x7d | " ++
    "\x7b\x7b f.label \x7d\x7d | \x7b\x7b f.description | oneline \x7d\x7d" ++
    "\x7b% if f.oneof %\x7d (oneof \x7b\x7b f.oneof \x7d\x7d)\x7b% endif %\x7d |",
  "\x7b% endfor %\x7d",
  "",
  "\x7b% endif %\x7d",
  "\x7b% for nested in m.messages %\x7d",
  "\x7b\x7b message(nested, level + 1) \x7d\x7d",
  "\x7b% endfor %\x7d",
  "\x7b% for nested in m.enums %\x7d",
  "\x7b\x7b enum(nested, level + 1) \x7d\x7d",
  "\x7b% endfor %\x7d",
  "\x7b% endmacro %\x7d",
  ""]

def serviceMacro : List String :=
  ["\x7b% macro service(s, level) %\x7d"] ++ openingLines "s" ++ [
  "| Method | Request | Response | Description |",
  "| ------ | ------- | -------- | ----------- |",
  "\x7b% for m in s.methods %\x7d",
  "| \x7b\x7b m.name \x7d\x7d | " ++
    "\x7b% if m.client_streaming %\x7dstream \x7b% endif %\x7d" ++
    "\x7b\x7b type_ref(m.request) \x7d\x7d | " ++
    "\x7b% if m.server_streaming %\x7dstream \x7b% endif %\x7d" ++
    "\x7b\x7b type_ref(m.response) \x7d\x7d | " ++
    "\x7b\x7b m.description | oneline \x7d\x7d |",
  "\x7b% endfor %\x7d",
  "",
  "\x7b% endmacro %\x7d"]

/-- The template `macros.mdx.j2`. -/
def macrosSource : String :=
  Text.lines (headingMacro ++ typeMacros ++ enumMacro ++ messageMacro ++ serviceMacro)

/-- The template `page.mdx.j2`. -/
def pageSource : String := Text.lines [
  "\x7b% import \"macros.mdx.j2\" as docs %\x7d",
  "---",
  "title: \x7b\x7b title | yaml_str \x7d\x7d",
  "hide_title: true",
  "---",
  "",
  "# \x7b\x7b title \x7d\x7d",
  "",
  "\x7b% if package %\x7d",
  "Package: **\x7b\x7b package \x7d\x7d**",
  "",
  "\x7b% endif %\x7d",
  "\x7b% if description %\x7d",
  "\x7b\x7b description \x7d\x7d",
  "",
  "\x7b% endif %\x7d",
  "\x7b% if dependencies %\x7d",
  "Imports:",
  "",
  "\x7b% for dep in dependencies %\x7d",
  "- \x7b% if dep.href %\x7d[\x7b\x7b dep.path \x7d\x7d](\x7b\x7b dep.href \x7d\x7d)" ++
    "\x7b% else %\x7d\x7b\x7b dep.path \x7d\x7d\x7b% endif %\x7d",
  "",
  "\x7b% endfor %\x7d",
  "",
  "\x7b% endif %\x7d",
  "\x7b% for section in sections %\x7d",
  "\x7b% if section.entities %\x7d",
  "## \x7b\x7b section.title \x7d\x7d",
  "",
  "\x7b% for entity in section.entities %\x7d",
  "\x7b% if section.kind == \"message\" %\x7d",
  "\x7b\x7b docs.message(entity, 3) \x7d\x7d",
  "\x7b% elif section.kind == \"enum\" %\x7d",
  "\x7b\x7b docs.enum(entity, 3) \x7d\x7d",
  "\x7b% else %\x7d",
  "\x7b\x7b docs.service(entity, 3) \x7d\x7d",
  "\x7b% endif %\x7d",
  "\x7b% endfor %\x7d",
  "\x7b% endif %\x7d",
  "\x7b% endfor %\x7d"]

end SchemaDocs.Layout
