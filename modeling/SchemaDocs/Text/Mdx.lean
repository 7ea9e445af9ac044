/-!
# Escaping for MDX and for HTML

Text from the model goes into an MDX page, where six characters would otherwise
start a tag, an expression, a table cell or a piece of code. `escapeMdx` writes
each of them, and the ampersand, as an entity; all seven in one pass, so an
entity that stands in the text already is escaped like any other text.
`unescapeMdx` reads the seven entities back.

A constant that a template prints is escaped for HTML only.
-/

namespace SchemaDocs.Text

/-- The entity of a character that MDX reserves. -/
def mdxEntity? : Char → Option String
  | '&' => some "&amp;"
  | '<' => some "&lt;"
  | '>' => some "&gt;"
  | '{' => some "&#123;"
  | '}' => some "&#125;"
  | '|' => some "&#124;"
  | '`' => some "&#96;"
  | _ => none

def escapeMdxChar (c : Char) : List Char :=
  match mdxEntity? c with
  | some entity => entity.toList
  | none => [c]

def escapeMdxChars (cs : List Char) : List Char := cs.flatMap escapeMdxChar

def escapeMdx (s : String) : String := String.ofList (escapeMdxChars s.toList)

/-- The characters that have an entity. -/
def mdxReserved : List Char := ['&', '<', '>', '{', '}', '|', '`']

/-- Reads one entity at the front of the text. -/
def readEntity? (cs : List Char) : Option (Char × List Char) :=
  mdxReserved.findSome? fun c =>
    let entity := escapeMdxChar c
    if entity.isPrefixOf cs then some (c, cs.drop entity.length) else none

/-- Replaces the seven entities by their characters, left to right; `fuel`
bounds the characters read. -/
def unescapeMdxFrom : Nat → List Char → List Char
  | 0, cs => cs
  | _ + 1, [] => []
  | fuel + 1, c :: rest =>
    match readEntity? (c :: rest) with
    | some (r, rest') => r :: unescapeMdxFrom fuel rest'
    | none => c :: unescapeMdxFrom fuel rest

def unescapeMdx (s : String) : String :=
  String.ofList (unescapeMdxFrom s.toList.length s.toList)

def escapeHtmlChar : Char → List Char
  | '&' => "&amp;".toList
  | '<' => "&lt;".toList
  | '>' => "&gt;".toList
  | '\'' => "&#39;".toList
  | '"' => "&#34;".toList
  | c => [c]

def escapeHtml (s : String) : String := String.ofList (s.toList.flatMap escapeHtmlChar)

end SchemaDocs.Text
