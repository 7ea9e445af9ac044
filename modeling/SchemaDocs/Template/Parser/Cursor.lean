import SchemaDocs.Template.Syntax
import SchemaDocs.Template.Token

/-!
# Going over tokens

A reader of templates always stands on a token; a fault in the text is noticed
when it would step onto it. The end of the template is a token too, and it is
never passed.

Every step of a chain or of a list uses up a token, so the number of tokens that
are left is fuel enough.
-/

namespace SchemaDocs.Template

/-- The token the reader stands on, its line, and what follows. -/
structure Cursor where
  current : Token
  line : Nat
  rest : List Lexeme

abbrev Parser := StateT Cursor (Except SyntaxError)

namespace Parser

def current : Parser Token := return (← get).current

def fuel : Parser Nat := return (← get).rest.length + 1

/-- Steps onto the next token and gives the one passed. The end is never passed. -/
def advance : Parser Token := do
  let s ← get
  match s.current, s.rest with
  | .eof, _ => return .eof
  | _, .fault e :: _ => throw e
  | t, .token next line :: rest =>
    set (Cursor.mk next line rest)
    return t
  | t, [] =>
    set (Cursor.mk .eof s.line [])
    return t

/-- The token after the current one. -/
def lookAhead : Parser Token := do
  match (← get).rest with
  | .token t _ :: _ => return t
  | .fault e :: _ => throw e
  | [] => return .eof

def accept (t : Token) : Parser Bool := do
  if (← current) = t then
    let _ ← advance
    return true
  else return false

/-- What to say when something else is needed here. -/
def fault (what : String) : Parser α := do
  match ← current with
  | .eof => throw (.endedBefore what)
  | t => throw (.expectedToken what t.describe)

def expect (t : Token) : Parser Unit := do
  if ← accept t then return else fault t.describe

def expectName : Parser String := do
  match ← current with
  | .name s =>
    let _ ← advance
    return s
  | _ => fault "name"

/-- Goes on as long as a step gives something, which uses up a token. -/
def iterate (step : α → Parser (Option α)) : (fuel : Nat) → α → Parser α
  | 0, a => return a
  | fuel + 1, a => do
    match ← step a with
    | some next => iterate step fuel next
    | none => return a

/-- Operands joined by operators, grouped to the left. -/
def chain (operator? : Token → Option (Expr → Expr → Expr)) (operand : Parser Expr) :
    Parser Expr := do
  let first ← operand
  iterate (fun left => do
    match operator? (← current) with
    | some join =>
      let _ ← advance
      return some (join left (← operand))
    | none => return none) (← fuel) first

/-- Items between commas up to a closing token; a comma may stand before it. -/
def separated (closer : Token) (item : Parser α) : Parser (List α) := do
  let items ← iterate (fun (items : List α) => do
    if (← current) = closer then return none
    unless items.isEmpty do expect (.operator ",")
    if (← current) = closer then return none
    return some ((← item) :: items)) (← fuel) []
  expect closer
  return items.reverse

end Parser

end SchemaDocs.Template
