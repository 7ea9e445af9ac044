import SchemaDocs.Template.Parser.Cursor

/-!
# Reading expressions

From weak to strong the operators are the choice, `or`, `and`, `not`,
comparisons, `+` and `-`, the join `~`, `*` `/` `//` `%`, powers, signs, and at
last everything that is written behind an operand. A sign is stronger than a
filter behind its operand.

The readers of the levels take the reader for expressions in brackets as a
parameter.
-/

namespace SchemaDocs.Template.Parser

def constantName? : String → Option Item
  | "true" => some (.bool true)
  | "True" => some (.bool true)
  | "false" => some (.bool false)
  | "False" => some (.bool false)
  | "none" => some .null
  | "None" => some .null
  | _ => none

/-- Strings that follow each other are one. -/
def strings (first : String) : Parser Expr := do
  let s ← iterate (fun s => do
    match ← current with
    | .string next =>
      let _ ← advance
      return some (s ++ next)
    | _ => return none) (← fuel) first
  return .const (.text s)

def entry (expr : Parser Expr) : Parser (Expr × Expr) := do
  let key ← expr
  expect (.operator ":")
  return (key, ← expr)

/-- Does a row of expressions end here? `stop` are names that end it too. -/
def endsRow (stop : List String) : Token → Bool
  | .printEnd => true
  | .tagEnd => true
  | .operator ")" => true
  | .name s => stop.contains s
  | _ => false

/-- Expressions between commas: one of them without a comma is itself, and
otherwise they are a tuple. Only in parentheses may there be none. -/
def row (make : List α → α) (stop : List String) (inParentheses : Bool)
    (item : Parser α) : Parser α := do
  let (items, hasComma, _) ← iterate (fun (items, hasComma, ended) => do
    if ended then return none
    if endsRow stop (← current) then return none
    let items := (← item) :: items
    if ← accept (.operator ",") then return some (items, true, false)
    return some (items, hasComma, true)) (← fuel) (([] : List α), false, false)
  match items, hasComma with
  | [only], false => return only
  | [], false =>
    if inParentheses then return make [] else throw (.noExpression (← current).describe)
  | items, _ => return make items.reverse

def primary (expr : Parser Expr) : Parser Expr := do
  let t ← current
  match t with
  | .name s =>
    let _ ← advance
    return match constantName? s with
      | some item => .const item
      | none => .name s
  | .string s =>
    let _ ← advance
    strings s
  | .integer n =>
    let _ ← advance
    return .const (.int n)
  | .float x =>
    let _ ← advance
    return .const (.float x)
  | .operator "(" =>
    let _ ← advance
    let inner ← row .tuple [] true expr
    expect (.operator ")")
    return inner
  | .operator "[" =>
    let _ ← advance
    return .list (← separated (.operator "]") expr)
  | .operator "\x7b" =>
    let _ ← advance
    return .dict (← separated (.operator "\x7d") (entry expr))
  | t => throw (.unexpected t.describe)

/-! ## Arguments -/

/-- The kinds of argument that may no longer stand behind some others: nothing
but names behind the entries of a dictionary, nothing by position behind a name
or a spread. -/
def mayFollow (before : List ArgumentKind) (kind : ArgumentKind) : Bool :=
  let spread := before.contains .spread
  let spreadNamed := before.contains .spreadNamed
  match kind with
  | .spread => !spread && !spreadNamed
  | .spreadNamed => !spreadNamed
  | .named _ => !spreadNamed
  | .positional => before.all (· == .positional)

/-- How the argument is given that the reader stands on; what says so is passed. -/
def argumentKind (before : List ArgumentKind) : Parser ArgumentKind := do
  let check (kind : ArgumentKind) : Parser Unit :=
    unless mayFollow before kind do throw .badCall
  match ← current with
  | .operator "*" =>
    check .spread
    let _ ← advance
    return .spread
  | .operator "**" =>
    check .spreadNamed
    let _ ← advance
    return .spreadNamed
  | .name key =>
    if (← lookAhead) = .operator "=" then
      check (.named key)
      let _ ← advance
      let _ ← advance
      return .named key
    else
      check .positional
      return .positional
  | _ =>
    check .positional
    return .positional

/-- Where an argument of a kind comes when they are worked out. -/
def ArgumentKind.rank : ArgumentKind → Nat
  | .positional => 0
  | .spread => 1
  | .named _ => 2
  | .spreadNamed => 3

/-- The arguments of a call, in the order in which they are worked out. -/
def arguments (expr : Parser Expr) : Parser (List (ArgumentKind × Expr)) := do
  expect (.operator "(")
  let args ← iterate (fun (args : List (ArgumentKind × Expr)) => do
    if (← current) = .operator ")" then return none
    unless args.isEmpty do
      expect (.operator ",")
      if (← current) = .operator ")" then return none
    let kind ← argumentKind (args.map (·.1))
    return some ((kind, ← expr) :: args)) (← fuel) []
  expect (.operator ")")
  let ofRank (rank : Nat) :=
    args.reverse.filter fun (kind, _) => ArgumentKind.rank kind == rank
  return (List.range 4).flatMap ofRank

/-! ## Behind an operand -/

/-- An attribute behind a point; a number there is an index. -/
def member (e : Expr) : Parser Expr := do
  let _ ← advance
  match ← advance with
  | .name s => return .attr e s
  | .integer n => return .element e (.const (.int n))
  | _ => throw .attributeExpected

/-- What stands between the brackets behind an operand: a key, or the bounds of a cut. -/
inductive Subscript
  | key (e : Expr)
  | cut (start stop step : Expr)

/-- A bound of a cut, which may be left out. -/
def bound (expr : Parser Expr) : Parser Expr := do
  match ← current with
  | .operator ":" => return .const .null
  | .operator "]" => return .const .null
  | .operator "," => return .const .null
  | _ => expr

def subscript (expr : Parser Expr) : Parser Subscript := do
  let start ← if (← current) = .operator ":" then pure (.const .null) else expr
  if ← accept (.operator ":") then
    let stop ← bound expr
    let step ← if ← accept (.operator ":") then bound expr else pure (.const .null)
    return .cut start stop step
  else return .key start

/-- Several keys between brackets are a tuple, and so is none. -/
def subscripts (expr : Parser Expr) (e : Expr) : Parser Expr := do
  let _ ← advance
  let keys ← iterate (fun (keys : List Subscript) => do
    if (← current) = .operator "]" then return none
    unless keys.isEmpty do expect (.operator ",")
    return some ((← subscript expr) :: keys)) (← fuel) []
  expect (.operator "]")
  match keys with
  | [.key key] => return .element e key
  | [.cut start stop step] => return .cut e start stop step
  | keys =>
    return .element e (.tuple (← keys.reverse.mapM fun key => match key with
      | .key key => pure key
      | .cut _ _ _ => throw (.unexpected ":")))

/-- Attributes, elements and calls behind an operand. -/
def postfixes (expr : Parser Expr) (operand : Expr) : Parser Expr := do
  iterate (fun e => do
    match ← current with
    | .operator "." => return some (← member e)
    | .operator "[" => return some (← subscripts expr e)
    | .operator "(" => return some (.call e (← arguments expr))
    | _ => return none) (← fuel) operand

/-- A name with points in it. -/
def dottedName : Parser String := do
  let first ← expectName
  iterate (fun s => do
    if ← accept (.operator ".") then return some (s ++ "." ++ (← expectName))
    else return none)
    (← fuel) first

/-- A filter behind its mark. -/
def filterUse (expr : Parser Expr) : Parser FilterUse := do
  let _ ← advance
  let name ← dottedName
  if (← current) = .operator "(" then return { name, args := ← arguments expr }
  else return { name, args := [] }

/-- Can the argument of a test begin with this token? -/
def beginsArgument : Token → Bool
  | .name s => s ∉ ["else", "or", "and"]
  | .string _ => true
  | .integer _ => true
  | .float _ => true
  | .operator s => s == "[" || s == "\x7b"
  | _ => false

/-- A test behind an operand. One argument needs no parentheses. -/
def testBehind (expr : Parser Expr) (e : Expr) : Parser Expr := do
  let _ ← advance
  let negated ← accept (.name "not")
  let name ← dottedName
  let t ← current
  let args ←
    if t = .operator "(" then arguments expr
    else if beginsArgument t then do
      if t = .name "is" then throw .chainedTests
      pure [(.positional, ← postfixes expr (← primary expr))]
    else pure []
  return if negated then .not (.test e name args) else .test e name args

/-- Filters, tests and calls behind an operand. -/
def filters (expr : Parser Expr) (operand : Expr) : Parser Expr := do
  iterate (fun e => do
    match ← current with
    | .operator "|" =>
      let use ← filterUse expr
      return some (.filter e use.name use.args)
    | .name "is" => return some (← testBehind expr e)
    | .operator "(" => return some (.call e (← arguments expr))
    | _ => return none) (← fuel) operand

/-! ## Levels of operators -/

/-- An operand with its signs and what stands behind it. -/
def signed (expr : Parser Expr) : (fuel : Nat) → Parser Expr
  | 0 => primary expr
  | fuel + 1 => do
    match ← current with
    | .operator "-" =>
      let _ ← advance
      postfixes expr (.negate (← signed expr fuel))
    | .operator "+" =>
      let _ ← advance
      postfixes expr (.positive (← signed expr fuel))
    | _ => postfixes expr (← primary expr)

def operand (expr : Parser Expr) : Parser Expr := do
  filters expr (← signed expr (← fuel))

def powerOperator? : Token → Option (Expr → Expr → Expr)
  | .operator "**" => some (.arithmetic .pow)
  | _ => none

def productOperator? : Token → Option (Expr → Expr → Expr)
  | .operator "*" => some (.arithmetic .mul)
  | .operator "/" => some (.arithmetic .div)
  | .operator "//" => some (.arithmetic .floorDiv)
  | .operator "%" => some (.arithmetic .mod)
  | _ => none

def sumOperator? : Token → Option (Expr → Expr → Expr)
  | .operator "+" => some (.arithmetic .add)
  | .operator "-" => some (.arithmetic .sub)
  | _ => none

def power (expr : Parser Expr) : Parser Expr := chain powerOperator? (operand expr)

def product (expr : Parser Expr) : Parser Expr := chain productOperator? (power expr)

def joined (expr : Parser Expr) : Parser Expr := do
  let first ← product expr
  let parts ← iterate (fun parts => do
    if ← accept (.operator "~") then return some ((← product expr) :: parts)
    else return none)
    (← fuel) [first]
  match parts with
  | [e] => return e
  | parts => return .concat parts.reverse

def sum (expr : Parser Expr) : Parser Expr := chain sumOperator? (joined expr)

def compareOperator? : Token → Option Item.CompareOp
  | .operator "==" => some .eq
  | .operator "!=" => some .ne
  | .operator "<" => some .lt
  | .operator "<=" => some .le
  | .operator ">" => some .gt
  | .operator ">=" => some .ge
  | .name "in" => some .isIn
  | _ => none

/-- The comparison the reader stands on, which it passes. -/
def comparison? : Parser (Option Item.CompareOp) := do
  match compareOperator? (← current) with
  | some op =>
    let _ ← advance
    return some op
  | none =>
    if (← current) = .name "not" then
      if (← lookAhead) = .name "in" then
        let _ ← advance
        let _ ← advance
        return some .notIn
    return none

def compared (expr : Parser Expr) : Parser Expr := do
  let first ← sum expr
  let links ← iterate (fun links => do
    match ← comparison? with
    | some op => return some ((op, ← sum expr) :: links)
    | none => return none) (← fuel) []
  return if links.isEmpty then first else .compare first links.reverse

def negated (expr : Parser Expr) : (fuel : Nat) → Parser Expr
  | 0 => compared expr
  | fuel + 1 => do
    if ← accept (.name "not") then return .not (← negated expr fuel) else compared expr

def conjunction (expr : Parser Expr) : Parser Expr :=
  chain (fun t => if t = .name "and" then some .and else none) (do negated expr (← fuel))

def disjunction (expr : Parser Expr) : Parser Expr :=
  chain (fun t => if t = .name "or" then some .or else none) (conjunction expr)

/-- A value, and choices behind it between it and an alternative. -/
def choice (expr : Parser Expr) : (fuel : Nat) → Parser Expr
  | 0 => disjunction expr
  | fuel + 1 => do
    let line := (← get).line
    let first ← disjunction expr
    let (e, _) ← iterate (fun (e, line) => do
      if ← accept (.name "if") then
        let condition ← disjunction expr
        let choice : Expr ←
          if ← accept (.name "else") then pure (.choose condition e (← choice expr fuel))
          else pure (.only condition e line)
        return some (choice, (← get).line)
      else return none) (← Parser.fuel) (first, line)
    return e

/-- An expression that nests brackets no deeper than `fuel`. -/
def expression : (fuel : Nat) → Parser Expr
  | 0 => do throw (.unexpected (← current).describe)
  | fuel + 1 => do choice (expression fuel) (← Parser.fuel)

def anyExpression : Parser Expr := do expression (← fuel)

/-- A row of expressions that ends with its tag. -/
def anyRow : Parser Expr := row .tuple [] false anyExpression

/-- A row of expressions that are no choices. -/
def plainRow (stop : List String) : Parser Expr :=
  row .tuple stop false (do disjunction (expression (← fuel)))

end SchemaDocs.Template.Parser
