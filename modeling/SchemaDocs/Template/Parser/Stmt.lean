import SchemaDocs.Template.Parser.Expr

/-!
# Reading statements

A template is a list of statements. A block goes on to a tag that ends it; any
other tag that no statement begins with is out of place, and the message says
which tags would do there.
-/

namespace SchemaDocs.Template

namespace Parser

/-! ## Targets of assignments -/

def arithmeticKind : Item.ArithmeticOp → String
  | .add => "add"
  | .sub => "sub"
  | .mul => "mul"
  | .div => "div"
  | .floorDiv => "floordiv"
  | .mod => "mod"
  | .pow => "pow"

/-- What an expression is called that cannot be assigned to. -/
def targetKind : Expr → String
  | .const _ => "const"
  | .name _ => "name"
  | .list _ => "list"
  | .tuple _ => "tuple"
  | .dict _ => "dict"
  | .attr _ _ => "getattr"
  | .element _ _ => "getitem"
  | .cut _ _ _ _ => "getitem"
  | .call _ _ => "call"
  | .filter _ _ _ => "filter"
  | .test _ _ _ => "test"
  | .not _ => "not"
  | .negate _ => "neg"
  | .positive _ => "pos"
  | .and _ _ => "and"
  | .or _ _ => "or"
  | .arithmetic op _ _ => arithmeticKind op
  | .compare _ _ => "compare"
  | .concat _ => "concat"
  | .choose _ _ _ => "condexpr"
  | .only _ _ _ => "condexpr"

/-- What may turn out to be a target: an expression, a member of something, or
several of these. -/
inductive Candidate
  | expr (e : Expr)
  | member (object label : String)
  | tuple (items : List Candidate)

mutual

/-- The target that an expression in parentheses is. -/
def Candidate.ofExpr? : Expr → Option Target
  | .name s => if (constantName? s).isSome then none else some (.name s)
  | .tuple items => (Candidate.ofExprs? items).map .tuple
  | _ => none

def Candidate.ofExprs? : List Expr → Option (List Target)
  | [] => some []
  | e :: rest => do return (← Candidate.ofExpr? e) :: (← Candidate.ofExprs? rest)

end

mutual

def Candidate.target? : Candidate → Option Target
  | .expr e => Candidate.ofExpr? e
  | .member object label => some (.member object label)
  | .tuple items => (Candidate.targets? items).map .tuple

def Candidate.targets? : List Candidate → Option (List Target)
  | [] => some []
  | c :: rest => do return (← c.target?) :: (← Candidate.targets? rest)

end

def Candidate.kind : Candidate → String
  | .expr e => targetKind e
  | .member _ _ => "nsref"
  | .tuple _ => "tuple"

/-- A name, where it stands for itself and not for a constant, with one of its
members if these may be assigned to. -/
def candidate (takesMembers : Bool) : Parser Candidate := do
  match ← current with
  | .name s =>
    if (constantName? s).isSome then return .expr (← primary anyExpression)
    let _ ← advance
    if takesMembers then
      if ← accept (.operator ".") then return .member s (← expectName)
    return .expr (.name s)
  | _ => return .expr (← primary anyExpression)

def target (takesMembers : Bool) (stop : List String) : Parser Target := do
  let c ← row .tuple stop false (candidate takesMembers)
  match c.target? with
  | some t => return t
  | none => throw (.cannotAssign c.kind)

/-- A name that stands where no expression may. -/
def declaredName : Parser String := do
  let s ← expectName
  if (constantName? s).isSome then throw (.cannotAssign "name") else return s

/-! ## Blocks -/

/-- Where the reader is: the tags that would end each block around it, and the
tags of these blocks, the innermost first. -/
structure Surroundings where
  endings : List (List String)
  tags : List String

/-- A reader of statements up to a tag of one of the names, on which it stops. -/
abbrev BodyParser := Surroundings → List String → Parser (List Stmt)

/-- The body of a block behind its opening tag, up to a tag that ends it. -/
def block (body : BodyParser) (around : Surroundings) (endings : List String) :
    Parser (List Stmt) := do
  let _ ← accept (.operator ":")
  expect .tagEnd
  let statements ← body { around with endings := endings :: around.endings } endings
  if (← current) = .eof then throw (.strayTag none endings false around.tags.head?)
  return statements

/-- The last body of a block, whose closing tag is passed. -/
def lastBlock (body : BodyParser) (around : Surroundings) (ending : String) :
    Parser (List Stmt) := do
  let statements ← block body around [ending]
  let _ ← advance
  return statements

/-- A branch from its condition on; `fuel` bounds the alternatives. -/
def branch (body : BodyParser) (around : Surroundings) : (fuel : Nat) → Parser Stmt
  | 0 => throw .tagNameExpected
  | fuel + 1 => do
    let condition ← plainRow []
    let statements ← block body around ["elif", "else", "endif"]
    match ← advance with
    | .name "elif" => return .branch condition statements [← branch body around fuel]
    | .name "else" =>
      return .branch condition statements (← lastBlock body around "endif")
    | _ => return .branch condition statements []

def loop (body : BodyParser) (around : Surroundings) : Parser Stmt := do
  let target ← target false ["in"]
  expect (.name "in")
  let items ← plainRow ["recursive"]
  let condition ←
    if ← accept (.name "if") then pure (some (← anyExpression)) else pure none
  let statements ← block body around ["endfor", "else"]
  match ← advance with
  | .name "else" =>
    return .loop target items condition statements (← lastBlock body around "endfor") {}
  | _ => return .loop target items condition statements [] {}

/-- The filters that a captured text passes. -/
def captureFilters : Parser (List FilterUse) := do
  let filters ← iterate (fun (filters : List FilterUse) => do
    if (← current) = .operator "|" then
      return some ((← filterUse anyExpression) :: filters)
    else return none) (← fuel) []
  return filters.reverse

def assignment (body : BodyParser) (around : Surroundings) : Parser Stmt := do
  let target ← target true []
  if ← accept (.operator "=") then return .assign target (← anyRow)
  let filters ← captureFilters
  return .capture target filters (← lastBlock body around "endset") []

/-- The parameters of a macro; one without a default may not follow one with it. -/
def parameters : Parser (List (String × Option Expr)) := do
  expect (.operator "(")
  let params ← iterate (fun (params : List (String × Option Expr)) => do
    if (← current) = .operator ")" then return none
    unless params.isEmpty do expect (.operator ",")
    let name ← declaredName
    if ← accept (.operator "=") then
      return some ((name, some (← anyExpression)) :: params)
    if params.any (·.2.isSome) then throw .requiredAfterDefault
    return some ((name, none) :: params)) (← fuel) []
  expect (.operator ")")
  return params.reverse

def definition (body : BodyParser) (around : Surroundings) : Parser Stmt := do
  let name ← declaredName
  let params ← parameters
  let info : MacroInfo := ⟨name, params.map (·.1), false, false, false⟩
  return .define info params (← lastBlock body around "endmacro") []

/-! ## Other templates -/

/-- Words behind the use of a template that say whether it sees the names that
are known here. -/
def contextWords (default : Bool) : Parser Bool := do
  match ← current with
  | .name s =>
    if s = "with" ∨ s = "without" then
      if (← lookAhead) = .name "context" then
        let _ ← advance
        let _ ← advance
        return s = "with"
    return default
  | _ => return default

def importing : Parser Stmt := do
  let source ← anyExpression
  expect (.name "as")
  let name ← declaredName
  return .load source name ⟨← contextWords false, false⟩

def including : Parser Stmt := do
  let source ← anyExpression
  let mayBeMissing ←
    if (← current) = .name "ignore" then do
      if (← lookAhead) = .name "missing" then
        let _ ← advance
        let _ ← advance
        pure true
      else pure false
    else pure false
  return .embed source ⟨← contextWords true, mayBeMissing⟩

/-! ## Statements -/

/-- A statement from its tag name on. -/
def statement (body : BodyParser) (around : Surroundings) : Parser Stmt := do
  match ← current with
  | .name tag =>
    let inside := { around with tags := tag :: around.tags }
    if tag ∈ ["if", "for", "set", "macro", "import", "include"] then
      let _ ← advance
      match tag with
      | "if" => branch body inside (← fuel)
      | "for" => loop body inside
      | "set" => assignment body inside
      | "macro" => definition body inside
      | "import" => importing
      | _ => including
    else
      throw (.strayTag (some tag) (around.endings.headD [])
        (around.endings.any (·.contains tag))
        around.tags.head?)
  | _ => throw .tagNameExpected

/-- Statements up to an ending tag or the end; `fuel` bounds the statements and
their nesting. -/
def statements : (fuel : Nat) → BodyParser
  | 0, _, _ => return []
  | fuel + 1, around, endings => do
    match ← current with
    | .data s =>
      let _ ← advance
      return .text s :: (← statements fuel around endings)
    | .printBegin =>
      let _ ← advance
      let e ← anyRow
      expect .printEnd
      return .print e :: (← statements fuel around endings)
    | .tagBegin =>
      let _ ← advance
      match ← current with
      | .name s =>
        if endings.contains s then return []
        let first ← statement (statements fuel) around
        expect .tagEnd
        return first :: (← statements fuel around endings)
      | _ => throw .tagNameExpected
    | _ => return []

end Parser

/-- The statements that lexemes make up. -/
def parse (lexemes : List Lexeme) : Except SyntaxError (List Stmt) :=
  match lexemes with
  | [] => .ok []
  | .fault e :: _ => .error e
  | .token t line :: rest =>
    ((Parser.statements (rest.length + 1)) ⟨[], []⟩ []).run' ⟨t, line, rest⟩

end SchemaDocs.Template
