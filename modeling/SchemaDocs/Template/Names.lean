import SchemaDocs.Template.Syntax

/-!
# Names in a template

A template, each round of a loop, each call of a macro and each captured text
have a frame of their own for names. A name that a frame assigns before it ever
mentions it, and that no frame around it mentions, belongs to that frame: it is
unset until the assignment, even if the page has a value of this name. This can
be seen from a loop or a macro inside the frame that uses the name early. An
assignment in a branch does not make a name unset, because the branch may not be
taken.

Some names are only given to a frame that reads them: a macro gets what is left
over of its arguments, and the block that it is called with, a round of a loop
gets the state of the loop, and a template gets itself. What counts is the order
of the text, wherever in it the name is read or set.
-/

namespace SchemaDocs.Template

mutual

/-- The names that an expression mentions. -/
def Expr.names : Expr → List String
  | .const _ => []
  | .name s => [s]
  | .list items => Expr.namesOfAll items
  | .tuple items => Expr.namesOfAll items
  | .dict entries => Expr.namesOfEntries entries
  | .attr e _ => e.names
  | .element e key => e.names ++ key.names
  | .cut e start stop step => e.names ++ start.names ++ stop.names ++ step.names
  | .call f args => f.names ++ Expr.namesOfArguments args
  | .filter e _ args => e.names ++ Expr.namesOfArguments args
  | .test e _ args => e.names ++ Expr.namesOfArguments args
  | .not e => e.names
  | .negate e => e.names
  | .positive e => e.names
  | .and l r => l.names ++ r.names
  | .or l r => l.names ++ r.names
  | .arithmetic _ l r => l.names ++ r.names
  | .compare first links => first.names ++ Expr.namesOfLinks links
  | .concat parts => Expr.namesOfAll parts
  | .choose condition yes no => yes.names ++ condition.names ++ no.names
  | .only condition yes _ => yes.names ++ condition.names

def Expr.namesOfAll : List Expr → List String
  | [] => []
  | e :: rest => e.names ++ Expr.namesOfAll rest

def Expr.namesOfArguments : List (ArgumentKind × Expr) → List String
  | [] => []
  | (_, e) :: rest => e.names ++ Expr.namesOfArguments rest

def Expr.namesOfLinks : List (Item.CompareOp × Expr) → List String
  | [] => []
  | (_, e) :: rest => e.names ++ Expr.namesOfLinks rest

def Expr.namesOfEntries : List (Expr × Expr) → List String
  | [] => []
  | (key, e) :: rest => key.names ++ e.names ++ Expr.namesOfEntries rest

end

def defaultNames (params : List (String × Option Expr)) : List String :=
  params.flatMap fun (_, e) => (e.map Expr.names).getD []

def filterNames (filters : List FilterUse) : List String :=
  filters.flatMap fun use => Expr.namesOfArguments use.args

/-! ## In the order of the text -/

/-- A place in the text where a name is read or set. -/
inductive Mention
  | read (name : String)
  | set (name : String)
deriving DecidableEq, Repr

def Mention.name : Mention → String
  | .read name => name
  | .set name => name

def reads (names : List String) : List Mention := names.map .read

def sets (names : List String) : List Mention := names.map .set

mutual

/-- Where names are read and set in a statement, in the order of the text,
frames inside it included. The condition of a loop comes last. -/
def Stmt.mentions : Stmt → List Mention
  | .text _ => []
  | .print e => reads e.names
  | .branch condition body otherwise =>
    reads condition.names ++ Stmt.mentionsOfAll body ++ Stmt.mentionsOfAll otherwise
  | .loop target items condition body otherwise _ =>
    sets target.names ++ reads items.names ++ Stmt.mentionsOfAll body ++
      Stmt.mentionsOfAll otherwise ++ reads ((condition.map Expr.names).getD [])
  | .assign target e => sets target.names ++ reads e.names
  | .capture target filters body _ =>
    sets target.names ++ reads (filterNames filters) ++ Stmt.mentionsOfAll body
  | .define info params body _ =>
    sets info.params ++ reads (defaultNames params) ++ Stmt.mentionsOfAll body
  | .load source _ _ => reads source.names
  | .embed source _ => reads source.names

def Stmt.mentionsOfAll : List Stmt → List Mention
  | [] => []
  | s :: rest => s.mentions ++ Stmt.mentionsOfAll rest

end

/-- Is a name read somewhere before it is set anywhere? -/
def readsFirst (mentions : List Mention) (name : String) : Bool :=
  mentions.find? (·.name == name) == some (.read name)

/-! ## Frames -/

/-- The names that a frame has met so far, and those of them that start out unset. -/
structure FrameNames where
  met : List String
  unset : List String

/-- A name is mentioned. -/
def FrameNames.mention (frame : FrameNames) (name : String) : FrameNames :=
  { frame with met := name :: frame.met }

/-- A name is assigned. `outer` are the names that the frames around mention. -/
def FrameNames.assign (outer : List String) (inBranch : Bool)
    (frame : FrameNames) (name : String) :
    FrameNames :=
  if frame.met.contains name || outer.contains name || inBranch then frame.mention name
  else ⟨name :: frame.met, name :: frame.unset⟩

def FrameNames.mentionAll (frame : FrameNames) (names : List String) : FrameNames :=
  names.foldl FrameNames.mention frame

/-- A target is assigned. -/
def FrameNames.assignTarget (outer : List String) (inBranch : Bool)
    (frame : FrameNames) (target : Target) :
    FrameNames :=
  target.names.foldl (FrameNames.assign outer inBranch) (frame.mentionAll target.objects)

mutual

/-- Goes on through a statement, but not into the frames that it opens. -/
def FrameNames.through (outer : List String) (inBranch : Bool) (frame : FrameNames) :
    Stmt → FrameNames
  | .text _ => frame
  | .print e => frame.mentionAll e.names
  | .branch condition body otherwise =>
    ((frame.mentionAll condition.names).throughAll outer true body).throughAll
      outer true otherwise
  | .loop _ items _ _ _ _ => frame.mentionAll items.names
  | .assign target e => (frame.mentionAll e.names).assignTarget outer inBranch target
  | .capture target _ _ _ => frame.assignTarget outer inBranch target
  | .define info _ _ _ => frame.assign outer inBranch info.name
  | .load source name _ => (frame.mentionAll source.names).assign outer inBranch name
  | .embed source _ => frame.mentionAll source.names

def FrameNames.throughAll (outer : List String) (inBranch : Bool) (frame : FrameNames) :
    List Stmt → FrameNames
  | [] => frame
  | s :: rest => (frame.through outer inBranch s).throughAll outer inBranch rest

end

/-- The names of a frame that begins with some names bound. -/
def frameNames (outer bound : List String) (body : List Stmt) : FrameNames :=
  FrameNames.throughAll outer false ⟨bound, []⟩ body

/-- What a macro takes beside its parameters, by what its body reads. -/
def MacroInfo.ofBody (info : MacroInfo) (body : List Stmt) : MacroInfo :=
  let mentions := Stmt.mentionsOfAll body
  let takes (name : String) : Bool :=
    readsFirst mentions name && !info.params.contains name
  { info with
    takesNamed := takes "kwargs"
    takesSurplus := takes "varargs"
    takesCaller := readsFirst mentions "caller" }

/-- The names that a call of a macro binds. -/
def MacroInfo.bound (info : MacroInfo) : List String :=
  info.params ++ (if info.takesCaller then ["caller"] else []) ++
    (if info.takesNamed then ["kwargs"] else []) ++
    if info.takesSurplus then ["varargs"] else []

/-- Finds the strangers in the arguments of a filter. -/
def FilterUse.annotate (known : List String) (use : FilterUse) : FilterUse :=
  { use with
    strangers := (Expr.namesOfArguments use.args).filter fun name =>
      !known.contains name }

mutual

/-- Writes the unset names into every statement that opens a frame, and what a
macro takes into macros. -/
def Stmt.annotate (outer : List String) : Stmt → Stmt
  | .branch condition body otherwise =>
    .branch condition (Stmt.annotateAll outer body) (Stmt.annotateAll outer otherwise)
  | .loop target items condition body otherwise _ =>
    let namesState := readsFirst (Stmt.mentionsOfAll body) "loop"
    let round :=
      frameNames outer ((if namesState then ["loop"] else []) ++ target.names) body
    let rest := frameNames outer [] otherwise
    .loop target items condition (Stmt.annotateAll (round.met ++ outer) body)
      (Stmt.annotateAll (rest.met ++ outer) otherwise)
      ⟨namesState, round.unset, rest.unset⟩
  | .capture target filters body _ =>
    let inner := frameNames outer [] body
    let known := inner.met ++ outer
    .capture target (filters.map (FilterUse.annotate known))
      (Stmt.annotateAll known body) inner.unset
  | .define info params body _ =>
    let info := info.ofBody body
    let inner := frameNames outer (info.bound ++ defaultNames params) body
    .define info params (Stmt.annotateAll (inner.met ++ outer) body) inner.unset
  | s => s

def Stmt.annotateAll (outer : List String) : List Stmt → List Stmt
  | [] => []
  | s :: rest => s.annotate outer :: Stmt.annotateAll outer rest

end

/-- A template with its unset names. -/
def ofStatements (body : List Stmt) : Template :=
  let mentionsSelf := readsFirst (Stmt.mentionsOfAll body) "self"
  let frame := frameNames [] (if mentionsSelf then ["self"] else []) body
  ⟨Stmt.annotateAll frame.met body, frame.unset, mentionsSelf⟩

end SchemaDocs.Template
