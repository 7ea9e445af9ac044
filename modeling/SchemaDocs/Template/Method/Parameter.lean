import SchemaDocs.Template.Call

/-!
# Reading arguments

Functions of values look at their arguments one by one, and each refuses what
does not fit in words of its own. What is left out stands for a default.
-/

namespace SchemaDocs.Template

def refuseType (text : String) : Except RenderError α := .error (.refused .type text)

def refuseValue (text : String) : Except RenderError α := .error (.refused .value text)

/-- The argument at a place. -/
def argument? (args : List (Option Item)) (i : Nat) : Option Item := args[i]?.join

def argument (args : List (Option Item)) (i : Nat) : Item := (argument? args i).getD .null

/-- A text, or else a refusal by the kind of the argument. -/
def textArgument (refusal : String → String) (args : List (Option Item)) (i : Nat) :
    Except RenderError (List Char) :=
  let item := argument args i
  match item.text? with
  | some s => .ok s.toList
  | none => refuseType (refusal item.kind)

def wholeArgument (item : Item) : Except RenderError Int :=
  match item.whole? with
  | some n => .ok n
  | none => .error (.notAnInteger item.kind)

/-- What a kind is called where none goes by its own name. -/
def givenKind (kind : String) : String := if kind = "NoneType" then "None" else kind

/-- A whole number that stays below a limit. -/
def limitedArgument (limit : Int) (word : String) (default : Int)
    (args : List (Option Item)) (i : Nat) :
    Except RenderError Int :=
  match argument? args i with
  | none => .ok default
  | some item => do
    let n ← wholeArgument item
    if -limit ≤ n ∧ n < limit then return n
    else throw (.overflow ("Python int too large to convert to C " ++ word))

/-- A whole number of the size of an index. -/
def sizeArgument :
    (default : Int) → List (Option Item) → (i : Nat) → Except RenderError Int :=
  limitedArgument (Nat.pow 2 63) "ssize_t"

/-- A whole number of half that size. -/
def smallArgument :
    (default : Int) → List (Option Item) → (i : Nat) → Except RenderError Int :=
  limitedArgument (Nat.pow 2 31) "int"

/-- A bound on a number of steps; a negative one is none. -/
def limitArgument (args : List (Option Item)) (i : Nat) :
    Except RenderError (Option Nat) := do
  let n ← sizeArgument (-1) args i
  return if n < 0 then none else some n.toNat

/-- A bound of a part of a sequence, counted from the end when negative and
never below the beginning. -/
def boundArgument (length : Nat) (default : Int) (args : List (Option Item)) (i : Nat) :
    Except RenderError Int :=
  match argument? args i with
  | none => .ok default
  | some .null => .ok default
  | some item =>
    match item.whole? with
    | some n => .ok (if n < 0 then max 0 (n + length) else n)
    | none =>
      refuseType "slice indices must be integers or None or have an __index__ method"

/-- The part of a sequence between two bounds, given as arguments from a place
on, unless it ends before it begins; and where it begins. -/
def windowArgument (xs : List α) (args : List (Option Item)) (i : Nat) :
    Except RenderError (Option (Nat × List α)) := do
  let start ← boundArgument xs.length 0 args i
  let stop ← boundArgument xs.length xs.length args (i + 1)
  let stop := min stop xs.length
  return if stop < start then none
    else some (start.toNat, (xs.take stop.toNat).drop start.toNat)

/-- The name of an encoding, and behind it how faults are to be treated, which
makes no difference. -/
def encodingArgument (function : String) (args : List (Option Item)) :
    Except RenderError String := do
  let read (param : String) (i : Nat) : Except RenderError String :=
    match (argument? args i).map fun item => (item.text?, item.kind) with
    | none => .ok "utf-8"
    | some (some name, _) => .ok name
    | some (none, kind) =>
      refuseType (function ++ "() argument '" ++ param ++ "' must be str, not " ++
        givenKind kind)
  let name ← read "encoding" 0
  let _ ← read "errors" 1
  return name

end SchemaDocs.Template
