import SchemaDocs.Command.Options
import SchemaDocs.Number.Numeral

/-!
# Command line arguments

An argument that begins with a dash is an option, unless it looks like a
negative number or has a blank in it. A long option may be shortened as long as
it is still the only one that begins so, and its value stands behind an equals
sign or in the next argument. Short options take no value and may be written
together, and an equals sign between them does not count. After two dashes
nothing is an option any more. An option that comes again replaces its value.

All arguments are sorted into options and others first, so an option that could
be two is reported before anything else. What is left over is reported last,
when nothing that is required is missing.
-/

namespace SchemaDocs.Command

inductive Setting
  | help
  | descriptors
  | pages
  | sidebar
  | routeBase
  | template
  | extension
  | sidebarName
  | idPrefix
  | workers
  | verbose
deriving DecidableEq, Repr

/-- The spellings of the options, in the order in which they are listed. -/
def spellings : List (String × Setting) := [
  ("-h", .help), ("--help", .help), ("--file-descriptors-path", .descriptors),
  ("--proto-docs-path", .pages), ("--sidebar-path", .sidebar),
  ("--route-base-path", .routeBase), ("--template-path", .template),
  ("--doc-extension", .extension), ("--sidebar-name", .sidebarName),
  ("--doc-id-prefix", .idPrefix), ("--workers", .workers), ("-v", .verbose),
  ("--verbose", .verbose)]

/-- All spellings of an option, as messages name it. -/
def Setting.title (s : Setting) : String :=
  Text.join "/" ((spellings.filter (·.2 == s)).map (·.1))

def Setting.takesValue : Setting → Bool
  | .help => false
  | .verbose => false
  | _ => true

inductive UsageFault
  | ambiguous (given : String) (matching : List String)
  | expectedArgument (s : Setting)
  | notAnInteger (s : Setting) (given : String)
  | ignoredArgument (s : Setting) (given : String)
  | missing (settings : List Setting)
  | unrecognized (words : List String)
deriving DecidableEq, Repr

def UsageFault.message : UsageFault → String
  | .ambiguous given matching =>
    "ambiguous option: " ++ given ++ " could match " ++ Text.join ", " matching
  | .expectedArgument s => "argument " ++ s.title ++ ": expected one argument"
  | .notAnInteger s given =>
    "argument " ++ s.title ++ ": invalid int value: " ++ Text.quoted given
  | .ignoredArgument s given =>
    "argument " ++ s.title ++ ": ignored explicit argument " ++ Text.quoted given
  | .missing settings =>
    "the following arguments are required: " ++
      Text.join ", " (settings.map Setting.title)
  | .unrecognized words => "unrecognized arguments: " ++ Text.join " " words

/-- What an argument is. An option comes with its spelling and with the text
that is written onto it. -/
inductive Word
  | value (s : String)
  | option (s : Setting) (spelling : String) (attached : Option String)
  | unknown (s : String)
  | separator

/-- The text in front of the first equals sign, and the text behind it if there is one. -/
def cutAtEquals (s : String) : String × Option String :=
  let cs := s.toList
  match cs.dropWhile (· ≠ '=') with
  | [] => (s, none)
  | _ :: rest => (String.ofList (cs.takeWhile (· ≠ '=')), some (String.ofList rest))

def isDigit (c : Char) : Bool := (Text.digitValue? c).isSome

/-- A dash and digits, perhaps with a point before the last of them. One line
end may follow. -/
def looksNegative (s : String) : Bool :=
  match s.toList with
  | '-' :: cs =>
    let cs := if cs.getLast? = some '\n' then cs.dropLast else cs
    match cs.dropWhile isDigit with
    | [] => !cs.isEmpty
    | '.' :: fraction => !fraction.isEmpty && fraction.all isDigit
    | _ => false
  | _ => false

/-- The options that a dashed argument could be, when it is no spelling of one. -/
def interpretations (s : String) : List (String × Setting × Option String) :=
  if Text.startsWith "--" s then
    let (head, attached) := cutAtEquals s
    spellings.filterMap fun (spelling, setting) =>
      if Text.startsWith head spelling then some (spelling, setting, attached) else none
  else
    spellings.filterMap fun (spelling, setting) =>
      if spelling.toList = s.toList.take 2 then
        some (spelling, setting, some (String.ofList (s.toList.drop 2)))
      else none

def classifyDashed (s : String) : Except UsageFault Word :=
  match interpretations s with
  | [(spelling, setting, attached)] => .ok (.option setting spelling attached)
  | [] =>
    if looksNegative s || s.toList.contains ' ' then .ok (.value s) else .ok (.unknown s)
  | several => .error (.ambiguous s (several.map (·.1)))

def classify (s : String) : Except UsageFault Word :=
  if !Text.startsWith "-" s || s = "-" then .ok (.value s)
  else match spellings.lookup s with
    | some setting => .ok (.option setting s none)
    | none =>
      let (head, attached) := cutAtEquals s
      match spellings.lookup head with
      | some setting => .ok (.option setting head attached)
      | none => classifyDashed s

def classifyAll : List String → Except UsageFault (List Word)
  | [] => .ok []
  | s :: rest =>
    if s = "--" then .ok (.separator :: rest.map .value)
    else do
      let word ← classify s
      return word :: (← classifyAll rest)

/-- What has been set so far. -/
structure Draft where
  descriptors : Option String := none
  pages : Option String := none
  sidebar : Option String := none
  routeBase : String := ""
  template : Option String := none
  extension : String := ".mdx"
  sidebarName : String := defaultSidebarName
  idPrefix : String := ""
  workers : Int := 1
  verbose : Bool := false

/-- Why reading ends without options: a fault of usage, a request for help, or a
value of two dashes, which cannot be told from the separator. -/
inductive Stop
  | usage (fault : UsageFault)
  | help
  | lostValue
deriving DecidableEq, Repr

def Draft.set (draft : Draft) (s : Setting) (v : String) : Except Stop Draft :=
  match s with
  | .descriptors => .ok { draft with descriptors := some v }
  | .pages => .ok { draft with pages := some v }
  | .sidebar => .ok { draft with sidebar := some v }
  | .routeBase => .ok { draft with routeBase := v }
  | .template => .ok { draft with template := some v }
  | .extension => .ok { draft with extension := v }
  | .sidebarName => .ok { draft with sidebarName := v }
  | .idPrefix => .ok { draft with idPrefix := v }
  | .workers => match Numeral.readInt? v with
    | some n => .ok { draft with workers := n }
    | none => .error (.usage (.notAnInteger s v))
  | .help => .error .help
  | .verbose => .ok { draft with verbose := true }

/-- The option `s` and the short ones whose letters stand behind it. -/
def shortOptions (s : Setting) : List Char → Except UsageFault (List Setting)
  | [] => .ok [s]
  | c :: rest =>
    match spellings.lookup (String.ofList ['-', c]) with
    | some next => do return s :: (← shortOptions next rest)
    | none => .error (.ignoredArgument s (String.ofList (c :: rest)))

/-- The options that an option without a value stands for. -/
def plainOptions (s : Setting) (spelling : String) (attached : Option String) :
    Except UsageFault (List Setting) :=
  match attached with
  | none => .ok [s]
  | some text =>
    if text = "" || Text.startsWith "--" spelling then .error (.ignoredArgument s text)
    else shortOptions s text.toList

/-- Takes the words in their order; `extras` are those that nothing takes, the
latest first. -/
def takeWords (draft : Draft) (extras : List String) :
    List Word → Except Stop (Draft × List String)
  | [] => .ok (draft, extras.reverse)
  | .value s :: rest => takeWords draft (s :: extras) rest
  | .unknown s :: rest => takeWords draft (s :: extras) rest
  | .separator :: rest => takeWords draft ("--" :: extras) rest
  | .option s spelling attached :: rest =>
    if s.takesValue then
      match attached, rest with
      | some "--", _ => .error .lostValue
      | some v, rest => do takeWords (← draft.set s v) extras rest
      | none, .value v :: rest => do takeWords (← draft.set s v) extras rest
      | none, _ => .error (.usage (.expectedArgument s))
    else do
      let settings ← (plainOptions s spelling attached).mapError .usage
      let draft ← settings.foldlM (fun draft s => draft.set s "") draft
      takeWords draft extras rest

/-- Options, and whether to say everything that happens. -/
structure Arguments where
  options : Options
  verbose : Bool

def Draft.finish (draft : Draft) (extras : List String) : Except Stop Arguments :=
  match draft.descriptors, draft.pages, draft.sidebar with
  | some descriptors, some pages, some sidebar =>
    if extras.isEmpty then
      .ok ⟨{
        descriptors, pages, sidebar
        routeBase := draft.routeBase
        template := draft.template
        extension := draft.extension
        sidebarName := draft.sidebarName
        idPrefix := draft.idPrefix
        workers := draft.workers }, draft.verbose⟩
    else .error (.usage (.unrecognized extras))
  | descriptors, pages, sidebar =>
    let required : List (Setting × Option String) :=
      [(.descriptors, descriptors), (.pages, pages), (.sidebar, sidebar)]
    .error (.usage
      (.missing (required.filterMap fun (s, v) => if v.isNone then some s else none)))

def Arguments.read (words : List String) : Except Stop Arguments := do
  let words ← (classifyAll words).mapError .usage
  let (draft, extras) ← takeWords {} [] words
  draft.finish extras

end SchemaDocs.Command
