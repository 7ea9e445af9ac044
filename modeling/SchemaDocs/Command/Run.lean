import SchemaDocs.Command.Arguments
import SchemaDocs.Command.Help
import SchemaDocs.Descriptor.Decode
import SchemaDocs.Descriptor.Records
import SchemaDocs.Journal
import SchemaDocs.Json.Reader

/-!
# Running the program

A run reads its arguments, checks its options, reads the descriptors and the
template, generates the documentation, and only then writes: every page with the
folders it needs, and the sidebar at last. What it reports is spoken of on two
channels, and it ends in one of several ways. A run that is refused has written
nothing. Some failures are not foreseen and break the run off: a disk that will
not take a file, a template that is not text or that fails by no rule for
templates, descriptors that refer to what they do not hold.
-/

namespace SchemaDocs.Command

/-- What breaks a run off. -/
inductive Breakdown
  | files (fault : FileFault)
  | templateText (fault : Text.Utf8.Fault)
  | records (e : Descriptor.RecordError)
  | template (kind message : String)
  | lostValue

def Breakdown.message : Breakdown → String
  | .files fault => fault.message
  | .templateText fault => fault.message
  | .records e => e.message
  | .template _ message => message
  | .lostValue => "not enough values to unpack (expected 1, got 0)"

/-! ## Reading -/

inductive ReadFault
  | refused (message : String)
  | broken (b : Breakdown)

def readJson (path : String) (octets : List UInt8) : Except ReadFault Value :=
  let refuse (text : String) : ReadFault :=
    .refused (path ++ ": not a valid JSON descriptor set: " ++ text)
  match Text.Utf8.decode octets with
  | .error fault => .error (refuse fault.message)
  | .ok document => (Json.parse document).mapError refuse

def readBinary (path : String) (octets : List UInt8) : Except ReadFault Value :=
  match Descriptor.FileSet.decode octets with
  | .error fault =>
    .error (.refused (path ++ ": not a valid FileDescriptorSet: " ++ fault.message))
  | .ok set => set.records.mapError fun e => .broken (.records e)

/-- The records in a file of descriptors. Its name tells which of the two forms it has. -/
def readDescriptors (path : String) (octets : List UInt8) : Except ReadFault Value :=
  if Text.endsWith ".json" path then readJson path octets else readBinary path octets

/-! ## Writing -/

/-- A file to be written, below a folder that has to be there first. No folder
is made for a file beside one. -/
structure Output where
  path : String
  text : String
deriving DecidableEq, Repr

def pageOutputs (options : Options) (g : Generation) : List Output :=
  g.documents.map fun d => ⟨options.pagePath d.fileName, d.text⟩

def sidebarText (options : Options) (g : Generation) : String :=
  sidebarModule options.sidebarName
    (sidebarItems options.idPrefix Document.fileName g.navigation)

/-- Everything that a run writes, in its order. -/
def outputs (options : Options) (g : Generation) : List Output :=
  pageOutputs options g ++ [⟨options.sidebar, sidebarText options g⟩]

def writeOutput (disk : Disk) (o : Output) : Disk × Option FileFault :=
  let folder := Path.folder o.path
  match if folder = "" then (disk, none) else disk.makeFolders folder with
  | (disk, some fault) => (disk, some fault)
  | (disk, none) =>
    match disk.write o.path (Text.Utf8.encode o.text) with
    | .ok disk => (disk, none)
    | .error fault => (disk, some fault)

/-- Writes one file after the other until one cannot be written. -/
def writeOutputs (disk : Disk) : List Output → Disk × Option FileFault
  | [] => (disk, none)
  | o :: rest =>
    match writeOutput disk o with
    | (disk, none) => writeOutputs disk rest
    | (disk, some fault) => (disk, some fault)

/-! ## Reporting -/

inductive Ending
  | finished
  | helped
  | refused (message : String)
  | misused (fault : UsageFault)
  | broken (b : Breakdown)

/-- The exit code, unless the run broke off. -/
def Ending.exitCode? : Ending → Option Nat
  | .finished => some 0
  | .helped => some 0
  | .refused _ => some 1
  | .misused _ => some 2
  | .broken _ => none

/-- What a run leaves: the disk, what it printed, what was noted for it, and how
it ended. -/
structure Report where
  disk : Disk
  printed : List String := []
  events : List Event := []
  ending : Ending

def Report.output (r : Report) : String :=
  match r.ending with
  | .helped => helpText
  | _ => Text.lines r.printed

/-- What stands on the error channel: the events, and why the run was refused. -/
def Report.errors (r : Report) : String :=
  Text.lines (r.events.map Event.line) ++
    match r.ending with
    | .refused message => Text.lines ["FATAL: " ++ message]
    | .misused fault => usageText ++ Text.lines ["protoc-docs: error: " ++ fault.message]
    | _ => ""

/-- The events that are shown: all of them on request, otherwise warnings only. -/
def shownEvents (verbose : Bool) (events : List Event) : List Event :=
  if verbose then events else events.filter (·.severity == .warning)

def warningLines (g : Generation) : List String :=
  g.warnings.map fun name => "  Warning: unresolved type '" ++ name ++ "'"

def writtenLines (options : Options) (g : Generation) : List String :=
  (pageOutputs options g).map (fun o => "  Generated page: " ++ o.path) ++
    ["  Generated sidebar: " ++ options.sidebar, "Done!"]

/-! ## Running -/

def readEvent (options : Options) : Event :=
  ⟨.debug, part "main", "Read descriptors from " ++ options.descriptors⟩

/-- How a run ends whose generation failed. -/
def endingOf (e : GenerateError) : Ending :=
  match e.foreignKind? with
  | some kind => .broken (.template kind e.message)
  | none => .refused e.message

/-- Writes what was generated. The names of the pages are printed once
everything is written. -/
def publish (disk : Disk) (options : Options) (events : List Event) (g : Generation) :
    Report :=
  match writeOutputs disk (outputs options g) with
  | (disk, none) => ⟨disk, warningLines g ++ writtenLines options g, events, .finished⟩
  | (disk, some fault) => ⟨disk, warningLines g, events, .broken (.files fault)⟩

/-- Generates from records and the text of a template: what was noted, and how
the run ends if there is nothing to publish. -/
def produce (options : Options) (verbose : Bool) (raw : Value)
    (template : Option String) :
    List Event × Except Ending Generation :=
  let base := Value.text options.routeBase
  (shownEvents verbose
    (readEvent options :: journal raw base template options.isConcurrent),
    (generate raw base template).mapError endingOf)

/-- The text of the template, if there is one. -/
def readTemplate (disk : Disk) (options : Options) : Except Breakdown (Option String) :=
  match options.templatePath? with
  | none => .ok none
  | some path =>
    match disk.read path with
    | .error fault => .error (.files fault)
    | .ok octets => ((Text.Utf8.decode octets).map some).mapError .templateText

/-- Runs with options that have been checked. -/
def perform (disk : Disk) (options : Options) (verbose : Bool) : Report :=
  match disk.read options.descriptors with
  | .error fault => { disk, ending := .broken (.files fault) }
  | .ok octets =>
    match readDescriptors options.descriptors octets with
    | .error (.refused message) => { disk, ending := .refused message }
    | .error (.broken b) => { disk, ending := .broken b }
    | .ok raw =>
      match readTemplate disk options with
      | .error b =>
        { disk, events := shownEvents verbose [readEvent options], ending := .broken b }
      | .ok template =>
        match produce options verbose raw template with
        | (events, .ok g) => publish disk options events g
        | (events, .error ending) => { disk, events, ending }

/-- How a run ends that got no options. -/
def Stop.ending : Stop → Ending
  | .usage fault => .misused fault
  | .help => .helped
  | .lostValue => .broken .lostValue

def run (disk : Disk) (words : List String) : Report :=
  match Arguments.read words with
  | .error stop => { disk, ending := stop.ending }
  | .ok arguments =>
    match arguments.options.check disk.isFile disk.isFolder disk.holds with
    | .error fault => { disk, ending := .refused fault.message }
    | .ok () => perform disk arguments.options arguments.verbose

end SchemaDocs.Command
