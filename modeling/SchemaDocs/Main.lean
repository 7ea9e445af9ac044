import SchemaDocs.Command.Run

/-!
# The program

Runs on the real disk: it asks the questions that the options need, reads the
two files, and writes what there is to publish. Everything else is decided
elsewhere.
-/

namespace SchemaDocs.Command

def succeeds (action : IO Unit) : IO Bool := do
  try
    action
    return true
  catch _ => return false

def tryOpen (path : String) : IO Unit := do
  let _ ← IO.FS.Handle.mk path .read

/-- A folder has an entry for itself. -/
def folderThere (path : String) : IO Bool := succeeds (tryOpen (path ++ "/."))

def anythingThere (path : String) : IO Bool := succeeds (tryOpen path)

def fileThere (path : String) : IO Bool := do
  return (← anythingThere path) && !(← folderThere path)

/-- The answers to a question about some paths. -/
def answers (question : String → IO Bool) (paths : List String) : IO (String → Bool) := do
  let table ← paths.mapM fun path => return (path, ← question path)
  return fun path => (table.lookup path).getD false

def writeHere (o : Output) : IO Unit := do
  let folder := Path.folder o.path
  unless folder = "" do IO.FS.createDirAll folder
  IO.FS.writeFile (Path.plain o.path) o.text

/-- Says what a report has to say, and gives the exit code. -/
def announce (r : Report) : IO UInt32 := do
  IO.print r.output
  IO.eprint r.errors
  match r.ending with
  | .broken b =>
    IO.eprintln b.message
    return 1
  | ending => return UInt32.ofNat (ending.exitCode?.getD 1)

def nowhere : Disk := ⟨[], []⟩

def publishHere (options : Options) (events : List Event) (g : Generation) :
    IO UInt32 := do
  (outputs options g).forM writeHere
  announce ⟨nowhere, warningLines g ++ writtenLines options g, events, .finished⟩

def performHere (options : Options) (verbose : Bool) : IO UInt32 := do
  let octets ← IO.FS.readBinFile options.descriptors
  match readDescriptors options.descriptors octets.toList with
  | .error (.refused message) => announce { disk := nowhere, ending := .refused message }
  | .error (.broken b) => announce { disk := nowhere, ending := .broken b }
  | .ok raw =>
    let template ← match options.templatePath? with
      | none => pure none
      | some path => some <$> IO.FS.readFile path
    match produce options verbose raw template with
    | (events, .ok g) => publishHere options events g
    | (events, .error ending) => announce { disk := nowhere, events, ending }

def runHere (words : List String) : IO UInt32 := do
  match Arguments.read words with
  | .error stop => announce { disk := nowhere, ending := stop.ending }
  | .ok arguments =>
    let options := arguments.options
    let isFile ← answers fileThere (options.descriptors :: options.templatePath?.toList)
    let isFolder ← answers folderThere [options.pages]
    let holds ← answers anythingThere [options.pages]
    match options.check isFile isFolder holds with
    | .error fault => announce { disk := nowhere, ending := .refused fault.message }
    | .ok () => performHere options arguments.verbose

end SchemaDocs.Command

def main (words : List String) : IO UInt32 := SchemaDocs.Command.runHere words
