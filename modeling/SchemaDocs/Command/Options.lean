import SchemaDocs.Files.Disk
import SchemaDocs.Site.Sidebar

/-!
# Options

What a run reads and writes, and how. The options are checked against the disk
before anything is read: the descriptors have to be there, pages cannot go where
a file is, and a template that is named has to be there too. The first option
that is wrong is reported.
-/

namespace SchemaDocs.Command

structure Options where
  descriptors : String
  pages : String
  sidebar : String
  routeBase : String := ""
  template : Option String := none
  extension : String := ".mdx"
  sidebarName : String := defaultSidebarName
  idPrefix : String := ""
  workers : Int := 1
deriving DecidableEq, Repr

inductive OptionFault
  | noDescriptors
  | pagesNotFolder
  | noSidebar
  | noTemplate (path : String)
  | badExtension (given : String)
  | tooFewWorkers (given : Int)
deriving DecidableEq, Repr

def OptionFault.message : OptionFault → String
  | .noDescriptors => "Expected file_descriptors_path option to reference a present file."
  | .pagesNotFolder => "Expected proto_docs_path option to reference a directory."
  | .noSidebar => "Expected sidebar_path option to reference a file."
  | .noTemplate path =>
    "Could not find the template file \"" ++ path ++
      "\" referenced in option template_path."
  | .badExtension given =>
    "Expected doc_extension to start with '.', got " ++ Text.quoted given
  | .tooFewWorkers given => "Expected workers to be at least 1, got " ++ toString given

/-- The template to use. An empty path stands for none. -/
def Options.templatePath? (options : Options) : Option String :=
  options.template.filter (· != "")

/-- Is more than one page to be laid out at a time? -/
def Options.isConcurrent (options : Options) : Bool := options.workers > 1

/-- The path of the page of a name. -/
def Options.pagePath (options : Options) (fileName : String) : String :=
  Path.join options.pages (fileName ++ options.extension)

/-- Checks options. The disk is seen through three questions about paths:
whether there is a file, whether there is a folder, and whether there is
anything. -/
def Options.check (options : Options) (isFile isFolder holds : String → Bool) :
    Except OptionFault Unit := do
  if options.descriptors = "" || !isFile options.descriptors then throw .noDescriptors
  if options.pages = "" || (holds options.pages && !isFolder options.pages) then
    throw .pagesNotFolder
  if options.sidebar = "" then throw .noSidebar
  if let some path := options.templatePath? then
    unless isFile path do throw (.noTemplate path)
  unless Text.startsWith "." options.extension do throw (.badExtension options.extension)
  if options.workers < 1 then throw (.tooFewWorkers options.workers)

end SchemaDocs.Command
