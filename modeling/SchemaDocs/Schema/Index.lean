import SchemaDocs.Schema.Walk

/-!
# The index of names

Every message, enum and service of a schema has a fully-qualified name, and no
two of them may share one, whatever their kinds and files. The index lists all
declarations: file by file, each message before its own enums and those before
the messages nested in it, then the enums of the file and its services. Building
it stops at the first declaration whose name is taken.
-/

namespace SchemaDocs

inductive Entity
  | message (m : Message)
  | enum (e : EnumDef)
  | service (s : Service)

namespace Entity

def kind : Entity → EntityKind
  | .message _ => .message
  | .enum _ => .enum
  | .service _ => .service

def name : Entity → String
  | .message m => m.name
  | .enum e => e.name
  | .service s => s.name

def fullName : Entity → String
  | .message m => m.fullName
  | .enum e => e.fullName
  | .service s => s.fullName

end Entity

/-- A declaration and the path of the file that makes it. -/
structure Declaration where
  entity : Entity
  file : String

def Declaration.fullName (d : Declaration) : String := d.entity.fullName

def Declaration.kind (d : Declaration) : EntityKind := d.entity.kind

/-- A message and its own enums. -/
def Message.declared (m : Message) : List Entity := .message m :: m.enums.map .enum

def File.entities (f : File) : List Entity :=
  f.allMessages.flatMap Message.declared ++ f.enums.map .enum ++ f.services.map .service

def File.declarations (f : File) : List Declaration := f.entities.map fun e => ⟨e, f.path⟩

/-- Declarations in the order they were made; no two have one name. -/
abbrev Index := List Declaration

def Index.find? (index : Index) (fullName : String) : Option Declaration :=
  List.find? (·.fullName == fullName) index

structure Collision where
  first : Declaration
  second : Declaration

def Collision.message (c : Collision) : String :=
  "Duplicate fully-qualified name '" ++ c.second.fullName ++ "': " ++
    c.first.kind.text ++ " in '" ++ c.first.file ++ "' and " ++
    c.second.kind.text ++ " in '" ++ c.second.file ++ "'"

/-- Adds declarations after the ones that are there. -/
def Index.extend (index : Index) : List Declaration → Except Collision Index
  | [] => .ok index
  | d :: rest =>
    match index.find? d.fullName with
    | some first => .error ⟨first, d⟩
    | none => Index.extend (index ++ [d]) rest

def declarations (files : List File) : List Declaration := files.flatMap File.declarations

def Index.build (files : List File) : Except Collision Index :=
  Index.extend [] (declarations files)

end SchemaDocs
