import SchemaDocs.Schema.Scope

/-!
# Resolving references

Resolution fills every slot of a schema with what the name beside it means. It
goes over the files in order, over each file's messages in pre-order, and then
over its methods. The key of a map must not turn out to be a message or an enum;
that ends the resolution.

Along the way it notes two things. A name that means nothing is noted once, with
the first place that uses it. A reference into a file that the using file does
not list among its dependencies is noted each time. What was noted stays on
record when the resolution ends early.
-/

namespace SchemaDocs

/-- The first use of a name that means nothing. -/
structure UnresolvedReference where
  name : String
  file : String
  referrer : String
deriving DecidableEq, Repr

/-- A reference to a declaration of a file that is not a declared dependency. -/
structure UndeclaredUse where
  file : String
  referrer : String
  entity : String
  declaredIn : String
deriving DecidableEq, Repr

structure Diagnostics where
  unresolved : List UnresolvedReference := []
  undeclared : List UndeclaredUse := []
deriving DecidableEq, Repr

/-- A map whose keys are not scalars. -/
structure KeyFault where
  file : String
  referrer : String
  keyType : String
  entity : String
  kind : EntityKind
deriving DecidableEq, Repr

def KeyFault.message (f : KeyFault) : String :=
  f.file ++ ": map field '" ++ f.referrer ++ "' has key type '" ++
    f.keyType ++ "' which resolves to " ++ f.kind.text ++ " '" ++
    f.entity ++ "'; map keys must be scalar"

def Diagnostics.noteUnresolved (d : Diagnostics) (u : UnresolvedReference) :
    Diagnostics :=
  if d.unresolved.any (·.name == u.name) then d
  else { d with unresolved := d.unresolved ++ [u] }

def Diagnostics.noteUndeclared (d : Diagnostics) (u : UndeclaredUse) : Diagnostics :=
  { d with undeclared := d.undeclared ++ [u] }

abbrev Resolver := EStateM KeyFault Diagnostics

/-- What a name in a scope refers to, independent of who asks. -/
def Index.reference (index : Index) (scope name : String) : TypeRef :=
  if isPrimitive name then .primitive name
  else match index.lookup? scope name with
    | some d => .resolved d.fullName d.file d.kind
    | none => .unresolved name

/-- Notes what is remarkable about a reference made from a file. -/
def Diagnostics.note (d : Diagnostics) (file : File) (referrer : String) :
    TypeRef → Diagnostics
  | .primitive _ => d
  | .unresolved name => d.noteUnresolved ⟨name, file.path, referrer⟩
  | .resolved entity path _ =>
    if path = file.path ∨ path ∈ file.dependencies then d
    else d.noteUndeclared ⟨file.path, referrer, entity, path⟩

def resolveName (index : Index) (file : File) (scope referrer name : String) :
    Resolver TypeRef := do
  let ref := index.reference scope name
  modify (·.note file referrer ref)
  return ref

/-- The key is looked up before the value, and refused before the value is looked at. -/
def resolveMap (index : Index) (file : File) (scope referrer : String) (m : MapType) :
    Resolver MapType := do
  let key ← resolveName index file scope referrer m.keyType
  if let .resolved entity _ kind := key then
    throw ⟨file.path, referrer, m.keyType, entity, kind⟩
  let value ← resolveName index file scope referrer m.valueType
  return { m with keyRef := some key, valueRef := some value }

def resolveField (index : Index) (file : File) (scope : String) (f : Field) :
    Resolver Field := do
  let referrer := scope ++ "." ++ f.name
  match f.map with
  | none =>
    return { f with typeRef := some (← resolveName index file scope referrer f.typeName) }
  | some m =>
    let m ← resolveMap index file scope referrer m
    return { f with map := some m, typeRef := m.valueRef }

mutual

def resolveMessage (index : Index) (file : File) : Message → Resolver Message
  | ⟨name, fullName, fields, messages, enums, description, filePath⟩ => do
    let fields ← fields.mapM (resolveField index file fullName)
    let messages ← resolveMessages index file messages
    return ⟨name, fullName, fields, messages, enums, description, filePath⟩

def resolveMessages (index : Index) (file : File) : List Message → Resolver (List Message)
  | [] => return []
  | m :: rest => do
    let m ← resolveMessage index file m
    return m :: (← resolveMessages index file rest)

end

/-- The names of a method stand in the scope of the package. -/
def resolveMethod (index : Index) (file : File) (service : String) (m : Method) :
    Resolver Method := do
  let referrer := service ++ "." ++ m.name
  let request ← resolveName index file file.package referrer m.requestType
  let response ← resolveName index file file.package referrer m.responseType
  return { m with requestRef := some request, responseRef := some response }

def resolveService (index : Index) (file : File) (s : Service) : Resolver Service := do
  return { s with methods := ← s.methods.mapM (resolveMethod index file s.fullName) }

def resolveFile (index : Index) (file : File) : Resolver File := do
  let messages ← resolveMessages index file file.messages
  let services ← file.services.mapM (resolveService index file)
  return { file with messages, services }

inductive ResolveError
  | collision (c : Collision)
  | keyType (f : KeyFault)

def ResolveError.message : ResolveError → String
  | .collision c => c.message
  | .keyType f => f.message

structure Resolution where
  files : List File
  index : Index
  unresolved : List UnresolvedReference

/-- How a resolution went: the index if there is one, what was noted, and the
resolved files. -/
structure ResolutionRun where
  index : Option Index
  diagnostics : Diagnostics
  result : Except ResolveError Resolution

def resolveAll (files : List File) : ResolutionRun :=
  match Index.build files with
  | .error c => ⟨none, {}, .error (.collision c)⟩
  | .ok index =>
    match (files.mapM (resolveFile index)).run {} with
    | .ok files d => ⟨some index, d, .ok ⟨files, index, d.unresolved⟩⟩
    | .error f d => ⟨some index, d, .error (.keyType f)⟩

def resolve (files : List File) : Except ResolveError Resolution :=
  (resolveAll files).result

end SchemaDocs
