import SchemaDocs.Descriptor.Basic

/-!
# From descriptors to records

A descriptor set is turned into the records that schemas are loaded from.
Synthetic entry messages go away: a field whose type is the entry of a map in
its own message becomes a map field with the types of the entry's first two
fields. A declaration gets as its description the comment before it, or the one
behind it, found under the path of field numbers and indices that leads from the
file to it. Indices count every message of the descriptor, the ones that go away
too.
-/

namespace SchemaDocs.Descriptor

inductive RecordError
  /-- A map entry with fewer than two fields, or a group number that no group has. -/
  | indexOutOfRange
  /-- A package that is not text has no absolute name. -/
  | packageNotText
deriving DecidableEq, Repr

def RecordError.message : RecordError → String
  | .indexOutOfRange => "list index out of range"
  | .packageNotText => "can only concatenate str (not \"bytes\") to str"

/-- The comment of a location, trimmed, if it has one. -/
def Location.comment? (l : Location) : Option Str :=
  if !l.leading.isEmpty then some l.leading.trim
  else if !l.trailing.isEmpty then some l.trailing.trim
  else none

/-- Comments by path. -/
abbrev Comments := List (List Int × Str)

def FileProto.comments (f : FileProto) : Comments :=
  f.locations.filterMap fun l => l.comment?.map fun text => (l.path, text)

/-- The last comment of a path, or nothing. -/
def Comments.describe (comments : Comments) (path : List Int) : Value :=
  match (comments.filter (·.1 == path)).getLast? with
  | some (_, text) => text.toValue
  | none => .text ""

/-- A type as a record names it. -/
def FieldProto.typeValue (f : FieldProto) : Value :=
  if f.type.isNamed then f.typeName.toValue else .text f.type.name

/-- The entry messages of a message by their absolute names; of two with one
name the later counts. -/
def MessageProto.mapEntry? (m : MessageProto) (fullName : String) (typeName : Str) :
    Option MessageProto :=
  match typeName with
  | .text s =>
    (m.nested.filter fun n =>
      n.mapEntry && fullName ++ "." ++ n.name.display == s).getLast?
  | .octets _ => none

/-- Counts from the end when the index is negative. -/
def atIndex? (items : List α) (i : Int) : Option α :=
  if i < 0 then
    if -i ≤ items.length then items[(items.length + i).toNat]? else none
  else items[i.toNat]?

def orOutOfRange : Option α → Except RecordError α
  | some a => .ok a
  | none => .error .indexOutOfRange

def FieldProto.record (f : FieldProto) (m : MessageProto) (fullName : String)
    (description : Value) :
    Except RecordError Value := do
  let common : List (String × Value) :=
    [("name", f.name.toValue), ("number", .int f.number)]
  let described : List (String × Value) :=
    [("label", .text f.label.name), ("description", description)]
  let typed : List (String × Value) ← match m.mapEntry? fullName f.typeName with
    | none => pure (("type", f.typeValue) :: described)
    | some entry => do
      let key ← orOutOfRange entry.fields[0]?
      let value ← orOutOfRange entry.fields[1]?
      pure (("type", .text "map") :: described ++
        [("key_type", key.typeValue), ("value_type", value.typeValue)])
  let group : List (String × Value) ← match f.oneofIndex with
    | some i =>
      if f.proto3Optional then pure []
      else do
        let name ← orOutOfRange (atIndex? m.oneofs i)
        pure [("oneof", name.toValue)]
    | none => pure []
  let preset : List (String × Value) := match f.defaultValue with
    | some s => [("default_value", s.toValue)]
    | none => []
  return .object (common ++ typed ++ group ++ preset)

/-- Each item with its index. -/
def indexed (items : List α) : List (α × Int) :=
  items.zipIdx.map fun (a, i) => (a, (i : Int))

def EnumProto.record (comments : Comments) (path : List Int) (e : EnumProto) : Value :=
  .object [
    ("name", e.name.toValue),
    ("description", comments.describe path),
    ("values", .list ((indexed e.values).map fun (v, i) => .object [
      ("name", v.name.toValue),
      ("number", .int v.number),
      ("description", comments.describe (path ++ [2, i]))]))]

mutual

def MessageProto.record (comments : Comments) (fullName : String) (path : List Int) :
    MessageProto → Except RecordError Value
  | ⟨name, fields, nested, enums, oneofs, mapEntry⟩ => do
    let message : MessageProto := ⟨name, fields, nested, enums, oneofs, mapEntry⟩
    let fields ← (indexed fields).mapM fun (f, i) =>
      f.record message fullName (comments.describe (path ++ [2, i]))
    let messages ← nestedRecords comments fullName path 0 nested
    let enums := (indexed enums).map fun (e, i) => e.record comments (path ++ [4, i])
    return .object [
      ("name", name.toValue),
      ("description", comments.describe path),
      ("fields", .list fields),
      ("messages", .list messages),
      ("enums", .list enums)]

/-- The records of nested messages from an index on, without the entries of maps. -/
def nestedRecords (comments : Comments) (fullName : String) (path : List Int)
    (index : Int) :
    List MessageProto → Except RecordError (List Value)
  | [] => .ok []
  | m :: rest => do
    if m.mapEntry then nestedRecords comments fullName path (index + 1) rest
    else
      let first ← m.record comments (fullName ++ "." ++ m.name.display)
        (path ++ [3, index])
      return first :: (← nestedRecords comments fullName path (index + 1) rest)

end

def ServiceProto.record (comments : Comments) (path : List Int) (s : ServiceProto) :
    Value :=
  .object [
    ("name", s.name.toValue),
    ("description", comments.describe path),
    ("methods", .list ((indexed s.methods).map fun (m, i) => .object [
      ("name", m.name.toValue),
      ("request_type", m.inputType.toValue),
      ("response_type", m.outputType.toValue),
      ("client_streaming", .bool m.clientStreaming),
      ("server_streaming", .bool m.serverStreaming),
      ("description", comments.describe (path ++ [2, i]))]))]

/-- The package as the scope of absolute names. -/
def FileProto.scope (f : FileProto) : Except RecordError String :=
  if f.package.isEmpty then .ok ""
  else match f.package with
    | .text s => .ok ("." ++ s)
    | .octets _ => .error .packageNotText

def FileProto.record (f : FileProto) : Except RecordError Value := do
  let comments := f.comments
  let scope ← f.scope
  let messages ← (indexed f.messages).mapM fun (m, i) =>
    m.record comments (scope ++ "." ++ m.name.display) [4, i]
  return .object [
    ("path", f.name.toValue),
    ("package", f.package.toValue),
    ("dependencies", .list (f.dependencies.map Str.toValue)),
    ("messages", .list messages),
    ("enums", .list ((indexed f.enums).map fun (e, i) => e.record comments [5, i])),
    ("services", .list ((indexed f.services).map fun (s, i) => s.record comments [6, i]))]

/-- The set as records. -/
def FileSet.records (s : FileSet) : Except RecordError Value := do
  return .object [("files", .list (← s.files.mapM FileProto.record))]

end SchemaDocs.Descriptor
