import SchemaDocs.Descriptor.Records
import SchemaDocs.Schema.Basic

/-!
# What descriptors say

A descriptor set describes files in its own way. Names are absolute, map fields
are fields of entry messages, and comments stand apart. This is what it says,
read off without records: every declaration of a file in its place, the entries
of maps gone from where they are nested, and the fields of these entries as
maps.

It is said of descriptor sets as a schema compiler writes them. `WellWritten`
says what is taken for granted of these, and no more than is needed: strings
are text, names are not empty, and a name of a type that is not a scalar has a
dot in front and no white space. An entry has two fields, the first of a scalar
type, and a field in a group names a group that is there. No full name is used
twice, the entries of maps counted in.
-/

namespace SchemaDocs.Descriptor

/-! ## Reading -/

/-- What the comments say of a path. -/
def Comments.say (comments : Comments) (path : List Int) : String :=
  (comments.describe path).display

def FieldLabel.toLabel : FieldLabel → Label
  | .optional => .optional
  | .required => .required
  | .repeated => .repeated

/-- The type of a field, by a scalar name or an absolute one. -/
def FieldProto.typeText (p : FieldProto) : String :=
  if p.type.isNamed then p.typeName.display else p.type.name

/-- The types of a map, from the fields of its entries. -/
def MessageProto.toMapType? (entry : MessageProto) : Option MapType :=
  match entry.fields with
  | key :: value :: _ => some { keyType := key.typeText, valueType := value.typeText }
  | _ => none

/-- The map entry nested in a message that a type name means. -/
def MessageProto.entryOf? (m : MessageProto) (fullName : String) (typeName : Str) :
    Option MessageProto :=
  m.nested.find? fun n =>
    n.mapEntry && ("." ++ qualify fullName n.name.display == typeName.display)

/-- The map that a field stands for, if its type is an entry of its message. -/
def FieldProto.map? (p : FieldProto) (m : MessageProto) (fullName : String) :
    Option MapType :=
  (m.entryOf? fullName p.typeName).bind MessageProto.toMapType?

/-- The group of a field. A field that is optional in its own right has none. -/
def FieldProto.group? (p : FieldProto) (m : MessageProto) : Option Str :=
  if p.proto3Optional then none else p.oneofIndex.bind fun i => m.oneofs[i.toNat]?

/-- The default of a field, if it has one that is not empty. -/
def FieldProto.preset? (p : FieldProto) : Option String :=
  (p.defaultValue.map Str.display).filter (· != "")

def FieldProto.toField (p : FieldProto) (m : MessageProto)
    (fullName description : String) :
    Field :=
  let map := p.map? m fullName
  { name := p.name.display
    typeName := if map.isSome then "map" else p.typeText
    number := some p.number
    label := if map.isSome then .repeated else p.label.toLabel
    map
    oneof := (p.group? m).map Str.toValue
    defaultValue := p.preset?
    description }

def EnumProto.toEnum (comments : Comments) (file scope : String) (path : List Int)
    (p : EnumProto) : EnumDef where
  name := p.name.display
  fullName := qualify scope p.name.display
  values := (indexed p.values).map fun (v, i) =>
    { name := v.name.display, number := v.number,
      description := comments.say (path ++ [2, i]) }
  description := comments.say path
  filePath := file

mutual

def MessageProto.toMessage (comments : Comments) (file scope : String) (path : List Int) :
    MessageProto → Message
  | ⟨name, fields, nested, enums, oneofs, mapEntry⟩ =>
    let m : MessageProto := ⟨name, fields, nested, enums, oneofs, mapEntry⟩
    let fullName := qualify scope name.display
    { name := name.display
      fullName
      fields := (indexed fields).map fun (p, i) =>
        p.toField m fullName (comments.say (path ++ [2, i]))
      messages := toMessages comments file fullName path 0 nested
      enums := (indexed enums).map fun (e, i) =>
        e.toEnum comments file fullName (path ++ [4, i])
      description := comments.say path
      filePath := file }

/-- The messages nested in a message, without the entries of maps. -/
def toMessages (comments : Comments) (file scope : String) (path : List Int)
    (index : Int) :
    List MessageProto → List Message
  | [] => []
  | m :: rest =>
    if m.mapEntry then toMessages comments file scope path (index + 1) rest
    else m.toMessage comments file scope (path ++ [3, index]) ::
      toMessages comments file scope path (index + 1) rest

end

def ServiceProto.toService (comments : Comments) (file scope : String) (path : List Int)
    (p : ServiceProto) : Service where
  name := p.name.display
  fullName := qualify scope p.name.display
  methods := (indexed p.methods).map fun (x, i) =>
    { name := x.name.display
      requestType := x.inputType.display
      responseType := x.outputType.display
      clientStreaming := x.clientStreaming
      serverStreaming := x.serverStreaming
      description := comments.say (path ++ [2, i]) }
  description := comments.say path
  filePath := file

def FileProto.toFile (p : FileProto) : File where
  path := p.name.display
  package := p.package.display
  dependencies := p.dependencies.map Str.display
  messages := (indexed p.messages).map fun (m, i) =>
    m.toMessage p.comments p.name.display p.package.display [4, i]
  enums := (indexed p.enums).map fun (e, i) =>
    e.toEnum p.comments p.name.display p.package.display [5, i]
  services := (indexed p.services).map fun (s, i) =>
    s.toService p.comments p.name.display p.package.display [6, i]

def FileSet.toFiles (s : FileSet) : List File := s.files.map FileProto.toFile

/-! ## Full names -/

mutual

/-- A message and all messages inside it, the entries of maps too. -/
def MessageProto.preorder : MessageProto → List MessageProto
  | m@⟨_, _, nested, _, _, _⟩ => m :: preorderProtos nested

def preorderProtos : List MessageProto → List MessageProto
  | [] => []
  | m :: rest => m.preorder ++ preorderProtos rest

end

mutual

/-- The full names of a message and of everything inside it. -/
def MessageProto.fullNames (scope : String) : MessageProto → List String
  | ⟨name, _, nested, enums, _, _⟩ =>
    let fullName := qualify scope name.display
    fullName :: enums.map (qualify fullName ·.name.display) ++ fullNamesOf fullName nested

def fullNamesOf (scope : String) : List MessageProto → List String
  | [] => []
  | m :: rest => m.fullNames scope ++ fullNamesOf scope rest

end

def FileProto.fullNames (p : FileProto) : List String :=
  fullNamesOf p.package.display p.messages ++
    p.enums.map (qualify p.package.display ·.name.display) ++
    p.services.map (qualify p.package.display ·.name.display)

def FileSet.fullNames (s : FileSet) : List String := s.files.flatMap FileProto.fullNames

/-! ## Descriptors as they are written -/

def Str.IsText (s : Str) : Prop := s = .text s.display

def Str.IsName (s : Str) : Prop := s.IsText ∧ s.display ≠ ""

/-- An absolute name of a type. -/
def Str.IsAbsolute (s : Str) : Prop :=
  s.IsText ∧ s.display.toList.head? = some '.' ∧
    ∀ c ∈ s.display.toList, Text.isBlank c = false

/-- Fields for the keys of a map and for its values. -/
def MessageProto.IsEntry (m : MessageProto) : Prop :=
  2 ≤ m.fields.length ∧ ∀ key ∈ m.fields.head?, key.type.isNamed = false

structure FieldProto.WellWritten (m : MessageProto) (p : FieldProto) : Prop where
  name : p.name.IsName
  text : p.typeName.IsText
  absolute : p.type.isNamed → p.typeName.IsAbsolute
  group : ∀ i ∈ p.oneofIndex, 0 ≤ i ∧ i < m.oneofs.length
  preset : ∀ s ∈ p.defaultValue, s.IsText

structure EnumProto.WellWritten (p : EnumProto) : Prop where
  name : p.name.IsName
  values : ∀ v ∈ p.values, v.name.IsName

/-- What is demanded of a message, apart from the messages inside it. -/
structure MessageProto.WellWritten (m : MessageProto) : Prop where
  name : m.name.IsName
  fields : ∀ p ∈ m.fields, p.WellWritten m
  groups : ∀ s ∈ m.oneofs, s.IsName
  enums : ∀ e ∈ m.enums, e.WellWritten
  entries : ∀ n ∈ m.nested, n.mapEntry → n.IsEntry

structure MethodProto.WellWritten (p : MethodProto) : Prop where
  name : p.name.IsName
  input : p.inputType.IsAbsolute
  output : p.outputType.IsAbsolute

structure ServiceProto.WellWritten (p : ServiceProto) : Prop where
  name : p.name.IsName
  methods : ∀ x ∈ p.methods, x.WellWritten

structure FileProto.WellWritten (p : FileProto) : Prop where
  name : p.name.IsName
  package : p.package.IsText
  dependencies : ∀ d ∈ p.dependencies, d.IsText
  messages : ∀ m ∈ preorderProtos p.messages, m.WellWritten
  enums : ∀ e ∈ p.enums, e.WellWritten
  services : ∀ s ∈ p.services, s.WellWritten
  comments : ∀ l ∈ p.locations, l.leading.IsText ∧ l.trailing.IsText

structure FileSet.WellWritten (s : FileSet) : Prop where
  files : ∀ p ∈ s.files, p.WellWritten
  names : s.fullNames.Nodup

/-! Whether a descriptor set is well written can be computed. -/

instance (s : Str) : Decidable s.IsText :=
  inferInstanceAs (Decidable (s = .text s.display))

instance (s : Str) : Decidable s.IsName :=
  inferInstanceAs (Decidable (s.IsText ∧ s.display ≠ ""))

instance (s : Str) : Decidable s.IsAbsolute :=
  -- Named, for otherwise every character there is may be tried in turn.
  have : Decidable (∀ c ∈ s.display.toList, Text.isBlank c = false) :=
    List.decidableBAll _ _
  inferInstanceAs (Decidable (s.IsText ∧ s.display.toList.head? = some '.' ∧
    ∀ c ∈ s.display.toList, Text.isBlank c = false))

instance (m : MessageProto) : Decidable m.IsEntry :=
  inferInstanceAs (Decidable (2 ≤ m.fields.length ∧
    ∀ key ∈ m.fields.head?, key.type.isNamed = false))

instance (m : MessageProto) (p : FieldProto) : Decidable (p.WellWritten m) :=
  decidable_of_iff (p.name.IsName ∧ p.typeName.IsText ∧
      (p.type.isNamed → p.typeName.IsAbsolute) ∧
      (∀ i ∈ p.oneofIndex, 0 ≤ i ∧ i < m.oneofs.length) ∧ ∀ s ∈ p.defaultValue, s.IsText)
    ⟨fun ⟨name, text, absolute, group, preset⟩ => ⟨name, text, absolute, group, preset⟩,
      fun h => ⟨h.name, h.text, h.absolute, h.group, h.preset⟩⟩

instance (p : EnumProto) : Decidable p.WellWritten :=
  decidable_of_iff (p.name.IsName ∧ ∀ v ∈ p.values, v.name.IsName)
    ⟨fun ⟨name, values⟩ => ⟨name, values⟩, fun h => ⟨h.name, h.values⟩⟩

instance (m : MessageProto) : Decidable m.WellWritten :=
  decidable_of_iff (m.name.IsName ∧ (∀ p ∈ m.fields, p.WellWritten m) ∧
      (∀ s ∈ m.oneofs, s.IsName) ∧ (∀ e ∈ m.enums, e.WellWritten) ∧
      ∀ n ∈ m.nested, n.mapEntry → n.IsEntry)
    ⟨fun ⟨name, fields, groups, enums, entries⟩ => ⟨name, fields, groups, enums, entries⟩,
      fun h => ⟨h.name, h.fields, h.groups, h.enums, h.entries⟩⟩

instance (p : MethodProto) : Decidable p.WellWritten :=
  decidable_of_iff (p.name.IsName ∧ p.inputType.IsAbsolute ∧ p.outputType.IsAbsolute)
    ⟨fun ⟨name, input, output⟩ => ⟨name, input, output⟩,
      fun h => ⟨h.name, h.input, h.output⟩⟩

instance (p : ServiceProto) : Decidable p.WellWritten :=
  decidable_of_iff (p.name.IsName ∧ ∀ x ∈ p.methods, x.WellWritten)
    ⟨fun ⟨name, methods⟩ => ⟨name, methods⟩, fun h => ⟨h.name, h.methods⟩⟩

instance (p : FileProto) : Decidable p.WellWritten :=
  decidable_of_iff (p.name.IsName ∧ p.package.IsText ∧ (∀ d ∈ p.dependencies, d.IsText) ∧
      (∀ m ∈ preorderProtos p.messages, m.WellWritten) ∧ (∀ e ∈ p.enums, e.WellWritten) ∧
      (∀ s ∈ p.services, s.WellWritten) ∧
      ∀ l ∈ p.locations, l.leading.IsText ∧ l.trailing.IsText)
    ⟨fun ⟨name, package, dependencies, messages, enums, services, comments⟩ =>
        ⟨name, package, dependencies, messages, enums, services, comments⟩,
      fun h => ⟨h.name, h.package, h.dependencies, h.messages,
        h.enums, h.services, h.comments⟩⟩

instance (s : FileSet) : Decidable s.WellWritten :=
  decidable_of_iff ((∀ p ∈ s.files, p.WellWritten) ∧ s.fullNames.Nodup)
    ⟨fun ⟨files, names⟩ => ⟨files, names⟩, fun h => ⟨h.files, h.names⟩⟩

end SchemaDocs.Descriptor
