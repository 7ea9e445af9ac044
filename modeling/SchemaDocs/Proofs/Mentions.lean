import SchemaDocs.Proofs.References

/-!
# Type names where they stand

A slot says who refers to something and what that is. By which name it is
referred to, and from which scope, stands beside it in the field or the method.
A `Mention` has the three together: the scope, the name, and what the slot
holds. A map field mentions three things, its keys, its values, and its values
again in its own slot.

Filling the slots of a file leaves the mentions where they are and puts into
each of them what the index says of its name in its scope. So whatever is said
of references only has to be said of the look-up of a name.
-/

namespace SchemaDocs

/-- A type name in a scope, and what it was found to refer to. -/
structure Mention where
  scope : String
  name : String
  ref : Option TypeRef

/-- What stands in the slots of a field, with the name of the message as the
scope. -/
def Field.mentions (scope : String) (f : Field) : List Mention :=
  match f.map with
  | none => [⟨scope, f.typeName, f.typeRef⟩]
  | some m =>
    [⟨scope, m.keyType, m.keyRef⟩, ⟨scope, m.valueType, m.valueRef⟩,
      ⟨scope, m.valueType, f.typeRef⟩]

def Message.mentions (m : Message) : List Mention :=
  m.fields.flatMap (Field.mentions m.fullName)

def Method.mentions (package : String) (m : Method) : List Mention :=
  [⟨package, m.requestType, m.requestRef⟩, ⟨package, m.responseType, m.responseRef⟩]

def Service.mentions (package : String) (s : Service) : List Mention :=
  s.methods.flatMap (Method.mentions package)

/-- All mentions of a file: those of its messages, at every depth, and those of
its methods. -/
def File.mentions (f : File) : List Mention :=
  f.allMessages.flatMap Message.mentions ++
    f.services.flatMap (Service.mentions f.package)

namespace Index

variable (index : Index)

def fillMention (u : Mention) : Mention :=
  { u with ref := some (index.reference u.scope u.name) }

theorem mentions_fillField (scope : String) (f : Field) :
    (index.fillField scope f).mentions scope =
      (f.mentions scope).map index.fillMention := by
  unfold fillField Field.mentions
  cases f.map <;> rfl

theorem mentions_fillMessage (m : Message) :
    (index.fillMessage m).mentions = m.mentions.map index.fillMention := by
  rw [Message.mentions, Message.mentions, fillMessage_fields, fillMessage_fullName,
    List.flatMap_map, List.map_flatMap]
  simp only [mentions_fillField]

/-- Going through the messages of a filled file is filling the messages that
are met on the way through the file. -/
theorem allMessages_fillFile (f : File) :
    (index.fillFile f).allMessages = f.allMessages.map index.fillMessage := by
  rw [File.allMessages_eq, File.allMessages_eq, fillFile, fillMessages_eq_map,
    preorderAll_map index.fillMessage_messages]

theorem mentions_fillService (package : String) (s : Service) :
    (index.fillService package s).mentions package =
      (s.mentions package).map index.fillMention := by
  rw [Service.mentions, Service.mentions, fillService, List.flatMap_map, List.map_flatMap]
  rfl

/-- In a filled file every name stands where it stood, beside what the index
says of it. -/
theorem mentions_fillFile (f : File) :
    (index.fillFile f).mentions = f.mentions.map index.fillMention := by
  have hservices : (index.fillFile f).services.flatMap (Service.mentions f.package) =
      (f.services.flatMap (Service.mentions f.package)).map index.fillMention := by
    rw [fillFile, List.flatMap_map, List.map_flatMap]
    simp only [mentions_fillService]
  have hmessages : (index.fillFile f).allMessages.flatMap Message.mentions =
      (f.allMessages.flatMap Message.mentions).map index.fillMention := by
    rw [allMessages_fillFile, List.flatMap_map, List.map_flatMap]
    simp only [mentions_fillMessage]
  rw [File.mentions, File.mentions, List.map_append, ← hmessages, ← hservices]
  rfl

end Index

end SchemaDocs
