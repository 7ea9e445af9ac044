import SchemaDocs.Schema.Index

/-!
# The type slots of a file

Everything in a file that names a type, with the name of the field or method it
belongs to, in the order in which references are resolved. A map has two slots,
and its own repeats the second.
-/

namespace SchemaDocs

/-- The reference in a slot, and the full name of the field or method that makes it. -/
structure Slot where
  referrer : String
  ref : Option TypeRef
deriving DecidableEq, Repr

def Field.slots (scope : String) (f : Field) : List Slot :=
  let referrer := scope ++ "." ++ f.name
  match f.map with
  | some m => [⟨referrer, m.keyRef⟩, ⟨referrer, m.valueRef⟩]
  | none => [⟨referrer, f.typeRef⟩]

def Message.slots (m : Message) : List Slot := m.fields.flatMap (Field.slots m.fullName)

def Method.slots (service : String) (m : Method) : List Slot :=
  let referrer := service ++ "." ++ m.name
  [⟨referrer, m.requestRef⟩, ⟨referrer, m.responseRef⟩]

def Service.slots (s : Service) : List Slot := s.methods.flatMap (Method.slots s.fullName)

def File.slots (f : File) : List Slot :=
  f.allMessages.flatMap Message.slots ++ f.services.flatMap Service.slots

/-- The declaration that a reference points at. -/
def Index.target? (index : Index) : TypeRef → Option Declaration
  | .resolved entity _ _ => index.find? entity
  | _ => none

end SchemaDocs
