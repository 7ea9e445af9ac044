import SchemaDocs.Proofs.Resolution

/-!
# Every slot refers to what its name denotes

The rule of scopes and the work of the resolver, brought together. Whatever a
slot held before, after a resolution it holds the one thing that the name
beside it denotes in its scope, and nothing but slots has changed. The scope
of a field is the message that it belongs to, at whatever depth that message
is nested; the scope of a method is the package of its file.
-/

namespace SchemaDocs

/-- A slot holds the one thing that a name denotes. -/
def Refers (files : List File) (scope name : String) (slot : Option TypeRef) : Prop :=
  ∃ t, slot = some t ∧ ∀ u, Denotes files scope name u ↔ u = t

/-- The slots of a field are filled by the rule. A map field has those of its
key and its value, and its own repeats the second. -/
structure Field.Refers (files : List File) (scope : String) (f : Field) : Prop where
  plain : f.map = none → SchemaDocs.Refers files scope f.typeName f.typeRef
  key : ∀ m, f.map = some m → SchemaDocs.Refers files scope m.keyType m.keyRef
  scalarKey : ∀ m, f.map = some m →
    ∀ entity path kind, m.keyRef ≠ some (.resolved entity path kind)
  value : ∀ m, f.map = some m → SchemaDocs.Refers files scope m.valueType m.valueRef
  repeated : ∀ m, f.map = some m → f.typeRef = m.valueRef

structure Method.Refers (files : List File) (package : String) (m : Method) : Prop where
  request : SchemaDocs.Refers files package m.requestType m.requestRef
  response : SchemaDocs.Refers files package m.responseType m.responseRef

/-! ## What is left when the slots are emptied -/

def MapType.cleared (m : MapType) : MapType :=
  { m with keyRef := none, valueRef := none }

def Field.cleared (f : Field) : Field :=
  { f with map := f.map.map MapType.cleared, typeRef := none }

mutual

def Message.cleared : Message → Message
  | ⟨name, fullName, fields, messages, enums, description, filePath⟩ =>
    ⟨name, fullName, fields.map Field.cleared, clearedMessages messages, enums,
      description, filePath⟩

def clearedMessages : List Message → List Message
  | [] => []
  | m :: rest => m.cleared :: clearedMessages rest

end

def Method.cleared (m : Method) : Method :=
  { m with requestRef := none, responseRef := none }

def Service.cleared (s : Service) : Service :=
  { s with methods := s.methods.map Method.cleared }

/-- A file with all its slots empty. -/
def File.cleared (f : File) : File :=
  { f with
    messages := clearedMessages f.messages
    services := f.services.map Service.cleared }

section

variable (index : Index)

theorem Index.fillField_cleared (scope : String) (f : Field) :
    (index.fillField scope f).cleared = f.cleared := by
  unfold Index.fillField Field.cleared
  cases hm : f.map <;> rfl

theorem Index.fillMessages_cleared : ∀ {ms : List Message},
    (∀ m ∈ ms, (index.fillMessage m).cleared = m.cleared) →
    clearedMessages (index.fillMessages ms) = clearedMessages ms := by
  intro ms
  induction ms with
  | nil => intro _; rfl
  | cons m rest ih =>
      intro h
      rw [Index.fillMessages, clearedMessages, clearedMessages, h m (by simp),
        ih fun k hk => h k (by simp [hk])]

theorem Index.fillMessage_cleared (m : Message) :
    (index.fillMessage m).cleared = m.cleared := by
  induction m using Message.nestedInduction with
  | step m ih =>
      have hnested := index.fillMessages_cleared ih
      obtain ⟨name, fullName, fields, messages, enums, description, path⟩ := m
      rw [Index.fillMessage, Message.cleared, Message.cleared, hnested,
        List.map_map,
        show Field.cleared ∘ index.fillField fullName = Field.cleared from
          funext fun f => index.fillField_cleared fullName f]

theorem Index.fillFile_cleared (f : File) :
    (index.fillFile f).cleared = f.cleared := by
  unfold Index.fillFile File.cleared
  rw [index.fillMessages_cleared fun m _ => index.fillMessage_cleared m,
    List.map_map]
  congr 1
  refine List.map_congr_left fun s _ => ?_
  simp only [Function.comp_apply, Index.fillService, Service.cleared,
    List.map_map]
  rfl

/-! ## The messages of a filled file -/

theorem Index.within_fillMessage {m k : Message} :
    k.Within (index.fillMessage m) ↔ ∃ n, n.Within m ∧ k = index.fillMessage n :=
  nested_map_iff index.fillMessage_messages

theorem Index.hasMessage_fillFile {f : File} {k : Message} :
    (index.fillFile f).HasMessage k ↔
      ∃ m, f.HasMessage m ∧ k = index.fillMessage m := by
  simp only [File.HasMessage, Index.fillFile, Index.fillMessages_eq_map]
  constructor
  · rintro ⟨_, hfilled, hk⟩
    obtain ⟨top, htop, rfl⟩ := List.mem_map.1 hfilled
    obtain ⟨m, hm, rfl⟩ := index.within_fillMessage.1 hk
    exact ⟨m, ⟨top, htop, hm⟩, rfl⟩
  · rintro ⟨m, ⟨top, htop, hm⟩, rfl⟩
    exact ⟨index.fillMessage top, List.mem_map_of_mem htop,
      index.within_fillMessage.2 ⟨m, hm, rfl⟩⟩

end

/-! ## The slots of a filled file -/

section

variable {files : List File} (hnd : (declaredNames files).Nodup)

include hnd

theorem refers_reference (scope name : String) :
    Refers files scope name
      (some (Index.reference (declarations files) scope name)) :=
  ⟨_, rfl, fun _ => denotes_iff hnd⟩

theorem Index.fillField_refers {scope : String} {f : Field}
    (hkey : Index.ScalarKey (declarations files) scope f) :
    (Index.fillField (declarations files) scope f).Refers files scope := by
  rw [Index.fillField]
  cases hm : f.map with
  | none =>
      constructor
      case plain =>
          intro _
          exact refers_reference hnd scope f.typeName
      all_goals
        intro _ h
        cases h
  | some m =>
      constructor
      case plain =>
          intro h
          cases h
      case key =>
          intro _ h
          cases h
          exact refers_reference hnd scope m.keyType
      case scalarKey =>
          intro _ h entity path kind hentity
          cases h
          exact hkey m hm entity path kind (Option.some.inj hentity)
      case value =>
          intro _ h
          cases h
          exact refers_reference hnd scope m.valueType
      case repeated =>
          intro _ h
          cases h
          rfl

/-- A file whose slots all hold the one thing that the name beside them
denotes. -/
structure File.Follows (files : List File) (f : File) : Prop where
  fields : ∀ m, f.HasMessage m → ∀ x ∈ m.fields, x.Refers files m.fullName
  methods : ∀ s ∈ f.services, ∀ x ∈ s.methods, x.Refers files f.package

theorem Index.fillFile_follows {f : File}
    (hkeys : ∀ m, f.HasMessage m → Index.ScalarKeys (declarations files) m) :
    (Index.fillFile (declarations files) f).Follows files := by
  constructor
  case fields =>
      intro _ hk _ hfield
      obtain ⟨m, hm, rfl⟩ := (Index.hasMessage_fillFile _).1 hk
      rw [Index.fillMessage_fields] at hfield
      obtain ⟨x, hx, rfl⟩ := List.mem_map.1 hfield
      rw [Index.fillMessage_fullName]
      exact Index.fillField_refers hnd (hkeys m hm x hx)
  case methods =>
      intro _ hservice _ hmethod
      obtain ⟨s, hs, rfl⟩ := List.mem_map.1 hservice
      obtain ⟨x, hx, rfl⟩ := List.mem_map.1 hmethod
      exact ⟨refers_reference hnd f.package x.requestType,
        refers_reference hnd f.package x.responseType⟩

end

/-- A resolution changes nothing but slots, and whenever it succeeds, it fills
every slot of every message, nested or not, and of every method by the rule of
scopes. -/
theorem resolve_follows {files : List File} {r : Resolution}
    (h : resolve files = .ok r) :
    r.files.map File.cleared = files.map File.cleared ∧
      ∀ f ∈ r.files, f.Follows files := by
  obtain ⟨hnd, hkeys, rfl⟩ := resolve_eq_ok_iff.1 h
  constructor
  · simp only [List.map_map]
    exact List.map_congr_left fun f _ => Index.fillFile_cleared _ f
  · intro _ hfilled
    obtain ⟨f, hf, rfl⟩ := List.mem_map.1 hfilled
    exact Index.fillFile_follows hnd (hkeys f hf)

/-- In the package `p` a service hides nothing, so `Thing` is the enum of the
other file; the message `string` is hidden by the scalar. -/
def shadowed : List File := [
  { path := "p.proto", package := "p"
    messages := [{
      name := "Outer", fullName := "p.Outer"
      fields := [
        { name := "thing", typeName := "Thing" },
        { name := "all", typeName := "map", label := .repeated
          map := some { keyType := "string", valueType := "Outer.Inner" } }]
      messages := [{
        name := "Inner", fullName := "p.Outer.Inner"
        fields := [
          { name := "back", typeName := "Inner" },
          { name := "gone", typeName := ".p.Gone" }] }] }]
    services := [{
      name := "Thing", fullName := "p.Thing"
      methods := [{
        name := "Get", requestType := "Outer", responseType := ".Thing" }] }] },
  { path := "root.proto"
    messages := [{ name := "string", fullName := "string" }]
    enums := [{ name := "Thing", fullName := "Thing" }] }]

theorem resolve_follows_shadowed :
    ∃ r, resolve shadowed = .ok r ∧
      r.files.map File.cleared = shadowed.map File.cleared ∧
      ∀ f ∈ r.files, f.Follows shadowed :=
  ⟨_, rfl, resolve_follows rfl⟩

end SchemaDocs
