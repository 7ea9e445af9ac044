import SchemaDocs.Proofs.MapTexts
import SchemaDocs.Proofs.Mirroring
import SchemaDocs.Proofs.Walk

/-!
# The type names of a loaded schema

A type name comes into a schema in one of five ways: as the type of a field, as
the type of the keys or of the values of a map that has them beside it, or as
what a method takes or gives. There must be a text, and the name is what is
left of it when the white space around it is gone. Or it stands in a map type
that is written out, between marks.

So no type name has white space at its ends. That a text is there is looked at
before it is trimmed, though, and a text of white space alone passes: it is the
one way in which an empty type name comes about.
-/

namespace SchemaDocs

open Load (Record attribute?)
open Value (IsName)

/-! ## Where a description asks for a type -/

/-- The records that a record lists under a key. -/
def listedRecords (key : String) (r : Record) : List Record :=
  match attribute? r [key] with
  | some (.list vs) => vs.filterMap fun
    | .object inner => some inner
    | _ => none
  | _ => []

/-- What a field gives where it must have a type. -/
inductive FieldAsks (r : Record) : Option Value → Prop
  | type : FieldAsks r (attribute? r ["type", "type_name", "typeName"])
  | key {s : String}
      (htype : attribute? r ["type", "type_name", "typeName"] = some (.text s))
      (hmap : Text.trim s = "map") : FieldAsks r (attribute? r ["key_type", "keyType"])
  | value {s : String}
      (htype : attribute? r ["type", "type_name", "typeName"] = some (.text s))
      (hmap : Text.trim s = "map") :
      FieldAsks r (attribute? r ["value_type", "valueType"])

/-- What a method gives where it must have a type. -/
inductive MethodAsks (r : Record) : Option Value → Prop
  | request :
      MethodAsks r
        (attribute? r ["request_type", "requestType", "input_type", "inputType"])
  | response :
      MethodAsks r
        (attribute? r ["response_type", "responseType", "output_type", "outputType"])

/-- What is given in a description where there must be a type, at any depth. -/
inductive Value.AsksType (raw : Value) : Option Value → Prop
  | field {records : List Value} {file top m r : Record} {given : Option Value}
      (hraw : raw.Describes records) (hfile : .object file ∈ records)
      (htop : top ∈ listedRecords "messages" file)
      (hm : Nested (listedRecords "messages") m top) (hr : r ∈ listedRecords "fields" m)
      (hasks : FieldAsks r given) : AsksType raw given
  | method {records : List Value} {file s r : Record} {given : Option Value}
      (hraw : raw.Describes records) (hfile : .object file ∈ records)
      (hs : s ∈ listedRecords "services" file) (hr : r ∈ listedRecords "methods" s)
      (hasks : MethodAsks r given) : AsksType raw given

/-! ## The type names of a schema -/

inductive Field.NamesType (f : Field) : String → Prop
  | type : NamesType f f.typeName
  | key {m : MapType} (hm : f.map = some m) : NamesType f m.keyType
  | value {m : MapType} (hm : f.map = some m) : NamesType f m.valueType

inductive Method.NamesType (m : Method) : String → Prop
  | request : NamesType m m.requestType
  | response : NamesType m m.responseType

/-- The type names of a schema, those of maps and of nested messages included. -/
inductive Schema.NamesType (schema : Schema) : String → Prop
  | field {f : File} {m : Message} {x : Field} {t : String} (hf : f ∈ schema.files)
      (hm : f.HasMessage m) (hx : x ∈ m.fields) (ht : x.NamesType t) : NamesType schema t
  | method {f : File} {s : Service} {x : Method} {t : String} (hf : f ∈ schema.files)
      (hs : s ∈ f.services) (hx : x ∈ s.methods) (ht : x.NamesType t) : NamesType schema t

/-! ## What is given and what it becomes -/

theorem GivesType.exists_text {given : Option Value} {t : String}
    (h : GivesType given t) :
    ∃ s, given = some (.text s) ∧ s ≠ "" ∧ Text.trim s = t := by
  cases h with
  | text hs => exact ⟨_, rfl, hs, rfl⟩

theorem GivesType.isName {given : Option Value} {t : String} (h : GivesType given t) :
    Required IsName given := by
  obtain ⟨s, rfl, hs, -⟩ := h.exists_text
  exact .given (.intro hs)

theorem GivesType.trimmed {given : Option Value} {t : String} (h : GivesType given t) :
    Text.Trimmed t := by
  obtain ⟨s, -, -, rfl⟩ := h.exists_text
  exact Text.trimmed_trim s

/-- Wherever a field must have a type, what it gives becomes one of its type
names. -/
theorem Field.Mirrors.names_of_asks {r : Record} {f : Field} (h : f.Mirrors r)
    {given : Option Value} (hasks : FieldAsks r given) :
    ∃ t, GivesType given t ∧ f.NamesType t := by
  have hapart {s : String} (htype : attribute? r ["type", "type_name", "typeName"] =
      some (.text s)) (hmap : Text.trim s = "map") :
      ∃ m, f.map = some m ∧ GivesType (attribute? r ["key_type", "keyType"]) m.keyType ∧
        GivesType (attribute? r ["value_type", "valueType"]) m.valueType := by
    have hname : f.typeName = "map" := by
      obtain ⟨s', hs', -, htrim⟩ := h.type.exists_text
      cases htype.symm.trans hs'
      exact htrim.symm.trans hmap
    have hnone : MapNotation.parse? "map" = none := by decide
    have hread := h.map
    rw [hname] at hread
    generalize f.map = map at hread
    cases hread with
    | written hwritten => cases hnone.symm.trans hwritten
    | apart hkey hvalue => exact ⟨_, rfl, hkey, hvalue⟩
    | none _ hmap => exact absurd rfl hmap
  cases hasks with
  | type => exact ⟨_, h.type, .type⟩
  | key htype hmap =>
      obtain ⟨m, hm, hkey, -⟩ := hapart htype hmap
      exact ⟨_, hkey, .key hm⟩
  | value htype hmap =>
      obtain ⟨m, hm, -, hvalue⟩ := hapart htype hmap
      exact ⟨_, hvalue, .value hm⟩

/-- A type name of a field is given somewhere, or it stands in its map type. -/
theorem Field.Mirrors.asks_of_names {r : Record} {f : Field}
    (h : f.Mirrors r) {t : String}
    (hnames : f.NamesType t) :
    (∃ given, FieldAsks r given ∧ GivesType given t) ∨ MapNotation.IsName t := by
  have hmap (m : MapType) (hm : f.map = some m) :
      (MapNotation.IsName m.keyType ∧ MapNotation.IsName m.valueType) ∨
      (∃ s, attribute? r ["type", "type_name", "typeName"] = some (.text s) ∧
        Text.trim s = "map") ∧
      GivesType (attribute? r ["key_type", "keyType"]) m.keyType ∧
      GivesType (attribute? r ["value_type", "valueType"]) m.valueType := by
    have htype := h.type
    have hread := h.map
    rw [hm] at hread
    generalize f.typeName = type at htype hread
    cases hread with
    | written hwritten => exact .inl (MapNotation.parse?_isName hwritten)
    | apart hkey hvalue =>
        obtain ⟨s, hs, -, htrim⟩ := htype.exists_text
        exact .inr ⟨⟨s, hs, htrim⟩, hkey, hvalue⟩
  cases hnames with
  | type => exact .inl ⟨_, .type, h.type⟩
  | key hm =>
      obtain ⟨hname, -⟩ | ⟨⟨s, hs, htrim⟩, hkey, -⟩ := hmap _ hm
      · exact .inr hname
      · exact .inl ⟨_, .key hs htrim, hkey⟩
  | value hm =>
      obtain ⟨-, hname⟩ | ⟨⟨s, hs, htrim⟩, -, hvalue⟩ := hmap _ hm
      · exact .inr hname
      · exact .inl ⟨_, .value hs htrim, hvalue⟩

theorem Method.Mirrors.names_of_asks {r : Record} {m : Method} (h : m.Mirrors r)
    {given : Option Value} (hasks : MethodAsks r given) :
    ∃ t, GivesType given t ∧ m.NamesType t := by
  cases hasks with
  | request => exact ⟨_, h.request, .request⟩
  | response => exact ⟨_, h.response, .response⟩

theorem Method.Mirrors.asks_of_names {r : Record} {m : Method}
    (h : m.Mirrors r) {t : String}
    (hnames : m.NamesType t) : ∃ given, MethodAsks r given ∧ GivesType given t := by
  cases hnames with
  | request => exact ⟨_, .request, h.request⟩
  | response => exact ⟨_, .response, h.response⟩

/-! ## Down the two forests -/

theorem ListedAs.forall₂ {α : Type} {R : Record → α → Prop} {key : String} {r : Record}
    {as : List α} (h : ListedAs R (attribute? r [key]) as) :
    List.Forall₂ R (listedRecords key r) as := by
  rw [listedRecords]
  generalize attribute? r [key] = listed at h
  cases h with
  | absent => exact .nil
  | null => exact .nil
  | list h =>
      induction h with
      | nil => exact .nil
      | cons hv _ ih =>
          cases hv with
          | intro hv => exact .cons hv ih

section

variable {α β : Type} {R : α → β → Prop} {as : List α} {bs : List β}

theorem exists_right_of_forall₂ (h : List.Forall₂ R as bs) {a : α} (ha : a ∈ as) :
    ∃ b ∈ bs, R a b := by
  induction h with
  | nil => cases ha
  | cons hab _ ih =>
      rcases List.mem_cons.1 ha with rfl | ha
      · exact ⟨_, List.mem_cons_self, hab⟩
      · obtain ⟨b, hb, hR⟩ := ih ha
        exact ⟨b, List.mem_cons_of_mem _ hb, hR⟩

theorem exists_left_of_forall₂ (h : List.Forall₂ R as bs) {b : β} (hb : b ∈ bs) :
    ∃ a ∈ as, R a b :=
  exists_right_of_forall₂ (R := flip R) (List.Forall₂.flip h) hb

end

/-- What is in a message record, at any depth, is loaded as something in the
message. -/
theorem Message.Mirrors.inner_of_record {r inner : Record}
    (hinner : Nested (listedRecords "messages") inner r) :
    ∀ {m : Message}, m.Mirrors r → ∃ k : Message, k.Within m ∧ k.Mirrors inner := by
  induction hinner with
  | refl => exact fun {m} h => ⟨m, .refl m, h⟩
  | deeper hb _ ih =>
      rintro m ⟨-, -, messages, -⟩
      obtain ⟨n, hn, hmirrors⟩ := exists_right_of_forall₂ messages.forall₂ hb
      obtain ⟨k, hk, hinner⟩ := ih hmirrors
      exact ⟨k, .deeper hn hk, hinner⟩

/-- There is nothing else in the message. -/
theorem Message.Mirrors.record_of_inner {k m : Message} (hk : k.Within m) :
    ∀ {r : Record}, m.Mirrors r →
      ∃ inner, Nested (listedRecords "messages") inner r ∧ k.Mirrors inner := by
  induction hk with
  | refl => exact fun {r} h => ⟨r, .refl r, h⟩
  | deeper hb _ ih =>
      rintro r ⟨-, -, messages, -⟩
      obtain ⟨b, hb, hmirrors⟩ := exists_left_of_forall₂ messages.forall₂ hb
      obtain ⟨inner, hinner, h⟩ := ih hmirrors
      exact ⟨inner, .deeper hb hinner, h⟩

/-- Wherever there must be a type in a description, what is given there becomes
a type name of the schema. -/
theorem names_of_asks {raw routeBase : Value} {schema : Schema}
    (h : Schema.load raw routeBase = .ok schema) {given : Option Value}
    (hasks : raw.AsksType given) : ∃ t, GivesType given t ∧ schema.NamesType t := by
  obtain ⟨records, hraw, hfiles⟩ := files_of_load h
  have hmirrors := (mirrors_of_files hfiles).1
  cases hasks with
  | field hraw' hfile htop hm hr hasks =>
      obtain rfl := hraw.unique hraw'
      obtain ⟨f, hf, ⟨hread⟩⟩ := exists_right_of_forall₂ hmirrors hfile
      obtain ⟨top, htop, hread⟩ := exists_right_of_forall₂ hread.messages.forall₂ htop
      obtain ⟨k, hk, -, hfields, -, -⟩ := hread.inner_of_record hm
      obtain ⟨x, hx, hread⟩ := exists_right_of_forall₂ hfields.forall₂ hr
      obtain ⟨t, hgives, hnames⟩ := hread.names_of_asks hasks
      exact ⟨t, hgives, .field hf ⟨top, htop, hk⟩ hx hnames⟩
  | method hraw' hfile hs hr hasks =>
      obtain rfl := hraw.unique hraw'
      obtain ⟨f, hf, ⟨hread⟩⟩ := exists_right_of_forall₂ hmirrors hfile
      obtain ⟨s, hs, hread⟩ := exists_right_of_forall₂ hread.services.forall₂ hs
      obtain ⟨x, hx, hread⟩ := exists_right_of_forall₂ hread.methods.forall₂ hr
      obtain ⟨t, hgives, hnames⟩ := hread.names_of_asks hasks
      exact ⟨t, hgives, .method hf hs hx hnames⟩

/-- And there are no others, but for those that stand in a map type that is
written out. -/
theorem asks_of_names {raw routeBase : Value} {schema : Schema}
    (h : Schema.load raw routeBase = .ok schema) {t : String}
    (hnames : schema.NamesType t) :
    (∃ given, raw.AsksType given ∧ GivesType given t) ∨ MapNotation.IsName t := by
  obtain ⟨records, hraw, hfiles⟩ := files_of_load h
  have hmirrors := (mirrors_of_files hfiles).1
  cases hnames with
  | field hf hm hx ht =>
      obtain ⟨top, htop, hk⟩ := hm
      obtain ⟨_, hfile, ⟨hread⟩⟩ := exists_left_of_forall₂ hmirrors hf
      obtain ⟨r, hr, hread⟩ := exists_left_of_forall₂ hread.messages.forall₂ htop
      obtain ⟨inner, hinner, -, hfields, -, -⟩ := Message.Mirrors.record_of_inner hk hread
      obtain ⟨x, hx, hread⟩ := exists_left_of_forall₂ hfields.forall₂ hx
      obtain ⟨given, hasks, hgives⟩ | hname := hread.asks_of_names ht
      · exact .inl ⟨given, .field hraw hfile hr hinner hx hasks, hgives⟩
      · exact .inr hname
  | method hf hs hx ht =>
      obtain ⟨_, hfile, ⟨hread⟩⟩ := exists_left_of_forall₂ hmirrors hf
      obtain ⟨r, hr, hread⟩ := exists_left_of_forall₂ hread.services.forall₂ hs
      obtain ⟨x, hx, hread⟩ := exists_left_of_forall₂ hread.methods.forall₂ hx
      obtain ⟨given, hasks, hgives⟩ := hread.asks_of_names ht
      exact .inl ⟨given, .method hraw hfile hr hx hasks, hgives⟩

/-- A description in which a type is missing is refused. What is loaded has no
white space at the ends of its type names, and none of them is empty unless a
type is given as white space. -/
theorem load_type_names (raw routeBase : Value) :
    (∀ given, raw.AsksType given → ¬ Required IsName given →
      ∃ e, Schema.load raw routeBase = .error e) ∧
    ∀ schema, Schema.load raw routeBase = .ok schema →
      (∀ t, schema.NamesType t → Text.Trimmed t) ∧
      (schema.NamesType "" ↔
        ∃ s, raw.AsksType (some (.text s)) ∧ Text.Blank s) := by
  constructor
  · intro given hasks hmissing
    cases h : Schema.load raw routeBase with
    | error e => exact ⟨e, rfl⟩
    | ok schema =>
        obtain ⟨t, hgives, -⟩ := names_of_asks h hasks
        exact absurd hgives.isName hmissing
  · intro schema h
    refine ⟨fun t ht => ?_, fun ht => ?_, ?_⟩
    · obtain ⟨given, -, hgives⟩ | hname := asks_of_names h ht
      · exact hgives.trimmed
      · exact hname.trimmed
    · obtain ⟨given, hasks, hgives⟩ | hname := asks_of_names h ht
      · obtain ⟨s, rfl, -, hs⟩ := hgives.exists_text
        exact ⟨s, hasks, Text.trim_eq_empty_iff.1 hs⟩
      · exact absurd rfl hname.nonempty
    · rintro ⟨s, hasks, hblank⟩
      obtain ⟨t, hgives, ht⟩ := names_of_asks h hasks
      obtain ⟨s', hs, -, rfl⟩ := hgives.exists_text
      cases hs
      rwa [Text.trim_eq_empty_iff.2 hblank] at ht

/-- A field whose type is a space. -/
def blankType : Value :=
  .object [("files", .list [.object [
    ("path", .text "a.proto"), ("package", .text ""),
    ("messages", .list [.object [
      ("name", .text "M"),
      ("fields", .list [.object [("name", .text "f"), ("type", .text " ")]])]])]])]

/-- The space passes as a type, and nothing is left of it. -/
theorem load_blankType :
    ¬ ∀ raw routeBase schema, Schema.load raw routeBase = .ok schema →
    ∀ t, schema.NamesType t → t ≠ "" := by
  intro h
  have hempty := h blankType .null _ rfl (Text.trim " ")
    (.field List.mem_cons_self ⟨_, List.mem_cons_self, .refl _⟩ List.mem_cons_self .type)
  exact hempty (by decide)

end SchemaDocs
