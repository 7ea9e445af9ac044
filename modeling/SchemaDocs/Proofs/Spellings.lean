import SchemaDocs.Proofs.Variants

/-!
# Spellings of one attribute

Some attributes can be spelled in several ways. As long as a record has one
spelling of an attribute at most, it makes no difference which, and records in
which keys are spelled in another way load as the same, or fail with the same
error: faults name the attribute and not the key.
-/

namespace SchemaDocs

open Load (Record attribute?)

/-! ## Spellings -/

def fileSpellings : List (List String) := [["path", "name"]]

def fieldSpellings : List (List String) := [
  ["type", "type_name", "typeName"], ["oneof", "oneof_name", "oneofdecl"],
  ["default_value", "defaultValue"], ["key_type", "keyType"], ["value_type", "valueType"]]

def methodSpellings : List (List String) := [
  ["request_type", "requestType", "input_type", "inputType"],
  ["response_type", "responseType", "output_type", "outputType"],
  ["client_streaming", "clientStreaming", "requestStreaming"],
  ["server_streaming", "serverStreaming", "responseStreaming"]]

/-- Two keys that spell one attribute, or one and the same key. -/
def SameAttribute (groups : List (List String)) (key key' : String) : Prop :=
  key' = key ∨ ∃ g ∈ groups, key ∈ g ∧ key' ∈ g

instance (groups : List (List String)) (key key' : String) :
    Decidable (SameAttribute groups key key') :=
  inferInstanceAs (Decidable (_ ∨ _))

/-- No two entries of a record spell one attribute. -/
def SingleSpelled (groups : List (List String)) (r : Record) : Prop :=
  ∀ g ∈ groups, (r.filter (·.1 ∈ g)).length ≤ 1

instance (groups : List (List String)) (r : Record) :
    Decidable (SingleSpelled groups r) :=
  inferInstanceAs (Decidable (∀ g ∈ groups, _))

/-- The same entries, spelled in another way. Under some keys the values may
be different too. -/
structure Respells (groups : List (List String)) (free : List String) (r r' : Record) :
    Prop where
  single : SingleSpelled groups r
  entries : List.Forall₂
    (fun e e' => SameAttribute groups e.1 e'.1 ∧ (e.1 ∉ free → e'.2 = e.2)) r r'

def FieldRespelled : Record → Record → Prop := Respells fieldSpellings []

def MethodRespelled : Record → Record → Prop := Respells methodSpellings []

structure FileRespelled (r r' : Record) : Prop where
  record : Respells fileSpellings ["messages", "services"] r r'
  messages : ListedAlike (MessageVaries FieldRespelled) (Value.get? r "messages")
    (Value.get? r' "messages")
  services : ListedAlike (ServiceVaries MethodRespelled) (Value.get? r "services")
    (Value.get? r' "services")

/-! ## What is read of records that are spelled in another way -/

/-- No key spells two attributes. -/
def KeysApart (groups : List (List String)) : Prop :=
  ∀ g ∈ groups, ∀ h ∈ groups, ∀ key ∈ g, key ∈ h → g = h

instance (groups : List (List String)) : Decidable (KeysApart groups) :=
  inferInstanceAs (Decidable (∀ g ∈ groups, _))

section

variable {groups : List (List String)} {free : List String} {r r' : Record}

theorem SameAttribute.mem_iff (hapart : KeysApart groups) {g : List String}
    (hg : g ∈ groups)
    {key key' : String} (h : SameAttribute groups key key') : key' ∈ g ↔ key ∈ g := by
  obtain rfl | ⟨k, hk, hkey, hkey'⟩ := h
  · exact Iff.rfl
  · constructor
    · intro h
      exact hapart g hg k hk key' h hkey' ▸ hkey
    · intro h
      exact hapart g hg k hk key h hkey ▸ hkey'

theorem SameAttribute.eq_iff {key key' other : String} (hother : ∀ g ∈ groups, other ∉ g)
    (h : SameAttribute groups key key') : other = key' ↔ other = key := by
  obtain rfl | ⟨k, hk, hkey, hkey'⟩ := h
  · exact Iff.rfl
  · refine iff_of_false ?_ ?_
    · rintro rfl
      exact hother k hk hkey'
    · rintro rfl
      exact hother k hk hkey

theorem attribute?_of_entry {g : List String} {e : String × Value} (he : e.1 ∈ g) :
    attribute? [e] g = some e.2 := by
  obtain ⟨key, v⟩ := e
  induction g with
  | nil => cases he
  | cons other rest ih =>
      rw [attribute?] at ih ⊢
      rw [List.findSome?_cons, Value.get?, List.lookup_cons]
      by_cases hkey : other = key
      · rw [beq_iff_eq.2 hkey]
      · rw [beq_false_of_ne hkey, List.lookup_nil]
        exact ih (List.mem_of_ne_of_mem (Ne.symm hkey) he)

/-- The value of an attribute that is spelled once at most. -/
theorem attribute?_of_single {g : List String} (h : (r.filter (·.1 ∈ g)).length ≤ 1) :
    attribute? r g = ((r.filter (·.1 ∈ g)).map Prod.snd).head? := by
  have hkept : attribute? (r.filter (·.1 ∈ g)) g = attribute? r g :=
    Load.attribute?_congr fun key hkey =>
      Value.get?_filter (p := fun key => key ∈ g) (by simpa using hkey) r
  have hmem : ∀ e ∈ r.filter (·.1 ∈ g), e.1 ∈ g :=
    fun e he => by simpa using List.of_mem_filter he
  rw [← hkept]
  generalize r.filter (·.1 ∈ g) = kept at h hmem
  match kept with
  | [] => exact List.findSome?_eq_none_iff.2 fun _ _ => rfl
  | [e] => exact attribute?_of_entry (hmem e List.mem_cons_self)
  | _ :: _ :: _ => simp at h

theorem Respells.map_filter (h : Respells groups free r r') (hapart : KeysApart groups)
    {g : List String} (hg : g ∈ groups) (hkept : ∀ key ∈ g, key ∉ free) :
    (r'.filter (·.1 ∈ g)).map Prod.snd = (r.filter (·.1 ∈ g)).map Prod.snd := by
  obtain ⟨-, hentries⟩ := h
  induction hentries with
  | nil => rfl
  | @cons e e' _ _ h _ ih =>
      have hsame := h.1.mem_iff hapart hg
      by_cases he : e.1 ∈ g
      · rw [List.filter_cons_of_pos (by simpa using hsame.2 he),
          List.filter_cons_of_pos (by simpa using he), List.map_cons, List.map_cons, ih,
          h.2 (hkept _ he)]
      · rw [List.filter_cons_of_neg (by simpa using fun h => he (hsame.1 h)),
          List.filter_cons_of_neg (by simpa using he), ih]

theorem Respells.attribute?_eq (h : Respells groups free r r') (hapart : KeysApart groups)
    {g : List String} (hg : g ∈ groups) (hkept : ∀ key ∈ g, key ∉ free) :
    attribute? r' g = attribute? r g := by
  have hvalues := h.map_filter hapart hg hkept
  have hlength := congrArg List.length hvalues
  rw [List.length_map, List.length_map] at hlength
  have hsingle := h.single g hg
  rw [attribute?_of_single hsingle, attribute?_of_single (hlength.trans_le hsingle),
    hvalues]

theorem Respells.get?_eq (h : Respells groups free r r') {key : String}
    (hkey : ∀ g ∈ groups, key ∉ g) (hkept : key ∉ free) :
    Value.get? r' key = Value.get? r key := by
  obtain ⟨-, hentries⟩ := h
  induction hentries with
  | nil => rfl
  | @cons e e' _ _ h _ ih =>
      obtain ⟨hsame, hvalue⟩ := h
      rw [Value.get?, Value.get?] at ih ⊢
      rw [List.lookup_cons, List.lookup_cons, ih]
      by_cases he : key = e.1
      · rw [beq_iff_eq.2 he, beq_iff_eq.2 ((hsame.eq_iff hkey).2 he), hvalue (he ▸ hkept)]
      · rw [beq_false_of_ne he, beq_false_of_ne fun h => he ((hsame.eq_iff hkey).1 h)]

end

/-! ## What they load as -/

theorem FieldRespelled.load {r r' : Record} (h : FieldRespelled r r') (place : Place) :
    Load.field place (.object r') = Load.field place (.object r) := by
  have hspelled {g : List String} (hg : g ∈ fieldSpellings) :
      attribute? r' g = attribute? r g :=
    h.attribute?_eq (by decide) hg fun _ _ => List.not_mem_nil
  have hkept (key : String) (hkey : ∀ g ∈ fieldSpellings, key ∉ g) :
      attribute? r' [key] = attribute? r [key] := by
    rw [Load.attribute?_singleton, Load.attribute?_singleton,
      h.get?_eq hkey List.not_mem_nil]
  have hname := hkept "name" (by decide)
  have hlabel := hkept "label" (by decide)
  have hnumber := hkept "number" (by decide)
  have hdescription := hkept "description" (by decide)
  have htype := hspelled (g := ["type", "type_name", "typeName"]) (by decide)
  have honeof := hspelled (g := ["oneof", "oneof_name", "oneofdecl"]) (by decide)
  have hdefault := hspelled (g := ["default_value", "defaultValue"]) (by decide)
  have hkey := hspelled (g := ["key_type", "keyType"]) (by decide)
  have hvalue := hspelled (g := ["value_type", "valueType"]) (by decide)
  simp only [Load.field, Load.object, ok_bind_eq, Load.name,
    Load.label, Load.mapType, Load.number, Load.description,
    Load.oneof, Load.defaultValue, hname, hlabel, hnumber, hdescription, htype,
    honeof, hdefault, hkey, hvalue]

theorem MethodRespelled.load {r r' : Record} (h : MethodRespelled r r') (place : Place) :
    Load.method place (.object r') = Load.method place (.object r) := by
  have hspelled {g : List String} (hg : g ∈ methodSpellings) :
      attribute? r' g = attribute? r g :=
    h.attribute?_eq (by decide) hg fun _ _ => List.not_mem_nil
  have hkept (key : String) (hkey : ∀ g ∈ methodSpellings, key ∉ g) :
      attribute? r' [key] = attribute? r [key] := by
    rw [Load.attribute?_singleton, Load.attribute?_singleton,
      h.get?_eq hkey List.not_mem_nil]
  have hname := hkept "name" (by decide)
  have hdescription := hkept "description" (by decide)
  have hrequest :=
    hspelled (g := ["request_type", "requestType", "input_type", "inputType"]) (by decide)
  have hresponse :=
    hspelled (g := ["response_type", "responseType", "output_type", "outputType"])
      (by decide)
  have hclient :=
    hspelled (g := ["client_streaming", "clientStreaming", "requestStreaming"])
      (by decide)
  have hserver :=
    hspelled (g := ["server_streaming", "serverStreaming", "responseStreaming"])
      (by decide)
  simp only [Load.method, Load.object, ok_bind_eq, Load.name,
    Load.flag, Load.description, hname, hdescription, hrequest,
    hresponse, hclient, hserver]

theorem FileRespelled.varies {r r' : Record} (h : FileRespelled r r') :
    FileVaries FieldRespelled MethodRespelled r r' := by
  refine ⟨h.record.attribute?_eq (by decide) (by decide) (by decide), fun key hkey => ?_,
    h.messages, h.services⟩
  simp only [List.mem_cons, List.not_mem_nil, not_or] at hkey
  refine h.record.get?_eq ?_ ?_
  · simp [fileSpellings, hkey]
  · simp [hkey]

/-- Alike records load as the same, if those of the relation do. -/
theorem Alike.load_eq {α : Type} {R : Record → Record → Prop} {f : Value → Load.Result α}
    (hf : ∀ r r', R r r' → f (.object r') = f (.object r)) {v v' : Value}
    (h : Alike R v v') :
    f v' = f v := by
  cases h with
  | same => rfl
  | object h => exact hf _ _ h

/-- A description in which keys are spelled in another way loads as the same
schema, or fails with the same error. -/
theorem load_respelled {raw raw' : Value}
    (h : Alike (SchemaVaries FileRespelled) raw raw')
    (routeBase : Value) : Schema.load raw' routeBase = Schema.load raw routeBase := by
  have hvaries :
      Alike (SchemaVaries (FileVaries FieldRespelled MethodRespelled)) raw raw' :=
    h.imp fun r r' h => ⟨h.files.imp fun r r' h => h.varies⟩
  have hfield (place : Place) (v v' : Value) (h : Alike FieldRespelled v v') :
      Alongside Eq (fun f f' => Change.nothing.field f' = Change.nothing.field f)
        (Load.field place v) (Load.field place v') := by
    refine .of_eq (fun _ => rfl) ?_ (Alike.load_eq (fun r r' h => h.load place) h)
    exact fun _ => rfl
  have hmethod (place : Place) (v v' : Value) (h : Alike MethodRespelled v v') :
      Alongside Eq Eq (Load.method place v) (Load.method place v') :=
    .of_eq (fun _ => rfl) (fun _ => rfl) (Alike.load_eq (fun r r' h => h.load place) h)
  have hload := SchemaVaries.load hfield hmethod hvaries routeBase
  refine (hload.imp fun s s' hs => ?_).eq.symm
  rw [Change.nothing_schema, Change.nothing_schema] at hs
  exact hs.symm

/-- Keys that are spelled by a rule. -/
theorem Respells.of_map {groups : List (List String)} {r : Record} (k : String → String)
    (hsingle : SingleSpelled groups r) (hk : ∀ e ∈ r, SameAttribute groups e.1 (k e.1)) :
    Respells groups [] r (r.map fun e => (k e.1, e.2)) := by
  refine ⟨hsingle, ?_⟩
  rw [List.forall₂_map_right_iff, List.forall₂_same]
  exact fun e he => ⟨hk e he, fun _ => rfl⟩

/-- Another spelling of every attribute that has one. -/
def otherwise (key : String) : String :=
  (([("path", "name"), ("type", "typeName"), ("oneof", "oneofdecl"),
    ("default_value", "defaultValue"), ("key_type", "keyType"),
    ("value_type", "valueType"),
    ("request_type", "inputType"), ("response_type", "output_type"),
    ("client_streaming", "requestStreaming"), ("server_streaming", "serverStreaming")] :
    List (String × String)).lookup key).getD key

def mapRecord : Record := [
  ("name", .text "tags"), ("type", .text "map"), ("key_type", .text "string"),
  ("value_type", .text "Outer"), ("oneof", .text "one"), ("default_value", .int 0)]

def methodRecord : Record := [
  ("name", .text "Get"), ("request_type", .text "Outer"),
  ("response_type", .text "Outer.Inner"),
  ("client_streaming", .bool true), ("server_streaming", .null)]

/-- A map in a nested message and a method, with keys spelled by a rule. -/
def spelledBy (k : String → String) : Value :=
  .object [("files", .list [.object [
    (k "path", .text "a.proto"), ("package", .text "p"),
    ("messages", .list [.object [
      ("name", .text "Outer"),
      ("messages", .list [.object [
        ("name", .text "Inner"),
        ("fields", .list [.object (mapRecord.map fun e => (k e.1, e.2))])]])]]),
    ("services", .list [.object [
      ("name", .text "S"),
      ("methods", .list [.object (methodRecord.map fun e => (k e.1, e.2))])]])]])]

theorem alike_spelledBy :
    Alike (SchemaVaries FileRespelled) (spelledBy id) (spelledBy otherwise) := by
  have hmap : Alike FieldRespelled (.object mapRecord)
      (.object (mapRecord.map fun e => (otherwise e.1, e.2))) :=
    .object (.of_map otherwise (by decide) (by decide))
  have hmethod : Alike MethodRespelled (.object methodRecord)
      (.object (methodRecord.map fun e => (otherwise e.1, e.2))) :=
    .object (.of_map otherwise (by decide) (by decide))
  have hfields := ListedAlike.list (.cons hmap .nil)
  have hmethods := ListedAlike.list (.cons hmethod .nil)
  refine .object ⟨.list (.cons (.object ⟨⟨by decide, ?_⟩, ?_, ?_⟩) .nil)⟩
  · refine .cons ⟨by decide, fun _ => rfl⟩ (.cons ⟨by decide, fun _ => rfl⟩ ?_)
    exact .cons ⟨by decide, fun h => absurd (by decide) h⟩
      (.cons ⟨by decide, fun h => absurd (by decide) h⟩ .nil)
  · refine .list (.cons (.object (.intro (.of_filter rfl) (.same _) ?_)) .nil)
    exact .list (.cons (.object (.intro (.of_filter rfl) hfields (.same _))) .nil)
  · exact .list (.cons (.object ⟨.of_filter rfl, hmethods⟩) .nil)

theorem load_respelled_otherwise :
    ∃ schema, Schema.load (spelledBy id) .null = .ok schema ∧
      Schema.load (spelledBy otherwise) .null = .ok schema := by
  obtain ⟨schema, h⟩ : ∃ schema, Schema.load (spelledBy id) .null = .ok schema := ⟨_, rfl⟩
  exact ⟨schema, h, (load_respelled alike_spelledBy .null).trans h⟩

end SchemaDocs
