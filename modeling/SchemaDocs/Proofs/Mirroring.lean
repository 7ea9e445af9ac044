import SchemaDocs.Proofs.Acceptance
import SchemaDocs.Proofs.Parts

/-!
# A schema has the shape of its records

A record lists other records under a few keys, and what it is loaded as lists
what these are loaded as, one for one and in their order. So the records are a
forest, the schema is a forest, and there is nothing in one that is not in the
other. `Mirrors` is this relation, from a record to what it is loaded as, level
by level.

The names are the one thing that a record does not have all of. A record knows
the simple name of what it declares, and the rest of the full name comes from
the outside, from the package and the messages on the way down. `NamedIn` says
so of a tree of messages: `scope` has these names, and it grows by one with
each message that is entered.
-/

namespace SchemaDocs

open Load (Record attribute?)

/-! ## The shape -/

/-- An object is read as something. -/
inductive Value.ReadAs {α : Type} (R : Record → α → Prop) : Value → α → Prop
  | intro {r : Record} {a : α} (h : R r a) : ReadAs R (.object r) a

/-- What is listed is read as a list, entry by entry, and nothing or null as
the empty list. -/
inductive ListedAs {α : Type} (R : Record → α → Prop) : Option Value → List α → Prop
  | absent : ListedAs R none []
  | null : ListedAs R (some .null) []
  | list {vs : List Value} {as : List α} (h : List.Forall₂ (Value.ReadAs R) vs as) :
      ListedAs R (some (.list vs)) as

/-- A number, or a text that spells it. -/
inductive Value.Spells : Value → Int → Prop
  | int (n : Int) : Spells (.int n) n
  | text {s : String} {n : Int} (h : Numeral.readInt? s = some n) : Spells (.text s) n

/-- A type name is what is left of a text without the white space around it. -/
inductive GivesType : Option Value → String → Prop
  | text {s : String} (h : s ≠ "") : GivesType (some (.text s)) (Text.trim s)

/-- What is absent, or counts as such, gives the label "optional". -/
inductive GivesLabel : Option Value → Label → Prop
  | absent : GivesLabel none .optional
  | falsy {v : Value} (h : v.isFalsy = true) : GivesLabel (some v) .optional
  | text (l : Label) : GivesLabel (some (.text l.text)) l

/-- A package that counts as absent is the empty one. -/
inductive GivesPackage : Option Value → String → Prop
  | falsy {v : Value} (h : v.isFalsy = true) : GivesPackage (some v) ""
  | text (s : String) : GivesPackage (some (.text s)) s

/-- The two types of a map are written out in its own or stand beside it. -/
inductive MapType.Mirrors (r : Record) : String → Option MapType → Prop
  | written {type key value : String} (h : MapNotation.parse? type = some (key, value)) :
      Mirrors r type (some { keyType := key, valueType := value })
  | apart {key value : String}
    (hkey : GivesType (attribute? r ["key_type", "keyType"]) key)
      (hvalue : GivesType (attribute? r ["value_type", "valueType"]) value) :
      Mirrors r "map" (some { keyType := key, valueType := value })
  | none {type : String} (hwritten : MapNotation.parse? type = none)
    (hmap : type ≠ "map") :
      Mirrors r type none

structure Field.Mirrors (r : Record) (f : Field) : Prop where
  name : attribute? r ["name"] = some (.text f.name)
  type : GivesType (attribute? r ["type", "type_name", "typeName"]) f.typeName
  map : MapType.Mirrors r f.typeName f.map
  label : ∃ l, GivesLabel (attribute? r ["label"]) l ∧
    f.label = if f.isMap then .repeated else l
  slot : f.typeRef = none

structure EnumValue.Mirrors (r : Record) (v : EnumValue) : Prop where
  name : attribute? r ["name"] = some (.text v.name)
  number : ∃ given, attribute? r ["number"] = some given ∧ given.Spells v.number

structure EnumDef.Mirrors (r : Record) (e : EnumDef) : Prop where
  name : attribute? r ["name"] = some (.text e.name)
  values : ListedAs EnumValue.Mirrors (attribute? r ["values"]) e.values

structure Method.Mirrors (r : Record) (m : Method) : Prop where
  name : attribute? r ["name"] = some (.text m.name)
  request : GivesType
    (attribute? r ["request_type", "requestType", "input_type", "inputType"])
      m.requestType
  response : GivesType
    (attribute? r ["response_type", "responseType", "output_type", "outputType"])
      m.responseType
  requestSlot : m.requestRef = none
  responseSlot : m.responseRef = none

structure Service.Mirrors (r : Record) (s : Service) : Prop where
  name : attribute? r ["name"] = some (.text s.name)
  methods : ListedAs Method.Mirrors (attribute? r ["methods"]) s.methods

inductive Message.Mirrors : Record → Message → Prop
  | intro {r : Record} {m : Message} (name : attribute? r ["name"] = some (.text m.name))
      (fields : ListedAs Field.Mirrors (attribute? r ["fields"]) m.fields)
      (messages : ListedAs Mirrors (attribute? r ["messages"]) m.messages)
      (enums : ListedAs EnumDef.Mirrors (attribute? r ["enums"]) m.enums) : Mirrors r m

structure File.Mirrors (r : Record) (f : File) : Prop where
  path : attribute? r ["path", "name"] = some (.text f.path)
  package : GivesPackage (attribute? r ["package"]) f.package
  messages : ListedAs Message.Mirrors (attribute? r ["messages"]) f.messages
  enums : ListedAs EnumDef.Mirrors (attribute? r ["enums"]) f.enums
  services : ListedAs Service.Mirrors (attribute? r ["services"]) f.services

/-! ## The names -/

/-- The full name and the file of what has a name in a scope. -/
structure NamedIn (path : String) (scope : List String)
    (name fullName filePath : String) :
    Prop where
  fullName : fullName = Text.join "." (scope ++ [name])
  filePath : filePath = path

/-- A message in a scope, and everything inside it in the scope of its own. -/
inductive Message.NamedIn (path : String) : List String → Message → Prop
  | intro {scope : List String} {m : Message}
      (self : SchemaDocs.NamedIn path scope m.name m.fullName m.filePath)
      (enums : ∀ e ∈ m.enums,
        SchemaDocs.NamedIn path (scope ++ [m.name]) e.name e.fullName e.filePath)
      (messages : ∀ n ∈ m.messages, NamedIn path (scope ++ [m.name]) n) :
      NamedIn path scope m

/-- A package is a name in front of the others, if there is one. -/
def packageScope (package : String) : List String :=
  if package = "" then [] else [package]

structure File.Named (f : File) : Prop where
  messages : ∀ m ∈ f.messages, m.NamedIn f.path (packageScope f.package)
  enums : ∀ e ∈ f.enums,
    NamedIn f.path (packageScope f.package) e.name e.fullName e.filePath
  services : ∀ s ∈ f.services,
    NamedIn f.path (packageScope f.package) s.name s.fullName s.filePath

/-- The empty names in a scope would be lost, but no scope has any. -/
theorem qualify_join {scope : List String} (h : "" ∉ scope) (name : String) :
    qualify (Text.join "." scope) name = Text.join "." (scope ++ [name]) := by
  cases scope with
  | nil => rfl
  | cons first rest =>
      rw [Text.join_concat "." (List.cons_ne_nil first rest), qualify_of_ne]
      intro hempty
      have hfirst : first = "" := by
        cases rest with
        | nil => exact hempty
        | cons next rest =>
            rw [Text.join.eq_3 _ _ _ (List.cons_ne_nil next rest),
              String.append_eq_empty_iff, String.append_eq_empty_iff] at hempty
            exact hempty.1.1
      exact h (hfirst ▸ List.mem_cons_self)

theorem packageScope_names (package : String) : "" ∉ packageScope package := by
  rw [packageScope]
  split
  · exact List.not_mem_nil
  · next h => simpa using Ne.symm h

theorem join_packageScope (package : String) :
    Text.join "." (packageScope package) = package := by
  rw [packageScope]
  split
  · next h => exact h.symm
  · rfl

/-! ## Attributes -/

section

variable {place : Place} {r : Record}

theorem givesType_of_requiredText {fault : RecordFault} {given : Option Value}
    {s : String}
    (h : Load.requiredText place fault given = .ok s) :
    GivesType given (Text.trim s) := by
  obtain ⟨rfl, hs⟩ := Load.requiredText_eq_ok_iff.1 h
  exact .text hs

theorem name_given {name : String} (h : Load.name place r = .ok name) :
    attribute? r ["name"] = some (.text name) ∧ name ≠ "" :=
  Load.requiredText_eq_ok_iff.1 h

theorem givesLabel_of_label {l : Label} (h : Load.label place r = .ok l) :
    GivesLabel (attribute? r ["label"]) l := by
  rw [Load.label] at h
  split at h
  · next hr =>
    cases h
    exact hr ▸ .absent
  · next v hr =>
    rw [hr]
    split at h
    · next hfalsy =>
      cases h
      exact .falsy hfalsy
    · split at h
      · next s =>
        split at h
        · next hl =>
          cases h
          rw [← Label.ofText?_eq_some_iff.1 hl]
          exact .text l
        · cases h
      · cases h

theorem givesPackage_of_package {package : String}
    (h : Load.package place r = .ok package) :
    GivesPackage (attribute? r ["package"]) package := by
  rw [Load.package] at h
  split at h
  · cases h
  · next v hr =>
    rw [hr]
    split at h
    · next hfalsy =>
      cases h
      exact .falsy hfalsy
    · split at h
      · cases h
        exact .text package
      · cases h

theorem spells_of_number {n : Int} (h : Load.number place r = .ok (some n)) :
    ∃ given, attribute? r ["number"] = some given ∧ given.Spells n := by
  rw [Load.number] at h
  split at h
  · cases h
  · cases h
  · cases h
  · next hr =>
    cases h
    exact ⟨_, hr, .int n⟩
  · next s hr =>
    split at h
    · next hs =>
      cases h
      exact ⟨_, hr, .text hs⟩
    · cases h
  · cases h

theorem mirrors_of_mapType {type : String} {map : Option MapType}
    (h : Load.mapType place r type = .ok map) : MapType.Mirrors r type map := by
  rw [Load.mapType] at h
  split at h
  · next hwritten =>
    cases h
    exact .written hwritten
  · next hwritten =>
    split at h
    · next hmap =>
      cases h
      exact .none hwritten hmap
    · next hmap =>
      rw [not_not] at hmap
      obtain ⟨key, hkey, h⟩ := bind_eq_ok_iff.1 h
      obtain ⟨value, hvalue, h⟩ := bind_eq_ok_iff.1 h
      cases h
      rw [hmap]
      exact .apart (givesType_of_requiredText hkey) (givesType_of_requiredText hvalue)

/-- Entries that are read one by one. -/
theorem listedAs_of_mapM {α : Type} {R : Record → α → Prop} {key : String}
    {vs : List Value}
    {f : Value → Load.Result α} {as : List α} (hvs : Load.list place r key = .ok vs)
    (has : vs.mapM f = .ok as) (hread : ∀ v a, f v = .ok a → v.ReadAs R a) :
    ListedAs R (attribute? r [key]) as := by
  rw [mapM_eq_ok_iff] at has
  rw [Load.list] at hvs
  split at hvs
  · next hr =>
    cases hvs
    cases has
    exact hr ▸ .absent
  · next hr =>
    cases hvs
    cases has
    exact hr ▸ .null
  · next hr =>
    cases hvs
    exact hr ▸ .list (has.imp hread)
  · cases hvs

theorem forall_of_mapM {α : Type} {P : α → Prop} {vs : List Value}
    {f : Value → Load.Result α}
    {as : List α} (has : vs.mapM f = .ok as) (hgood : ∀ v a, f v = .ok a → P a) :
    ∀ a ∈ as, P a :=
  Ensures.mapM (fun v _ => hgood v) as has

end

/-! ## Records -/

theorem mirrors_of_field {place : Place} {v : Value} {f : Field}
    (h : Load.field place v = .ok f) : v.ReadAs Field.Mirrors f := by
  simp only [Load.field, bind_eq_ok_iff, Load.object_eq_ok_iff, pure, Except.pure,
    Except.ok.injEq] at h
  obtain ⟨r, rfl, name, hname, type, htype, label, hlabel, map, hmap, -, -, -, -, rfl⟩ :=
    h
  exact .intro {
    name := (name_given hname).1
    type := givesType_of_requiredText htype
    map := mirrors_of_mapType hmap
    label := ⟨label, givesLabel_of_label hlabel, rfl⟩
    slot := rfl }

theorem mirrors_of_enumValue {place : Place} {v : Value} {w : EnumValue}
    (h : Load.enumValue place v = .ok w) : v.ReadAs EnumValue.Mirrors w := by
  simp only [Load.enumValue, bind_eq_ok_iff, Load.object_eq_ok_iff] at h
  obtain ⟨r, rfl, name, hname, number, hnumber, h⟩ := h
  cases number with
  | none => cases h
  | some n =>
      simp only [bind_eq_ok_iff, pure, Except.pure, Except.ok.injEq] at h
      obtain ⟨-, -, rfl⟩ := h
      exact .intro ⟨(name_given hname).1, spells_of_number hnumber⟩

theorem mirrors_of_method {place : Place} {v : Value} {m : Method}
    (h : Load.method place v = .ok m) : v.ReadAs Method.Mirrors m := by
  simp only [Load.method, bind_eq_ok_iff, Load.object_eq_ok_iff, pure, Except.pure,
    Except.ok.injEq] at h
  obtain ⟨r, rfl, name, hname, request, hrequest, response, hresponse,
    -, -, -, -, -, -, rfl⟩ := h
  exact .intro {
    name := (name_given hname).1
    request := givesType_of_requiredText hrequest
    response := givesType_of_requiredText hresponse
    requestSlot := rfl
    responseSlot := rfl }

section

variable {path : String} {scope : List String} (hscope : "" ∉ scope)

include hscope

theorem mirrors_of_enumDef {v : Value} {e : EnumDef}
    (h : Load.enumDef path (Text.join "." scope) v = .ok e) :
    v.ReadAs EnumDef.Mirrors e ∧ NamedIn path scope e.name e.fullName e.filePath := by
  simp only [Load.enumDef, bind_eq_ok_iff, Load.object_eq_ok_iff, pure, Except.pure,
    Except.ok.injEq] at h
  obtain ⟨r, rfl, name, hname, vs, hvs, values, hvalues, -, -, rfl⟩ := h
  have hread := listedAs_of_mapM hvs hvalues fun _ _ => mirrors_of_enumValue
  exact ⟨.intro ⟨(name_given hname).1, hread⟩, qualify_join hscope name, rfl⟩

theorem mirrors_of_service {v : Value} {s : Service}
    (h : Load.service path (Text.join "." scope) v = .ok s) :
    v.ReadAs Service.Mirrors s ∧ NamedIn path scope s.name s.fullName s.filePath := by
  simp only [Load.service, bind_eq_ok_iff, Load.object_eq_ok_iff, pure, Except.pure,
    Except.ok.injEq] at h
  obtain ⟨r, rfl, name, hname, vs, hvs, methods, hmethods, -, -, rfl⟩ := h
  have hread := listedAs_of_mapM hvs hmethods fun _ _ => mirrors_of_method
  exact ⟨.intro ⟨(name_given hname).1, hread⟩, qualify_join hscope name, rfl⟩

omit hscope in
/-- By the depth to which a message is read. One step further in, its name is
the last of the scope. -/
theorem mirrors_of_message {fuel : Nat} :
    ∀ {scope : List String} {v : Value} {m : Message},
    "" ∉ scope → Load.message fuel path (Text.join "." scope) v = .ok m →
    v.ReadAs Message.Mirrors m ∧ m.NamedIn path scope := by
  induction fuel with
  | zero => exact fun _ h => nomatch h
  | succ fuel ih =>
      intro scope v m hscope h
      simp only [Load.message, bind_eq_ok_iff, Load.object_eq_ok_iff, pure, Except.pure,
        Except.ok.injEq] at h
      obtain ⟨r, rfl, name, hname, fs, hfs, fields, hfields, ms, hms, messages, hmessages,
        es, hes, enums, henums, -, -, rfl⟩ := h
      obtain ⟨hgiven, hne⟩ := name_given hname
      have hinner : "" ∉ scope ++ [name] := by
        rw [List.mem_append, List.mem_singleton, not_or]
        exact ⟨hscope, Ne.symm hne⟩
      rw [qualify_join hscope] at hmessages henums
      constructor
      · refine .intro (.intro hgiven ?_ ?_ ?_)
        · exact listedAs_of_mapM hfs hfields fun _ _ => mirrors_of_field
        · exact listedAs_of_mapM hms hmessages fun _ _ hn => (ih hinner hn).1
        · exact listedAs_of_mapM hes henums fun _ _ he => (mirrors_of_enumDef hinner he).1
      · refine .intro ⟨qualify_join hscope name, rfl⟩ ?_ ?_
        · exact forall_of_mapM henums fun _ _ he => (mirrors_of_enumDef hinner he).2
        · exact forall_of_mapM hmessages fun _ _ hn => (ih hinner hn).2

end

theorem mirrors_of_file {i : Nat} {v : Value} {f : File} (h : Load.file i v = .ok f) :
    v.ReadAs File.Mirrors f ∧ f.Named := by
  simp only [Load.file_eq, bind_eq_ok_iff, Load.object_eq_ok_iff, pure, Except.pure,
    Except.ok.injEq] at h
  obtain ⟨r, rfl, path, hpath, package, hpackage, -, -, -, -,
    ms, hms, messages, hmessages,
    es, hes, enums, henums, ss, hss, services, hservices, -, -, rfl⟩ := h
  have hscope := packageScope_names package
  rw [← join_packageScope package] at hmessages henums hservices
  constructor
  · refine .intro {
      path := (Load.requiredText_eq_ok_iff.1 hpath).1
      package := givesPackage_of_package hpackage
      messages := ?_, enums := ?_, services := ?_ }
    · exact listedAs_of_mapM hms hmessages fun _ _ hm => (mirrors_of_message hscope hm).1
    · exact listedAs_of_mapM hes henums fun _ _ he => (mirrors_of_enumDef hscope he).1
    · exact listedAs_of_mapM hss hservices fun _ _ hs => (mirrors_of_service hscope hs).1
  · constructor
    · exact forall_of_mapM hmessages fun _ _ hm => (mirrors_of_message hscope hm).2
    · exact forall_of_mapM henums fun _ _ he => (mirrors_of_enumDef hscope he).2
    · exact forall_of_mapM hservices fun _ _ hs => (mirrors_of_service hscope hs).2

theorem mirrors_of_files {records : List Value} : ∀ {i : Nat} {files : List File},
    Load.files i records = .ok files →
    List.Forall₂ (Value.ReadAs File.Mirrors) records files ∧ ∀ f ∈ files, f.Named := by
  induction records with
  | nil =>
      rintro i files ⟨⟩
      exact ⟨.nil, fun f hf => nomatch hf⟩
  | cons v rest ih =>
      intro i files h
      simp only [Load.files, bind_eq_ok_iff, pure, Except.pure, Except.ok.injEq] at h
      obtain ⟨f, hf, fs, hfs, rfl⟩ := h
      obtain ⟨hfirst, hnamed⟩ := mirrors_of_file hf
      obtain ⟨hrest, hall⟩ := ih hfs
      exact ⟨.cons hfirst hrest, List.forall_mem_cons.2 ⟨hnamed, hall⟩⟩

theorem files_of_load {raw routeBase : Value} {schema : Schema}
    (h : Schema.load raw routeBase = .ok schema) :
    ∃ records, raw.Describes records ∧ Load.files 0 records = .ok schema.files := by
  obtain ⟨records, hraw⟩ := describes_of_load h
  rw [Schema.load_eq hraw] at h
  obtain ⟨base, -, h⟩ := bind_eq_ok_iff.1 h
  obtain ⟨files, hfiles, h⟩ := bind_eq_ok_iff.1 h
  cases h
  exact ⟨records, hraw, hfiles⟩

/-- What is loaded has the shape of the records, with the same simple names in
the same places, no slot filled, and the labels that the records give but for
maps, which are repeated. Full names are put together from the package, the
messages around and the simple name, and everything knows its file. -/
theorem load_mirrors {raw routeBase : Value} {schema : Schema}
    (h : Schema.load raw routeBase = .ok schema) :
    (∃ records, raw.Describes records ∧
      List.Forall₂ (Value.ReadAs File.Mirrors) records schema.files) ∧
    ∀ f ∈ schema.files, f.Named := by
  obtain ⟨records, hraw, hfiles⟩ := files_of_load h
  obtain ⟨hmirrors, hnamed⟩ := mirrors_of_files hfiles
  exact ⟨⟨records, hraw, hmirrors⟩, hnamed⟩

/-- Messages in messages, an enum with one number for two names, a map, lists
that are null, and a file without a package. -/
def severalShapes : Value := .object [("files", .list [
  .object [
    ("name", .text "a.proto"), ("package", .text "p.q"),
    ("messages", .list [.object [
      ("name", .text "Outer"), ("fields", .null),
      ("messages", .list [.object [
        ("name", .text "Inner"),
        ("fields", .list [.object [
          ("name", .text "tags"), ("typeName", .text " map < string , .p.q.Outer > "),
          ("label", .text "required")]]),
        ("enums", .list [.object [
          ("name", .text "State"),
          ("values", .list [
            .object [("name", .text "ON"), ("number", .int 1)],
            .object [("name", .text "OPEN"), ("number", .text " 1 ")]])]])]])]])],
  .object [
    ("path", .text "b.proto"), ("package", .null),
    ("messages", .list [.object [
      ("name", .text "Top"), ("messages", .list [.object [("name", .text "Sub")]])]]),
    ("services", .list [.object [
      ("name", .text "S"),
      ("methods", .list [.object [
        ("name", .text "Get"), ("inputType", .text "Top"),
        ("outputType", .text "Top.Sub")]])]])]])]

theorem load_mirrors_nested :
    ∃ schema, Schema.load severalShapes .null = .ok schema ∧
      (∃ records, severalShapes.Describes records ∧
        List.Forall₂ (Value.ReadAs File.Mirrors) records schema.files) ∧
      ∀ f ∈ schema.files, f.Named := by
  obtain ⟨schema, h⟩ : ∃ schema, Schema.load severalShapes .null = .ok schema := ⟨_, rfl⟩
  exact ⟨schema, h, load_mirrors h⟩

end SchemaDocs
