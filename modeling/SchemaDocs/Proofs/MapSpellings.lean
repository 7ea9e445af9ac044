import SchemaDocs.Proofs.Links
import SchemaDocs.Proofs.MapTexts
import SchemaDocs.Proofs.Outcome
import SchemaDocs.Proofs.Variants

/-!
# Two spellings of a map

A field that is a map writes its type out, or it calls its type "map" and has
the types of keys and values beside it. Both load as the same field, but for
the type name that the field keeps, and nothing reads this name any more: what
is looked up are the names of the key and the value, and what is shown is what
was found for them.

`uniform` forgets the type names of maps. It goes with every stage like any
change, and once the slots are filled it does not show on the pages.
-/

namespace SchemaDocs

open Load (Record attribute?)
open MapNotation (IsName written)

/-! ## The two spellings -/

/-- A record with the type of a map written out, and the same record with the
types of keys and values beside it. -/
structure MapSpelled (gaps : Fin 7 → String) (key value : String) (r r' : Record) :
    Prop where
  gaps_blank : ∀ i, Text.Blank (gaps i)
  key_name : IsName key
  value_name : IsName value
  others : AgreeBut ["type", "type_name", "typeName", "key_type", "keyType", "value_type",
    "valueType"] r r'
  type : attribute? r ["type", "type_name", "typeName"] =
    some (.text (written gaps key value))
  type' : attribute? r' ["type", "type_name", "typeName"] = some (.text "map")
  key' : attribute? r' ["key_type", "keyType"] = some (.text key)
  value' : attribute? r' ["value_type", "valueType"] = some (.text value)

def MapRespelled (r r' : Record) : Prop :=
  ∃ gaps key value, MapSpelled gaps key value r r'

/-- Two fields with one map that differ at most in their type names. -/
structure Field.SameMap (key value : String) (f f' : Field) : Prop where
  map : f.map = some { keyType := key, valueType := value }
  rest : f' = { f with typeName := f'.typeName }

theorem MapSpelled.load {gaps : Fin 7 → String} {key value : String} {r r' : Record}
    (h : MapSpelled gaps key value r r') (place : Place) :
    Alongside Eq (Field.SameMap key value) (Load.field place (.object r))
      (Load.field place (.object r')) := by
  have hname := h.others.name_eq (by decide)
  have hlabel (place : Place) : Load.label place r' = Load.label place r := by
    rw [Load.label, Load.label, h.others.attribute?_eq _ (by decide)]
  have hnumber (place : Place) : Load.number place r' = Load.number place r := by
    rw [Load.number, Load.number, h.others.attribute?_eq _ (by decide)]
  have hdescription := h.others.description_eq (by decide)
  have honeof : Load.oneof r' = Load.oneof r := by
    rw [Load.oneof, Load.oneof, h.others.attribute?_eq _ (by decide)]
  have hdefault : Load.defaultValue r' = Load.defaultValue r := by
    rw [Load.defaultValue, Load.defaultValue, h.others.attribute?_eq _ (by decide)]
  have hmap (place : Place) : Load.mapType place r (Text.trim (written gaps key value)) =
      .ok (some { keyType := key, valueType := value }) := by
    rw [Load.mapType,
      MapNotation.parse?_trim_written h.gaps_blank h.key_name h.value_name]
    rfl
  have hmap' (place : Place) : Load.mapType place r' (Text.trim "map") =
      .ok (some { keyType := key, valueType := value }) := by
    have htrim : Text.trim "map" = "map" := by decide
    have hnone : MapNotation.parse? "map" = none := by decide
    rw [htrim, Load.mapType, hnone, h.key', h.value',
      Load.requiredText_eq_ok h.key_name.nonempty,
      Load.requiredText_eq_ok h.value_name.nonempty]
    simp only [ok_bind_eq, h.key_name.trimmed.trim_eq, h.value_name.trimmed.trim_eq]
    rfl
  have hwritten : written gaps key value ≠ "" := by
    intro hempty
    have hparse := MapNotation.parse?_trim_written h.gaps_blank h.key_name h.value_name
    have hnone : MapNotation.parse? (Text.trim "") = none := by decide
    rw [hempty, hnone] at hparse
    cases hparse
  simp only [Load.field, Load.object, ok_bind_eq, hname, hlabel,
    hnumber, hdescription, honeof, hdefault, h.type, h.type',
    Load.requiredText_eq_ok hwritten,
    Load.requiredText_eq_ok (show "map" ≠ "" by decide), hmap, hmap']
  refine .behind _ fun name => .behind _ fun label => .behind _ fun number =>
    .behind _ fun description => ?_
  exact .ok ⟨rfl, rfl⟩

/-! ## Forgetting how a map was written -/

def uniform : Change where
  field f := { f with typeName := bif f.isMap then "map" else f.typeName }
  values := id
  text := id
  field_name _ := rfl
  field_typeName f hmap := by
    have hnone : f.isMap = false := by rw [Field.isMap, hmap]; rfl
    rw [hnone, cond_false]
  field_filled f map ref hmap := by simp only [Field.isMap, hmap]

theorem Field.SameMap.uniform_eq {key value : String} {f f' : Field}
    (h : f.SameMap key value f') : uniform.field f' = uniform.field f := by
  obtain ⟨hmap, hrest⟩ := h
  generalize f'.typeName = type at hrest
  subst hrest
  simp only [uniform, Field.isMap, hmap, Option.isSome_some, cond_true]

theorem uniform_enum : uniform.enum = id := rfl

theorem uniform_service : uniform.service = id := by
  have hmethod : uniform.method = id := rfl
  funext s
  rw [Change.service, hmethod, List.map_id]
  rfl

/-! ## Pages with filled slots -/

section

variable (links : LinkTable) (index : Index)

theorem bindField_uniform (scope : String) (f : Field) :
    bindField links (uniform.field (index.fillField scope f)) =
      bindField links (index.fillField scope f) := by
  cases hm : f.map with
  | none =>
      have hfill : (index.fillField scope f).isMap = false := by
        simp only [Index.fillField, hm, Field.isMap, Option.isSome_none]
      simp only [uniform, hfill, cond_false]
  | some m =>
      -- the reference of the field is there, so its type name is not shown
      simp only [Index.fillField, hm, bindField]
      cases index.reference scope m.valueType <;> rfl

theorem bindMessage_uniform (m : Message) :
    bindMessage links (uniform.message (index.fillMessage m)) =
      bindMessage links (index.fillMessage m) := by
  induction m using Message.nestedInduction with
  | step m ih =>
      obtain ⟨name, fullName, fields, messages, enums, description, path⟩ := m
      have hfields : ((fields.map (index.fillField fullName)).map uniform.field).map
          (bindField links) =
            (fields.map (index.fillField fullName)).map (bindField links) := by
        rw [List.map_map, List.map_map, List.map_map]
        exact List.map_congr_left fun f _ => bindField_uniform links index fullName f
      have hmessages : ((messages.map index.fillMessage).map uniform.message).map
          (bindMessage links) =
            (messages.map index.fillMessage).map (bindMessage links) := by
        rw [List.map_map, List.map_map, List.map_map]
        exact List.map_congr_left ih
      rw [Index.fillMessage, Change.message, bindMessage, bindMessage,
        uniform.messageAll_eq_map, bindMessages_eq_map, bindMessages_eq_map,
        Index.fillMessages_eq_map, hfields, hmessages,
        uniform_enum, List.map_id]
      rfl

variable {links index}

theorem Page.bind_uniform {p : Page} {f : File} (hfile : p.file = index.fillFile f) :
    (uniform.page p).bind links = p.bind links := by
  have hmessages : bindMessages links (uniform.page p).file.messages =
      bindMessages links p.file.messages := by
    rw [bindMessages_eq_map, bindMessages_eq_map, Change.page,
      Change.file, List.map_map, hfile, Index.fillFile, Index.fillMessages_eq_map,
      List.map_map, List.map_map]
    exact List.map_congr_left fun m _ => bindMessage_uniform links index m
  have henums : (uniform.page p).file.enums = p.file.enums := List.map_id _
  have hservices : (uniform.page p).file.services = p.file.services := by
    rw [Change.page, Change.file, uniform_service]
    exact List.map_id _
  rw [Page.bind, Page.bind, hmessages, henums, hservices]
  rfl

theorem Accepted.bind_uniform {raw routeBase : Value} {schema : Schema} {r : Resolution}
    {site : Site} (h : Accepted raw routeBase schema r site) :
    ∀ p ∈ site.pages, (uniform.page p).bind site.links = p.bind site.links := by
  intro p hp
  have hfile : p.file ∈ site.pages.map Page.file := List.mem_map_of_mem hp
  rw [h.map_file] at hfile
  obtain ⟨f, -, hf⟩ := List.mem_map.1 hfile
  exact Page.bind_uniform hf.symm

end

/-! ## The stages -/

/-- The same failure: what kind it is, and what is said about it. -/
structure ResolveError.Same (e e' : ResolveError) : Prop where
  kind : e'.kind = e.kind
  message : e'.message = e.message

structure GenerateError.Same (e e' : GenerateError) : Prop where
  kind : e'.kind = e.kind
  message : e'.message = e.message

/-- The same references everywhere, those of maps included, and the same names
without a meaning. Only the type names of maps may be different. -/
structure Resolution.SameRefs (r r' : Resolution) : Prop where
  files : r'.files.map uniform.file = r.files.map uniform.file
  unresolved : r'.unresolved = r.unresolved

/-- The same pages, as what they show and as texts, with the same links, names
without a meaning and navigation. -/
structure Generation.SamePages (g g' : Generation) : Prop where
  bindings : g'.documents.map (fun d => d.page.bind g'.links) =
    g.documents.map fun d => d.page.bind g.links
  texts : g'.documents.map Document.text = g.documents.map Document.text
  links : g'.links = g.links
  warnings : g'.warnings = g.warnings
  others : uniform.generation g' = uniform.generation g

theorem ResolveError.Same.of_uniform {e e' : ResolveError}
    (h : uniform.resolveError e' = uniform.resolveError e) : ResolveError.Same e e' := by
  have hkind (e : ResolveError) :
      (uniform.resolveError e).kind = e.kind := by cases e <;> rfl
  constructor
  · rw [← hkind e', h, hkind]
  · rw [← uniform.message_resolveError e', h, uniform.message_resolveError]

theorem load_mapRespelled {raw raw' : Value}
    (h : Alike (SchemaVaries (FileVaries MapRespelled Eq)) raw raw') (routeBase : Value) :
    Alongside Eq (fun s s' => uniform.schema s' = uniform.schema s)
      (Schema.load raw routeBase) (Schema.load raw' routeBase) := by
  refine SchemaVaries.load (fun place v v' hv => ?_) (fun place v v' hv => ?_) h routeBase
  · cases hv with
    | same =>
        refine .same (fun _ => rfl) ?_ _
        exact fun _ => rfl
    | object h =>
        obtain ⟨gaps, key, value, h⟩ := h
        exact (h.load place).imp fun f f' hf => hf.uniform_eq
  · have hsame : v' = v := by
      cases hv with
      | same => rfl
      | object h => rw [h]
    exact .of_eq (fun _ => rfl) (fun _ => rfl) (congrArg _ hsame)

section

variable {s s' : Schema} (h : uniform.schema s' = uniform.schema s)

include h

theorem routeBase_uniform : s'.routeBase = s.routeBase := by
  have hbase := congrArg Schema.routeBase h
  exact hbase

theorem resolve_uniform :
    Alongside ResolveError.Same Resolution.SameRefs (resolve s.files)
      (resolve s'.files) := by
  have hfiles : s'.files.map uniform.file = s.files.map uniform.file :=
    congrArg Schema.files h
  refine (uniform.resolve_alongside hfiles).mono (fun _ _ he => .of_uniform he)
    fun r r' hr => ?_
  have hunresolved := congrArg Resolution.unresolved hr
  exact ⟨congrArg Resolution.files hr, hunresolved⟩

end

/-- What the pages of a site show does not depend on how maps were written. -/
theorem layOutSite_bindings {s : Site} {g : Generation} {style : Layout.Style}
    {unresolved : List UnresolvedReference}
    (hbind : ∀ p ∈ s.pages, (uniform.page p).bind s.links = p.bind s.links)
    (h : layOutSite style s unresolved = .ok g) :
    g.documents.map (fun d => d.page.bind g.links) =
      (uniform.site s).pages.map (Page.bind (uniform.site s).links) := by
  obtain ⟨documents, ⟨hpages, -⟩, nodes, -, rfl⟩ := layOutSite_eq_ok_iff.1 h
  have hshown : documents.map (fun d => d.page.bind s.links) =
      s.pages.map (Page.bind s.links) := by
    rw [← hpages, List.map_map]
    rfl
  rw [Change.site, List.map_map, hshown]
  exact List.map_congr_left fun p hp => (hbind p hp).symm

theorem generate_mapRespelled {raw raw' : Value}
    (h : Alike (SchemaVaries (FileVaries MapRespelled Eq)) raw raw') (routeBase : Value)
    (template : Option String) :
    Alongside GenerateError.Same Generation.SamePages (generate raw routeBase template)
      (generate raw' routeBase template) := by
  have hsame (e : GenerateError) : GenerateError.Same e e := ⟨rfl, rfl⟩
  rw [generate, generate]
  refine ((load_mapRespelled h routeBase).attach.mapError
    fun e _ he => he ▸ hsame _).bind ?_
  rintro s s' ⟨hs, hload, hload'⟩
  refine ((resolve_uniform hs).attach.mapError fun e e' he =>
    ⟨he.kind, he.message⟩).bind ?_
  rintro r r' ⟨⟨hfiles, hunresolved⟩, hr, hr'⟩
  have hbase := routeBase_uniform hs
  rw [hbase]
  refine ((uniform.buildSite_alongside hfiles s.routeBase).attach.mapError
    fun e _ he => he ▸ hsame _).bind ?_
  rintro site site' ⟨hsite, hb, hb'⟩
  have haccepted : Accepted raw routeBase s r site := ⟨hload, hr, hb⟩
  have haccepted' : Accepted raw' routeBase s' r' site' := ⟨hload', hr', hbase ▸ hb'⟩
  have hbind := haccepted.bind_uniform
  have hbind' := haccepted'.bind_uniform
  refine (Alongside.same hsame (fun _ => rfl) _).bind ?_
  rintro style _ rfl
  rw [hunresolved]
  refine (uniform.layOutSite_alongside hsite hbind hbind' style r.unresolved).attach.mono
    (fun e _ he => he ▸ hsame _) ?_
  rintro g g' ⟨hg, hlaid, hlaid'⟩
  have hlinks := congrArg Generation.links hg
  have hunresolved := congrArg Generation.unresolved hg
  have htexts (g : Generation) : (uniform.generation g).documents.map Document.text =
      g.documents.map Document.text := by
    rw [Change.generation, List.map_map]
    rfl
  constructor
  · rw [layOutSite_bindings hbind hlaid, layOutSite_bindings hbind' hlaid', hsite]
  · rw [← htexts g', hg, htexts]
  · exact hlinks
  · exact congrArg (List.map UnresolvedReference.name) hunresolved
  · exact hg

/-- Whether maps are spelled in one way or the other makes no difference. -/
theorem map_spellings_agree :
    (∀ gaps key value r r', MapSpelled gaps key value r r' → ∀ place,
      Alongside Eq (Field.SameMap key value) (Load.field place (.object r))
        (Load.field place (.object r'))) ∧
    ∀ raw raw', Alike (SchemaVaries (FileVaries MapRespelled Eq)) raw raw' → ∀ routeBase,
      Alongside Eq
        (fun s s' => Alongside ResolveError.Same Resolution.SameRefs (resolve s.files)
          (resolve s'.files))
        (Schema.load raw routeBase) (Schema.load raw' routeBase) ∧
      ∀ template, Alongside GenerateError.Same Generation.SamePages
        (generate raw routeBase template) (generate raw' routeBase template) := by
  refine ⟨fun gaps key value r r' h => h.load, fun raw raw' h routeBase => ⟨?_, ?_⟩⟩
  · exact (load_mapRespelled h routeBase).imp fun s s' hs => resolve_uniform hs
  · exact generate_mapRespelled h routeBase

/-- White space of several kinds around the parts of a map type. -/
def someGaps (i : Fin 7) : String :=
  if i.val % 3 = 0 then " " else if i.val % 3 = 1 then "" else "\t\u2003\n"

def tagsWritten : Record := [
  ("name", .text "tags"),
  ("type_name", .text (written someGaps "string" ".p.Outer.Inner")),
  ("key_type", .int 3), ("number", .int 4)]

def tagsApart : Record := [
  ("name", .text "tags"), ("valueType", .text ".p.Outer.Inner"), ("number", .int 4),
  ("key_type", .text "string"), ("type", .text "map")]

theorem mapSpelled_tags :
    MapSpelled someGaps "string" ".p.Outer.Inner" tagsWritten tagsApart where
  gaps_blank i := by
    have hall : ∀ i, (someGaps i).toList.all Text.isBlank = true := by decide
    exact List.all_eq_true.1 (hall i)
  key_name := by decide
  value_name := by decide
  others := .of_filter rfl
  type := rfl
  type' := rfl
  key' := rfl
  value' := rfl

/-- A message that has itself in a map, for both spellings. -/
def nestedTags (tags : Record) : Value :=
  .object [("files", .list [.object [
    ("path", .text "a.proto"), ("package", .text "p"),
    ("messages", .list [.object [
      ("name", .text "Outer"),
      ("messages", .list [.object [
        ("name", .text "Inner"), ("fields", .list [.object tags])]])]])]])]

theorem alike_nestedTags :
    Alike (SchemaVaries (FileVaries MapRespelled Eq)) (nestedTags tagsWritten)
      (nestedTags tagsApart) := by
  have hmap : MapRespelled tagsWritten tagsApart := ⟨_, _, _, mapSpelled_tags⟩
  have hfields := ListedAlike.list (.cons (.object hmap) .nil)
  refine .object ⟨.list (.cons (.object ⟨rfl, .of_filter rfl, ?_, .same _⟩) .nil)⟩
  refine .list (.cons (.object (.intro (.of_filter rfl) (.same _) ?_)) .nil)
  exact .list (.cons (.object (.intro (.of_filter rfl) hfields (.same _))) .nil)

theorem map_spellings_agree_tags :
    (∃ f f', Load.field [] (.object tagsWritten) = .ok f ∧
      Load.field [] (.object tagsApart) = .ok f' ∧ f.typeName ≠ f'.typeName ∧
      f.SameMap "string" ".p.Outer.Inner" f') ∧
    ∃ g g', generate (nestedTags tagsWritten) (.text "docs") none = .ok g ∧
      generate (nestedTags tagsApart) (.text "docs") none = .ok g' ∧ g.SamePages g' := by
  constructor
  · have hload := map_spellings_agree.1 _ _ _ _ _ mapSpelled_tags []
    have hok : ∃ f f', Load.field [] (.object tagsWritten) = .ok f ∧
        Load.field [] (.object tagsApart) = .ok f' ∧ f.typeName ≠ f'.typeName :=
      ⟨_, _, rfl, rfl, by decide⟩
    obtain ⟨f, f', hf, hf', hne⟩ := hok
    rw [hf, hf'] at hload
    cases hload with
    | ok hsame => exact ⟨f, f', hf, hf', hne, hsame⟩
  · have haccepted : ∃ schema r site,
        Accepted (nestedTags tagsWritten) (.text "docs") schema r site :=
          ⟨_, _, _, rfl, rfl, rfl⟩
    obtain ⟨_, _, _, haccepted⟩ := haccepted
    obtain ⟨g, h⟩ := haccepted.exists_generation
    have hpages := (map_spellings_agree.2 _ _ alike_nestedTags (.text "docs")).2 none
    rw [h] at hpages
    generalize generate (nestedTags tagsApart) (.text "docs") none = outcome at hpages ⊢
    cases hpages with
    | ok hsame => exact ⟨g, _, h, rfl, hsame⟩

end SchemaDocs
