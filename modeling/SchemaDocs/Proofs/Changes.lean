import SchemaDocs.Proofs.Documents
import SchemaDocs.Proofs.Walk

/-!
# Changes that go with every stage

A schema is changed in its fields, in the values of its enums and in its
descriptions. As long as a change leaves the names of fields and the types
that are looked up, it makes no difference whether a schema is changed before
a stage or what the stage gives is changed after it. This holds of the index
of names, of resolution, of the pages and of the navigation, for the failures
of these stages too.

So a stage tells two schemas apart only as far as they are different after
every such change. Two changes are of use later on: one that takes away what
is only shown, and one that forgets how the type of a map was written.
-/

namespace SchemaDocs

/-! ## Trees -/

namespace NavTree

variable {α β γ : Type}

theorem mapAll_append (f : α → β) (ts us : List (NavTree α)) :
    mapAll f (ts ++ us) = mapAll f ts ++ mapAll f us := by
  induction ts with
  | nil => rfl
  | cons t rest ih => rw [List.cons_append, mapAll, mapAll, ih, List.cons_append]

theorem mapAll_enter (f : α → β) {label : String}
    {change : List (NavTree α) → List (NavTree α)}
    {change' : List (NavTree β) → List (NavTree β)}
    (h : ∀ ts, mapAll f (change ts) = change' (mapAll f ts)) (ts : List (NavTree α)) :
    mapAll f (enter label change ts) = enter label change' (mapAll f ts) := by
  induction ts with
  | nil => simp only [enter, mapAll, map, h]
  | cons t rest ih =>
      cases t with
      | leaf l page => simp only [enter, mapAll, map, ih]
      | group l children =>
          simp only [enter, mapAll, map]
          split
          · rw [mapAll, map, h]
          · rw [mapAll, map, ih]

theorem mapAll_insert (f : α → β) (label : String) (page : α) (segments : List String)
    (ts : List (NavTree α)) :
    mapAll f (insert label page segments ts) =
      insert label (f page) segments (mapAll f ts) := by
  induction segments generalizing ts with
  | nil => rw [insert, insert, mapAll_append, mapAll, mapAll, map]
  | cons segment rest ih => exact mapAll_enter f ih ts

mutual

theorem map_map (f : α → β) (g : β → γ) : ∀ t : NavTree α, (t.map f).map g = t.map (g ∘ f)
  | .leaf label page => by rw [map, map, map, Function.comp_apply]
  | .group label children => by rw [map, map, map, mapAll_mapAll f g children]

theorem mapAll_mapAll (f : α → β) (g : β → γ) : ∀ ts : List (NavTree α),
    mapAll g (mapAll f ts) = mapAll (g ∘ f) ts
  | [] => by rw [mapAll, mapAll, mapAll]
  | t :: rest => by rw [mapAll, mapAll, mapAll, map_map f g t, mapAll_mapAll f g rest]

end

end NavTree

/-! ## Changes -/

/-- A change of what a schema says about its fields, its enums and itself. -/
structure Change where
  field : Field → Field
  values : List EnumValue → List EnumValue
  text : String → String
  field_name : ∀ f, (field f).name = f.name
  /-- The type of a map is not looked up. -/
  field_typeName : ∀ f, f.map = none → (field f).typeName = f.typeName
  /-- The change does not read what resolution fills, and keeps it. -/
  field_filled : ∀ f map ref, map.isSome = f.map.isSome →
    field { f with map := map, typeRef := ref } =
      { field f with map := map, typeRef := ref }

namespace Change

variable (c : Change)

theorem field_map (f : Field) : (c.field f).map = f.map := by
  have h := congrArg Field.map (c.field_filled f f.map f.typeRef rfl)
  exact h

def enum (e : EnumDef) : EnumDef :=
  { e with values := c.values e.values, description := c.text e.description }

mutual

def message : Message → Message
  | ⟨name, fullName, fields, messages, enums, description, filePath⟩ =>
    ⟨name, fullName, fields.map c.field, messageAll messages, enums.map c.enum,
      c.text description, filePath⟩

def messageAll : List Message → List Message
  | [] => []
  | m :: rest => message m :: messageAll rest

end

def method (m : Method) : Method := { m with description := c.text m.description }

def service (s : Service) : Service :=
  { s with methods := s.methods.map c.method, description := c.text s.description }

def file (f : File) : File :=
  { f with
    messages := f.messages.map c.message
    enums := f.enums.map c.enum
    services := f.services.map c.service
    description := c.text f.description }

def schema (s : Schema) : Schema := { s with files := s.files.map c.file }

def entity : Entity → Entity
  | .message m => .message (c.message m)
  | .enum e => .enum (c.enum e)
  | .service s => .service (c.service s)

def declaration (d : Declaration) : Declaration := { d with entity := c.entity d.entity }

def index (i : Index) : Index := i.map c.declaration

def collision (x : Collision) : Collision :=
  ⟨c.declaration x.first, c.declaration x.second⟩

def resolveError : ResolveError → ResolveError
  | .collision x => .collision (c.collision x)
  | .keyType f => .keyType f

def resolution (r : Resolution) : Resolution :=
  { r with files := r.files.map c.file, index := c.index r.index }

def page (p : Page) : Page := { p with file := c.file p.file }

def site (s : Site) : Site := { s with pages := s.pages.map c.page }

def siteRun (run : SiteRun) : SiteRun := { run with site := c.site run.site }

/-! ## What is changed -/

theorem messageAll_eq_map (ms : List Message) : c.messageAll ms = ms.map c.message := by
  induction ms with
  | nil => rw [messageAll, List.map_nil]
  | cons m rest ih => rw [messageAll, ih, List.map_cons]

section

variable (m : Message)

@[simp] theorem message_fullName : (c.message m).fullName = m.fullName := by
  cases m
  rw [message]

@[simp] theorem message_messages : (c.message m).messages = m.messages.map c.message := by
  cases m
  rw [message, messageAll_eq_map]

@[simp] theorem message_enums : (c.message m).enums = m.enums.map c.enum := by
  cases m
  rw [message]

end

theorem allMessages_file (f : File) :
    (c.file f).allMessages = f.allMessages.map c.message := by
  rw [File.allMessages_eq, File.allMessages_eq, file, preorderAll_map c.message_messages]

@[simp] theorem entity_fullName (e : Entity) : (c.entity e).fullName = e.fullName := by
  cases e with
  | message m => exact c.message_fullName m
  | enum e => rfl
  | service s => rfl

@[simp] theorem entity_kind (e : Entity) :
    (c.entity e).kind = e.kind := by cases e <;> rfl

@[simp] theorem declaration_fullName (d : Declaration) :
    (c.declaration d).fullName = d.fullName :=
  c.entity_fullName d.entity

@[simp] theorem declaration_kind (d : Declaration) : (c.declaration d).kind = d.kind :=
  c.entity_kind d.entity

@[simp] theorem declaration_file (d : Declaration) :
    (c.declaration d).file = d.file := rfl

theorem message_collision (x : Collision) : (c.collision x).message = x.message := by
  unfold Collision.message collision
  rw [declaration_fullName, declaration_kind, declaration_kind, declaration_file,
    declaration_file]

@[simp] theorem message_resolveError (e : ResolveError) :
    (c.resolveError e).message = e.message := by
  cases e with
  | collision x =>
      rw [resolveError, ResolveError.message, message_collision, ResolveError.message]
  | keyType f => rw [resolveError]

/-! ## The index of names -/

theorem declared_message (m : Message) :
    (c.message m).declared = m.declared.map c.entity := by
  rw [Message.declared, Message.declared, message_enums, List.map_cons, List.map_map,
    List.map_map]
  rfl

theorem entities_file (f : File) : (c.file f).entities = f.entities.map c.entity := by
  simp only [File.entities, allMessages_file, List.map_append, List.flatMap_map,
    List.map_flatMap, declared_message]
  simp only [file, List.map_map]
  rfl

theorem declarations_files (files : List File) :
    declarations (files.map c.file) = c.index (declarations files) := by
  have hfile (f : File) : (c.file f).declarations = c.index f.declarations := by
    rw [File.declarations, File.declarations, entities_file,
      index, List.map_map, List.map_map]
    rfl
  simp only [declarations, List.flatMap_map, hfile, index, List.map_flatMap]

section

variable (i : Index)

theorem find?_index (name : String) :
    (c.index i).find? name = (i.find? name).map c.declaration := by
  have hname : (fun d : Declaration => d.fullName == name) ∘ c.declaration =
      fun d => d.fullName == name := funext fun d => by
    rw [Function.comp_apply, declaration_fullName]
  rw [Index.find?, Index.find?, index, List.find?_map, hname]

theorem findType?_index (name : String) :
    (c.index i).findType? name = (i.findType? name).map c.declaration := by
  rw [Index.findType?, Index.findType?, find?_index]
  cases i.find? name with
  | none => rfl
  | some d =>
      simp only [Option.map_some, declaration_kind]
      split <;> rfl

theorem lookup?_index (scope name : String) :
    (c.index i).lookup? scope name = (i.lookup? scope name).map c.declaration := by
  rw [Index.lookup?, Index.lookup?, List.map_findSome?]
  exact congrArg (List.findSome? · _) (funext (c.findType?_index i))

theorem reference_index : (c.index i).reference = i.reference := by
  funext scope name
  rw [Index.reference, Index.reference, lookup?_index]
  cases i.lookup? scope name with
  | none => rfl
  | some d =>
      simp only [Option.map_some]
      rw [declaration_fullName, declaration_kind, declaration_file]

theorem extend_index (ds : List Declaration) :
    (c.index i).extend (ds.map c.declaration) =
      ((i.extend ds).mapError c.collision).map c.index := by
  induction ds generalizing i with
  | nil => rfl
  | cons d rest ih =>
      rw [List.map_cons, Index.extend, Index.extend, declaration_fullName, find?_index]
      cases i.find? d.fullName with
      | some first => rfl
      | none =>
          have hadd : c.index i ++ [c.declaration d] = c.index (i ++ [d]) := by
            rw [index, index, List.map_append, List.map_singleton]
          simp only [Option.map_none, hadd, ih]

theorem build_files (files : List File) :
    Index.build (files.map c.file) =
      ((Index.build files).mapError c.collision).map c.index := by
  rw [Index.build, Index.build, declarations_files]
  exact c.extend_index [] (declarations files)

end

/-! ## Resolution -/

/-- A step for each entry, when the entries are changed before it or what it
gives is changed after it. -/
theorem mapM_comm {m : Type → Type} [Monad m] [LawfulMonad m]
    {α β : Type} {f f' : α → m β}
    {g : α → α} {g' : β → β} (xs : List α) (h : ∀ x ∈ xs, f' (g x) = g' <$> f x) :
    (xs.map g).mapM f' = List.map g' <$> xs.mapM f := by
  induction xs with
  | nil => simp
  | cons x rest ih =>
      rw [List.forall_mem_cons] at h
      rw [List.map_cons, List.mapM_cons, List.mapM_cons, h.1, ih h.2]
      simp [map_bind, bind_map_left]

section

variable (i : Index) (host : File)

theorem note_file (d : Diagnostics) (referrer : String) (ref : TypeRef) :
    d.note (c.file host) referrer ref = d.note host referrer ref := by
  cases ref <;> rfl

theorem resolveName_file :
    resolveName (c.index i) (c.file host) = resolveName i host := by
  funext scope referrer name
  rw [resolveName, resolveName, reference_index]
  simp only [note_file]

theorem resolveMap_file : resolveMap (c.index i) (c.file host) = resolveMap i host := by
  funext scope referrer m
  rw [resolveMap, resolveMap, resolveName_file]
  rfl

theorem resolveField_change (scope : String) (f : Field) :
    resolveField (c.index i) (c.file host) scope (c.field f) =
      c.field <$> resolveField i host scope f := by
  have hfilled := c.field_filled f
  have htype := c.field_typeName f
  have hmap := c.field_map f
  rw [resolveField, resolveField, c.field_name, hmap, resolveName_file, resolveMap_file]
  cases hm : f.map with
  | none =>
      simp only [map_bind, map_pure, htype hm]
      refine bind_congr fun ref => ?_
      rw [hm] at hfilled
      rw [hfilled none (some ref) rfl, ← c.field_name, ← htype hm]
  | some m =>
      simp only [map_bind, map_pure]
      refine bind_congr fun m' => ?_
      rw [hfilled (some m') m'.valueRef (by rw [hm]; rfl), ← c.field_name]

theorem resolveMessages_eq_mapM (ms : List Message) :
    resolveMessages i host ms = ms.mapM (resolveMessage i host) := by
  induction ms with
  | nil => rw [resolveMessages, List.mapM_nil]
  | cons m rest ih => rw [resolveMessages, List.mapM_cons, ih]

theorem resolveMessage_change (m : Message) :
    resolveMessage (c.index i) (c.file host) (c.message m) =
      c.message <$> resolveMessage i host m := by
  induction m using Message.nestedInduction with
  | step m ih =>
      obtain ⟨name, fullName, fields, messages, enums, description, path⟩ := m
      rw [message, resolveMessage, resolveMessage, messageAll_eq_map,
        resolveMessages_eq_mapM, resolveMessages_eq_mapM, mapM_comm fields fun f _ =>
          c.resolveField_change i host fullName f,
        mapM_comm messages ih]
      simp only [map_bind, map_pure, bind_map_left, message, messageAll_eq_map]

theorem resolveMethod_change (serviceName : String) (m : Method) :
    resolveMethod (c.index i) (c.file host) serviceName (c.method m) =
      c.method <$> resolveMethod i host serviceName m := by
  rw [resolveMethod, resolveMethod, resolveName_file]
  simp only [map_bind, map_pure]
  rfl

theorem resolveService_change (s : Service) :
    resolveService (c.index i) (c.file host) (c.service s) =
      c.service <$> resolveService i host s := by
  have hmethods := mapM_comm s.methods fun m _ =>
    c.resolveMethod_change i host s.fullName m
  simp only [resolveService, service, hmethods, map_bind, map_pure, bind_map_left]

theorem resolveFile_change :
    resolveFile (c.index i) (c.file host) = c.file <$> resolveFile i host := by
  have hmessages := mapM_comm host.messages fun m _ => c.resolveMessage_change i host m
  have hservices := mapM_comm host.services fun s _ => c.resolveService_change i host s
  have hparts : (c.file host).messages = host.messages.map c.message ∧
      (c.file host).services = host.services.map c.service := ⟨rfl, rfl⟩
  rw [resolveFile, resolveFile, resolveMessages_eq_mapM, resolveMessages_eq_mapM,
    hparts.1, hparts.2, hmessages, hservices]
  simp only [map_bind, map_pure, bind_map_left]
  rfl

end

theorem run_map {α β : Type} (g : α → β) (x : Resolver α) (d : Diagnostics) :
    (g <$> x).run d = match x.run d with
      | .ok a d => .ok (g a) d
      | .error e d => .error e d := by
  simp only [EStateM.run, Functor.map, EStateM.map]
  cases x d <;> rfl

/-- Resolving what is changed gives what resolving gives, changed. -/
theorem resolve_files (files : List File) :
    resolve (files.map c.file) =
      ((resolve files).mapError c.resolveError).map c.resolution := by
  rw [resolve, resolve, resolveAll, resolveAll, build_files]
  cases Index.build files with
  | error x => rfl
  | ok i =>
      have hfiles := mapM_comm files fun f _ => c.resolveFile_change i f
      simp only [Except.mapError, Except.map, hfiles, run_map]
      cases (files.mapM (resolveFile i)).run {} <;> rfl

/-- So what is the same when it is changed is resolved as what is the same when
it is changed. -/
theorem resolve_alongside {files files' : List File}
    (h : files'.map c.file = files.map c.file) :
    Alongside (fun e e' => c.resolveError e' = c.resolveError e)
      (fun r r' => c.resolution r' = c.resolution r) (resolve files)
      (resolve files') := by
  have hboth := c.resolve_files files'
  rw [h, c.resolve_files] at hboth
  cases hr : resolve files with
  | error e =>
      cases hr' : resolve files' with
      | error e' =>
          rw [hr, hr'] at hboth
          exact .error (Except.error.inj hboth).symm
      | ok r' =>
          rw [hr, hr'] at hboth
          cases hboth
  | ok r =>
      cases hr' : resolve files' with
      | error e' =>
          rw [hr, hr'] at hboth
          cases hboth
      | ok r' =>
          rw [hr, hr'] at hboth
          exact .ok (Except.ok.inj hboth).symm

/-! ## Pages -/

theorem build_page (f : File) (base : String) (taken : List String) :
    Page.build (c.file f) base taken = (Page.build f base taken).map c.page := by
  have hroute :
      (c.file f).route (normalizeRouteBase base) = f.route (normalizeRouteBase base) :=
    rfl
  rw [Page.build, Page.build, hroute]
  cases f.route (normalizeRouteBase base) <;> rfl

theorem extend_site (base : String) (files : List File) (s : Site) :
    (c.site s).extend base (files.map c.file) = c.siteRun (s.extend base files) := by
  induction files generalizing s with
  | nil => rfl
  | cons f rest ih =>
      have htaken : (c.site s).taken = s.taken := by
        rw [Site.taken, site, List.map_map]
        rfl
      rw [List.map_cons, Site.extend, Site.extend, htaken, build_page]
      cases Page.build f base s.taken with
      | error e => rfl
      | ok p =>
          have hadd : (c.site s).add (c.page p) = c.site (s.add p) := by
            simp only [Site.add, site, List.map_append]
            rfl
          simp only [Except.map, hadd, ih]

theorem buildSite_files (files : List File) (base : String) :
    buildSite (files.map c.file) base = (buildSite files base).map c.site := by
  have hrun : Site.extend base {} (files.map c.file) =
      c.siteRun (Site.extend base {} files) :=
    c.extend_site base files {}
  rw [buildSite, buildSite, hrun]
  obtain ⟨s, error⟩ := Site.extend base {} files
  cases error <;> rfl

theorem buildSite_alongside {files files' : List File}
    (h : files'.map c.file = files.map c.file) (base : String) :
    Alongside Eq (fun s s' => c.site s' = c.site s) (buildSite files base)
      (buildSite files' base) :=
  .of_map_eq (by rw [← buildSite_files, ← buildSite_files, h])

theorem enterPages_pages (pages : List Page) (seen : List String)
    (nodes : List (NavTree Page)) :
    enterPages seen (NavTree.mapAll c.page nodes) (pages.map c.page) =
      (enterPages seen nodes pages).map (NavTree.mapAll c.page) := by
  induction pages generalizing seen nodes with
  | nil => rfl
  | cons p rest ih =>
      have hinsert := NavTree.mapAll_insert c.page p.slug p p.segments nodes
      have hname : (c.page p).fileName = p.fileName := rfl
      have hslug : (c.page p).slug = p.slug := rfl
      have hsegments : (c.page p).segments = p.segments := rfl
      rw [List.map_cons, enterPages, enterPages, hname, hslug, hsegments, ← hinsert]
      split
      · rfl
      · exact ih _ _

theorem buildNavigation_pages (pages : List Page) :
    buildNavigation (pages.map c.page) =
      (buildNavigation pages).map (NavTree.mapAll c.page) :=
  c.enterPages_pages pages [] []

/-! ## Generation -/

def document (d : Document) : Document := { d with page := c.page d.page }

def generation (g : Generation) : Generation :=
  { g with
    documents := g.documents.map c.document
    navigation := NavTree.mapAll c.document g.navigation }

theorem documentOf_page (documents : List Document) (p : Page) :
    documentOf (documents.map c.document) (c.page p) =
      c.document (documentOf documents p) := by
  have hname : (fun d : Document => d.fileName == (c.page p).fileName) ∘ c.document =
      fun d => d.fileName == p.fileName := rfl
  rw [documentOf, documentOf, List.find?_map, hname]
  cases documents.find? fun d => d.fileName == p.fileName <;> rfl

/-- The layout of pages on which the change does not show. -/
theorem layOutSite_site {s : Site}
    (hbind : ∀ p ∈ s.pages, (c.page p).bind s.links = p.bind s.links)
    (style : Layout.Style) (unresolved : List UnresolvedReference) :
    layOutSite style (c.site s) unresolved =
      (layOutSite style s unresolved).map c.generation := by
  have hpage : ∀ p ∈ s.pages, layOutPage style s.links (c.page p) =
      c.document <$> layOutPage style s.links p := by
    intro p hp
    rw [layOutPage, layOutPage, hbind p hp]
    simp only [map_bind, map_pure]
    rfl
  have hpages : (c.site s).pages = s.pages.map c.page := rfl
  have hlinks : (c.site s).links = s.links := rfl
  rw [layOutSite, layOutSite, hlinks, hpages, mapM_comm s.pages hpage,
    buildNavigation_pages]
  cases s.pages.mapM (layOutPage style s.links) with
  | error e => rfl
  | ok documents =>
      cases buildNavigation s.pages with
      | error e => rfl
      | ok nodes =>
          have htree : NavTree.mapAll (documentOf (documents.map c.document))
              (NavTree.mapAll c.page nodes) =
              NavTree.mapAll c.document
                (NavTree.mapAll (documentOf documents) nodes) := by
            rw [NavTree.mapAll_mapAll, NavTree.mapAll_mapAll]
            exact congrArg (NavTree.mapAll · nodes) (funext (c.documentOf_page documents))
          simp only [bind, Except.bind, Functor.map, Except.map, Except.mapError, pure,
            Except.pure, htree]
          rfl

theorem layOutSite_alongside {s s' : Site} (h : c.site s' = c.site s)
    (hbind : ∀ p ∈ s.pages, (c.page p).bind s.links = p.bind s.links)
    (hbind' : ∀ p ∈ s'.pages, (c.page p).bind s'.links = p.bind s'.links)
    (style : Layout.Style) (unresolved : List UnresolvedReference) :
    Alongside Eq (fun g g' => c.generation g' = c.generation g)
      (layOutSite style s unresolved) (layOutSite style s' unresolved) :=
  .of_map_eq (by rw [← c.layOutSite_site hbind, ← c.layOutSite_site hbind', h])

/-! ## No change -/

def nothing : Change where
  field := id
  values := id
  text := id
  field_name _ := rfl
  field_typeName _ _ := rfl
  field_filled _ _ _ _ := rfl

theorem nothing_message (m : Message) : nothing.message m = m := by
  induction m using Message.nestedInduction with
  | step m ih =>
      obtain ⟨name, fullName, fields, messages, enums, description, path⟩ := m
      have hmessages : messages.map nothing.message = messages :=
        (List.map_congr_left ih).trans (List.map_id _)
      have hfields : fields.map nothing.field = fields := List.map_id _
      have henums : enums.map nothing.enum = enums := List.map_id _
      rw [message, messageAll_eq_map, hmessages, hfields, henums]
      rfl

theorem nothing_schema (s : Schema) : nothing.schema s = s := by
  have hmethod : nothing.method = id := rfl
  have hservice : nothing.service = id := by
    funext s
    rw [service, hmethod, List.map_id]
    rfl
  have hfile : nothing.file = id := by
    funext f
    have hmessages : f.messages.map nothing.message = f.messages :=
      (List.map_congr_left fun m _ => nothing_message m).trans (List.map_id _)
    have henums : f.enums.map nothing.enum = f.enums := List.map_id _
    rw [file, hmessages, henums, hservice, List.map_id]
    rfl
  rw [schema, hfile, List.map_id]

end Change

end SchemaDocs
