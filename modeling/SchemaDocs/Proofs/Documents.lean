import SchemaDocs.Proofs.Failure
import SchemaDocs.Proofs.Navigation
import SchemaDocs.Proofs.Stages

/-!
# One document and one leaf for each file

A generation that succeeds has a document for every record of a file, in the
order of the records, and each is the layout of its own page. The texts are
kept by the names of the pages, where a later text would take the place of an
earlier one of the same name; that never happens, since the pages of a site
have different names.

The navigation is built from pages that have no text yet, and gets the texts
afterwards, by name. Again the names being different is what makes every leaf
get the text of its own page.
-/

namespace SchemaDocs

/-! ## From records to files -/

/-- The records of the files in a description. -/
def Value.fileRecords : Value → List Value
  | .object entries =>
    match Value.get? entries "files" with
    | some (.list records) => records
    | _ => []
  | _ => []

theorem Load.files_eq_ok_iff : ∀ {records : List Value} {index : Nat}
    {files : List File}, Load.files index records = .ok files ↔
      List.Forall₂ (fun x f => Load.file x.2 x.1 = .ok f) (records.zipIdx index)
        files := by
  intro records
  induction records with
  | nil =>
      intro index files
      rw [Load.files, List.zipIdx_nil, List.forall₂_nil_left_iff]
      simp [eq_comm]
  | cons v rest ih =>
      intro index files
      rw [List.zipIdx_cons, List.forall₂_cons_left_iff]
      simp only [Load.files, bind_eq_ok_iff, ih, pure, Except.pure,
        Except.ok.injEq]
      constructor
      · rintro ⟨f, hf, fs, hfs, rfl⟩
        exact ⟨f, fs, hf, hfs, rfl⟩
      · rintro ⟨f, fs, hf, hfs, rfl⟩
        exact ⟨f, hf, fs, hfs, rfl⟩

theorem Schema.load_eq_ok {raw routeBase : Value} {schema : Schema}
    (h : Schema.load raw routeBase = .ok schema) :
    Load.files 0 raw.fileRecords = .ok schema.files := by
  simp only [Schema.load] at h
  split at h
  · next record =>
      split at h
      · next records hrecords =>
          rw [Value.fileRecords, hrecords]
          split at h <;> simp only [bind_eq_ok_iff, pure, Except.pure,
            Except.ok.injEq] at h
          · obtain ⟨_, rfl, files, hfiles, rfl⟩ := h
            exact hfiles
          · obtain ⟨_, rfl, files, hfiles, rfl⟩ := h
            exact hfiles
          · obtain ⟨_, hbase, -⟩ := h
            cases hbase
      · cases h
  · cases h

/-! ## The documents of a site -/

theorem layOutPage_eq_ok_iff {style : Layout.Style} {links : LinkTable} {p : Page}
    {d : Document} : layOutPage style links p = .ok d ↔
      d.page = p ∧ style.layOut (p.bind links) = .ok d.text := by
  obtain ⟨page, text⟩ := d
  simp only [layOutPage, bind_eq_ok_iff, mapError_eq_ok_iff, pure, Except.pure,
    Except.ok.injEq, Document.mk.injEq]
  constructor
  · rintro ⟨t, ht, rfl, rfl⟩
    exact ⟨rfl, ht⟩
  · rintro ⟨rfl, ht⟩
    exact ⟨text, ht, rfl, rfl⟩

/-- Laying out gives a document for each page, in order. -/
theorem layOutPages_eq_ok_iff {style : Layout.Style} {links : LinkTable}
    {pages : List Page} {documents : List Document} :
    pages.mapM (layOutPage style links) = .ok documents ↔
      documents.map Document.page = pages ∧
        ∀ d ∈ documents, style.layOut (d.page.bind links) = .ok d.text := by
  rw [mapM_eq_ok_iff]
  simp only [layOutPage_eq_ok_iff]
  constructor
  · intro h
    induction h with
    | nil => exact ⟨rfl, fun d hd => by cases hd⟩
    | cons hd _ ih =>
        obtain ⟨rfl, htext⟩ := hd
        obtain ⟨rfl, htexts⟩ := ih
        exact ⟨rfl, List.forall_mem_cons.2 ⟨htext, htexts⟩⟩
  · rintro ⟨rfl, htexts⟩
    rw [List.forall₂_map_left_iff, List.forall₂_same]
    exact fun d hd => ⟨rfl, htexts d hd⟩

theorem layOutSite_eq_ok_iff {style : Layout.Style} {site : Site}
    {unresolved : List UnresolvedReference} {g : Generation} :
    layOutSite style site unresolved = .ok g ↔
      ∃ documents, (documents.map Document.page = site.pages ∧
        ∀ d ∈ documents, style.layOut (d.page.bind site.links) = .ok d.text) ∧
      ∃ nodes, buildNavigation site.pages = .ok nodes ∧
        { documents, unresolved, links := site.links
          navigation := NavTree.mapAll (documentOf documents) nodes } = g := by
  simp only [layOutSite, bind_eq_ok_iff, layOutPages_eq_ok_iff,
    mapError_eq_ok_iff, pure, Except.pure, Except.ok.injEq]

theorem generate_eq_ok_iff {raw routeBase : Value} {template : Option String}
    {g : Generation} : generate raw routeBase template = .ok g ↔
      ∃ schema r site style, Accepted raw routeBase schema r site ∧
        Layout.Style.ofSource template = .ok style ∧
        layOutSite style site r.unresolved = .ok g := by
  simp only [generate, bind_eq_ok_iff, mapError_eq_ok_iff]
  constructor
  · rintro ⟨schema, hload, r, hresolve, site, hsite, style, hstyle, h⟩
    exact ⟨schema, r, site, style, ⟨hload, hresolve, hsite⟩, hstyle, h⟩
  · rintro ⟨schema, r, site, style, ⟨hload, hresolve, hsite⟩, hstyle, h⟩
    exact ⟨schema, hload, r, hresolve, site, hsite, style, hstyle, h⟩

/-- The document of a page in the built-in layout. -/
def Page.laidOut (links : LinkTable) (p : Page) : Document :=
  ⟨p, Layout.page (p.bind links)⟩

/-- In the built-in layout every description that is accepted is laid out. -/
theorem Accepted.exists_generation {raw routeBase : Value} {schema : Schema}
    {r : Resolution} {site : Site} (h : Accepted raw routeBase schema r site) :
    ∃ g, generate raw routeBase none = .ok g := by
  obtain ⟨nodes, hnodes⟩ := h.sound.exists_navigation
  have hpages : (site.pages.map (Page.laidOut site.links)).map Document.page =
      site.pages := by
    rw [List.map_map]
    exact List.map_id _
  have htexts : ∀ d ∈ site.pages.map (Page.laidOut site.links),
      Layout.Style.builtIn.layOut (d.page.bind site.links) = .ok d.text := by
    rw [List.forall_mem_map]
    exact fun p _ => rfl
  exact ⟨_, generate_eq_ok_iff.2 ⟨schema, r, site, .builtIn, h, rfl,
    layOutSite_eq_ok_iff.2 ⟨_, ⟨hpages, htexts⟩, nodes, hnodes, rfl⟩⟩⟩

/-! ## Texts by name -/

/-- The texts by the names of their pages, a later one in the place of an
earlier one of the same name. -/
def Generation.texts (g : Generation) : LinkTable :=
  g.documents.foldl (fun texts d => texts.insert d.fileName d.text) []

/-- Inserting texts under new names puts them behind the ones before. -/
theorem foldl_insert_eq : ∀ {documents : List Document} {texts : LinkTable},
    (texts.map Prod.fst ++ documents.map Document.fileName).Nodup →
      documents.foldl (fun texts d => texts.insert d.fileName d.text) texts =
        texts ++ documents.map fun d => (d.fileName, d.text) := by
  intro documents
  induction documents with
  | nil => intro texts _; simp
  | cons d rest ih =>
      intro texts hnd
      have hnew : d.fileName ∉ texts.map Prod.fst := by
        intro hmem
        exact List.disjoint_of_nodup_append hnd hmem List.mem_cons_self
      rw [List.foldl_cons, LinkTable.insert_of_notMem hnew, ih]
      · simp
      · simpa using hnd

theorem Generation.texts_eq {g : Generation}
    (hnd : (g.documents.map Document.fileName).Nodup) :
    g.texts = g.documents.map fun d => (d.fileName, d.text) := by
  rw [Generation.texts, foldl_insert_eq (by simpa using hnd), List.nil_append]

/-! ## Leaves with texts -/

/-- The leaf that a document becomes. -/
def Document.leaf (d : Document) : NavTree.Leaf Document :=
  ⟨d.page.segments, d.page.slug, d⟩

theorem documentOf_page {documents : List Document}
    (hnd : (documents.map Document.fileName).Nodup) {d : Document}
    (hd : d ∈ documents) : documentOf documents d.page = d := by
  have hfind : documents.find? (·.fileName == d.page.fileName) = some d :=
    (find?_key_eq_some_iff hnd).2 ⟨hd, rfl⟩
  rw [documentOf, hfind, Option.getD_some]

/-- Giving the leaves their texts by name gives each the text of its page. -/
theorem map_documentOf {documents : List Document}
    (hnd : (documents.map Document.fileName).Nodup) :
    ((documents.map Document.page).map Page.leaf).map
      (NavTree.Leaf.map (documentOf documents)) = documents.map Document.leaf := by
  rw [List.map_map, List.map_map]
  refine List.map_congr_left fun d hd => ?_
  show NavTree.Leaf.mk d.page.segments d.page.slug (documentOf documents d.page) = d.leaf
  rw [documentOf_page hnd hd, Document.leaf]

/-! ## A whole generation -/

/-- A generation has one document and one leaf for each record of a file. -/
structure Generation.Complete (raw : Value) (template : Option String)
    (g : Generation) : Prop where
  /-- The documents stand for the records in order: apart from references, the
  file of each is what its record loads as. -/
  records : List.Forall₂
    (fun x d => ∃ f, Load.file x.2 x.1 = .ok f ∧ d.page.file.cleared = f.cleared)
    raw.fileRecords.zipIdx g.documents
  names : (g.documents.map Document.fileName).Nodup
  links : (g.documents.map (·.page.link)).Nodup
  /-- Each text is the layout of its own page. -/
  layout : ∃ style, Layout.Style.ofSource template = .ok style ∧
    ∀ d ∈ g.documents, style.layOut (d.page.bind g.links) = .ok d.text
  texts : g.texts = g.documents.map fun d => (d.fileName, d.text)
  leaves : (NavTree.placedAll g.navigation).Perm (g.documents.map Document.leaf)
  places : ((NavTree.placedAll g.navigation).map NavTree.Leaf.place).Nodup
  /-- Every leaf has the text that is kept under the name of its page. -/
  bodies : ∀ l ∈ NavTree.placedAll g.navigation,
    g.texts.find? l.page.fileName = some l.page.text

/-- The files of the pages are the records, loaded, up to references. -/
theorem Accepted.records {raw routeBase : Value} {schema : Schema} {r : Resolution}
    {site : Site} (h : Accepted raw routeBase schema r site)
    {documents : List Document} (hpages : documents.map Document.page = site.pages) :
    List.Forall₂
      (fun x d => ∃ f, Load.file x.2 x.1 = .ok f ∧ d.page.file.cleared = f.cleared)
      raw.fileRecords.zipIdx documents := by
  have hloaded := Load.files_eq_ok_iff.1 (Schema.load_eq_ok h.load)
  have hfilled : List.Forall₂
      (fun x f' => ∃ f, Load.file x.2 x.1 = .ok f ∧ f'.cleared = f.cleared)
      raw.fileRecords.zipIdx
      (schema.files.map (Index.fillFile (declarations schema.files))) := by
    rw [List.forall₂_map_right_iff]
    exact hloaded.imp fun x f hf => ⟨f, hf, Index.fillFile_cleared _ f⟩
  rw [← h.map_file, ← hpages, List.map_map, List.forall₂_map_right_iff] at hfilled
  exact hfilled

/-- Whatever the description, the base of the routes and the template, a
generation that succeeds is complete. -/
theorem generate_complete {raw routeBase : Value} {template : Option String}
    {g : Generation} (h : generate raw routeBase template = .ok g) :
    g.Complete raw template := by
  obtain ⟨schema, r, site, style, haccepted, hstyle, hlaid⟩ :=
    generate_eq_ok_iff.1 h
  obtain ⟨documents, ⟨hpages, htexts⟩, nodes, hnodes, rfl⟩ :=
    layOutSite_eq_ok_iff.1 hlaid
  have hdistinct : (documents.map Document.fileName).Nodup := by
    have hnodup := haccepted.sound.distinct
    rwa [← hpages, List.map_map] at hnodup
  have hleaves : (NavTree.placedAll (NavTree.mapAll (documentOf documents) nodes)).Perm
      (documents.map Document.leaf) := by
    rw [NavTree.placedAll_mapAll, ← map_documentOf hdistinct, hpages]
    exact (buildNavigation_eq_ok hnodes).map _
  constructor
  case records => exact haccepted.records hpages
  case names => exact hdistinct
  case links =>
      have hnodup := haccepted.sound.distinct_links
      rwa [← hpages, List.map_map] at hnodup
  case layout => exact ⟨style, hstyle, htexts⟩
  case texts => exact Generation.texts_eq hdistinct
  case leaves => exact hleaves
  case places =>
      have hnodup := haccepted.sound.distinct_places
      rw [← hpages, List.map_map] at hnodup
      rw [(hleaves.map _).nodup_iff, List.map_map]
      exact hnodup
  case bodies =>
      intro l hl
      obtain ⟨d, hd, rfl⟩ := List.mem_map.1 (hleaves.mem_iff.1 hl)
      rw [Generation.texts_eq hdistinct]
      refine lookup_of_mem ?_ (List.mem_map_of_mem hd)
      rw [List.map_map]
      exact hdistinct

theorem generate_complete_crossed :
    ∃ g, generate crossed (.text "docs") none = .ok g ∧ g.Complete crossed none := by
  have haccepted : ∃ schema r site, Accepted crossed (.text "docs") schema r site :=
    ⟨_, _, _, rfl, rfl, rfl⟩
  obtain ⟨schema, r, site, haccepted⟩ := haccepted
  obtain ⟨g, h⟩ := haccepted.exists_generation
  exact ⟨g, h, generate_complete h⟩

end SchemaDocs
