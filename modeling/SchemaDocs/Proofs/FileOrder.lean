import SchemaDocs.Proofs.Documents
import SchemaDocs.Proofs.Links
import SchemaDocs.Proofs.Loading
import SchemaDocs.Proofs.OrderIndependence
import SchemaDocs.Proofs.PlainNames

/-!
# The order of the files does not show on the pages

A description lists files, and every stage goes through them in that order.
Loading looks at one record at a time. Resolution looks names up in an index
that is the same for every order. Naming a page looks at the names taken
before it, and the pages get the same names as long as each finds its plain
name free. Laying out a page looks links up in a table that has one link for
each path, as long as no two files have one path. So the stages hand on the
same things in another order, and what comes out at the end is the same texts
under the same names.

Where two pages would like to have one name, the order does show: the file
that comes first gets it.
-/

namespace SchemaDocs

/-! ## Loading -/

/-- The place of a record in the list only matters for what is said when it is
rejected. -/
theorem Load.file_eq_ok_iff {i : Nat} (j : Nat) {v : Value} {f : File} :
    Load.file i v = .ok f ↔ Load.file j v = .ok f := by
  simp only [Load.file, bind_eq_ok_iff, Load.object_eq_ok_iff,
    Load.requiredText_eq_ok_iff]

theorem Load.files_eq_ok_iff_mapM {records : List Value} {files : List File} :
    Load.files 0 records = .ok files ↔ records.mapM (Load.file 0) = .ok files := by
  have hplace : (fun (x : Value × Nat) f => Load.file x.2 x.1 = .ok f) =
      fun x f => Load.file 0 x.1 = .ok f :=
    funext fun _ => funext fun _ => propext (Load.file_eq_ok_iff 0)
  rw [Load.files_eq_ok_iff, mapM_eq_ok_iff, hplace]
  conv_rhs => rw [← List.zipIdx_map_fst 0 records]
  rw [List.forall₂_map_left_iff]

/-- Records in another order load as the same files in another order. -/
theorem Schema.load_perm {raw raw' routeBase : Value} {records records' : List Value}
    {schema : Schema} (hraw : raw.Describes records) (hraw' : raw'.Describes records')
    (hperm : records'.Perm records) (h : Schema.load raw routeBase = .ok schema) :
    ∃ files, Schema.load raw' routeBase = .ok { schema with files } ∧
      files.Perm schema.files := by
  obtain ⟨entries, rfl, hentries⟩ := hraw
  obtain ⟨entries', rfl, hentries'⟩ := hraw'
  obtain ⟨loaded, base⟩ := schema
  have hfiles := Schema.load_eq_ok h
  rw [Value.fileRecords, hentries] at hfiles
  obtain ⟨files, hfiles', hperm'⟩ :=
    mapM_perm hperm (Load.files_eq_ok_iff_mapM.1 hfiles)
  refine ⟨files, ?_, hperm'⟩
  rw [← Load.files_eq_ok_iff_mapM] at hfiles'
  simp only [Schema.load, hentries, hentries', hfiles, hfiles'] at h ⊢
  split at h <;> cases h <;> rfl

/-! ## Resolution -/

theorem declarations_perm {files files' : List File} (h : files'.Perm files) :
    (declarations files').Perm (declarations files) :=
  h.flatMap_right _

theorem resolve_perm {files files' : List File} {r : Resolution}
    (hperm : files'.Perm files) (h : resolve files = .ok r) :
    ∃ r', resolve files' = .ok r' ∧ r'.files.Perm r.files ∧
      (r'.unresolved.map (·.name)).Perm (r.unresolved.map (·.name)) := by
  obtain ⟨hnd, hkeys, rfl⟩ := resolve_eq_ok_iff.1 h
  have hnd' : (declaredNames files').Nodup := (hperm.flatMap_right _).nodup_iff.2 hnd
  have href : Index.reference (declarations files') =
      Index.reference (declarations files) :=
    Index.reference_eq_of_perm (by rwa [map_fullName_declarations])
      ((declarations_perm hperm).map _)
  have hkeys' : Index.ScalarKeysAll (declarations files') files' := by
    rw [Index.scalarKeysAll_congr href]
    exact fun f hf => hkeys f (hperm.mem_iff.1 hf)
  have hfiles : (files'.map (Index.fillFile (declarations files'))).Perm
      (files.map (Index.fillFile (declarations files))) := by
    rw [Index.fillFile_congr href]
    exact hperm.map _
  exact ⟨_, resolve_of_scalarKeys hnd' hkeys', hfiles,
    Index.diagnose_names_perm (hfiles.flatMap_right _)⟩

/-! ## What a page reads of the table of links -/

section

variable {links links' : LinkTable} (h : links'.find? = links.find?)

include h

theorem bindType_congr : bindType links' = bindType links := by
  funext name ref
  unfold bindType
  rw [h]

theorem bindField_congr : bindField links' = bindField links := by
  funext f
  unfold bindField
  rw [bindType_congr h]

theorem bindMessage_congr (m : Message) : bindMessage links' m = bindMessage links m := by
  induction m using Message.nestedInduction with
  | step m ih =>
      obtain ⟨name, fullName, fields, messages, enums, description, path⟩ := m
      rw [bindMessage, bindMessage, bindMessages_eq_map, bindMessages_eq_map,
        bindField_congr h, List.map_congr_left ih]

theorem bindService_congr : bindService links' = bindService links := by
  funext s
  unfold bindService bindMethod
  rw [bindType_congr h]

theorem Page.laidOut_congr : Page.laidOut links' = Page.laidOut links := by
  funext p
  unfold Page.laidOut Page.bind
  rw [bindMessages_eq_map, bindMessages_eq_map,
    List.map_congr_left fun m _ => bindMessage_congr h m, bindService_congr h, h]

end

theorem Site.Sound.find?_eq_of_perm {base : String} {site site' : Site}
    (hs : site.Sound base) (hs' : site'.Sound base)
    (hpaths : (site.pages.map (·.file.path)).Nodup)
    (hperm : site'.pages.Perm site.pages) : site'.links.find? = site.links.find? := by
  funext path
  have hreverse : site'.pages.reverse.Perm site.pages.reverse :=
    (List.reverse_perm _).trans (hperm.trans (List.reverse_perm _).symm)
  have hnd : (site.pages.reverse.map (·.file.path)).Nodup := by
    rwa [List.map_reverse, List.nodup_reverse]
  rw [hs.links, hs'.links, find?_key_eq_of_perm hnd hreverse]

/-! ## Generation -/

theorem documents_builtIn {links : LinkTable} {pages : List Page}
    {documents : List Document}
    (hpages : documents.map Document.page = pages)
    (htexts : ∀ d ∈ documents, Layout.Style.builtIn.layOut (d.page.bind links) =
      .ok d.text) :
    documents = pages.map (Page.laidOut links) := by
  rw [← hpages, List.map_map]
  conv_lhs => rw [← List.map_id documents]
  refine List.map_congr_left fun d hd => ?_
  have htext : Layout.page (d.page.bind links) = d.text := Except.ok.inj (htexts d hd)
  rw [Function.comp_apply, Page.laidOut, htext, id]

/-- What the built-in layout makes of an accepted description. -/
theorem Accepted.generate_builtIn {raw routeBase : Value} {schema : Schema}
    {r : Resolution} {site : Site} (h : Accepted raw routeBase schema r site) :
    ∃ g, generate raw routeBase none = .ok g ∧
      g.documents = site.pages.map (Page.laidOut site.links) ∧
      g.unresolved = r.unresolved ∧
      (g.documents.map Document.fileName).Nodup ∧
      (NavTree.placedAll g.navigation).Perm (g.documents.map Document.leaf) := by
  obtain ⟨g, hg⟩ := h.exists_generation
  refine ⟨g, hg, ?_⟩
  have hlaid : layOutSite .builtIn site r.unresolved = .ok g := by
    simpa only [generate, h.load, h.resolve, h.site, Layout.Style.ofSource,
      Except.mapError, bind, Except.bind] using hg
  obtain ⟨documents, ⟨hpages, htexts⟩, nodes, hnodes, rfl⟩ :=
    layOutSite_eq_ok_iff.1 hlaid
  have hdocuments := documents_builtIn hpages htexts
  have hnd : (documents.map Document.fileName).Nodup := by
    have hnodup := h.sound.distinct
    rwa [← hpages, List.map_map] at hnodup
  refine ⟨hdocuments, rfl, hnd, ?_⟩
  rw [NavTree.placedAll_mapAll, ← map_documentOf hnd, hpages]
  exact (buildNavigation_eq_ok hnodes).map _

/-- An accepted description stays accepted, and its site has the same pages
with the same links, whatever the order of the records. -/
theorem Accepted.exists_perm {raw raw' routeBase : Value}
    {records records' : List Value} {schema : Schema} {r : Resolution} {site : Site}
    (h : Accepted raw routeBase schema r site) (hraw : raw.Describes records)
    (hraw' : raw'.Describes records') (hperm : records'.Perm records)
    (hpaths : (schema.files.map File.path).Nodup)
    (hnames : (schema.files.map File.plainName).Nodup) :
    ∃ schema' r' site', Accepted raw' routeBase schema' r' site' ∧
      (r'.unresolved.map (·.name)).Perm (r.unresolved.map (·.name)) ∧
      site'.pages.Perm site.pages ∧ site'.links.find? = site.links.find? := by
  obtain ⟨files, hload, hfiles⟩ := Schema.load_perm hraw hraw' hperm h.load
  obtain ⟨r', hresolve, hresolved, hunresolved⟩ := resolve_perm hfiles h.resolve
  have hplain : (r.files.map File.plainName).Nodup := by
    obtain ⟨-, -, rfl⟩ := resolve_eq_ok_iff.1 h.resolve
    rwa [List.map_map]
  obtain ⟨site', hsite, hpages⟩ := buildSite_perm hplain hresolved h.site
  have haccepted : Accepted raw' routeBase _ r' site' := ⟨hload, hresolve, hsite⟩
  refine ⟨_, r', site', haccepted, hunresolved, hpages, ?_⟩
  exact h.sound.find?_eq_of_perm haccepted.sound (by rwa [h.map_path]) hpages

/-- Where no two files have one path and no two pages would like to have one
name, the records of an accepted description may come in any order: the
built-in layout gives the same text under every name and the same leaves in
the same places, and warns of the same names. -/
theorem generate_perm {raw raw' routeBase : Value} {records records' : List Value}
    {schema : Schema} {r : Resolution} {site : Site}
    (h : Accepted raw routeBase schema r site) (hraw : raw.Describes records)
    (hraw' : raw'.Describes records') (hperm : records'.Perm records)
    (hpaths : (schema.files.map File.path).Nodup)
    (hnames : (schema.files.map File.plainName).Nodup) :
    ∃ g g', generate raw routeBase none = .ok g ∧
      generate raw' routeBase none = .ok g' ∧
      (∀ name, g'.texts.find? name = g.texts.find? name) ∧
      g'.warnings.Perm g.warnings ∧
      (NavTree.placedAll g'.navigation).Perm (NavTree.placedAll g.navigation) := by
  obtain ⟨schema', r', site', h', hunresolved, hpages, hlinks⟩ :=
    h.exists_perm hraw hraw' hperm hpaths hnames
  obtain ⟨g, hg, hdocuments, hleft, hnd, hleaves⟩ := h.generate_builtIn
  obtain ⟨g', hg', hdocuments', hleft', hnd', hleaves'⟩ := h'.generate_builtIn
  have hsame : g'.documents.Perm g.documents := by
    rw [hdocuments, hdocuments', Page.laidOut_congr hlinks]
    exact hpages.map _
  refine ⟨g, g', hg, hg', fun name => ?_, ?_, ?_⟩
  · rw [Generation.texts_eq hnd, Generation.texts_eq hnd']
    exact lookup_eq_of_perm (by rwa [List.map_map]) (hsame.map _) name
  · rw [Generation.warnings, Generation.warnings, hleft, hleft']
    exact hunresolved
  · exact hleaves'.trans ((hsame.map _).trans hleaves.symm)

/-- Three files that refer to one another and to a name that none of them
declares. -/
def entangled : List Value := [
  .object [
    ("path", .text "shop/order.proto"), ("package", .text "shop"),
    ("dependencies", .list [.text "shop/item.proto"]),
    ("messages", .list [.object [
      ("name", .text "Order"),
      ("fields", .list [
        .object [("name", .text "items"), ("type", .text "map<string, Item>")],
        .object [("name", .text "placed"), ("type", .text "Time")]])]])],
  .object [
    ("path", .text "shop/item.proto"), ("package", .text "shop"),
    ("messages", .list [.object [
      ("name", .text "Item"),
      ("fields", .list [
        .object [("name", .text "order"), ("type", .text "Order")],
        .object [("name", .text "color"), ("type", .text ".paint.Color")]])]])],
  .object [
    ("path", .text "color.proto"), ("package", .text "paint"),
    ("enums", .list [.object [("name", .text "Color")]])]]

theorem generate_perm_entangled :
    ∃ g g', generate (.object [("files", .list entangled)]) (.text "docs") none = .ok g ∧
      generate (.object [("files", .list entangled.reverse)]) (.text "docs") none =
        .ok g' ∧
      (∀ name, g'.texts.find? name = g.texts.find? name) ∧
      g'.warnings.Perm g.warnings ∧
      (NavTree.placedAll g'.navigation).Perm (NavTree.placedAll g.navigation) := by
  have haccepted : ∃ schema r site,
      Accepted (.object [("files", .list entangled)]) (.text "docs") schema r site ∧
        (schema.files.map File.path).Nodup ∧
        (schema.files.map File.plainName).Nodup :=
    ⟨_, _, _, ⟨rfl, rfl, rfl⟩, by decide, by decide⟩
  obtain ⟨schema, r, site, h, hpaths, hnames⟩ := haccepted
  exact generate_perm h ⟨_, rfl, rfl⟩ ⟨_, rfl, rfl⟩ entangled.reverse_perm hpaths hnames

end SchemaDocs
