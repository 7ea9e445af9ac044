import SchemaDocs.Proofs.Alike

/-!
# What a file shows stays on its own page

Pages are laid out from one table of links and one index of names, and the
page of a file is named after those before it. All of this is made of names
and types. So if what is only shown changes in one file, the documents of all
others stay what they are, and so do the names, the links, the unresolved names
and the navigation.

The stages are followed for two descriptions at once, by the redaction of their
files: what a stage gives for one is, once redacted, what it gives for the
other.
-/

namespace SchemaDocs

/-- A document as the navigation shows it. -/
def Document.shown (d : Document) : String × String := (d.fileName, d.page.link)

/-! ## Two lists of files with one redaction -/

section

variable {files files' : List File}
  (h : files'.map File.redacted = files.map File.redacted)

include h

theorem map_key_eq_of_redacted :
    (declarations files').map Declaration.key =
      (declarations files).map Declaration.key := by
  rw [← map_key_redacted, h, map_key_redacted]

theorem reference_eq_of_redacted (hnd : (declaredNames files).Nodup) :
    Index.reference (declarations files') = Index.reference (declarations files) :=
  Index.reference_eq_of_perm (by rwa [map_fullName_declarations])
    (.of_eq (map_key_eq_of_redacted h))

theorem resolve_redacted {r r' : Resolution} (hr : resolve files = .ok r)
    (hr' : resolve files' = .ok r') :
    r'.files.map File.redacted = r.files.map File.redacted ∧
    r'.unresolved = r.unresolved := by
  rw [File.redacted_eq] at h ⊢
  have hboth := redacting.resolve_alongside h
  rw [hr, hr'] at hboth
  cases hboth with
  | ok hsame =>
      have hunresolved := congrArg Resolution.unresolved hsame
      exact ⟨congrArg Resolution.files hsame, hunresolved⟩

theorem buildSite_eq_of_redacted {base : String} {site site' : Site}
    (hsite : buildSite files base = .ok site)
    (hsite' : buildSite files' base = .ok site') :
    site'.pages.map Page.redacted = site.pages.map Page.redacted ∧
    site'.links = site.links := by
  have hruns := buildSite_redacted files base
  rw [← h, buildSite_redacted, hsite, hsite'] at hruns
  have hsites : site'.redacted = site.redacted := Except.ok.inj hruns
  have hlinks : site'.redacted.links = site.redacted.links := by rw [hsites]
  exact ⟨congrArg Site.pages hsites, hlinks⟩

end

/-! ## Loading, file by file -/

theorem Schema.load_eq_ok_iff {raw routeBase : Value} {records : List Value}
    {schema : Schema}
    (hraw : raw.Describes records) :
    Schema.load raw routeBase = .ok schema ↔
      (routeBase = .text schema.routeBase ∨ routeBase = .null ∧ schema.routeBase = "") ∧
        records.mapM (Load.file 0) = .ok schema.files := by
  obtain ⟨entries, rfl, hentries⟩ := hraw
  obtain ⟨files, base⟩ := schema
  rw [← Load.files_eq_ok_iff_mapM]
  simp only [Schema.load, hentries]
  cases Load.files 0 records <;> cases routeBase <;>
    simp [bind, Except.bind, pure, Except.pure, eq_comm, and_comm]

theorem mapM_append_cons_eq_ok {α β ε : Type} {f : α → Except ε β}
    {front back : List α} {x : α}
    {ys : List β} (h : (front ++ x :: back).mapM f = .ok ys) :
    ∃ fs y bs, front.mapM f = .ok fs ∧ f x = .ok y ∧ back.mapM f = .ok bs ∧
      ys = fs ++ y :: bs := by
  simp only [List.mapM_append, List.mapM_cons, bind_eq_ok_iff, pure, Except.pure,
    Except.ok.injEq] at h
  obtain ⟨fs, hfs, _, ⟨y, hy, bs, hbs, rfl⟩, rfl⟩ := h
  exact ⟨fs, y, bs, hfs, hy, hbs, rfl⟩

/-- Descriptions that are alike but for one file load as files that are the
same but for one, and there once redacted. -/
theorem Schema.load_alike {raw raw' routeBase : Value} {front back : List Value}
    {v v' : Value}
    {schema schema' : Schema} (hraw : raw.Describes (front ++ v :: back))
    (hraw' : raw'.Describes (front ++ v' :: back)) (halike : Alike FileAlike v v')
    (h : Schema.load raw routeBase = .ok schema)
    (h' : Schema.load raw' routeBase = .ok schema') :
    schema'.routeBase = schema.routeBase ∧
      schema'.files.map File.redacted = schema.files.map File.redacted ∧
      ∀ i, i ≠ front.length → schema'.files[i]? = schema.files[i]? := by
  obtain ⟨hbase, hfiles⟩ := (Schema.load_eq_ok_iff hraw).1 h
  obtain ⟨hbase', hfiles'⟩ := (Schema.load_eq_ok_iff hraw').1 h'
  obtain ⟨fs, f, bs, hfs, hf, hbs, hall⟩ := mapM_append_cons_eq_ok hfiles
  obtain ⟨fs', f', bs', hfs', hf', hbs', hall'⟩ := mapM_append_cons_eq_ok hfiles'
  cases hfs.symm.trans hfs'
  cases hbs.symm.trans hbs'
  rw [hall, hall']
  have hredacted := FileAlike.redacted_eq halike hf hf'
  have hlength : fs.length = front.length := (mapM_eq_ok_iff.1 hfs).length_eq.symm
  refine ⟨?_, ?_, fun i hi => ?_⟩
  · rcases hbase with rfl | ⟨rfl, hbase⟩ <;> rcases hbase' with hbase' | ⟨hnull, hbase'⟩
    · exact (Value.text.inj hbase').symm
    · cases hnull
    · cases hbase'
    · rw [hbase, hbase']
  · simp only [List.map_append, List.map_cons, hredacted]
  · rw [← hlength] at hi
    rcases Nat.lt_or_gt_of_ne hi with hlt | hgt
    · rw [List.getElem?_append_left hlt, List.getElem?_append_left hlt]
    · rw [List.getElem?_append_right hgt.le, List.getElem?_append_right hgt.le,
        ← Nat.succ_pred_eq_of_pos (Nat.sub_pos_of_lt hgt), List.getElem?_cons_succ,
        List.getElem?_cons_succ]

/-! ## Generation -/

theorem generate_builtIn_eq_ok {raw routeBase : Value} {g : Generation}
    (h : generate raw routeBase none = .ok g) :
    ∃ schema r site nodes, Accepted raw routeBase schema r site ∧
      buildNavigation site.pages = .ok nodes ∧
      g.documents = site.pages.map (Page.laidOut site.links) ∧ g.links = site.links ∧
      g.unresolved = r.unresolved ∧
      g.navigation = NavTree.mapAll (documentOf g.documents) nodes := by
  obtain ⟨schema, r, site, style, haccepted, hstyle, hlaid⟩ := generate_eq_ok_iff.1 h
  cases hstyle
  obtain ⟨documents, ⟨hpages, htexts⟩, nodes, hnodes, rfl⟩ := layOutSite_eq_ok_iff.1 hlaid
  exact ⟨schema, r, site, nodes, haccepted, hnodes, documents_builtIn hpages htexts,
    rfl, rfl,
    rfl⟩

/-- What the navigation shows of the document of a page is found by the name
of the page. -/
theorem shown_documentOf (documents : List Document) :
    Document.shown ∘ documentOf documents =
      (fun p => ((documents.map Document.shown).find? (·.1 == p.fileName)).getD
        (p.fileName, p.link)) ∘ Page.redacted := by
  funext p
  rw [Function.comp_apply, Function.comp_apply, documentOf, List.find?_map]
  have hfind : ((fun s : String × String => s.1 == p.fileName) ∘ Document.shown) =
      fun d => d.fileName == p.fileName := rfl
  change _ = (Option.map _ (documents.find?
    ((fun s : String × String => s.1 == p.fileName) ∘ Document.shown))).getD _
  rw [hfind]
  cases documents.find? fun d => d.fileName == p.fileName <;> rfl

theorem Page.eq_of_redacted {p q : Page} (h : p.redacted = q.redacted)
    (hfile : p.file = q.file) :
    p = q := by
  cases p
  cases q
  simp_all [Page.redacted]

/-- When what changes in a description is only shown, and in one file only, the
built-in layout gives the same document for every other file, and the same
names, links, unresolved names and navigation. -/
theorem generate_isolated {raw raw' routeBase : Value} {front back : List Value}
    {v v' : Value}
    {g g' : Generation} (hraw : raw.Describes (front ++ v :: back))
    (hraw' : raw'.Describes (front ++ v' :: back)) (halike : Alike FileAlike v v')
    (h : generate raw routeBase none = .ok g)
    (h' : generate raw' routeBase none = .ok g') :
    (∀ i, i ≠ front.length →
      (g'.documents[i]?).map Document.text = (g.documents[i]?).map Document.text) ∧
    g'.documents.map Document.fileName = g.documents.map Document.fileName ∧
    g'.links = g.links ∧ g'.unresolved = g.unresolved ∧ g'.warnings = g.warnings ∧
    NavTree.mapAll Document.shown g'.navigation =
      NavTree.mapAll Document.shown g.navigation := by
  obtain ⟨schema, r, site, nodes, haccepted, hnodes, hdocuments, hlinks, hunresolved,
    hnavigation⟩ := generate_builtIn_eq_ok h
  obtain ⟨schema', r', site', nodes', haccepted', hnodes', hdocuments',
    hlinks', hunresolved',
    hnavigation'⟩ := generate_builtIn_eq_ok h'
  obtain ⟨hbase, hfiles, hothers⟩ :=
    Schema.load_alike hraw hraw' halike haccepted.load haccepted'.load
  obtain ⟨hresolved, hleft⟩ :=
    resolve_redacted hfiles haccepted.resolve haccepted'.resolve
  have hsite' := haccepted'.site
  rw [hbase] at hsite'
  obtain ⟨hpages, htable⟩ := buildSite_eq_of_redacted hresolved haccepted.site hsite'
  have hshown : g'.documents.map Document.shown = g.documents.map Document.shown := by
    have hall : ∀ pages : List Page, ∀ links,
      (pages.map (Page.laidOut links)).map Document.shown =
        (pages.map Page.redacted).map fun p => (p.fileName, p.link) := by
      intro pages links
      rw [List.map_map, List.map_map]
      rfl
    rw [hdocuments, hdocuments', hall, hall, hpages]
  have hfill := Index.fillFile_congr
    (reference_eq_of_redacted hfiles haccepted.nodup_declaredNames)
  refine ⟨fun i hi => ?_, ?_, ?_, ?_, ?_, ?_⟩
  · -- the page of another file has the same file and the same redaction
    have hpage : site'.pages[i]? = site.pages[i]? := by
      have hfile : (site'.pages[i]?).map Page.file = (site.pages[i]?).map Page.file := by
        rw [← List.getElem?_map, ← List.getElem?_map, haccepted.map_file,
          haccepted'.map_file, hfill, List.getElem?_map, List.getElem?_map, hothers i hi]
      have hredacted : (site'.pages[i]?).map Page.redacted =
          (site.pages[i]?).map Page.redacted := by
        rw [← List.getElem?_map, ← List.getElem?_map, hpages]
      revert hfile hredacted
      cases site'.pages[i]? <;> cases site.pages[i]? <;> simp
      exact fun hfile hredacted => Page.eq_of_redacted hredacted hfile
    rw [hdocuments, hdocuments', List.getElem?_map, List.getElem?_map, hpage, htable]
  · have hnames := congrArg (List.map Prod.fst) hshown
    rwa [List.map_map, List.map_map] at hnames
  · rw [hlinks, hlinks', htable]
  · rw [hunresolved, hunresolved', hleft]
  · rw [Generation.warnings, Generation.warnings, hunresolved, hunresolved', hleft]
  · have htrees := buildNavigation_redacted site'.pages
    rw [hpages, buildNavigation_redacted, hnodes, hnodes'] at htrees
    have htrees := Except.ok.inj htrees
    rw [hnavigation, hnavigation', NavTree.mapAll_mapAll, NavTree.mapAll_mapAll,
      shown_documentOf, shown_documentOf, hshown, ← NavTree.mapAll_mapAll,
      ← NavTree.mapAll_mapAll, htrees]

/-! ## An order, its items, and a color -/

/-- The second file of the entangled ones, with a text, and what else is only
shown. -/
def itemFile (text : String) (shown : List (String × Value)) : Value :=
  .object [
    ("path", .text "shop/item.proto"), ("package", .text "shop"),
    ("description", .text text),
    ("messages", .list [.object [
      ("name", .text "Item"), ("description", .text text),
      ("fields", .list [
        .object ([("name", .text "order"), ("type", .text "Order")] ++ shown),
        .object [("name", .text "color"), ("type", .text ".paint.Color")]]),
      ("enums", .list [.object [
        ("name", .text "State"),
        ("values", .list [.object [("name", .text text), ("number", .int 0)]])]])]])]

def plainItem : Value := itemFile "NEW" []

def shownItem : Value := itemFile "OLD" [
  ("number", .int 4), ("label", .text "repeated"), ("oneof", .text "origin"),
  ("default_value", .text "none"), ("description", .text "Where it came from.")]

theorem alike_item : Alike FileAlike plainItem shownItem := by
  refine .object ⟨.of_filter rfl, .list (.cons (.object ?_) .nil), .same _, .same _⟩
  refine .intro (.of_filter rfl) (.list ?_) (.same _) (.list (.cons (.object ?_) .nil))
  · exact .cons (.object (.of_filter rfl)) (.cons (.same _) .nil)
  · exact .of_filter rfl

def shopOf (item : Value) : Value :=
  .object [("files", .list (entangled.take 1 ++ item :: entangled.drop 2))]

theorem generate_isolated_item :
    ∃ g g', generate (shopOf plainItem) (.text "docs") none = .ok g ∧
      generate (shopOf shownItem) (.text "docs") none = .ok g' ∧
      (∀ i, i ≠ 1 →
        (g'.documents[i]?).map Document.text = (g.documents[i]?).map Document.text) ∧
      g'.documents.map Document.fileName = g.documents.map Document.fileName ∧
      g'.links = g.links ∧ g'.unresolved = g.unresolved ∧ g'.warnings = g.warnings ∧
      NavTree.mapAll Document.shown g'.navigation =
        NavTree.mapAll Document.shown g.navigation := by
  have haccepted : ∃ schema r site,
      Accepted (shopOf plainItem) (.text "docs") schema r site := ⟨_, _, _, rfl, rfl, rfl⟩
  have haccepted' : ∃ schema r site,
      Accepted (shopOf shownItem) (.text "docs") schema r site := ⟨_, _, _, rfl, rfl, rfl⟩
  obtain ⟨_, _, _, haccepted⟩ := haccepted
  obtain ⟨_, _, _, haccepted'⟩ := haccepted'
  obtain ⟨g, h⟩ := haccepted.exists_generation
  obtain ⟨g', h'⟩ := haccepted'.exists_generation
  have hraw (item : Value) :
      (shopOf item).Describes (entangled.take 1 ++ item :: entangled.drop 2) :=
        ⟨_, rfl, rfl⟩
  exact ⟨g, g', h, h',
    generate_isolated (hraw plainItem) (hraw shownItem) alike_item h h'⟩

end SchemaDocs
