import SchemaDocs.Proofs.Marks
import SchemaDocs.Proofs.RouteLinks

/-!
# What ends an anchor or a link

The value of an anchor ends at a quote, the label of a link at a bracket, and
the place that it leads to at white space or a parenthesis. The escaper is made
for other characters, those that MDX reads as tags, expressions, cells and
code, and passes all of these as they are. So a mark is delimited exactly if
what it is made from has no such character, and nothing before the layout takes
them out: full names, paths and packages are used as they were loaded.

That leaves what is usual. A full name is what was declared. The link of a page
is made of the base of the routes, parts of its package and its path, and
slashes, underscores and digits. So on the pages of a schema with none of these
characters in the base, in a path, in a package or in a full name, every mark
is delimited.
-/

namespace SchemaDocs

/-! ## Delimiters -/

/-- White space, and what anchors and links are written with. -/
def Delimiter (c : Char) : Prop := Text.isBlank c = true ∨ c ∈ ['"', '[', ']', '(', ')']

instance (c : Char) : Decidable (Delimiter c) := inferInstanceAs (Decidable (_ ∨ _))

/-- What ends the place that a link leads to. -/
def EndsPlace (c : Char) : Prop := Text.isBlank c = true ∨ c = '(' ∨ c = ')'

theorem EndsPlace.delimiter {c : Char} (h : EndsPlace c) : Delimiter c := by
  rcases h with hblank | rfl | rfl
  · exact Or.inl hblank
  · decide
  · decide

/-- As it is written, no part of a mark has a character that would end it. -/
def Mark.Delimited : Mark → Prop
  | .anchor fullName => Lacks '"' (Text.escapeMdx fullName)
  | .link label href =>
    (Lacks '[' (Text.escapeMdx label) ∧ Lacks ']' (Text.escapeMdx label)) ∧
      ∀ c, EndsPlace c → Lacks c (Text.escapeMdx href)

/-- What a mark is made from has no character that would end it. -/
def Mark.Clear : Mark → Prop
  | .anchor fullName => Lacks '"' fullName
  | .link label href =>
    (Lacks '[' label ∧ Lacks ']' label) ∧ ∀ c, EndsPlace c → Lacks c href

/-- The escaper passes delimiters as they are, and brings none in. -/
theorem lacks_delimiter_escapeMdx {c : Char} (hc : Delimiter c) {s : String} :
    Lacks c (Text.escapeMdx s) ↔ Lacks c s := by
  have hreserved : Text.mdxReserved.all fun c => ¬ Delimiter c := by decide
  have hentities :
      Text.mdxEntities.all fun e => e.toList.all fun c => ¬ Delimiter c := by decide
  refine lacks_escapeMdx (fun hmem => ?_) fun e he hmem => ?_
  · exact of_decide_eq_true (List.all_eq_true.1 hreserved c hmem) hc
  · exact of_decide_eq_true
      (List.all_eq_true.1 (List.all_eq_true.1 hentities e he) c hmem) hc

/-- A mark is delimited exactly if what it is made from lets it be. -/
theorem Mark.delimited_iff (m : Mark) : m.Delimited ↔ m.Clear := by
  cases m with
  | anchor fullName => exact lacks_delimiter_escapeMdx (by decide)
  | link label href =>
      have hplace : (∀ c, EndsPlace c → Lacks c (Text.escapeMdx href)) ↔
          ∀ c, EndsPlace c → Lacks c href :=
        forall_congr' fun c => forall_congr' fun hc =>
          lacks_delimiter_escapeMdx hc.delimiter
      exact and_congr (and_congr (lacks_delimiter_escapeMdx (by decide))
        (lacks_delimiter_escapeMdx (by decide))) hplace

/-- A text without delimiters. -/
def Ordinary (s : String) : Prop := ∀ c ∈ s.toList, ¬ Delimiter c

instance (s : String) : Decidable (Ordinary s) :=
  List.decidableBAll (¬ Delimiter ·) s.toList

theorem Ordinary.lacks {s : String} (h : Ordinary s) {c : Char} (hc : Delimiter c) :
    Lacks c s :=
  fun hmem => h c hmem hc

/-! ## What links are made of -/

namespace Delimiter

variable {c : Char} (hc : Delimiter c)

include hc

/-- Numbers have no delimiter. -/
theorem isDigit_eq_false : c.isDigit = false := by
  rw [Bool.eq_false_iff]
  intro hdigit
  rw [Char.isDigit, Bool.and_eq_true, decide_eq_true_eq, decide_eq_true_eq] at hdigit
  have hge : 48 ≤ c.toNat := UInt32.le_iff_toNat_le.1 hdigit.1
  have hle : c.toNat ≤ 57 := UInt32.le_iff_toNat_le.1 hdigit.2
  rcases hc with hblank | hmem
  · have hapart : ∀ r ∈ Text.blankRanges, r.2 < 48 ∨ 57 < r.1 := by decide
    obtain ⟨r, hr, hrange⟩ := Text.inRanges_iff.1 hblank
    have := hapart r hr
    omega
  · have hapart : ['"', '[', ']', '(', ')'].all fun d => d.toNat < 48 ∨ 57 < d.toNat := by
      decide
    have := of_decide_eq_true (List.all_eq_true.1 hapart c hmem)
    omega

theorem lacks_normalizeRouteBase {base : String} (h : Lacks c base) :
    Lacks c (normalizeRouteBase base) := by
  have hinner : Lacks c (trimSlashes (Text.trim base)) := by
    intro hmem
    have htrimmed := mem_of_mem_trimSlashes hmem
    rw [Text.trim, String.toList_ofList] at htrimmed
    exact h (Text.mem_of_mem_trimBy htrimmed)
  have hslash : Lacks c "/" := Ordinary.lacks (by decide) hc
  rw [normalizeRouteBase]
  exact lacks_ite lacks_empty (lacks_append.2 ⟨hslash, hinner⟩)

section

variable {f : File} (hpath : Lacks c f.path) (hpackage : Lacks c f.package)

include hpath hpackage

/-- A slug has what the path and the package have, underscores and digits. -/
theorem lacks_candidate (n : Nat) : Lacks c (f.candidate n) := by
  have hplain : Lacks c f.plainSlug :=
    fun hmem => (File.mem_of_mem_plainSlug hmem).elim hpackage hpath
  have hunder : Lacks c "_" := Ordinary.lacks (by decide) hc
  have hne : c ≠ '_' := fun heq => hunder (List.mem_singleton.2 heq)
  have hflat : Lacks c (flatName f.plainSlug (trimSlashes f.path)) := by
    rw [flatName]
    split
    · exact hplain
    · intro hmem
      have hparts : Lacks c (stripExtension (trimSlashes f.path)) := by
        rw [stripExtension_trimSlashes]
        exact notMem_join (Ordinary.lacks (by decide) hc)
          fun part hpart hmem => hpath (mem_of_mem_stemParts hpart hmem)
      exact (Text.mem_replaceChar hmem).elim hne fun hmem => hparts hmem.1
  cases n with
  | zero => exact hplain
  | succ n => exact notMem_slugCandidate_succ hc.isDigit_eq_false hne hflat n

end

/-- A link has what the base, the path and the package have, and slashes,
underscores and digits. -/
theorem lacks_link {base : String} {p : Page} (hnamed : p.Named base) (hslug : p.Slugged)
    (hbase : Lacks c base) (hpath : Lacks c p.file.path)
    (hpackage : Lacks c p.file.package) :
    Lacks c p.link := by
  have hslash : Lacks c "/" := Ordinary.lacks (by decide) hc
  have hname : Lacks c p.fileName := by
    rw [hnamed.fileName, groupPrefix_append, hnamed.segments]
    refine notMem_join hslash ?_
    rw [List.forall_mem_append, List.forall_mem_singleton]
    constructor
    · exact fun s hs hmem => (File.mem_of_mem_segments hs hmem).elim hpackage hpath
    · obtain ⟨n, hn⟩ := hslug
      rw [hn]
      exact lacks_candidate hc hpath hpackage n
  rw [hnamed.link, lacks_append, lacks_append]
  exact ⟨⟨hc.lacks_normalizeRouteBase hbase, hslash⟩, hname⟩

end Delimiter

/-! ## The marks of a site -/

/-- Where the marks on the pages of a site come from: they are made of full
names that are declared, and of paths and links of its pages. -/
inductive Mark.Sourced (names : List String) (pages : List Page) : Mark → Prop
  | declared {name : String} (h : name ∈ names) : Sourced names pages (.anchor name)
  | reference {name : String} {q : Page} (h : name ∈ names) (hq : q ∈ pages) :
      Sourced names pages (.link name (q.link ++ "#" ++ name))
  | imported {q : Page} (hq : q ∈ pages) : Sourced names pages (.link q.file.path q.link)

/-- A schema without delimiters in what its marks are made of. -/
structure Schema.Ordinary (schema : Schema) : Prop where
  base : SchemaDocs.Ordinary schema.routeBase
  paths : ∀ f ∈ schema.files, SchemaDocs.Ordinary f.path
  packages : ∀ f ∈ schema.files, SchemaDocs.Ordinary f.package
  names : ∀ name ∈ declaredNames schema.files, SchemaDocs.Ordinary name

theorem PageBindings.ShowsType.hasType {p : PageBindings} {t : TypeBinding}
    (h : p.ShowsType t) : p.HasType t := by
  cases h with
  | @field m f t hm hf ht =>
      rw [FieldBinding.shownTypes] at ht
      cases hmap : f.map with
      | none =>
          rw [hmap, List.mem_singleton] at ht
          rw [ht]
          exact .field hm hf
      | some types =>
          rw [hmap] at ht
          rcases List.mem_pair.1 ht with rfl | rfl
          · exact .key hm hf hmap
          · exact .value hm hf hmap
  | request hs hx => exact .request hs hx
  | response hs hx => exact .response hs hx

theorem Site.Sound.exists_page_of_find? {base : String} {site : Site}
    (hs : site.Sound base)
    {path link : String} (h : site.links.find? path = some link) :
    ∃ q ∈ site.pages, q.file.path = path ∧ q.link = link := by
  rw [hs.links, Option.map_eq_some_iff] at h
  obtain ⟨q, hfind, hlink⟩ := h
  exact ⟨q, List.mem_reverse.1 (List.mem_of_find?_eq_some hfind),
    by simpa using List.find?_some hfind, hlink⟩

theorem Denotes.declared {files : List File} {scope name entity path : String}
    {kind : EntityKind} (h : Denotes files scope name (.resolved entity path kind)) :
    ∃ f ∈ files, f.Declares kind entity := by
  have hdeclared : TypeDeclared files entity path kind := by
    cases h with
    | absolute hp hn hd => exact hd
    | relative hp hn hk hd inner => exact hd
  obtain ⟨⟨f, hf, -, hdeclares⟩, -⟩ := hdeclared
  exact ⟨f, hf, hdeclares⟩

theorem mem_declaredNames {files : List File} {f : File} (hf : f ∈ files)
    {kind : EntityKind}
    {name : String} (h : f.Declares kind name) : name ∈ declaredNames files := by
  obtain ⟨d, hd, rfl, -, -⟩ := exists_declaration_iff.2 ⟨f, hf, rfl, h⟩
  rw [← map_fullName_declarations]
  exact List.mem_map_of_mem hd

namespace Accepted

variable {raw routeBase : Value} {schema : Schema} {r : Resolution} {site : Site}
  (h : Accepted raw routeBase schema r site)

include h

theorem sourced {p : Page} (hp : p ∈ site.pages) {m : Mark}
    (hm : (p.bind site.links).Emits m) :
    m.Sourced (declaredNames schema.files) site.pages := by
  cases hm with
  | anchor hanchor =>
      obtain ⟨f, hf, hfile⟩ := h.file_of_page hp
      rw [Page.hasAnchor_bind, hfile, Index.fillFile_declares] at hanchor
      exact .declared (mem_declaredNames hf hanchor)
  | type hshows hhref =>
      obtain ⟨scope, name, ref, hdenotes, rfl⟩ :=
        Page.boundFrom_of_hasType (h.page_follows hp) hshows.hasType
      cases ref with
      | primitive name => cases hhref
      | unresolved name => cases hhref
      | resolved entity path kind =>
          obtain ⟨link, hlink, rfl⟩ := Option.map_eq_some_iff.1 hhref
          obtain ⟨q, hq, -, rfl⟩ := h.sound.exists_page_of_find? hlink
          obtain ⟨f, hf, hdeclares⟩ := hdenotes.declared
          exact .reference (mem_declaredNames hf hdeclares) hq
  | imported hd hhref =>
      obtain ⟨path, -, rfl⟩ := List.mem_map.1 hd
      obtain ⟨q, hq, rfl, rfl⟩ := h.sound.exists_page_of_find? hhref
      exact .imported hq

/-- Nothing in front of the layout brings delimiters into a schema without. -/
theorem ordinary_link (hordinary : schema.Ordinary) {q : Page}
    (hq : q ∈ site.pages) {c : Char}
    (hc : Delimiter c) : Lacks c q.file.path ∧ Lacks c q.link := by
  obtain ⟨f, hf, hfile⟩ := h.file_of_page hq
  have hpath : Lacks c q.file.path := by
    rw [hfile]
    exact (hordinary.paths f hf).lacks hc
  have hpackage : Lacks c q.file.package := by
    rw [hfile]
    exact (hordinary.packages f hf).lacks hc
  exact ⟨hpath, hc.lacks_link (h.sound.named q hq) (buildSite_slugged h.site q hq)
    (hordinary.base.lacks hc) hpath hpackage⟩

theorem clear_of_sourced (hordinary : schema.Ordinary) {m : Mark}
    (hm : m.Sourced (declaredNames schema.files) site.pages) : m.Clear := by
  cases hm with
  | declared hname => exact (hordinary.names _ hname).lacks (by decide)
  | reference hname hq =>
      have hentity := hordinary.names _ hname
      refine ⟨⟨hentity.lacks (by decide), hentity.lacks (by decide)⟩, fun c hc => ?_⟩
      have hhash : Lacks c "#" := Ordinary.lacks (by decide) hc.delimiter
      rw [lacks_append, lacks_append]
      exact ⟨⟨(h.ordinary_link hordinary hq hc.delimiter).2, hhash⟩,
        hentity.lacks hc.delimiter⟩
  | imported hq =>
      exact ⟨⟨(h.ordinary_link hordinary hq (by decide)).1,
        (h.ordinary_link hordinary hq (by decide)).1⟩,
        fun c hc => (h.ordinary_link hordinary hq hc.delimiter).2⟩

end Accepted

theorem marked_page (p : PageBindings) :
    Marked p.marks (behindFrontMatter (Layout.page p)) := by
  rw [behindFrontMatter_page]
  exact marked_body p

/-- On a page of an accepted description the built-in layout writes, behind the
front matter, the anchors and links that the page emits and no others, and
makes them of full names, paths and links. Each is delimited exactly if what it
is made from has no character that would end it, and all are if the schema has
no delimiter in the base of its routes, its paths, packages and full names. -/
theorem layOut_builtIn_delimited {raw routeBase : Value} {schema : Schema}
    {r : Resolution}
    {site : Site} (h : Accepted raw routeBase schema r site)
    {p : Page} (hp : p ∈ site.pages) :
    ∃ text, Layout.Style.builtIn.layOut (p.bind site.links) = .ok text ∧
      Marked (p.bind site.links).marks (behindFrontMatter text) ∧
      ∀ m, (m ∈ (p.bind site.links).marks ↔ (p.bind site.links).Emits m) ∧
        ((p.bind site.links).Emits m →
          m.Sourced (declaredNames schema.files) site.pages) ∧
        (m.Delimited ↔ m.Clear) ∧
        (schema.Ordinary → (p.bind site.links).Emits m → m.Delimited) := by
  refine ⟨Layout.page (p.bind site.links), rfl, marked_page (p.bind site.links),
    fun m => ⟨PageBindings.mem_marks, h.sourced hp, m.delimited_iff, ?_⟩⟩
  intro hordinary hm
  exact m.delimited_iff.2 (h.clear_of_sourced hordinary (h.sourced hp hm))

/-- The first page of two files that refer to each other is all delimited. -/
theorem layOut_builtIn_delimited_crossed :
    ∃ schema r site p, Accepted crossed (.text "docs") schema r site ∧ p ∈ site.pages ∧
      schema.Ordinary ∧ .link "acme.Label" "/docs/acme/b_user#acme.Label" ∈
        (p.bind site.links).marks ∧
      ∀ m ∈ (p.bind site.links).marks, m.Delimited := by
  have haccepted : ∃ schema r site p, Accepted crossed (.text "docs") schema r site ∧
      p ∈ site.pages ∧ schema.Ordinary ∧
      Mark.link "acme.Label" "/docs/acme/b_user#acme.Label" ∈ (p.bind site.links).marks :=
    ⟨_, _, _, _, ⟨rfl, rfl, rfl⟩, List.mem_cons_self,
      ⟨by decide +kernel, by decide +kernel, by decide +kernel, by decide +kernel⟩,
      by decide +kernel⟩
  obtain ⟨schema, r, site, p, h, hp, hordinary, hlink⟩ := haccepted
  obtain ⟨-, -, -, hmarks⟩ := layOut_builtIn_delimited h hp
  refine ⟨schema, r, site, p, h, hp, hordinary, hlink, fun m hm => ?_⟩
  obtain ⟨hemits, -, -, hdelimited⟩ := hmarks m
  exact hdelimited hordinary (hemits.1 hm)

/-- A file whose path has a blank, and one that imports it. -/
def spaced : Value := .object [("files", .list [
  .object [
    ("path", .text "a.proto"), ("package", .text "p"),
    ("dependencies", .list [.text "my types.proto"])],
  .object [("path", .text "my types.proto"), ("package", .text "p")]])]

/-- The place that the import leads to ends in the middle of the link. -/
theorem link_cut_short :
    ∃ schema r site p, Accepted spaced (.text "") schema r site ∧ p ∈ site.pages ∧
      ∃ m ∈ (p.bind site.links).marks, m.text = "[my types.proto](/p/my types)" ∧
        ¬ m.Delimited := by
  have hmark :
      ∃ schema r site p, Accepted spaced (.text "") schema r site ∧ p ∈ site.pages ∧
        (p.bind site.links).marks = [.link "my types.proto" "/p/my types"] :=
    ⟨_, _, _, _, ⟨rfl, rfl, rfl⟩, List.mem_cons_self, by decide +kernel⟩
  obtain ⟨schema, r, site, p, h, hp, hmarks⟩ := hmark
  refine ⟨schema, r, site, p, h, hp, _, hmarks ▸ List.mem_singleton_self _, by decide, ?_⟩
  rw [Mark.delimited_iff]
  exact fun hclear => hclear.2 ' ' (Or.inl (by decide)) (by decide)

end SchemaDocs
