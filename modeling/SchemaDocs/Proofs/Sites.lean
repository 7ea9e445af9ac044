import SchemaDocs.Proofs.Failure
import SchemaDocs.Proofs.Keys
import SchemaDocs.Proofs.PageNames
import SchemaDocs.Proofs.Routes

/-!
# What holds of a site while it is built

A site grows by one page at a time. Each page is named apart from those before
it, and its link is entered under the path of its file, over any link that was
there. `Site.Sound` is what every step keeps: no two pages have one name, a
name is the group of a page followed by its slug, a link is the base followed
by the name, and the table of links has for every path the link of the last
page of that path.

Building stops only at a file without a route, so it gives one page for each
file, in order, exactly when every file has one.
-/

namespace SchemaDocs

/-! ## The table of links -/

theorem LinkTable.find?_cons (links : LinkTable) (path link other : String) :
    LinkTable.find? ((path, link) :: links) other =
      if path = other then some link else links.find? other := by
  rw [LinkTable.find?, List.lookup_cons]
  by_cases h : path = other
  · subst h
    simp
  · rw [if_neg h, beq_false_of_ne (Ne.symm h)]
    rfl

/-- A new link hides the one that was there for its path, and no other. -/
theorem LinkTable.find?_insert (links : LinkTable) (path link other : String) :
    (links.insert path link).find? other =
      if path = other then some link else links.find? other := by
  induction links with
  | nil => rw [LinkTable.insert, LinkTable.find?_cons]
  | cons entry rest ih =>
      obtain ⟨p, l⟩ := entry
      rw [LinkTable.insert]
      split
      · next hp =>
          subst hp
          rw [LinkTable.find?_cons, LinkTable.find?_cons]
          split <;> rfl
      · next hp =>
          rw [LinkTable.find?_cons, LinkTable.find?_cons, ih]
          split
          · next hpo => rw [if_neg fun h => hp (hpo.trans h.symm)]
          · rfl

theorem LinkTable.insert_of_notMem {links : LinkTable} {path link : String}
    (h : path ∉ links.map Prod.fst) :
    links.insert path link = links ++ [(path, link)] := by
  induction links with
  | nil => rfl
  | cons entry rest ih =>
      obtain ⟨p, l⟩ := entry
      rw [List.map_cons, List.mem_cons, not_or] at h
      rw [LinkTable.insert, if_neg (Ne.symm h.1), ih h.2, List.cons_append]

/-! ## One page -/

/-- A page that is built for a file has the segments of the file, and its name
and its link are put together from them and its slug. -/
structure Page.Named (base : String) (p : Page) : Prop where
  segments : p.segments = p.file.segments
  fileName : p.fileName = groupPrefix p.segments ++ p.slug
  link : p.link = normalizeRouteBase base ++ "/" ++ p.fileName

theorem Page.build_eq_ok {file : File} {base : String} {taken : List String}
    {p : Page} (h : Page.build file base taken = .ok p) :
    p.file = file ∧ p.Named base ∧ p.fileName ∉ taken := by
  rw [Page.build] at h
  obtain ⟨⟨route, plain⟩, -, hp⟩ := bind_eq_ok_iff.1 h
  cases hp
  exact ⟨rfl, ⟨rfl, rfl, rfl⟩, freeSlug_not_taken _ _ _ _⟩

theorem Page.build_eq_error_iff {file : File} (base : String)
    (taken : List String) :
    (∃ e, Page.build file base taken = .error e) ↔ file.Unroutable := by
  rw [← File.route_eq_error_iff (normalizeRouteBase base), Page.build]
  simp only [bind_eq_error_iff, pure, Except.pure, reduceCtorEq, and_false,
    exists_false, or_false]

/-! ## The pages of a site -/

structure Site.Sound (base : String) (site : Site) : Prop where
  named : ∀ p ∈ site.pages, p.Named base
  distinct : (site.pages.map Page.fileName).Nodup
  links : ∀ path, site.links.find? path =
    (site.pages.reverse.find? (·.file.path == path)).map Page.link

theorem Site.sound_empty (base : String) : Site.Sound base {} :=
  ⟨by simp, by simp, fun _ => rfl⟩

theorem Site.Sound.add {base : String} {site : Site} {p : Page}
    (hs : site.Sound base) (hp : p.Named base) (hfree : p.fileName ∉ site.taken) :
    (site.add p).Sound base := by
  constructor
  case named =>
      simp only [Site.add, List.forall_mem_append, List.forall_mem_singleton]
      exact ⟨hs.named, hp⟩
  case distinct =>
      simp only [Site.add, List.map_append, List.map_cons, List.map_nil]
      exact hs.distinct.append (List.nodup_singleton _)
        (by simpa [List.disjoint_singleton, Site.taken] using hfree)
  case links =>
      intro path
      simp only [Site.add, LinkTable.find?_insert, hs.links path,
        List.reverse_append, List.reverse_singleton, List.singleton_append,
        List.find?_cons]
      by_cases hpath : p.file.path = path
      · simp [hpath]
      · simp [hpath, beq_false_of_ne hpath]

/-- A site that is sound stays so, and gains one page for each file. -/
theorem Site.extend_sound {base : String} : ∀ {files : List File} {site site' : Site},
    site.Sound base → Site.extend base site files = ⟨site', none⟩ →
    site'.Sound base ∧
      site'.pages.map Page.file = site.pages.map Page.file ++ files := by
  intro files
  induction files with
  | nil =>
      intro site site' hs h
      cases h
      exact ⟨hs, by simp⟩
  | cons f rest ih =>
      intro site site' hs h
      rw [Site.extend] at h
      split at h
      · next p hp =>
          obtain ⟨hfile, hnamed, hfree⟩ := Page.build_eq_ok hp
          obtain ⟨hs', hfiles⟩ := ih (hs.add hnamed hfree) h
          refine ⟨hs', ?_⟩
          rw [hfiles]
          simp [Site.add, hfile]
      · cases h

theorem Site.extend_error_iff (base : String) : ∀ {files : List File} (site : Site),
    (∃ e, (Site.extend base site files).error = some e) ↔
      ∃ f ∈ files, f.Unroutable := by
  intro files
  induction files with
  | nil => intro site; simp [Site.extend]
  | cons f rest ih =>
      intro site
      rw [Site.extend, List.exists_mem_cons_iff,
        ← Page.build_eq_error_iff base site.taken]
      split
      · next p hp => rw [ih]; simp [hp]
      · next e he => simp [he]

theorem buildSite_eq_ok_iff {files : List File} {base : String} {site : Site} :
    buildSite files base = .ok site ↔ Site.extend base {} files = ⟨site, none⟩ := by
  rw [buildSite]
  split
  · next hrun => simp [hrun]
  · next hrun => simp [hrun]

theorem buildSite_eq_ok {files : List File} {base : String} {site : Site}
    (h : buildSite files base = .ok site) :
    site.Sound base ∧ site.pages.map Page.file = files := by
  simpa using Site.extend_sound (Site.sound_empty base) (buildSite_eq_ok_iff.1 h)

/-- A site is built unless some file has no route. -/
theorem buildSite_eq_error_iff {files : List File} {base : String} :
    (∃ e, buildSite files base = .error e) ↔ ∃ f ∈ files, f.Unroutable := by
  rw [← Site.extend_error_iff base {}, buildSite]
  split
  · next hrun => simp [hrun]
  · next hrun => simp [hrun]

/-! ## What the links of a sound site say -/

section

variable {base : String} {site : Site} (hs : site.Sound base)

include hs

theorem Site.Sound.distinct_links : (site.pages.map Page.link).Nodup := by
  have hlinks : site.pages.map Page.link =
      (site.pages.map Page.fileName).map (normalizeRouteBase base ++ "/" ++ ·) := by
    rw [List.map_map]
    exact List.map_congr_left fun p hp => (hs.named p hp).link
  rw [hlinks]
  exact hs.distinct.map fun a b hab => by simpa using hab

theorem Site.Sound.find?_eq_none_iff {path : String} :
    site.links.find? path = none ↔ ∀ p ∈ site.pages, p.file.path ≠ path := by
  rw [hs.links, Option.map_eq_none_iff, List.find?_eq_none]
  simp

/-- As long as no two files have one path, the link of a path leads to the page
of its file. -/
theorem Site.Sound.find?_path (hnd : (site.pages.map (·.file.path)).Nodup)
    {p : Page} (hp : p ∈ site.pages) :
    site.links.find? p.file.path = some p.link := by
  have hreverse : (site.pages.reverse.map (·.file.path)).Nodup := by
    rwa [List.map_reverse, List.nodup_reverse]
  rw [hs.links, (find?_key_eq_some_iff hreverse).2 ⟨List.mem_reverse.2 hp, rfl⟩,
    Option.map_some]

end

end SchemaDocs
