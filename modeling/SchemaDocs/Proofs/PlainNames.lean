import SchemaDocs.Proofs.Sites

/-!
# Pages that keep their plain names

The name of a page depends on the pages before it only when the name that it
would like to have is among theirs. As long as no two files would like to have
one name, every file gets the page that it would get on a site of its own, so
the site of some files is the same in every order, except for the order of its
pages.
-/

namespace SchemaDocs

/-- What a page is called inside its group when nothing is in the way. -/
def File.plainSlug (f : File) : String :=
  let slug := (stemParts f.path).getLastD ""
  if slug = "" then f.segments.getLastD "" else slug

/-- The name that the page of a file would like to have. -/
def File.plainName (f : File) : String := groupPrefix f.segments ++ f.plainSlug

/-- The plain slug is a part of the path or of the group, if there is one. -/
theorem File.plainSlug_mem (f : File) :
    f.plainSlug ∈ stemParts f.path ∨ f.plainSlug ∈ f.segments ∨ f.plainSlug = "" := by
  rw [File.plainSlug]
  split
  · cases hlast : f.segments.getLast? with
    | none =>
        rw [List.getLastD_eq_getLast?, hlast]
        exact Or.inr (Or.inr rfl)
    | some s =>
        rw [List.getLastD_eq_getLast?, hlast]
        exact Or.inr (Or.inl (List.mem_of_getLast? hlast))
  · exact Or.inl (getLastD_mem_stemParts f.path)

theorem File.eq_plainSlug_of_route {f : File} {base route plain : String}
    (h : f.route base = .ok (route, plain)) : plain = f.plainSlug := by
  rw [File.route] at h
  rw [File.plainSlug]
  split at h
  · split at h
    · cases h
    · next hslug =>
        cases h
        rw [if_neg hslug]
  · split at h
    · cases h
    · next last hlast =>
        cases h
        have hsegment : f.segments.getLastD "" = last := by
          rw [List.getLastD_eq_getLast?, hlast, Option.getD_some]
        rw [hsegment]

theorem freeSlug_of_free {taken : List String} {group slug : String} (path : String)
    (h : group ++ slug ∉ taken) : freeSlug taken group slug path = slug := by
  rw [freeSlug, searchSlug, slugCandidate]
  exact if_neg (by simpa using h)

/-- Only a name that is taken makes a page depend on the pages before it. -/
theorem Page.build_of_free {f : File} {base : String} {taken : List String}
    (h : f.plainName ∉ taken) :
    Page.build f base taken = Page.build f base [] := by
  rw [Page.build, Page.build]
  cases hroute : f.route (normalizeRouteBase base) with
  | error e => simp only [Bind.bind, Except.bind]
  | ok named =>
      have hplain : named.2 = f.plainSlug := File.eq_plainSlug_of_route hroute
      simp only [Bind.bind, Except.bind, hplain]
      rw [freeSlug_of_free _ h, freeSlug_of_free _ List.not_mem_nil]

theorem Page.fileName_of_build {f : File} {base : String} {p : Page}
    (h : Page.build f base [] = .ok p) : p.fileName = f.plainName := by
  rw [Page.build] at h
  obtain ⟨⟨route, plain⟩, hroute, hp⟩ := bind_eq_ok_iff.1 h
  have hplain := File.eq_plainSlug_of_route hroute
  cases hp
  rw [File.plainName, ← hplain]
  dsimp only
  rw [freeSlug_of_free _ List.not_mem_nil]

/-- A site grows by the pages that its files would have alone. -/
theorem Site.extend_plain {base : String} : ∀ {files : List File} {site site' : Site},
    (site.taken ++ files.map File.plainName).Nodup →
    Site.extend base site files = ⟨site', none⟩ →
    ∃ pages, files.mapM (Page.build · base []) = .ok pages ∧
      site'.pages = site.pages ++ pages := by
  intro files
  induction files with
  | nil =>
      intro site site' _ h
      cases h
      exact ⟨[], rfl, (List.append_nil _).symm⟩
  | cons f rest ih =>
      intro site site' hnd h
      have hfree : f.plainName ∉ site.taken := fun hmem =>
        List.disjoint_of_nodup_append hnd hmem List.mem_cons_self
      rw [Site.extend, Page.build_of_free hfree] at h
      split at h
      · next p hp =>
          have hnd' : ((site.add p).taken ++ rest.map File.plainName).Nodup := by
            simpa [Site.taken, Site.add, Page.fileName_of_build hp] using hnd
          obtain ⟨pages, hpages, hsite⟩ := ih hnd' h
          refine ⟨p :: pages, ?_, by rw [hsite]; simp [Site.add]⟩
          rw [List.mapM_cons]
          exact bind_eq_ok_iff.2 ⟨p, hp, bind_eq_ok_iff.2 ⟨pages, hpages, rfl⟩⟩
      · cases h

theorem buildSite_plain {files : List File} {base : String} {site : Site}
    (hnd : (files.map File.plainName).Nodup) (h : buildSite files base = .ok site) :
    files.mapM (Page.build · base []) = .ok site.pages := by
  obtain ⟨pages, hpages, hsite⟩ :=
    Site.extend_plain (by simpa [Site.taken] using hnd) (buildSite_eq_ok_iff.1 h)
  rwa [hsite]

/-- Files in another order have the same pages. -/
theorem buildSite_perm {files files' : List File} {base : String} {site : Site}
    (hnd : (files.map File.plainName).Nodup) (hperm : files'.Perm files)
    (h : buildSite files base = .ok site) :
    ∃ site', buildSite files' base = .ok site' ∧ site'.pages.Perm site.pages := by
  cases hsite : buildSite files' base with
  | error e =>
      obtain ⟨f, hf, hroute⟩ := buildSite_eq_error_iff.1 ⟨e, hsite⟩
      obtain ⟨e, he⟩ : ∃ e, buildSite files base = .error e :=
        buildSite_eq_error_iff.2 ⟨f, hperm.mem_iff.1 hf, hroute⟩
      rw [h] at he
      cases he
  | ok site' =>
      have hnd' := (hperm.map File.plainName).nodup_iff.2 hnd
      obtain ⟨pages, hpages, hperm'⟩ := mapM_perm hperm (buildSite_plain hnd h)
      rw [buildSite_plain hnd' hsite, Except.ok.injEq] at hpages
      subst hpages
      exact ⟨site', rfl, hperm'⟩

end SchemaDocs
