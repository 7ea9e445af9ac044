import SchemaDocs.Proofs.PagePaths

/-!
# Every group names its pages by itself

The names that are taken are kept in one list for the whole site, and a page is
named apart from all of them. Still only the pages of its own group can be in
its way. A name is the segments of a group and a slug with slashes between
them, and as long as no package has a slash, neither has a segment or a slug: a
path is cut at its slashes, and where it is not cut they become underscores. So
the name, cut at its slashes, gives the group back, and names of two groups are
never the same.

It follows that the pages of a group are what building a site of the files of
that group alone gives, whatever other files stand between them. And since a
page depends on no file behind it, a page is the last one of the site of the
files of its group up to its own.
-/

namespace SchemaDocs

/-! ## Cutting a name -/

theorem groupPrefix_append (slug : String) : ∀ segments : List String,
    groupPrefix segments ++ slug = Text.join "/" (segments ++ [slug])
  | [] => by simp [groupPrefix, Text.join]
  | s :: rest => by
      have hcons : groupPrefix (s :: rest) ++ slug =
          s ++ "/" ++ (groupPrefix rest ++ slug) := by
        simp only [groupPrefix, List.foldr_cons, String.append_assoc]
      rw [hcons, groupPrefix_append slug rest, List.cons_append,
        Text.join.eq_3 _ _ _ (by simp)]

/-- Without slashes of their own, a group and a slug come back out of a name. -/
theorem splitOn_groupPrefix {segments : List String} {slug : String}
    (hsegments : ∀ s ∈ segments, '/' ∉ s.toList) (hslug : '/' ∉ slug.toList) :
    Text.splitOn '/' (groupPrefix segments ++ slug) = segments ++ [slug] := by
  rw [groupPrefix_append]
  refine Text.splitOn_join (by simp) ?_
  rw [List.forall_mem_append, List.forall_mem_singleton]
  exact ⟨hsegments, hslug⟩

/-! ## The names a file may get -/

/-- The slugs that the page of a file may get, in the order they are tried. -/
def File.candidate (f : File) (n : Nat) : String :=
  slugCandidate f.plainSlug (flatName f.plainSlug (trimSlashes f.path)) n

section

variable {f : File} (h : '/' ∉ f.package.toList)

include h

theorem File.slash_notMem_of_mem_segments {s : String} (hs : s ∈ f.segments) :
    '/' ∉ s.toList := by
  by_cases hp : f.package = ""
  · exact slash_notMem_of_mem_pathParts (File.mem_pathParts_of_mem_segments hp hs)
  · rw [File.segments, if_neg hp] at hs
    exact fun hslash => h (Text.mem_of_mem_splitOn (List.mem_of_mem_filter hs) hslash)

theorem File.slash_notMem_plainSlug : '/' ∉ f.plainSlug.toList := by
  rcases f.plainSlug_mem with hpath | hsegment | hnone
  · exact slash_notMem_of_mem_stemParts hpath
  · exact File.slash_notMem_of_mem_segments h hsegment
  · simp [hnone]

theorem File.slash_notMem_candidate (n : Nat) : '/' ∉ (f.candidate n).toList := by
  have hplain := File.slash_notMem_plainSlug h
  have hflat : '/' ∉ (flatName f.plainSlug (trimSlashes f.path)).toList := by
    rw [flatName]
    split
    · exact hplain
    · exact slash_notMem_flat (trimSlashes f.path)
  cases n with
  | zero => exact hplain
  | succ n => exact notMem_slugCandidate_succ (by decide) (by decide) hflat n

theorem File.splitOn_candidate (n : Nat) :
    Text.splitOn '/' (groupPrefix f.segments ++ f.candidate n) =
      f.segments ++ [f.candidate n] :=
  splitOn_groupPrefix (fun _ => File.slash_notMem_of_mem_segments h)
    (File.slash_notMem_candidate h n)

end

/-- The name of a page, cut at its slashes, is its group and its slug. -/
def Page.Splits (p : Page) : Prop := Text.splitOn '/' p.fileName = p.segments ++ [p.slug]

theorem Page.splits_of_build {f : File} {base : String} {taken : List String} {p : Page}
    (hp : Page.build f base taken = .ok p) (h : '/' ∉ f.package.toList) : p.Splits := by
  obtain ⟨rfl, hnamed, -⟩ := Page.build_eq_ok hp
  obtain ⟨n, hslug⟩ := Page.slugged_of_build hp
  rw [Page.Splits, hnamed.fileName, hnamed.segments, hslug]
  exact File.splitOn_candidate h n

/-- Of the names that are taken, a page depends on those it might get itself. -/
theorem Page.build_congr {f : File} {base : String} {taken taken' : List String}
    (h : ∀ n, groupPrefix f.segments ++ f.candidate n ∈ taken ↔
      groupPrefix f.segments ++ f.candidate n ∈ taken') :
    Page.build f base taken = Page.build f base taken' := by
  rw [Page.build, Page.build]
  cases hroute : f.route (normalizeRouteBase base) with
  | error e => simp only [Bind.bind, Except.bind]
  | ok named =>
      have hplain : named.2 = f.plainSlug := File.eq_plainSlug_of_route hroute
      simp only [Bind.bind, Except.bind, hplain]
      rw [freeSlug_congr fun n => not_congr (h n)]

/-! ## The pages of one group -/

/-- A page of a group is built in front of the pages of other groups as it is
built without them. -/
theorem Page.build_group {f : File} {base : String} {site own : Site}
    (hsplits : ∀ q ∈ site.pages, q.Splits)
    (hown : own.pages = site.pages.filter (·.segments = f.segments))
    (h : '/' ∉ f.package.toList) :
    Page.build f base site.taken = Page.build f base own.taken := by
  refine Page.build_congr fun n => ?_
  simp only [Site.taken, List.mem_map, hown, List.mem_filter, decide_eq_true_eq]
  constructor
  · rintro ⟨q, hq, hname⟩
    have hparts := hsplits q hq
    rw [Page.Splits, hname, File.splitOn_candidate h] at hparts
    exact ⟨q, ⟨hq, (List.append_inj_left' hparts rfl).symm⟩, hname⟩
  · rintro ⟨q, ⟨hq, -⟩, hname⟩
    exact ⟨q, hq, hname⟩

/-- While a site grows, its pages of one group are those that the files of the
group have on a site of their own. -/
theorem Site.extend_group {base : String} {segments : List String} :
    ∀ {files : List File} {site own site' : Site},
    (∀ f ∈ files, '/' ∉ f.package.toList) → (∀ q ∈ site.pages, q.Splits) →
    own.pages = site.pages.filter (·.segments = segments) →
    Site.extend base site files = ⟨site', none⟩ →
    ∃ own', Site.extend base own (files.filter (·.segments = segments)) = ⟨own', none⟩ ∧
      own'.pages = site'.pages.filter (·.segments = segments) := by
  intro files
  induction files with
  | nil =>
      intro site own site' _ _ hown h
      cases h
      exact ⟨own, rfl, hown⟩
  | cons f rest ih =>
      intro site own site' hslash hsplits hown h
      rw [List.forall_mem_cons] at hslash
      rw [Site.extend] at h
      split at h
      · next p hp =>
          obtain ⟨hfile, hnamed, -⟩ := Page.build_eq_ok hp
          have hsegments : p.segments = f.segments := by rw [hnamed.segments, hfile]
          have hsplits' : ∀ q ∈ (site.add p).pages, q.Splits := by
            rw [Site.add, List.forall_mem_append, List.forall_mem_singleton]
            exact ⟨hsplits, Page.splits_of_build hp hslash.1⟩
          by_cases hf : f.segments = segments
          -- a file of the group has the same page on both sites
          · subst hf
            rw [List.filter_cons_of_pos (by simp), Site.extend,
              ← Page.build_group hsplits hown hslash.1, hp]
            refine ih hslash.2 hsplits' ?_ h
            simp only [Site.add, hown, List.filter_append, List.filter_singleton,
              hsegments, decide_true, cond_true]
          -- a file of another group leaves the site of the group as it is
          · rw [List.filter_cons_of_neg (by simpa using hf)]
            refine ih hslash.2 hsplits' ?_ h
            simp only [Site.add, hown, List.filter_append, List.filter_singleton,
              hsegments, hf, decide_false, cond_false, List.append_nil]
      · cases h

/-- Building the files of one group alone gives the pages of that group. -/
theorem buildSite_group {files : List File} {base : String} {site : Site}
    (h : buildSite files base = .ok site) (hslash : ∀ f ∈ files, '/' ∉ f.package.toList)
    (segments : List String) :
    ∃ own, buildSite (files.filter (·.segments = segments)) base = .ok own ∧
      own.pages = site.pages.filter (·.segments = segments) := by
  rw [buildSite_eq_ok_iff] at h
  have hempty : ({} : Site).pages = ({} : Site).pages.filter (·.segments = segments) :=
    rfl
  obtain ⟨own, hrun, hpages⟩ := Site.extend_group hslash (by simp) hempty h
  exact ⟨own, buildSite_eq_ok_iff.2 hrun, hpages⟩

/-! ## The pages in front -/

theorem Site.extend_append {base : String} {others : List File} :
    ∀ {files : List File} {site site' : Site},
    Site.extend base site (files ++ others) = ⟨site', none⟩ →
    ∃ middle, Site.extend base site files = ⟨middle, none⟩ ∧
      Site.extend base middle others = ⟨site', none⟩ := by
  intro files
  induction files with
  | nil => exact fun h => ⟨_, rfl, h⟩
  | cons f rest ih =>
      intro site site' h
      rw [List.cons_append, Site.extend] at h
      rw [Site.extend]
      split at h
      · exact ih h
      · cases h

theorem Site.extend_keeps {base : String} : ∀ {files : List File} {site site' : Site},
    Site.extend base site files = ⟨site', none⟩ → site.pages <+: site'.pages := by
  intro files
  induction files with
  | nil =>
      intro site site' h
      cases h
      exact List.prefix_rfl
  | cons f rest ih =>
      intro site site' h
      rw [Site.extend] at h
      split at h
      · exact (List.prefix_append _ _).trans (ih h)
      · cases h

/-- Files that are left out behind others take their own pages away. -/
theorem buildSite_take {files : List File} {base : String} {site : Site}
    (h : buildSite files base = .ok site) (k : Nat) :
    ∃ front, buildSite (files.take k) base = .ok front ∧
    front.pages = site.pages.take k := by
  have hfiles := (buildSite_eq_ok h).2
  rw [buildSite_eq_ok_iff, ← List.take_append_drop k files] at h
  obtain ⟨front, hfront, hrest⟩ := Site.extend_append h
  have hbuilt := buildSite_eq_ok_iff.2 hfront
  refine ⟨front, hbuilt, ?_⟩
  have hlength := congrArg List.length (buildSite_eq_ok hbuilt).2
  rw [← hfiles, ← List.map_take, List.length_map, List.length_map] at hlength
  have hbegins := List.prefix_iff_eq_take.1 (Site.extend_keeps hrest)
  rw [hbegins, hlength, List.length_take, ← List.take_eq_take_min]

/-! ## What a page depends on -/

/-- The files of a group among those up to a place. -/
def groupUpTo (files : List File) (i : Nat) (segments : List String) : List File :=
  (files.take (i + 1)).filter (·.segments = segments)

/-- The page of a file is the last one that the files of its group up to its own
give alone. -/
theorem buildSite_groupUpTo {files : List File} {base : String} {site : Site}
    (h : buildSite files base = .ok site) (hslash : ∀ f ∈ files, '/' ∉ f.package.toList)
    {i : Nat} {f : File} (hf : files[i]? = some f) :
    ∃ p own, site.pages[i]? = some p ∧
      buildSite (groupUpTo files i f.segments) base = .ok own ∧
      own.pages.getLast? = some p := by
  obtain ⟨hs, hfiles⟩ := buildSite_eq_ok h
  rw [← hfiles, List.getElem?_map, Option.map_eq_some_iff] at hf
  obtain ⟨p, hp, rfl⟩ := hf
  obtain ⟨front, hfront, hpages⟩ := buildSite_take h (i + 1)
  have hslash' : ∀ f ∈ files.take (i + 1), '/' ∉ f.package.toList :=
    fun f hf => hslash f (List.mem_of_mem_take hf)
  obtain ⟨own, hown, hgroup⟩ := buildSite_group hfront hslash' p.file.segments
  have hsegments := (hs.named p (List.mem_of_getElem? hp)).segments
  refine ⟨p, own, hp, hown, ?_⟩
  rw [hgroup, hpages, List.take_add_one, hp, Option.toList_some, List.filter_append,
    List.filter_cons_of_pos (by simpa using hsegments), List.filter_nil,
    List.getLast?_concat]

/-- As long as no package has a slash, the page of a file is the last one that
the files of its group give alone, from the first up to the file itself. So it
is the same on every site on which these are the same: files behind it and
files of other groups make no difference to it. -/
theorem page_of_group {files : List File} {base : String} {site : Site}
    (h : buildSite files base = .ok site) (hslash : ∀ f ∈ files, '/' ∉ f.package.toList)
    {i : Nat} {f : File} (hf : files[i]? = some f) :
    ∃ p own, site.pages[i]? = some p ∧
      buildSite (groupUpTo files i f.segments) base = .ok own ∧
      own.pages.getLast? = some p ∧
      ∀ (files' : List File) (site' : Site) (j : Nat), buildSite files' base = .ok site' →
        (∀ g ∈ files', '/' ∉ g.package.toList) → files'[j]? = some f →
        groupUpTo files' j f.segments = groupUpTo files i f.segments →
        site'.pages[j]? = some p := by
  obtain ⟨p, own, hp, hown, hlast⟩ := buildSite_groupUpTo h hslash hf
  refine ⟨p, own, hp, hown, hlast, ?_⟩
  intro files' site' j h' hslash' hf' hsame
  obtain ⟨p', own', hp', hown', hlast'⟩ := buildSite_groupUpTo h' hslash' hf'
  rw [hsame, hown, Except.ok.injEq] at hown'
  rw [hp', ← hlast', ← hown', hlast]

/-- Three files that would like to have one name or the other in the package
`p`, and in front of the last a file of another group. -/
def mingled : List File := [
  { path := "x/user.proto", package := "p" },
  { path := "two_user.proto", package := "p" },
  { path := "q/user.proto" },
  { path := "two/user.proto", package := "p" }]

/-- The same files between two others, of other groups. -/
def remingled : List File :=
  { path := "q/a.proto" } :: mingled ++ [{ path := "user.proto" }]

/-- The last file in the package gets the name that it has without the other
groups. -/
theorem page_of_group_mingled :
    ∃ site p own, buildSite mingled "docs" = .ok site ∧
      (∀ f ∈ mingled, '/' ∉ f.package.toList) ∧
      mingled[3]? = some { path := "two/user.proto", package := "p" } ∧
      p.fileName = "p/two_user_2" ∧ site.pages[3]? = some p ∧
      buildSite (groupUpTo mingled 3 ["p"]) "docs" = .ok own ∧
      own.pages.getLast? = some p ∧
      ∃ site', buildSite remingled "docs" = .ok site' ∧ site'.pages[4]? = some p := by
  have hslash : ∀ f ∈ mingled, '/' ∉ f.package.toList := by decide
  have hbuilt : ∃ site, buildSite mingled "docs" = .ok site ∧
      site.pages.map Page.fileName = ["p/user", "p/two_user", "q/user", "p/two_user_2"] :=
    ⟨_, rfl, by decide +kernel⟩
  obtain ⟨site, h, hnames⟩ := hbuilt
  have hname : site.pages[3]?.map Page.fileName = some "p/two_user_2" := by
    rw [← List.getElem?_map, hnames]
    rfl
  obtain ⟨p, own, hp, hown, hlast, hsame⟩ := page_of_group h hslash (i := 3) rfl
  rw [hp, Option.map_some, Option.some.injEq] at hname
  exact ⟨site, p, own, h, hslash, rfl, hname, hp, hown, hlast, _, rfl,
    hsame remingled _ 4 rfl (by decide) rfl rfl⟩

end SchemaDocs
