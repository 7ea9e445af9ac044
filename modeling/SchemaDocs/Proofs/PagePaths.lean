import SchemaDocs.Command.Options
import SchemaDocs.Proofs.Destinations
import SchemaDocs.Proofs.Documents
import SchemaDocs.Proofs.PlainNames

/-!
# Pages below their folder

The path of a page is its name, with the extension behind it, below the folder
of all pages. The name comes from the package and the path of the file, cut at
points or at slashes, and nothing looks at what the parts are. So a page leaves
the folder when its name starts at the root, as it does when a package starts
with a slash, and when its parts go up, as they do when a path has two points
for a part. Nothing else leads out. A package is cut at its points, so none of
its parts goes up; a slug is the last part of a path, or a path with its
slashes gone, or a part of a package; and behind it comes the extension, which
keeps the last part from going up, unless it is no more than two points itself.
-/

namespace SchemaDocs

/-! ## The slugs of pages -/

/-- The slug of a page is one of the candidates of its file. -/
def Page.Slugged (p : Page) : Prop :=
  ∃ n, p.slug = slugCandidate p.file.plainSlug
    (flatName p.file.plainSlug (trimSlashes p.file.path)) n

theorem Page.slugged_of_build {f : File} {base : String} {taken : List String} {p : Page}
    (h : Page.build f base taken = .ok p) : p.Slugged := by
  rw [Page.build] at h
  obtain ⟨⟨route, plain⟩, hroute, hp⟩ := bind_eq_ok_iff.1 h
  obtain ⟨n, hn, -⟩ :=
    freeSlug_first taken (groupPrefix f.segments) plain (trimSlashes f.path)
  rw [File.eq_plainSlug_of_route hroute] at hn hp
  cases hp
  exact ⟨n, hn⟩

theorem Site.extend_slugged {base : String} : ∀ {files : List File} {site site' : Site},
    (∀ p ∈ site.pages, p.Slugged) → Site.extend base site files = ⟨site', none⟩ →
    ∀ p ∈ site'.pages, p.Slugged := by
  intro files
  induction files with
  | nil =>
      intro site site' hs h
      cases h
      exact hs
  | cons f rest ih =>
      intro site site' hs h
      rw [Site.extend] at h
      split at h
      · next p hp =>
          refine ih ?_ h
          rw [Site.add, List.forall_mem_append, List.forall_mem_singleton]
          exact ⟨hs, Page.slugged_of_build hp⟩
      · cases h

theorem buildSite_slugged {files : List File} {base : String} {site : Site}
    (h : buildSite files base = .ok site) : ∀ p ∈ site.pages, p.Slugged :=
  Site.extend_slugged (by simp) (buildSite_eq_ok_iff.1 h)

/-- What a generation says of the pages of its documents. -/
theorem generate_pages {raw routeBase : Value} {template : Option String} {g : Generation}
    (h : generate raw routeBase template = .ok g) :
    (g.documents.map Document.fileName).Nodup ∧
      ∀ d ∈ g.documents, d.page.Slugged ∧ ∃ base, d.page.Named base := by
  obtain ⟨schema, r, site, style, haccepted, -, hlaid⟩ := generate_eq_ok_iff.1 h
  obtain ⟨documents, ⟨hpages, -⟩, nodes, -, rfl⟩ := layOutSite_eq_ok_iff.1 hlaid
  constructor
  · have hnodup := haccepted.sound.distinct
    rwa [← hpages, List.map_map] at hnodup
  · intro d hd
    have hpage : d.page ∈ site.pages := hpages ▸ List.mem_map_of_mem hd
    exact ⟨buildSite_slugged haccepted.site d.page hpage,
      schema.routeBase, haccepted.sound.named d.page hpage⟩

/-! ## Characters of names -/

theorem mem_of_mem_beforeLast? {sep c : Char} {cs before : List Char}
    (h : beforeLast? sep cs = some before) (hc : c ∈ before) : c ∈ cs := by
  rw [beforeLast?] at h
  split at h
  · cases h
  · next rest hrest =>
      cases h
      have hsub : rest ⊆ cs.reverse.dropWhile (· ≠ sep) := by
        rw [hrest]
        exact List.subset_cons_self _ rest
      have hmem := hsub (List.mem_reverse.1 hc)
      exact List.mem_reverse.1 ((List.dropWhile_sublist _).subset hmem)

theorem mem_of_mem_stem {name : String} {c : Char} (h : c ∈ (stem name).toList) :
    c ∈ name.toList := by
  rw [stem] at h
  split at h
  · next before hbefore =>
      rw [String.toList_ofList, List.mem_append] at h
      rcases h with h | h
      · exact (List.takeWhile_sublist _).subset h
      · exact (List.dropWhile_sublist _).subset (mem_of_mem_beforeLast? hbefore h)
  · exact h

theorem mem_of_mem_trimSlashes {path : String} {c : Char}
    (h : c ∈ (trimSlashes path).toList) :
    c ∈ path.toList := by
  rw [trimSlashes, String.toList_ofList] at h
  exact Text.mem_of_mem_trimBy h

theorem mem_of_mem_pathParts {path part : String} (h : part ∈ pathParts path) {c : Char}
    (hc : c ∈ part.toList) : c ∈ path.toList :=
  mem_of_mem_trimSlashes (Text.mem_of_mem_splitOn h hc)

theorem slash_notMem_of_mem_pathParts {path part : String} (h : part ∈ pathParts path) :
    '/' ∉ part.toList :=
  Text.notMem_of_mem_splitOn h

theorem getLastD_mem_pathParts (path : String) :
    (pathParts path).getLastD "" ∈ pathParts path := by
  have hne : pathParts path ≠ [] := by
    simpa [pathParts, Text.splitOn]
      using Text.splitChars_ne_nil '/' (trimSlashes path).toList
  rw [List.getLastD_eq_getLast?, List.getLast?_eq_some_getLast hne, Option.getD_some]
  exact List.getLast_mem hne

theorem slash_notMem_of_mem_stemParts {path part : String} (h : part ∈ stemParts path) :
    '/' ∉ part.toList := by
  rw [stemParts, List.mem_append, List.mem_singleton] at h
  rcases h with h | h
  · exact slash_notMem_of_mem_pathParts (List.dropLast_subset _ h)
  · rw [h]
    exact fun hslash => slash_notMem_of_mem_pathParts (getLastD_mem_pathParts path)
      (mem_of_mem_stem hslash)

theorem mem_of_mem_stemParts {path part : String} (h : part ∈ stemParts path) {c : Char}
    (hc : c ∈ part.toList) : c ∈ path.toList := by
  rw [stemParts, List.mem_append, List.mem_singleton] at h
  rcases h with h | h
  · exact mem_of_mem_pathParts (List.dropLast_subset _ h) hc
  · rw [h] at hc
    exact mem_of_mem_pathParts (getLastD_mem_pathParts path) (mem_of_mem_stem hc)

theorem notMem_join {c : Char} {sep : String} (hsep : c ∉ sep.toList) :
    ∀ {parts : List String}, (∀ part ∈ parts, c ∉ part.toList) →
      c ∉ (Text.join sep parts).toList
  | [], _ => by simp [Text.join]
  | [part], h => h part List.mem_cons_self
  | part :: next :: rest, h => by
      rw [List.forall_mem_cons] at h
      rw [Text.join.eq_3 _ _ _ (List.cons_ne_nil next rest), String.toList_append,
        String.toList_append, List.mem_append, List.mem_append, not_or, not_or]
      exact ⟨⟨h.1, hsep⟩, notMem_join hsep h.2⟩

theorem slash_notMem_flat (path : String) :
    '/' ∉ (Text.replaceChar '/' '_' (stripExtension path)).toList := by
  intro h
  rcases Text.mem_replaceChar h with hunder | ⟨-, hslash⟩
  · exact absurd hunder (by decide)
  · exact hslash rfl

/-- Later candidates have no characters but those of the flat name, digits and
the underscore. -/
theorem notMem_slugCandidate_succ {c : Char} {slug flat : String}
    (hdigit : c.isDigit = false) (hunder : c ≠ '_') (h : c ∉ flat.toList) :
    ∀ n, c ∉ (slugCandidate slug flat (n + 1)).toList
  | 0 => h
  | n + 1 => by
      have hnumber : c ∉ (toString (n + 2)).toList := by
        intro hmem
        rw [isDigit_of_mem_toString hmem] at hdigit
        cases hdigit
      rw [slugCandidate, String.toList_append, String.toList_append, List.mem_append,
        List.mem_append, not_or, not_or]
      exact ⟨⟨h, by simpa using hunder⟩, hnumber⟩

/-- The segments of a package have no points in them. -/
theorem File.dot_notMem_of_mem_segments {f : File} (hp : f.package ≠ "") {s : String}
    (h : s ∈ f.segments) : '.' ∉ s.toList := by
  rw [File.segments, if_neg hp] at h
  exact Text.notMem_of_mem_splitOn (List.mem_of_mem_filter h)

theorem File.ne_empty_of_mem_segments {f : File} {s : String} (h : s ∈ f.segments) :
    s ≠ "" := by
  simpa using List.of_mem_filter h

/-- The segments of a path are among its parts. -/
theorem File.mem_pathParts_of_mem_segments {f : File} (hp : f.package = "") {s : String}
    (h : s ∈ f.segments) : s ∈ pathParts f.path := by
  rw [File.segments, if_pos hp] at h
  exact (List.dropLast_sublist _).subset (List.mem_of_mem_filter h)

/-- The segments of a file are made of its package or of its path. -/
theorem File.mem_of_mem_segments {f : File} {s : String} (hs : s ∈ f.segments) {c : Char}
    (hc : c ∈ s.toList) : c ∈ f.package.toList ∨ c ∈ f.path.toList := by
  by_cases hp : f.package = ""
  · exact Or.inr (mem_of_mem_pathParts (File.mem_pathParts_of_mem_segments hp hs) hc)
  · rw [File.segments, if_neg hp] at hs
    exact Or.inl (Text.mem_of_mem_splitOn (List.mem_of_mem_filter hs) hc)

theorem File.mem_of_mem_plainSlug {f : File} {c : Char} (hc : c ∈ f.plainSlug.toList) :
    c ∈ f.package.toList ∨ c ∈ f.path.toList := by
  rcases f.plainSlug_mem with hpart | hsegment | hnone
  · exact Or.inr (mem_of_mem_stemParts hpart hc)
  · exact File.mem_of_mem_segments hsegment hc
  · rw [hnone] at hc
    cases hc

/-- A slug that is plain has no slash, or is made from a part of a package and
has no point. -/
def PlainSlug (f : File) (slug : String) : Prop :=
  '/' ∉ slug.toList ∨ (f.segments ≠ [] ∧ '.' ∉ slug.toList)

theorem File.plainSlug_plain (f : File) : PlainSlug f f.plainSlug := by
  rcases f.plainSlug_mem with hpath | hsegment | hnone
  · exact Or.inl (slash_notMem_of_mem_stemParts hpath)
  · by_cases hp : f.package = ""
    · exact Or.inl
        (slash_notMem_of_mem_pathParts (f.mem_pathParts_of_mem_segments hp hsegment))
    · exact Or.inr ⟨List.ne_nil_of_mem hsegment, f.dot_notMem_of_mem_segments hp hsegment⟩
  · exact Or.inl (by simp [hnone])

theorem Page.Slugged.plain {p : Page} (h : p.Slugged) : PlainSlug p.file p.slug := by
  obtain ⟨n, hn⟩ := h
  have hflat :
      PlainSlug p.file (flatName p.file.plainSlug (trimSlashes p.file.path)) := by
    rw [flatName]
    split
    · exact p.file.plainSlug_plain
    · exact Or.inl (slash_notMem_flat (trimSlashes p.file.path))
  rw [hn]
  cases n with
  | zero => exact p.file.plainSlug_plain
  | succ n =>
      rcases hflat with hslash | ⟨hgroup, hdot⟩
      · exact Or.inl (notMem_slugCandidate_succ (by decide) (by decide) hslash n)
      · exact Or.inr ⟨hgroup, notMem_slugCandidate_succ (by decide) (by decide) hdot n⟩

/-! ## The parts of a page path -/

namespace Path

theorem parts_groupPrefix (segments : List String) (text : String) :
    parts (groupPrefix segments ++ text) = segments.flatMap parts ++ parts text := by
  induction segments with
  | nil => simp [groupPrefix]
  | cons s rest ih =>
      have hcons : groupPrefix (s :: rest) ++ text =
          s ++ "/" ++ (groupPrefix rest ++ text) := by
        simp [groupPrefix, String.append_assoc]
      rw [hcons, parts_append_slash, ih, List.flatMap_cons, List.append_assoc]

/-- What is put behind a path and has no slash belongs to its last part. -/
theorem exists_parts_append (path : String) {behind : String} (h : '/' ∉ behind.toList) :
    ∃ front last, parts path = front ++ [last] ∧
      parts (path ++ behind) = front ++ [last ++ behind] := by
  have hchars : ∀ cs : List Char, ∃ front last, Text.splitChars '/' cs = front ++ [last] ∧
      Text.splitChars '/' (cs ++ behind.toList) = front ++ [last ++ behind.toList] := by
    intro cs
    induction cs with
    | nil => exact ⟨[], [], rfl, by simpa using Text.splitChars_of_notMem h⟩
    | cons c rest ih =>
        obtain ⟨front, last, hrest, hbehind⟩ := ih
        rw [List.cons_append, Text.splitChars, Text.splitChars, hrest, hbehind]
        split
        · exact ⟨[] :: front, last, rfl, rfl⟩
        · cases front with
          | nil => exact ⟨[], c :: last, rfl, rfl⟩
          | cons first front => exact ⟨(c :: first) :: front, last, rfl, rfl⟩
  obtain ⟨front, last, hpath, hbehind⟩ := hchars path.toList
  refine ⟨front.map String.ofList, String.ofList last, ?_, ?_⟩
  · rw [parts, Text.splitOn, hpath, List.map_append, List.map_singleton]
  · rw [parts, Text.splitOn, String.toList_append, hbehind, List.map_append,
      List.map_singleton, String.ofList_append, String.ofList_toList]

end Path

/-! ## Pages that stay -/

/-- The parts of a file's name that do not lead out of a folder: a package does
not start at the root, and a path does not go up. -/
def File.Confined (f : File) : Prop :=
  (f.package ≠ "" → ∀ first ∈ f.segments.head?, Path.isAbsolute first = false) ∧
    (f.package = "" → ".." ∉ pathParts f.path)

/-- An extension that makes a name of whatever it stands behind. -/
structure PlainExtension (extension : String) : Prop where
  dotted : Text.startsWith "." extension = true
  flat : '/' ∉ extension.toList
  more : extension ≠ "." ∧ extension ≠ ".."

/-- With the extension behind it, a part is a name. -/
theorem PlainExtension.isName {extension : String} (h : PlainExtension extension)
    (part : String) : part ++ extension ≠ "" ∧ part ++ extension ≠ "." ∧
      part ++ extension ≠ ".." := by
  obtain ⟨rest, hrest⟩ := List.isPrefixOf_iff_prefix.1 h.dotted
  have hmore := h.more
  simp only [ne_eq, ← String.toList_inj, ← hrest] at hmore
  simp only [ne_eq, ← String.toList_inj, String.toList_append, ← hrest]
  rw [show ".".toList = ['.'] from rfl, show "..".toList = ['.', '.'] from rfl] at *
  cases part.toList with
  | nil => exact ⟨by simp, by simpa using hmore.1, by simpa using hmore.2⟩
  | cons c cs =>
      refine ⟨by simp, by simp, fun hup => hmore.1 ?_⟩
      have hlength := congrArg List.length hup
      simp only [List.length_append, List.length_cons, List.length_nil] at hlength
      rw [List.length_eq_zero_iff.1 (by omega : rest.length = 0), List.append_nil]

theorem Path.isAbsolute_of_notMem {path : String} (h : '/' ∉ path.toList) :
    Path.isAbsolute path = false := by
  rw [Bool.eq_false_iff]
  intro habsolute
  obtain ⟨rest, rfl⟩ := Path.exists_of_isAbsolute habsolute
  exact h (by simp)

/-- What has no point in it does not go up. -/
theorem Path.up_notMem_parts {path : String} (h : '.' ∉ path.toList) :
    ".." ∉ Path.parts path := fun hup =>
  h (Text.mem_of_mem_splitOn hup (by decide))

theorem Path.parts_of_notMem {path : String} (h : '/' ∉ path.toList) :
    Path.parts path = [path] := Text.splitOn_of_notMem h

section

variable {p : Page} {base extension : String} (hslug : p.Slugged) (hnamed : p.Named base)
  (hconfined : p.file.Confined) (h : PlainExtension extension)

include hslug hnamed hconfined h

/-- The name of a confined page does not start at the root. -/
theorem Page.isAbsolute_of_confined :
    Path.isAbsolute (p.fileName ++ extension) = false := by
  rw [hnamed.fileName, hnamed.segments]
  cases hsegments : p.file.segments with
  | nil =>
      rcases hslug.plain with hslash | ⟨hgroup, -⟩
      · refine Path.isAbsolute_of_notMem ?_
        rw [groupPrefix, List.foldr_nil, String.empty_append, String.toList_append,
          List.mem_append, not_or]
        exact ⟨hslash, h.flat⟩
      · exact absurd hsegments hgroup
  | cons first rest =>
      have hmem : first ∈ p.file.segments := hsegments ▸ List.mem_cons_self
      have hcons : groupPrefix (first :: rest) ++ p.slug ++ extension =
          first ++ ("/" ++ (groupPrefix rest ++ p.slug ++ extension)) := by
        simp only [groupPrefix, List.foldr_cons, String.append_assoc]
      rw [hcons, Path.isAbsolute_append _ (File.ne_empty_of_mem_segments hmem)]
      by_cases hp : p.file.package = ""
      · exact Path.isAbsolute_of_notMem (slash_notMem_of_mem_pathParts
          (File.mem_pathParts_of_mem_segments hp hmem))
      · exact hconfined.1 hp first (by rw [hsegments]; rfl)

/-- The parts of a confined page's name do not go up, and with the extension
behind it the last is a name. -/
theorem Page.parts_of_confined : ∃ front last,
    Path.parts (p.fileName ++ extension) = front ++ [last ++ extension] ∧
    ".." ∉ front := by
  obtain ⟨front, last, hparts, hbehind⟩ := Path.exists_parts_append p.slug h.flat
  refine ⟨p.file.segments.flatMap Path.parts ++ front, last, ?_, ?_⟩
  · rw [hnamed.fileName, hnamed.segments, String.append_assoc, Path.parts_groupPrefix,
      hbehind, List.append_assoc]
  · rw [List.mem_append, List.mem_flatMap, not_or]
    constructor
    -- a segment comes from the path, which does not go up, or has no point
    · rintro ⟨s, hs, hup⟩
      by_cases hp : p.file.package = ""
      · have hpath := File.mem_pathParts_of_mem_segments hp hs
        rw [Path.parts_of_notMem (slash_notMem_of_mem_pathParts hpath),
          List.mem_singleton] at hup
        exact hconfined.2 hp (hup ▸ hpath)
      · exact Path.up_notMem_parts (File.dot_notMem_of_mem_segments hp hs) hup
    -- a slug with no slash is one part, so nothing is in front
    · intro hup
      rcases hslug.plain with hslash | ⟨-, hdot⟩
      · rw [Path.parts_of_notMem hslash] at hparts
        have hfront : front = [] := by simpa using congrArg List.length hparts
        rw [hfront] at hup
        cases hup
      · refine Path.up_notMem_parts hdot ?_
        rw [hparts, List.mem_append]
        exact Or.inl hup

end

/-- What options have to be, all at once. -/
theorem Command.Options.check_eq_ok_iff {options : Command.Options}
    {isFile isFolder holds : String → Bool} :
    options.check isFile isFolder holds = .ok () ↔
      (options.descriptors ≠ "" ∧ isFile options.descriptors) ∧
      (options.pages ≠ "" ∧ (holds options.pages → isFolder options.pages)) ∧
      options.sidebar ≠ "" ∧ (∀ path ∈ options.templatePath?, isFile path) ∧
      Text.startsWith "." options.extension ∧ 1 ≤ options.workers := by
  have hthrow (e : Command.OptionFault) : (throw e : Except Command.OptionFault Unit) =
      .error e := rfl
  rw [Command.Options.check]
  simp only [throw_bind_eq, refuse_eq_ok_iff]
  cases options.templatePath? with
  | none => simp [hthrow, pure, Except.pure, demand_eq_ok_iff]
  | some path => simp [hthrow, pure, Except.pure, demand_eq_ok_iff]

/-- With options that were checked and an extension that is more than points,
the page of every file whose name does not start at the root and does not go up
is written below the folder of the pages. -/
theorem pages_below_folder {raw routeBase : Value} {template : Option String}
    {g : Generation} {options : Command.Options} {isFile isFolder holds : String → Bool}
    (hg : generate raw routeBase template = .ok g)
    (hchecked : options.check isFile isFolder holds = .ok ())
    (hflat : '/' ∉ options.extension.toList)
    (hmore : options.extension ≠ "." ∧ options.extension ≠ "..") (here : Location) :
    ∀ d ∈ g.documents, d.page.file.Confined →
      ∃ inner ≠ [], Path.destination here (options.pagePath d.fileName) =
        Path.destination here options.pages ++ inner := by
  intro d hd hconfined
  have hplain : PlainExtension options.extension :=
    ⟨(Command.Options.check_eq_ok_iff.1 hchecked).2.2.2.2.1, hflat, hmore⟩
  obtain ⟨hslug, base, hnamed⟩ := (generate_pages hg).2 d hd
  obtain ⟨front, last, hparts, hup⟩ :=
    Page.parts_of_confined hslug hnamed hconfined hplain
  obtain ⟨hempty, hpoint, hgoes⟩ := hplain.isName last
  rw [show d.fileName = d.page.fileName from rfl]
  refine ⟨Path.names (Path.parts (d.page.fileName ++ options.extension)), ?_, ?_⟩
  · have hlast : last ++ options.extension ∈
        Path.names (Path.parts (d.page.fileName ++ options.extension)) := by
      rw [Path.names, List.mem_filter, hparts]
      exact ⟨by simp, by simp [hempty, hpoint]⟩
    exact List.ne_nil_of_mem hlast
  · rw [Command.Options.pagePath, Path.destination_join
      (Page.isAbsolute_of_confined hslug hnamed hconfined hplain), Path.foldl_step_eq]
    rw [hparts, List.forall_mem_append, List.forall_mem_singleton]
    exact ⟨fun part hpart heq => hup (heq ▸ hpart), hgoes⟩

instance (f : File) : Decidable f.Confined :=
  inferInstanceAs (Decidable
    ((f.package ≠ "" → ∀ first ∈ f.segments.head?, Path.isAbsolute first = false) ∧
      (f.package = "" → ".." ∉ pathParts f.path)))

/-- A packaged file whose path goes up, and one without a package whose path
starts at the root. -/
def scattered : Value := .object [("files", .list [
  .object [("path", .text "../shop/order.proto"), ("package", .text "shop.orders")],
  .object [("path", .text "/base/./time.proto"), ("package", .text "")]])]

/-- Options that send the pages to a folder by way of another. -/
def byTheWay : Command.Options where
  descriptors := "d.json"
  pages := "site/../docs"
  sidebar := "sidebars.js"

theorem pages_below_folder_scattered :
    ∃ g, generate scattered (.text "") none = .ok g ∧
      byTheWay.check (· == "d.json") (fun _ => false) (· == "d.json") = .ok () ∧
      g.documents.map
        (fun d => Path.destination ["home"] (byTheWay.pagePath d.fileName)) =
        [["home", "docs", "shop", "orders", "order.mdx"],
          ["home", "docs", "base", "time.mdx"]] ∧
      ∀ d ∈ g.documents, ∃ inner ≠ [],
        Path.destination ["home"] (byTheWay.pagePath d.fileName) =
          Path.destination ["home"] byTheWay.pages ++ inner := by
  have hgenerated : ∃ g, generate scattered (.text "") none = .ok g ∧
      (∀ d ∈ g.documents, d.page.file.Confined) ∧
      g.documents.map
        (fun d => Path.destination ["home"] (byTheWay.pagePath d.fileName)) =
        [["home", "docs", "shop", "orders", "order.mdx"],
          ["home", "docs", "base", "time.mdx"]] := ⟨_, rfl, by decide, by decide⟩
  obtain ⟨g, hg, hconfined, hpaths⟩ := hgenerated
  have hchecked : byTheWay.check (· == "d.json") (fun _ => false) (· == "d.json") =
      .ok () := by decide
  exact ⟨g, hg, hchecked, hpaths, fun d hd =>
    pages_below_folder hg hchecked (by decide) (by decide) ["home"] d hd (hconfined d hd)⟩

/-- A file without a package whose path goes up. -/
def straying : Value := .object [("files", .list [
  .object [("path", .text "../x.proto"), ("package", .text "")]])]

def besideDocs : Command.Options := { byTheWay with pages := "docs" }

/-- The page of a file whose path goes up is written outside the folder of the
pages. -/
theorem page_outside_folder :
    ∃ g, generate straying (.text "") none = .ok g ∧
      besideDocs.check (· == "d.json") (fun _ => false) (· == "d.json") = .ok () ∧
      '/' ∉ besideDocs.extension.toList ∧
      ∃ d ∈ g.documents, ¬ ∃ inner ≠ [],
        Path.destination ["home"] (besideDocs.pagePath d.fileName) =
          Path.destination ["home"] besideDocs.pages ++ inner := by
  have hgenerated : ∃ g, generate straying (.text "") none = .ok g ∧
      ∃ d ∈ g.documents, d.fileName = "../x" := ⟨_, rfl, _, List.mem_cons_self, by decide⟩
  obtain ⟨g, hg, d, hd, hname⟩ := hgenerated
  refine ⟨g, hg, by decide, by decide, d, hd, ?_⟩
  rintro ⟨inner, -, hinner⟩
  have hpath : Path.destination ["home"] (besideDocs.pagePath "../x") =
      ["home", "x.mdx"] := by decide
  have hfolder :
      Path.destination ["home"] besideDocs.pages = ["home", "docs"] := by decide
  rw [hname, hpath, hfolder] at hinner
  simp at hinner

end SchemaDocs
