import SchemaDocs.Proofs.GroupNames

/-!
# Routes and links

The route of a page and its link are put together apart from each other. In a
package the route is the group of the page and the link has the slug behind it.
Without a package both go through the path of the file: the route is the path
without its extension, slashes at its ends trimmed off, and the link is the
folders of the path and the name that is left of its last part.

Folders are what stands between the slashes of a path, without what is empty,
but the route keeps every slash. So the two agree as long as no slash of the
path follows another, and where one does, the link is the route with the empty
parts gone. Nothing else keeps them apart: a point in a folder is no extension,
on neither way, and a name that starts with points keeps them.
-/

namespace SchemaDocs

theorem stripExtension_trimSlashes (path : String) :
    stripExtension (trimSlashes path) = Text.join "/" (stemParts path) := rfl

/-- Leaving the empty parts out shows in the joined text if there are any. -/
theorem join_filter_eq_iff {parts : List String} (hno : ∀ part ∈ parts, '/' ∉ part.toList)
    (hsome : parts.filter (· ≠ "") ≠ []) :
    Text.join "/" (parts.filter (· ≠ "")) = Text.join "/" parts ↔ "" ∉ parts := by
  have hself : parts.filter (· ≠ "") = parts ↔ "" ∉ parts := by
    rw [List.filter_eq_self]
    simp only [decide_eq_true_eq]
    exact ⟨fun h hmem => h "" hmem rfl, fun h part hpart hempty => h (hempty ▸ hpart)⟩
  rw [← hself]
  constructor
  · intro h
    have hcut := congrArg (Text.splitOn '/') h
    have hne : parts ≠ [] := fun hnil => hsome (by rw [hnil, List.filter_nil])
    have hfiltered : ∀ part ∈ parts.filter (· ≠ ""), '/' ∉ part.toList :=
      fun part hpart => hno part (List.mem_of_mem_filter hpart)
    rwa [Text.splitOn_join hsome hfiltered, Text.splitOn_join hne hno] at hcut
  · intro h
    rw [h]

theorem pathParts_eq (path : String) :
    pathParts path = (pathParts path).dropLast ++ [(pathParts path).getLastD ""] := by
  have hne : pathParts path ≠ [] := List.ne_nil_of_mem (getLastD_mem_pathParts path)
  rw [List.getLastD_eq_getLast?, List.getLast?_eq_some_getLast hne, Option.getD_some,
    List.dropLast_concat_getLast]

/-- Taking the extension off empties no part. -/
theorem empty_mem_stemParts_iff {path : String} :
    "" ∈ stemParts path ↔ "" ∈ pathParts path := by
  conv_rhs => rw [pathParts_eq]
  simp only [stemParts, List.mem_append, List.mem_singleton,
    eq_comm (a := ""), stem_eq_empty_iff]

/-! ## What a page is built with -/

section

variable {f : File} {base : String} {taken : List String} {p : Page}
  (h : Page.build f base taken = .ok p)

include h

theorem Page.exists_route_of_build : ∃ plain,
    f.route (normalizeRouteBase base) = .ok (p.route, plain) := by
  rw [Page.build] at h
  obtain ⟨⟨route, plain⟩, hroute, hp⟩ := bind_eq_ok_iff.1 h
  cases hp
  exact ⟨plain, hroute⟩

theorem Page.route_of_package (hp : f.package ≠ "") :
    f.segments ≠ [] ∧ p.route = normalizeRouteBase base ++ "/" ++
    Text.join "/" f.segments := by
  obtain ⟨plain, hroute⟩ := Page.exists_route_of_build h
  rw [File.route, if_neg hp] at hroute
  cases hlast : f.segments.getLast? with
  | none =>
      rw [hlast] at hroute
      cases hroute
  | some last =>
      rw [hlast, Except.ok.injEq, Prod.mk.injEq] at hroute
      exact ⟨List.ne_nil_of_mem (List.mem_of_getLast? hlast), hroute.1.symm⟩

theorem Page.route_of_path (hp : f.package = "") :
    (stemParts f.path).getLastD "" ≠ "" ∧
      p.route = normalizeRouteBase base ++ "/" ++
      stripExtension (trimSlashes f.path) := by
  obtain ⟨plain, hroute⟩ := Page.exists_route_of_build h
  rw [File.route, if_pos hp] at hroute
  split at hroute
  · cases hroute
  · next hname =>
      rw [Except.ok.injEq, Prod.mk.injEq] at hroute
      exact ⟨hname, hroute.1.symm⟩

/-- A name that is free is the one that the page gets. -/
theorem Page.fileName_of_free (hfree : f.plainName ∉ taken) :
    p.fileName = f.plainName := by
  rw [Page.build_of_free hfree] at h
  exact Page.fileName_of_build h

end

/-- Without a package a file would like to have the parts of its path for a
name, without those that are empty. -/
theorem File.plainName_of_path {f : File} (hp : f.package = "")
    (hname : (stemParts f.path).getLastD "" ≠ "") :
    f.plainName = Text.join "/" ((stemParts f.path).filter (· ≠ "")) := by
  rw [File.plainName, File.plainSlug, if_neg hname, File.segments, if_pos hp,
    groupPrefix_append]
  rw [getLastD_stemParts] at hname ⊢
  rw [stemParts, List.filter_append, List.filter_cons_of_pos (by simpa using hname),
    List.filter_nil]

/-- The link of a page in a package is its route and its slug. The link of a
page without a package that gets the name it would like to have is its route,
with the empty parts of the path left out; so the two are the same exactly if
there are none, that is, if no slash of the path follows another. -/
theorem link_of_route {f : File} {base : String} {taken : List String} {p : Page}
    (h : Page.build f base taken = .ok p) :
    (f.package ≠ "" → p.link = p.route ++ "/" ++ p.slug) ∧
      (f.package = "" → f.plainName ∉ taken →
        p.route = normalizeRouteBase base ++ "/" ++ stripExtension (trimSlashes f.path) ∧
        p.link = normalizeRouteBase base ++ "/" ++ p.fileName ∧
        p.fileName = Text.join "/" ((stemParts f.path).filter (· ≠ "")) ∧
        (p.link = p.route ↔ "" ∉ pathParts f.path)) := by
  obtain ⟨hfile, hnamed, -⟩ := Page.build_eq_ok h
  constructor
  · intro hp
    obtain ⟨hgroup, hroute⟩ := Page.route_of_package h hp
    rw [hnamed.link, hnamed.fileName, hnamed.segments, hfile, groupPrefix_append,
      Text.join_concat "/" hgroup, hroute]
    simp only [String.append_assoc]
  · intro hp hfree
    obtain ⟨hlast, hroute⟩ := Page.route_of_path h hp
    have hname : p.fileName = Text.join "/" ((stemParts f.path).filter (· ≠ "")) :=
      (Page.fileName_of_free h hfree).trans (File.plainName_of_path hp hlast)
    refine ⟨hroute, hnamed.link, hname, ?_⟩
    have hsome : (stemParts f.path).filter (· ≠ "") ≠ [] := List.ne_nil_of_mem
      (List.mem_filter.2 ⟨getLastD_mem_stemParts f.path, by simpa using hlast⟩)
    rw [hnamed.link, hname, hroute, String.append_right_inj, stripExtension_trimSlashes,
      join_filter_eq_iff (fun part => slash_notMem_of_mem_stemParts) hsome,
      empty_mem_stemParts_iff]

/-- Slashes at both ends, points in the folders, and a name that is hidden. -/
def hidden : File := { path := "/.config/v1.2/.time.proto/" }

theorem link_of_route_hidden :
    ∃ p, Page.build hidden "docs" ["time"] = .ok p ∧ hidden.package = "" ∧
      hidden.plainName ∉ ["time"] ∧ "" ∉ pathParts hidden.path ∧
      p.route = "/docs/.config/v1.2/.time" ∧ p.link = p.route := by
  have hbuilt : ∃ p, Page.build hidden "docs" ["time"] = .ok p ∧
      p.route = "/docs/.config/v1.2/.time" := ⟨_, rfl, by decide⟩
  obtain ⟨p, h, hroute⟩ := hbuilt
  have hfree : hidden.plainName ∉ ["time"] := by decide
  have hparts : "" ∉ pathParts hidden.path := by decide
  exact ⟨p, h, rfl, hfree, hparts, hroute, ((link_of_route h).2 rfl hfree).2.2.2.2 hparts⟩

/-- A file without a package whose path has two slashes in a row. -/
def doubled : File := { path := "a//b.proto" }

/-- The route keeps both slashes, and the link has one. -/
theorem route_doubled :
    ∃ p, Page.build doubled "" [] = .ok p ∧ doubled.package = "" ∧
      doubled.plainName ∉ ([] : List String) ∧ p.route = "/a//b" ∧ p.link = "/a/b" ∧
      p.link ≠ p.route :=
  ⟨_, rfl, rfl, List.not_mem_nil, by decide, by decide, by decide⟩

end SchemaDocs
