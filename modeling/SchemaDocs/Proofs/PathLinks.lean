import SchemaDocs.Proofs.Stages

/-!
# Which page a path leads to

References and imports are laid out with the link that the table has for the
path of a file. Every page enters its own link there when it is built, and no
two pages have one link; so the table leads to a page exactly as long as no
later page enters another link under the same path.

Two files may have one path, because loading does not look for it and pages
are named apart by their groups and slugs. Then the page of the first is
overtaken: it stays where it is, but whatever refers to the first file leads
to the page of the second.
-/

namespace SchemaDocs

/-- One of the pages behind a page is of a file of the same path. -/
def Page.Overtaken (p : Page) (behind : List Page) : Prop :=
  ∃ q ∈ behind, q.file.path = p.file.path

section

variable {base : String} {site : Site} (hs : site.Sound base)

include hs

/-- The table leads to a page unless the page is overtaken. -/
theorem Site.Sound.find?_link_iff {front behind : List Page} {p : Page}
    (hp : site.pages = front ++ p :: behind) :
    site.links.find? p.file.path = some p.link ↔ ¬ p.Overtaken behind := by
  have hlinks : site.links.find? p.file.path =
      ((behind.reverse.find? (·.file.path == p.file.path)).or (some p)).map
        Page.link := by
    have hself : (p.file.path == p.file.path) = true := beq_self_eq_true _
    rw [hs.links, hp, List.reverse_append, List.reverse_cons, List.append_assoc,
      List.find?_append, List.singleton_append, List.find?_cons, hself]
  rw [hlinks]
  cases hlast : behind.reverse.find? (·.file.path == p.file.path) with
  | none =>
      rw [List.find?_eq_none] at hlast
      refine iff_of_true rfl ?_
      rintro ⟨q, hq, hpath⟩
      exact hlast q (List.mem_reverse.2 hq) (beq_iff_eq.2 hpath)
  | some q =>
      have hq : q ∈ behind := List.mem_reverse.1 (List.mem_of_find?_eq_some hlast)
      have hpath : q.file.path = p.file.path := by simpa using List.find?_some hlast
      refine iff_of_false (fun h => ?_) (not_not_intro ⟨q, hq, hpath⟩)
      -- the later page would have the link of the page, but links do not repeat
      have hnd := hs.distinct_links
      rw [hp, List.map_append, List.map_cons, List.nodup_append, List.nodup_cons] at hnd
      have hlink : q.link = p.link := Option.some.inj h
      exact hnd.2.1.1 (hlink ▸ List.mem_map_of_mem hq)

end

/-- A reference is laid out with the link of a page exactly if the table leads
from its path to that page. -/
theorem href_bindType_iff {links : LinkTable} {name entity path link : String}
    {kind : EntityKind} :
    (bindType links name (some (.resolved entity path kind))).href =
        some (link ++ "#" ++ entity) ↔
      links.find? path = some link := by
  rw [bindType, Option.map_eq_some_iff]
  constructor
  · rintro ⟨found, hfound, heq⟩
    rw [String.append_left_inj, String.append_left_inj] at heq
    rw [hfound, heq]
  · intro h
    exact ⟨link, h, rfl⟩

/-- Whatever the files, the table has for the path of a page's file the link of
that page, references to what the file declares are laid out with it, and so
are imports of the file, each exactly if the page is not overtaken by a later
one. -/
theorem links_lead_to_page {files : List File} {base : String} {site : Site}
    (h : buildSite files base = .ok site) {front behind : List Page} {p : Page}
    (hp : site.pages = front ++ p :: behind) :
    (site.links.find? p.file.path = some p.link ↔ ¬ p.Overtaken behind) ∧
      (∀ name entity kind,
        (bindType site.links name (some (.resolved entity p.file.path kind))).href =
          some (p.link ++ "#" ++ entity) ↔ ¬ p.Overtaken behind) ∧
      ∀ q ∈ site.pages, ∀ d ∈ (q.bind site.links).dependencies, d.path = p.file.path →
        (d.href = some p.link ↔ ¬ p.Overtaken behind) := by
  have hlead := (buildSite_eq_ok h).1.find?_link_iff hp
  refine ⟨hlead, fun name entity kind => href_bindType_iff.trans hlead, ?_⟩
  rintro q - d hd hpath
  obtain ⟨path, -, rfl⟩ := List.mem_map.1 hd
  rw [← hlead, ← hpath]

/-- Two files of one path in different packages. The first refers to itself. -/
def twice : Value := .object [("files", .list [
  .object [
    ("path", .text "a.proto"), ("package", .text "p"),
    ("messages", .list [.object [
      ("name", .text "M"),
      ("fields", .list [.object [("name", .text "f"), ("type", .text "M")]])]])],
  .object [("path", .text "a.proto"), ("package", .text "q")]])]

/-- The second page stands behind the one that it overtakes, and is not
overtaken itself. -/
theorem links_lead_to_page_twice :
    ∃ schema r site front p, Accepted twice (.text "") schema r site ∧
      site.pages = front ++ p :: [] ∧ front.map Page.link = ["/p/a"] ∧
      (site.links.find? p.file.path = some p.link ↔ ¬ p.Overtaken []) ∧
      (∀ name entity kind,
        (bindType site.links name (some (.resolved entity p.file.path kind))).href =
          some (p.link ++ "#" ++ entity) ↔ ¬ p.Overtaken []) ∧
      ∀ q ∈ site.pages, ∀ d ∈ (q.bind site.links).dependencies, d.path = p.file.path →
        (d.href = some p.link ↔ ¬ p.Overtaken []) := by
  have haccepted : ∃ schema r site front p, Accepted twice (.text "") schema r site ∧
      site.pages = front ++ p :: [] ∧ front.map Page.link = ["/p/a"] :=
    ⟨_, _, _, [_], _, ⟨rfl, rfl, rfl⟩, rfl, rfl⟩
  obtain ⟨schema, r, site, front, p, h, hp, hlinks⟩ := haccepted
  exact ⟨schema, r, site, front, p, h, hp, hlinks, links_lead_to_page h.site hp⟩

/-- The table does not have the link of the first page for the path of its
file, and the page refers to its own message as to one of the second page. -/
theorem page_overtaken :
    ∃ schema r site p, Accepted twice (.text "") schema r site ∧ p ∈ site.pages ∧
      p.link = "/p/a" ∧ site.links.find? p.file.path = some "/q/a" ∧
      (p.bind site.links).messages.map (fun m => m.fields.map (·.type.href)) =
        [[some "/q/a#p.M"]] :=
  ⟨_, _, _, _, ⟨rfl, rfl, rfl⟩, List.mem_cons_self, rfl, rfl, rfl⟩

end SchemaDocs
