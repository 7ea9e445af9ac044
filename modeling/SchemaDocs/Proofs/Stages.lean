import SchemaDocs.Generation
import SchemaDocs.Proofs.References
import SchemaDocs.Proofs.Sites

/-!
# The stages before the pages are laid out

A description that is accepted has been loaded, its references have been
resolved, and its pages have been named. What each stage does is known from
its own file; here they are put one behind the other. The files of the pages
are the loaded files with their slots filled, in the order they came, so what
a page declares is what was loaded.
-/

namespace SchemaDocs

/-- A description goes through all stages before the laying out. -/
structure Accepted (raw routeBase : Value) (schema : Schema) (r : Resolution)
    (site : Site) : Prop where
  load : Schema.load raw routeBase = .ok schema
  resolve : resolve schema.files = .ok r
  site : buildSite r.files schema.routeBase = .ok site

/-! ## What filling keeps of a file -/

theorem Index.fillFile_path (index : Index) (f : File) :
    (index.fillFile f).path = f.path := rfl

theorem Index.fillFile_declares (index : Index) {f : File} {kind : EntityKind}
    {name : String} :
    (index.fillFile f).Declares kind name ↔ f.Declares kind name := by
  constructor
  · intro h
    cases h with
    | message hfilled =>
        obtain ⟨m, hm, rfl⟩ := index.hasMessage_fillFile.1 hfilled
        rw [index.fillMessage_fullName]
        exact .message hm
    | nestedEnum hfilled he =>
        obtain ⟨m, hm, rfl⟩ := index.hasMessage_fillFile.1 hfilled
        rw [index.fillMessage_enums] at he
        exact .nestedEnum hm he
    | enum he => exact .enum he
    | service hfilled =>
        obtain ⟨s, hs, rfl⟩ := List.mem_map.1 hfilled
        show f.Declares .service s.fullName
        exact .service hs
  · intro h
    cases h with
    | @message m hm =>
        rw [← index.fillMessage_fullName m]
        exact .message (index.hasMessage_fillFile.2 ⟨m, hm, rfl⟩)
    | @nestedEnum m e hm he =>
        rw [← index.fillMessage_enums m] at he
        exact .nestedEnum (index.hasMessage_fillFile.2 ⟨m, hm, rfl⟩) he
    | enum he => exact .enum he
    | @service s hs =>
        have hmem : index.fillService f.package s ∈ (index.fillFile f).services :=
          List.mem_map_of_mem hs
        show (index.fillFile f).Declares .service
          (index.fillService f.package s).fullName
        exact .service hmem

/-! ## The pages of an accepted description -/

namespace Accepted

variable {raw routeBase : Value} {schema : Schema} {r : Resolution} {site : Site}
  (h : Accepted raw routeBase schema r site)

include h

theorem nodup_declaredNames : (declaredNames schema.files).Nodup :=
  (resolve_eq_ok_iff.1 h.resolve).1

theorem sound : site.Sound schema.routeBase := (buildSite_eq_ok h.site).1

theorem map_file : site.pages.map Page.file =
    schema.files.map (Index.fillFile (declarations schema.files)) := by
  obtain ⟨-, -, rfl⟩ := resolve_eq_ok_iff.1 h.resolve
  exact (buildSite_eq_ok h.site).2

theorem map_path : site.pages.map (·.file.path) = schema.files.map File.path := by
  have hpaths := congrArg (List.map File.path) h.map_file
  simp only [List.map_map] at hpaths
  exact hpaths

theorem file_of_page {p : Page} (hp : p ∈ site.pages) :
    ∃ f ∈ schema.files, p.file = Index.fillFile (declarations schema.files) f := by
  have hmem : p.file ∈ site.pages.map Page.file := List.mem_map_of_mem hp
  rw [h.map_file] at hmem
  obtain ⟨f, hf, hfile⟩ := List.mem_map.1 hmem
  exact ⟨f, hf, hfile.symm⟩

theorem page_of_file {f : File} (hf : f ∈ schema.files) :
    ∃ p ∈ site.pages, p.file = Index.fillFile (declarations schema.files) f := by
  have hmem := List.mem_map_of_mem (f := Index.fillFile (declarations schema.files)) hf
  rw [← h.map_file] at hmem
  exact List.mem_map.1 hmem

theorem page_follows {p : Page} (hp : p ∈ site.pages) :
    p.file.Follows schema.files := by
  obtain ⟨hnd, hkeys, -⟩ := resolve_eq_ok_iff.1 h.resolve
  obtain ⟨f, hf, hfile⟩ := h.file_of_page hp
  rw [hfile]
  exact Index.fillFile_follows hnd (hkeys f hf)

/-- A full name is declared on one page, and as one thing. -/
theorem declares_unique (hpaths : (schema.files.map File.path).Nodup) {p q : Page}
    (hp : p ∈ site.pages) (hq : q ∈ site.pages) {kind kind' : EntityKind}
    {name : String} (hk : p.file.Declares kind name)
    (hk' : q.file.Declares kind' name) : p = q ∧ kind = kind' := by
  obtain ⟨f, hf, hfile⟩ := h.file_of_page hp
  obtain ⟨g, hg, hgile⟩ := h.file_of_page hq
  rw [hfile, Index.fillFile_declares] at hk
  rw [hgile, Index.fillFile_declares] at hk'
  obtain ⟨d, hd, hname, hkind, hpath⟩ := exists_declaration_iff.2 ⟨f, hf, rfl, hk⟩
  obtain ⟨e, he, hname', hkind', hpath'⟩ := exists_declaration_iff.2 ⟨g, hg, rfl, hk'⟩
  have hde : d = e := by
    refine List.inj_on_of_nodup_map ?_ hd he (hname.trans hname'.symm)
    rw [map_fullName_declarations]
    exact h.nodup_declaredNames
  subst hde
  refine ⟨?_, hkind.symm.trans hkind'⟩
  rw [← h.map_path] at hpaths
  refine List.inj_on_of_nodup_map hpaths hp hq ?_
  rw [hfile, hgile, Index.fillFile_path, Index.fillFile_path, ← hpath, ← hpath']

end Accepted

/-- Two files of one stem in one package. The second gets a page of another
name, and the first refers to it, and to what it nests itself. -/
def crossed : Value := .object [("files", .list [
  .object [
    ("path", .text "a/user.proto"), ("package", .text "acme"),
    ("dependencies", .list [.text "b/user.proto", .text "time.proto"]),
    ("messages", .list [.object [
      ("name", .text "User"),
      ("fields", .list [
        .object [("name", .text "home"), ("type", .text "Address")],
        .object [("name", .text "tags"), ("type", .text "map<string, Label>")],
        .object [("name", .text "born"), ("type", .text "Time")]]),
      ("messages", .list [.object [("name", .text "Address")]])]]),
    ("services", .list [.object [
      ("name", .text "Users"),
      ("methods", .list [.object [
        ("name", .text "Find"), ("input_type", .text "User.Address"),
        ("output_type", .text ".acme.User")]])]])],
  .object [
    ("path", .text "b/user.proto"), ("package", .text "acme"),
    ("messages", .list [.object [("name", .text "Label")]])]])]

end SchemaDocs
