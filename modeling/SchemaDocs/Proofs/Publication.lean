import Mathlib
import SchemaDocs.Proofs.PagePaths
import SchemaDocs.Proofs.Writing

/-!
# What a run leaves on the disk

A run that finishes has written every page and then the sidebar. Page names are
different texts, but pages are written by path, and two texts may lead to one
place: a part that is a point, an empty part, or two points after a part add
nothing to where a path leads. A page is also lost if the sidebar has its
place. These are the only ways to lose an output: the sidebar comes last, and
names whose parts are all names lead to different places.
-/

namespace SchemaDocs.Command

/-- What a run generates from its words and its disk, and with which options. -/
structure Generates (disk : Disk) (words : List String) (options : Options)
    (g : Generation) : Prop where
  arguments : ∃ verbose, Arguments.read words = .ok ⟨options, verbose⟩
  checked : options.check disk.isFile disk.isFolder disk.holds = .ok ()
  generated : ∃ octets raw template, disk.read options.descriptors = .ok octets ∧
    readDescriptors options.descriptors octets = .ok raw ∧
    readTemplate disk options = .ok template ∧
    generate raw (.text options.routeBase) template = .ok g

theorem Generates.unique {disk : Disk} {words : List String} {options options' : Options}
    {g g' : Generation} (h : Generates disk words options g)
    (h' : Generates disk words options' g') : options = options' ∧ g = g' := by
  obtain ⟨⟨verbose, hwords⟩, -, octets, raw, template, hread, hraw, htemplate, hg⟩ := h
  obtain ⟨⟨verbose', hwords'⟩, -, octets', raw', template', hread',
    hraw', htemplate', hg'⟩ := h'
  rw [hwords] at hwords'
  cases hwords'
  rw [hread] at hread'
  cases hread'
  rw [hraw] at hraw'
  cases hraw'
  rw [htemplate] at htemplate'
  cases htemplate'
  rw [hg] at hg'
  cases hg'
  exact ⟨rfl, rfl⟩

theorem publish_finished_iff {disk disk' : Disk} {options : Options} {events : List Event}
    {g : Generation} :
    (publish disk options events g).ending = .finished ∧
        (publish disk options events g).disk = disk' ↔
      writeOutputs disk (outputs options g) = (disk', none) := by
  rw [publish]
  split
  · next after hwrite => simp [hwrite]
  · next after fault hwrite => simp [hwrite]

theorem endingOf_ne_finished (e : GenerateError) : endingOf e ≠ .finished := by
  rw [endingOf]
  split <;> simp

theorem perform_finished_iff {disk disk' : Disk} {options : Options} {verbose : Bool} :
    (perform disk options verbose).ending = .finished ∧
        (perform disk options verbose).disk = disk' ↔
      ∃ octets raw template g, disk.read options.descriptors = .ok octets ∧
        readDescriptors options.descriptors octets = .ok raw ∧
        readTemplate disk options = .ok template ∧
        generate raw (.text options.routeBase) template = .ok g ∧
        writeOutputs disk (outputs options g) = (disk', none) := by
  rw [perform]
  split
  · next hread => simp [hread]
  · next octets hread =>
  split
  · next hdescriptors => simp [hread, hdescriptors]
  · next hdescriptors => simp [hread, hdescriptors]
  · next raw hdescriptors =>
  split
  · next htemplate => simp [hread, htemplate]
  · next template htemplate =>
  rw [produce]
  cases hg : generate raw (.text options.routeBase) template with
  | ok g =>
    simp [hread, hdescriptors, htemplate, hg, Except.mapError, publish_finished_iff]
  | error e =>
      simp [hread, hdescriptors, htemplate, hg, Except.mapError, endingOf_ne_finished]

/-- A run finishes if something is generated and all of it can be written. -/
theorem run_finished_iff {disk disk' : Disk} {words : List String} :
    (run disk words).ending = .finished ∧ (run disk words).disk = disk' ↔
      ∃ options g, Generates disk words options g ∧
        writeOutputs disk (outputs options g) = (disk', none) := by
  constructor
  · intro h
    rw [run] at h
    split at h
    · next stop _ => cases stop <;> cases h.1
    · next arguments hwords =>
    split at h
    · cases h.1
    · next hchecked =>
    obtain ⟨octets, raw, template, g, hread, hdescriptors, htemplate, hg, hwrite⟩ :=
      perform_finished_iff.1 h
    exact ⟨arguments.options, g, ⟨⟨arguments.verbose, hwords⟩, hchecked,
      octets, raw, template, hread, hdescriptors, htemplate, hg⟩, hwrite⟩
  · rintro ⟨options, g, ⟨⟨verbose, hwords⟩, hchecked,
      octets, raw, template, hread, hdescriptors, htemplate, hg⟩, hwrite⟩
    rw [run, hwords]
    dsimp only
    rw [hchecked]
    exact perform_finished_iff.2
      ⟨octets, raw, template, g, hread, hdescriptors, htemplate, hg, hwrite⟩

/-- A page is on the disk when all is written, if no other page and not the
sidebar has its place. -/
theorem Generates.hasFile_page {disk disk' : Disk} {words : List String}
    {options : Options}
    {g : Generation} (h : Generates disk words options g)
    (hwrite : writeOutputs disk (outputs options g) = (disk', none)) {d : Document}
    (hd : d ∈ g.documents)
    (hpages : ∀ e ∈ g.documents,
      Path.destination disk.here (options.pagePath e.fileName) =
      Path.destination disk.here (options.pagePath d.fileName) → e.fileName = d.fileName)
    (hsidebar : Path.destination disk.here (options.pagePath d.fileName) ≠
      Path.destination disk.here options.sidebar) :
    disk'.HasFile (Path.destination disk.here (options.pagePath d.fileName))
      (Text.Utf8.encode d.text) := by
  obtain ⟨_, _, _, -, -, -, hg⟩ := h.generated
  have hnodup := (generate_pages hg).1
  obtain ⟨front, behind, hdocuments⟩ := List.append_of_mem hd
  rw [outputs, pageOutputs, hdocuments, List.map_append, List.map_cons, List.append_assoc,
    List.cons_append] at hwrite
  have hlast := writeOutputs_eq_ok hwrite
  dsimp only [Output.destination] at hlast
  refine hlast fun other hother => ?_
  -- behind the page come pages with other names, and the sidebar
  rw [List.mem_append, List.mem_singleton] at hother
  rcases hother with hother | rfl
  · obtain ⟨e, he, rfl⟩ := List.mem_map.1 hother
    intro hplace
    have hname := hpages e (by rw [hdocuments]; simp [he]) hplace
    rw [hdocuments, List.map_append, List.map_cons] at hnodup
    have hbehind := (List.nodup_cons.1 (List.nodup_append.1 hnodup).2.1).1
    rw [← show e.fileName = d.fileName from hname] at hbehind
    exact hbehind (List.mem_map_of_mem he)
  · exact hsidebar.symm

/-- After a run that finished, the sidebar is on the disk, and if the names of
the pages only go down, so is every page whose place is not the sidebar's. -/
theorem run_keeps_outputs {disk : Disk} {words : List String}
    (h : (run disk words).ending = .finished) :
    ∃ options g, Generates disk words options g ∧
      (run disk words).disk.HasFile (Path.destination disk.here options.sidebar)
        (Text.Utf8.encode (sidebarText options g)) ∧
      ((∀ d ∈ g.documents, Path.Descends (d.fileName ++ options.extension)) →
        ∀ d ∈ g.documents, Path.destination disk.here (options.pagePath d.fileName) ≠
            Path.destination disk.here options.sidebar →
          (run disk words).disk.HasFile
            (Path.destination disk.here (options.pagePath d.fileName))
            (Text.Utf8.encode d.text)) := by
  obtain ⟨options, g, hgenerates, hwrite⟩ := run_finished_iff.1 ⟨h, rfl⟩
  refine ⟨options, g, hgenerates, ?_, fun hdescends d hd hsidebar => ?_⟩
  · have hlast := writeOutputs_eq_ok hwrite
    dsimp only [Output.destination] at hlast
    exact hlast fun other hother => nomatch hother
  · refine hgenerates.hasFile_page hwrite hd (fun e he hplace => ?_) hsidebar
    exact String.append_left_inj _ |>.1
      ((hdescends e he).injective (hdescends d hd) hplace)

/-! ## Pages with a place of their own, and two in one -/

/-- Two files without a package, by their paths. -/
def pairOf (first second : String) : Value :=
  .object [("files", .list [
    .object [("path", .text first), ("package", .text "")],
    .object [("path", .text second), ("package", .text "")]])]

def ownText : String :=
  "\x7b\"files\":[\x7b\"path\":\"a/x\",\"package\":\"\"\x7d," ++
    "\x7b\"path\":\"x\",\"package\":\"\"\x7d]\x7d"

def sharedText : String :=
  "\x7b\"files\":[\x7b\"path\":\"a/x\",\"package\":\"\"\x7d," ++
    "\x7b\"path\":\"a/./x\",\"package\":\"\"\x7d]\x7d"

set_option maxRecDepth 100000 in
theorem readDescriptors_own :
    readDescriptors "d.json" (Text.Utf8.encode ownText) = .ok (pairOf "a/x" "x") := by
  cbv

set_option maxRecDepth 100000 in
theorem readDescriptors_shared :
    readDescriptors "d.json" (Text.Utf8.encode sharedText) =
      .ok (pairOf "a/x" "a/./x") := by
  cbv

/-- A disk with nothing on it but descriptors. -/
def diskOf (text : String) : Disk where
  entries := [(["d.json"], .file (Text.Utf8.encode text))]
  here := []

def wordsToDocs : List String :=
  ["--file-descriptors-path", "d.json", "--proto-docs-path", "docs",
    "--sidebar-path", "s.js"]

def optionsToDocs : Options where
  descriptors := "d.json"
  pages := "docs"
  sidebar := "s.js"

theorem generates_toDocs {text : String} {raw : Value} {g : Generation}
    (hraw : readDescriptors "d.json" (Text.Utf8.encode text) = .ok raw)
    (hg : generate raw (.text "") none = .ok g) :
    Generates (diskOf text) wordsToDocs optionsToDocs g :=
  ⟨⟨false, rfl⟩, rfl, _, raw, none, rfl, hraw, rfl, hg⟩

/-- A run that can write everything finishes. -/
theorem Generates.finished {disk : Disk} {words : List String} {options : Options}
    {g : Generation} (h : Generates disk words options g)
    (hwrite : (writeOutputs disk (outputs options g)).2.isNone) :
    (run disk words).ending = .finished ∧
      writeOutputs disk (outputs options g) = ((run disk words).disk, none) := by
  have hall : writeOutputs disk (outputs options g) =
      ((writeOutputs disk (outputs options g)).1, none) :=
    Prod.ext rfl (Option.isNone_iff_eq_none.1 hwrite)
  obtain ⟨hending, hdisk⟩ := run_finished_iff.2 ⟨options, g, h, hall⟩
  exact ⟨hending, hdisk ▸ hall⟩

theorem run_keeps_outputs_own :
    (run (diskOf ownText) wordsToDocs).ending = .finished ∧
      ∃ g, Generates (diskOf ownText) wordsToDocs optionsToDocs g ∧
        g.documents.map Document.fileName = ["a/x", "x"] ∧
        (run (diskOf ownText) wordsToDocs).disk.HasFile ["s.js"]
          (Text.Utf8.encode (sidebarText optionsToDocs g)) ∧
        ∀ d ∈ g.documents, (run (diskOf ownText) wordsToDocs).disk.HasFile
          (Path.destination [] (optionsToDocs.pagePath d.fileName))
          (Text.Utf8.encode d.text) := by
  have hgenerated : ∃ g, generate (pairOf "a/x" "x") (.text "") none = .ok g ∧
      g.documents.map Document.fileName = ["a/x", "x"] ∧
      (writeOutputs (diskOf ownText) (outputs optionsToDocs g)).2.isNone := by
    refine ⟨_, rfl, ?_, ?_⟩
    · decide
    · decide +kernel
  obtain ⟨g, hg, hnames, hwrite⟩ := hgenerated
  have hgenerates := generates_toDocs readDescriptors_own hg
  have hfinished := (hgenerates.finished hwrite).1
  obtain ⟨options, g', hgenerates', hsidebar, hpages⟩ := run_keeps_outputs hfinished
  obtain ⟨rfl, rfl⟩ := hgenerates.unique hgenerates'
  have hplaces : ∀ name ∈ g.documents.map Document.fileName,
      Path.Descends (name ++ optionsToDocs.extension) ∧
        Path.destination [] (optionsToDocs.pagePath name) ≠
          Path.destination [] optionsToDocs.sidebar := by
    rw [hnames]
    decide
  rw [List.forall_mem_map] at hplaces
  exact ⟨hfinished, g, hgenerates, hnames, hsidebar,
    fun d hd => hpages (fun e he => (hplaces e he).1) d hd (hplaces d hd).2⟩

/-- Two pages with different names may lead to one place: then the first of
them is lost, though the run finishes. -/
theorem run_loses_page :
    (run (diskOf sharedText) wordsToDocs).ending = .finished ∧
      ∃ g, Generates (diskOf sharedText) wordsToDocs optionsToDocs g ∧
        ∃ d ∈ g.documents, ¬ (run (diskOf sharedText) wordsToDocs).disk.HasFile
          (Path.destination [] (optionsToDocs.pagePath d.fileName))
          (Text.Utf8.encode d.text) := by
  have hgenerated : ∃ g d e, generate (pairOf "a/x" "a/./x") (.text "") none = .ok g ∧
      g.documents = [d, e] ∧ d.fileName = "a/x" ∧ e.fileName = "a/./x" ∧
      Text.Utf8.encode d.text ≠ Text.Utf8.encode e.text ∧
      (writeOutputs (diskOf sharedText) (outputs optionsToDocs g)).2.isNone := by
    refine ⟨_, _, _, rfl, rfl, rfl, rfl, ?_, ?_⟩
    · decide +kernel
    · decide +kernel
  obtain ⟨g, d, e, hg, hdocuments, hd, he, htexts, hwrite⟩ := hgenerated
  have hgenerates := generates_toDocs readDescriptors_shared hg
  obtain ⟨hfinished, hwrite⟩ := hgenerates.finished hwrite
  refine ⟨hfinished, g, hgenerates, d, by rw [hdocuments]; simp, fun hlost => ?_⟩
  have houtputs : outputs optionsToDocs g = [⟨optionsToDocs.pagePath "a/x", d.text⟩] ++
      ⟨optionsToDocs.pagePath "a/./x", e.text⟩ ::
        [⟨optionsToDocs.sidebar, sidebarText optionsToDocs g⟩] := by
    rw [outputs, pageOutputs, hdocuments, ← hd, ← he]
    rfl
  rw [houtputs] at hwrite
  have hkept := writeOutputs_eq_ok hwrite
  dsimp only [Output.destination] at hkept
  have hplaces :
      Path.destination (diskOf sharedText).here (optionsToDocs.pagePath "a/./x") =
        Path.destination [] (optionsToDocs.pagePath "a/x") := by decide
  rw [hplaces, List.forall_mem_singleton] at hkept
  rw [hd] at hlost
  have hsidebar : Path.destination [] optionsToDocs.sidebar ≠
      Path.destination [] (optionsToDocs.pagePath "a/x") := by decide
  have hheld := Option.some.inj (hlost.symm.trans (hkept hsidebar))
  exact htexts (Entry.file.inj hheld)

end SchemaDocs.Command
