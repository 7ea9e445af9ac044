import SchemaDocs.Command.Run
import SchemaDocs.Proofs.Destinations
import SchemaDocs.Proofs.Keys

/-!
# What is on the disk when everything is written

Making folders changes no file, and writing a file changes no other. So after
all outputs have been written, there is at the destination of each the text of
the last one with that destination. An output is lost exactly when a later one
has the same destination, which nothing in the writing prevents: it is up to
the paths.
-/

namespace SchemaDocs

namespace Disk

/-- There is a file at a location, and what it holds. -/
def HasFile (disk : Disk) (location : Location) (octets : List UInt8) : Prop :=
  disk.find? location = some (.file octets)

theorem find?_root (disk : Disk) : disk.find? [] = some .folder := rfl

theorem find?_put (disk : Disk) {location : Location} (other : Location) (entry : Entry)
    (h : location ≠ []) : (disk.put location entry).find? other =
      if other = location then some entry else disk.find? other := by
  by_cases hother : other = []
  · subst hother
    rw [find?_root, find?_root, if_neg (Ne.symm h)]
  · have hempty : other.isEmpty = false := by simpa using hother
    rw [find?, find?, hempty, if_neg Bool.false_ne_true, if_neg Bool.false_ne_true, put,
      List.lookup_cons]
    split
    · next heq => rw [if_pos (eq_of_beq heq)]
    · next hne =>
        have hne : other ≠ location := by simpa using hne
        rw [if_neg hne, lookup_filter_of_ne hne]

/-- The files of the one disk are on the other, unchanged. -/
structure Keeps (before after : Disk) : Prop where
  here : after.here = before.here
  files : ∀ location octets, before.HasFile location octets →
    after.HasFile location octets

theorem Keeps.refl (disk : Disk) : disk.Keeps disk := ⟨rfl, fun _ _ h => h⟩

theorem Keeps.trans {a b c : Disk} (hab : a.Keeps b) (hbc : b.Keeps c) : a.Keeps c :=
  ⟨hbc.here.trans hab.here, fun location octets h =>
    hbc.files location octets (hab.files location octets h)⟩

/-! ## Folders -/

theorem makeFolder_keeps {disk disk' : Disk} {path : String}
    (h : disk.makeFolder path = .ok disk') : disk.Keeps disk' := by
  rw [makeFolder] at h
  obtain ⟨location, -, h⟩ := bind_eq_ok_iff.1 h
  split at h
  · cases h
  · next hfree =>
      cases h
      have hroot : location ≠ [] := by
        rintro rfl
        cases hfree
      refine ⟨rfl, fun other octets hfile => ?_⟩
      rw [HasFile, find?_put _ _ _ hroot]
      split
      · next heq =>
          rw [HasFile, heq, hfree] at hfile
          cases hfile
      · exact hfile

theorem ensureFolder_keeps (disk : Disk) (path : String) :
    disk.Keeps (disk.ensureFolder path).1 := by
  rw [ensureFolder]
  split
  · next h => exact makeFolder_keeps h
  · exact .refl disk
  · exact .refl disk

theorem makeFoldersFrom_keeps : ∀ (fuel : Nat) (disk : Disk) (path : String),
    disk.Keeps (makeFoldersFrom fuel disk path).1 := by
  intro fuel
  induction fuel with
  | zero => exact ensureFolder_keeps
  | succ fuel ih =>
      intro disk path
      have hhead := ih disk (above path).1
      rw [makeFoldersFrom]
      dsimp only
      split
      · exact ensureFolder_keeps disk path
      · split
        · next after hrun =>
            rw [hrun] at hhead
            split
            · exact hhead
            · exact hhead.trans (ensureFolder_keeps after path)
        · next after _ hrun =>
            rw [hrun] at hhead
            split
            · exact hhead
            · exact hhead.trans (ensureFolder_keeps after path)
        · next after _ _ hrun =>
            rw [hrun] at hhead
            exact hhead

theorem makeFolders_keeps (disk : Disk) (path : String) :
    disk.Keeps (disk.makeFolders path).1 :=
  makeFoldersFrom_keeps _ disk path

/-! ## Files -/

/-- A file that is written is at the destination of its path, and no other file
has changed. -/
theorem write_eq_ok {disk disk' : Disk} {path : String} {octets : List UInt8}
    (h : disk.write path octets = .ok disk') :
    disk'.here = disk.here ∧ disk'.HasFile (Path.destination disk.here path) octets ∧
      ∀ location held, location ≠ Path.destination disk.here path →
        disk.HasFile location held → disk'.HasFile location held := by
  rw [write] at h
  obtain ⟨location, hlocation, h⟩ := bind_eq_ok_iff.1 h
  rw [locate_eq_ok hlocation, Path.destination_plain] at h
  split at h
  · cases h
  · next hfree =>
      have hroot : Path.destination disk.here path ≠ [] := by
        intro hroot
        rw [hroot, find?_root] at hfree
        exact hfree rfl
      cases h
      refine ⟨rfl, ?_, fun other held hne hfile => ?_⟩
      · rw [HasFile, find?_put _ _ _ hroot, if_pos rfl]
      · rwa [HasFile, find?_put _ _ _ hroot, if_neg hne]

end Disk

/-! ## Outputs -/

namespace Command

/-- Where an output goes. -/
def Output.destination (here : Location) (o : Output) : Location :=
  Path.destination here o.path

theorem writeOutput_eq_ok {disk disk' : Disk} {o : Output}
    (h : writeOutput disk o = (disk', none)) :
    disk'.here = disk.here ∧
      disk'.HasFile (o.destination disk.here) (Text.Utf8.encode o.text) ∧
      ∀ location held, location ≠ o.destination disk.here →
        disk.HasFile location held → disk'.HasFile location held := by
  rw [writeOutput] at h
  have hfolders : ∀ {after : Disk} {fault : Option FileFault},
      (if Path.folder o.path = "" then (disk, none)
        else disk.makeFolders (Path.folder o.path)) = (after, fault) →
          disk.Keeps after := by
    intro after fault hrun
    split at hrun
    · cases hrun
      exact .refl disk
    · have hkeeps := disk.makeFolders_keeps (Path.folder o.path)
      rwa [hrun] at hkeeps
  split at h
  · cases h
  · next after hrun =>
      have hkeeps := hfolders hrun
      split at h
      · next hwrite =>
          cases h
          obtain ⟨hhere, hfile, hothers⟩ := Disk.write_eq_ok hwrite
          rw [hkeeps.here] at hhere hfile hothers
          exact ⟨hhere, hfile, fun location held hne h =>
            hothers location held hne (hkeeps.files location held h)⟩
      · cases h

/-- A file is kept while outputs with other destinations are written. -/
theorem writeOutputs_keeps : ∀ {os : List Output} {disk disk' : Disk},
    writeOutputs disk os = (disk', none) → disk'.here = disk.here ∧
      ∀ location held, (∀ o ∈ os, o.destination disk.here ≠ location) →
        disk.HasFile location held → disk'.HasFile location held := by
  intro os
  induction os with
  | nil =>
      intro disk disk' h
      cases h
      exact ⟨rfl, fun _ _ _ h => h⟩
  | cons o rest ih =>
      intro disk disk' h
      rw [writeOutputs] at h
      split at h
      · next after hrun =>
          obtain ⟨hhere, -, hothers⟩ := writeOutput_eq_ok hrun
          obtain ⟨hhere', hkept⟩ := ih h
          rw [hhere] at hhere' hkept
          refine ⟨hhere', fun location held hne hfile => ?_⟩
          rw [List.forall_mem_cons] at hne
          exact hkept location held hne.2 (hothers location held (Ne.symm hne.1) hfile)
      · cases h

/-- An output is there at the end if none behind it has its destination. -/
theorem writeOutputs_eq_ok {front behind : List Output} {o : Output} {disk disk' : Disk}
    (h : writeOutputs disk (front ++ o :: behind) = (disk', none))
    (hlast : ∀ other ∈ behind, other.destination disk.here ≠ o.destination disk.here) :
    disk'.HasFile (o.destination disk.here) (Text.Utf8.encode o.text) := by
  induction front generalizing disk with
  | nil =>
      rw [List.nil_append, writeOutputs] at h
      split at h
      · next after hrun =>
          obtain ⟨hhere, hfile, -⟩ := writeOutput_eq_ok hrun
          refine (writeOutputs_keeps h).2 _ _ ?_ hfile
          rwa [hhere]
      · cases h
  | cons first rest ih =>
      rw [List.cons_append, writeOutputs] at h
      split at h
      · next after hrun =>
          obtain ⟨hhere, -, -⟩ := writeOutput_eq_ok hrun
          rw [← hhere] at hlast ⊢
          exact ih h hlast
      · cases h

end Command

end SchemaDocs
