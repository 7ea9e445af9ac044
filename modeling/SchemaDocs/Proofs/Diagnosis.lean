import SchemaDocs.Journal
import SchemaDocs.Proofs.Unresolved

/-!
# What a resolution reports

While slots are filled, two things are noted: the first use of a name that
nothing was found for, and every use of a declaration in a file that is not a
declared dependency. Both can be read off the filled slots alone, without
going through the resolution again. A slot shows the one or the other or
nothing, by what it holds and by the file it is in, and the notes are what the
slots show, in the order of `File.slots`.

The two are kept in different ways. An undeclared use is noted each time, so
these notes are all that is shown. A name that is left open is noted only if
it was not noted before, so of its uses the first one stays, even when the
same name is found elsewhere.
-/

namespace SchemaDocs

/-! ## What slots show -/

/-- The use of a name that nothing was found for. -/
def Slot.unresolvedUse? (file : File) (s : Slot) : Option UnresolvedReference :=
  match s.ref with
  | some (.unresolved name) => some ⟨name, file.path, s.referrer⟩
  | _ => none

/-- The use of a declaration of a file that is neither the file itself nor one
of its declared dependencies. -/
def Slot.undeclaredUse? (file : File) (s : Slot) : Option UndeclaredUse :=
  match s.ref with
  | some (.resolved entity path _) =>
    if path = file.path ∨ path ∈ file.dependencies then none
    else some ⟨file.path, s.referrer, entity, path⟩
  | _ => none

def File.unresolvedUses (f : File) : List UnresolvedReference :=
  f.slots.filterMap (Slot.unresolvedUse? f)

def File.undeclaredUses (f : File) : List UndeclaredUse :=
  f.slots.filterMap (Slot.undeclaredUse? f)

/-- Of the uses of each name the first, in the order in which they come. -/
def firstUses (uses : List UnresolvedReference) : List UnresolvedReference :=
  uses.eraseDupsBy fun u v => u.name == v.name

theorem firstUses_cons (u : UnresolvedReference) (uses : List UnresolvedReference) :
    firstUses (u :: uses) = u :: firstUses (uses.filter (·.name ≠ u.name)) := by
  rw [firstUses, List.eraseDupsBy_cons, firstUses]
  simp only [beq_eq_false_iff_ne]

/-! ## What is noted of a slot -/

namespace Diagnostics

variable (d : Diagnostics)

theorem noteSlot_undeclared (note : File × Slot) :
    (d.noteSlot note).undeclared =
      d.undeclared ++ (note.2.undeclaredUse? note.1).toList := by
  obtain ⟨file, referrer, ref⟩ := note
  match ref with
  | none | some (.primitive _) => exact (List.append_nil _).symm
  | some (.unresolved name) =>
      rw [noteSlot, note, noteUnresolved]
      split <;> exact (List.append_nil _).symm
  | some (.resolved entity path kind) =>
      by_cases h : path = file.path ∨ path ∈ file.dependencies
      · simp only [noteSlot, note, Slot.undeclaredUse?, if_pos h, Option.toList_none,
          List.append_nil]
      · simp only [noteSlot, note, Slot.undeclaredUse?, if_neg h, Option.toList_some,
          noteUndeclared]

theorem noteSlot_of_use {note : File × Slot} {u : UnresolvedReference}
    (h : note.2.unresolvedUse? note.1 = some u) :
    d.noteSlot note = d.noteUnresolved u := by
  obtain ⟨file, referrer, ref⟩ := note
  match ref with
  | none | some (.primitive _) | some (.resolved ..) => cases h
  | some (.unresolved name) =>
      cases h
      rfl

theorem noteSlot_of_no_use {note : File × Slot}
    (h : note.2.unresolvedUse? note.1 = none) :
    (d.noteSlot note).unresolved = d.unresolved := by
  obtain ⟨file, referrer, ref⟩ := note
  match ref with
  | none | some (.primitive _) => rfl
  | some (.resolved entity path kind) =>
      rw [noteSlot, note]
      split <;> rfl
  | some (.unresolved name) => cases h

theorem noteUnresolved_of_mem {u : UnresolvedReference} (h : u.name ∈ d.names) :
    d.noteUnresolved u = d := by
  obtain ⟨v, hv, hvu⟩ := List.mem_map.1 h
  have hknown : d.unresolved.any (·.name == u.name) = true :=
    List.any_eq_true.2 ⟨v, hv, beq_iff_eq.2 hvu⟩
  exact if_pos hknown

theorem noteUnresolved_of_notMem {u : UnresolvedReference} (h : u.name ∉ d.names) :
    (d.noteUnresolved u).unresolved = d.unresolved ++ [u] := by
  rw [noteUnresolved, if_neg]
  intro hany
  obtain ⟨v, hv, hvu⟩ := List.any_eq_true.1 hany
  exact h (List.mem_map.2 ⟨v, hv, beq_iff_eq.1 hvu⟩)

/-! ## What is noted of all slots -/

theorem noteAll_undeclared (notes : Notes) :
    (d.noteAll notes).undeclared =
      d.undeclared ++ notes.filterMap fun note => note.2.undeclaredUse? note.1 := by
  induction notes generalizing d with
  | nil => exact (List.append_nil _).symm
  | cons note rest ih =>
      rw [noteAll, List.foldl_cons, ← noteAll, ih, noteSlot_undeclared, List.append_assoc,
        List.filterMap_cons]
      cases note.2.undeclaredUse? note.1 <;> rfl

/-- Behind what was noted before stand the first uses of the names that were
not. -/
theorem noteAll_unresolved (notes : Notes) :
    (d.noteAll notes).unresolved =
      d.unresolved ++ firstUses ((notes.filterMap fun note =>
        note.2.unresolvedUse? note.1).filter (·.name ∉ d.names)) := by
  induction notes generalizing d with
  | nil => exact (List.append_nil _).symm
  | cons note rest ih =>
      rw [noteAll, List.foldl_cons, ← noteAll, ih, List.filterMap_cons]
      cases huse : note.2.unresolvedUse? note.1 with
      | none =>
          have hsame := d.noteSlot_of_no_use huse
          rw [names, hsame, ← names]
      | some u =>
          rw [d.noteSlot_of_use huse, List.filter_cons]
          by_cases hmem : u.name ∈ d.names
          · rw [d.noteUnresolved_of_mem hmem, if_neg (by simpa using hmem)]
          · have hnew := d.noteUnresolved_of_notMem hmem
            -- the rest must avoid the new name beside those from before
            rw [names, hnew, if_pos (by simpa using hmem), firstUses_cons,
              List.filter_filter, List.append_assoc, List.singleton_append,
              List.map_append, ← names]
            simp only [List.map_cons, List.map_nil, List.mem_append, List.mem_singleton,
              not_or, Bool.decide_and, ne_eq, Bool.and_comm]

end Diagnostics

/-! ## What is noted of files -/

section

variable (index : Index) (files : List File)

/-- The notes of files are the slots of the filled files, each with the file
that it is in, if of that file nothing is read that filling changes. -/
theorem filterMap_notes {α : Type} (read : File → Slot → Option α)
    (hread : ∀ f, read (index.fillFile f) = read f) :
    (files.flatMap fun f => noted f (index.fillFile f).slots).filterMap
        (fun note => read note.1 note.2) =
      (files.map index.fillFile).flatMap fun f => f.slots.filterMap (read f) := by
  rw [List.filterMap_flatMap, List.flatMap_map]
  refine List.flatMap_congr fun f _ => ?_
  rw [noted, List.filterMap_map, hread]
  rfl

theorem Index.diagnose_undeclared :
    (index.diagnose files).undeclared =
      (files.map index.fillFile).flatMap File.undeclaredUses := by
  rw [Index.diagnose, Diagnostics.noteAll_undeclared,
    filterMap_notes index files Slot.undeclaredUse? fun _ => rfl]
  rfl

theorem Index.diagnose_unresolved :
    (index.diagnose files).unresolved =
      firstUses ((files.map index.fillFile).flatMap File.unresolvedUses) := by
  have hnone (uses : List UnresolvedReference) :
      uses.filter (·.name ∉ Diagnostics.names {}) = uses :=
    List.filter_eq_self.2 fun u _ => decide_eq_true List.not_mem_nil
  rw [Index.diagnose, Diagnostics.noteAll_unresolved, hnone,
    filterMap_notes index files Slot.unresolvedUse? fun _ => rfl]
  rfl

end

/-- The list of open names that a resolution leaves, and all that it logs, can
be read off the files that it gives: below the size of the index one line for
each undeclared use, in the order of the slots, and then one warning for each
entry of the list, which has of every name left open the first use. -/
theorem resolve_reports {files : List File} {r : Resolution} (h : resolve files = .ok r) :
    r.unresolved = firstUses (r.files.flatMap File.unresolvedUses) ∧
      (resolveAll files).events =
        ⟨.debug, part "resolver",
          "Indexed " ++ toString r.index.length ++ " fully-qualified name(s)"⟩ ::
        ((r.files.flatMap File.undeclaredUses).map UndeclaredUse.event ++
          r.unresolved.map UnresolvedReference.event) := by
  obtain ⟨hnd, hkeys, rfl⟩ := resolve_eq_ok_iff.1 h
  refine ⟨Index.diagnose_unresolved _ files, ?_⟩
  rw [resolveAll_of_scalarKeys hnd hkeys, ← Index.diagnose_undeclared]
  rfl

/-- The name `Inner` means a message in one scope and nothing in the other, and
the second use of it there is noted no more. The file that declares what
`.q.T` means is used by two others, and only one of them says so. -/
def asking : List File := [
  { path := "a.proto", package := "p"
    messages := [
      { name := "M", fullName := "p.M"
        fields := [{ name := "found", typeName := "Inner" }]
        messages := [{ name := "Inner", fullName := "p.M.Inner" }] },
      { name := "N", fullName := "p.N"
        fields := [
          { name := "lost", typeName := "Inner" },
          { name := "pairs", typeName := "map", label := .repeated
            map := some { keyType := "Key", valueType := "Inner" } }] }]
    services := [{
      name := "S", fullName := "p.S"
      methods := [{ name := "Get", requestType := "Inner", responseType := ".q.T" }] }] },
  { path := "b.proto", package := "q"
    messages := [{ name := "T", fullName := "q.T" }] },
  { path := "c.proto", dependencies := ["b.proto"]
    messages := [{
      name := "U", fullName := "U"
      fields := [{ name := "t", typeName := "q.T" }] }] }]

theorem resolve_reports_asking :
    ∃ r, resolve asking = .ok r ∧
      r.unresolved = [⟨"Inner", "a.proto", "p.N.lost"⟩, ⟨"Key", "a.proto", "p.N.pairs"⟩] ∧
      r.unresolved = firstUses (r.files.flatMap File.unresolvedUses) ∧
      (resolveAll asking).events =
        ⟨.debug, part "resolver",
          "Indexed " ++ toString r.index.length ++ " fully-qualified name(s)"⟩ ::
        ((r.files.flatMap File.undeclaredUses).map UndeclaredUse.event ++
          r.unresolved.map UnresolvedReference.event) :=
  ⟨_, rfl, rfl, resolve_reports rfl⟩

end SchemaDocs
