import SchemaDocs.Proofs.Resolution

/-!
# The names that nothing was found for

A name is noted the first time that it is met, so the list that a resolution
leaves depends on the way it went. As a set the list does not: it has the
names of the slots that were left open, and each of them once.
-/

namespace SchemaDocs

/-- The names noted so far. -/
def Diagnostics.names (d : Diagnostics) : List String := d.unresolved.map (·.name)

/-- A slot in which a name stands that nothing was found for. -/
def Slot.Open (s : Slot) (name : String) : Prop := s.ref = some (.unresolved name)

section

variable {d : Diagnostics} {name : String}

theorem Diagnostics.mem_names_noteUnresolved {u : UnresolvedReference} :
    name ∈ (d.noteUnresolved u).names ↔ name ∈ d.names ∨ u.name = name := by
  unfold Diagnostics.noteUnresolved
  split
  · next hknown =>
      obtain ⟨v, hv, hvu⟩ := List.any_eq_true.1 hknown
      have hmem : u.name ∈ d.names := by
        rw [← beq_iff_eq.1 hvu]
        exact List.mem_map_of_mem hv
      exact ⟨Or.inl, fun h => h.elim id (fun h => h ▸ hmem)⟩
  · simp [Diagnostics.names, eq_comm]

theorem Diagnostics.nodup_names_noteUnresolved {u : UnresolvedReference}
    (h : d.names.Nodup) : (d.noteUnresolved u).names.Nodup := by
  unfold Diagnostics.noteUnresolved
  split
  · exact h
  · next hnew =>
      have hnew : u.name ∉ d.names := by
        intro hmem
        obtain ⟨v, hv, hvu⟩ := List.mem_map.1 hmem
        exact hnew (List.any_eq_true.2 ⟨v, hv, beq_iff_eq.2 hvu⟩)
      simp only [Diagnostics.names, List.map_append, List.map_cons, List.map_nil]
      exact h.append (List.nodup_singleton _) (by simpa using hnew)

theorem Diagnostics.names_note {file : File} {referrer : String} {t : TypeRef}
    (h : ∀ name, t ≠ .unresolved name) : (d.note file referrer t).names = d.names := by
  cases t with
  | primitive => rfl
  | resolved entity path kind =>
      rw [Diagnostics.note]
      split <;> rfl
  | unresolved name => exact absurd rfl (h name)

theorem Diagnostics.noteSlot_names (note : File × Slot) (hd : d.names.Nodup) :
    (d.noteSlot note).names.Nodup ∧
      ∀ name, name ∈ (d.noteSlot note).names ↔ name ∈ d.names ∨ note.2.Open name := by
  obtain ⟨file, referrer, ref⟩ := note
  cases ref with
  | none => exact ⟨hd, fun _ => by simp [Diagnostics.noteSlot, Slot.Open]⟩
  | some t =>
      by_cases ht : ∃ left, t = .unresolved left
      · obtain ⟨left, rfl⟩ := ht
        refine ⟨Diagnostics.nodup_names_noteUnresolved hd, fun name => ?_⟩
        rw [Diagnostics.noteSlot, Diagnostics.note,
          Diagnostics.mem_names_noteUnresolved]
        simp [Slot.Open]
      · rw [not_exists] at ht
        rw [Diagnostics.noteSlot, Diagnostics.names_note ht]
        exact ⟨hd, fun name => by simp [Slot.Open, ht]⟩

/-- Every name of an open slot is there in the end, beside those from before,
and none is there twice. -/
theorem Diagnostics.noteAll_names (notes : Notes) (hd : d.names.Nodup) :
    (d.noteAll notes).names.Nodup ∧
      ∀ name, name ∈ (d.noteAll notes).names ↔
        name ∈ d.names ∨ ∃ note ∈ notes, note.2.Open name := by
  induction notes generalizing d with
  | nil => exact ⟨hd, fun name => by simp [Diagnostics.noteAll]⟩
  | cons note rest ih =>
      obtain ⟨hnd, hmem⟩ := Diagnostics.noteSlot_names note hd
      obtain ⟨hnd', hmem'⟩ := ih hnd
      refine ⟨hnd', fun name => ?_⟩
      rw [Diagnostics.noteAll, List.foldl_cons, ← Diagnostics.noteAll, hmem', hmem,
        List.exists_mem_cons_iff, or_assoc]

end

theorem Index.diagnose_names (index : Index) (files : List File) :
    (index.diagnose files).names.Nodup ∧
      ∀ name, name ∈ (index.diagnose files).names ↔
        ∃ s ∈ (files.map index.fillFile).flatMap File.slots, s.Open name := by
  obtain ⟨hnd, hmem⟩ := Diagnostics.noteAll_names (d := {})
    (files.flatMap fun f => noted f (index.fillFile f).slots) List.nodup_nil
  refine ⟨hnd, fun name => ?_⟩
  rw [Index.diagnose, hmem]
  simp only [Diagnostics.names, List.map_nil, List.not_mem_nil, false_or,
    List.mem_flatMap, noted, List.mem_map]
  constructor
  · rintro ⟨_, ⟨f, hf, s, hs, rfl⟩, ho⟩
    exact ⟨s, ⟨_, ⟨f, hf, rfl⟩, hs⟩, ho⟩
  · rintro ⟨s, ⟨_, ⟨f, hf, rfl⟩, hs⟩, ho⟩
    exact ⟨(f, s), ⟨f, hf, s, hs, rfl⟩, ho⟩

/-- Slots in another order leave the same names, in another order. -/
theorem Index.diagnose_names_perm {index index' : Index} {files files' : List File}
    (h : ((files'.map index'.fillFile).flatMap File.slots).Perm
      ((files.map index.fillFile).flatMap File.slots)) :
    (index'.diagnose files').names.Perm (index.diagnose files).names := by
  obtain ⟨hnd, hmem⟩ := index.diagnose_names files
  obtain ⟨hnd', hmem'⟩ := index'.diagnose_names files'
  refine (List.perm_ext_iff_of_nodup hnd' hnd).2 fun name => ?_
  rw [hmem, hmem']
  exact exists_congr fun s => and_congr_left fun _ => h.mem_iff

end SchemaDocs
