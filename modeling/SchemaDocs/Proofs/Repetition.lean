import SchemaDocs.Proofs.Diagnosis
import SchemaDocs.Proofs.OrderIndependence
import SchemaDocs.Proofs.References

/-!
# Resolving again

A resolution writes slots and reads none. Whatever stands in the slots of some
files, emptying them first makes no difference: the files declare the same, no
other map has a message or an enum for its keys, and filling puts the same
into every slot, over whatever was there. So of files that differ in nothing
but slots all resolutions come to the same, and the files that a resolution
gives differ in nothing else from those it was given.
-/

namespace SchemaDocs

/-- Two resolutions come to the same: the same files, with the same in all
slots, and the same said of all names. -/
structure Resolution.Agrees (r' r : Resolution) : Prop where
  files : r'.files = r.files
  keys : r'.index.map Declaration.key = r.index.map Declaration.key
  unresolved : r'.unresolved = r.unresolved

theorem clearedMessages_eq_map (ms : List Message) :
    clearedMessages ms = ms.map Message.cleared := by
  induction ms with
  | nil => rfl
  | cons m rest ih => rw [clearedMessages, ih, List.map_cons]

section

variable (m : Message)

@[simp] theorem Message.cleared_fullName : m.cleared.fullName = m.fullName := by
  cases m
  rw [Message.cleared]

@[simp] theorem Message.cleared_fields :
    m.cleared.fields = m.fields.map Field.cleared := by
  cases m
  rw [Message.cleared]

@[simp] theorem Message.cleared_messages :
    m.cleared.messages = m.messages.map Message.cleared := by
  cases m
  rw [Message.cleared, clearedMessages_eq_map]

@[simp] theorem Message.cleared_enums : m.cleared.enums = m.enums := by
  cases m
  rw [Message.cleared]

end

theorem File.allMessages_cleared (f : File) :
    f.cleared.allMessages = f.allMessages.map Message.cleared := by
  rw [File.allMessages_eq, File.allMessages_eq, File.cleared, clearedMessages_eq_map,
    preorderAll_map Message.cleared_messages]

/-! ## What emptied files declare -/

theorem File.map_key_cleared (f : File) :
    f.cleared.declarations.map Declaration.key = f.declarations.map Declaration.key := by
  have hservices (ss : List Service) :
      (ss.map Service.cleared).map Service.fullName = ss.map Service.fullName := by
    rw [List.map_map]
    rfl
  refine File.map_key_of_map rfl f.allMessages_cleared Message.cleared_fullName
    (fun m => ?_) rfl
    (hservices f.services)
  rw [Message.cleared_enums]

theorem map_key_cleared (files : List File) :
    (declarations (files.map File.cleared)).map Declaration.key =
      (declarations files).map Declaration.key :=
  map_key_of_file File.map_key_cleared files

/-! ## Filling emptied slots -/

namespace Index

variable (index : Index)

theorem fillField_of_cleared (scope : String) (f : Field) :
    index.fillField scope f.cleared = index.fillField scope f := by
  unfold fillField Field.cleared
  cases f.map <;> rfl

theorem fillMessage_of_cleared (m : Message) :
    index.fillMessage m.cleared = index.fillMessage m := by
  induction m using Message.nestedInduction with
  | step m ih =>
      obtain ⟨name, fullName, fields, messages, enums, description, path⟩ := m
      rw [Message.cleared, fillMessage, fillMessage, clearedMessages_eq_map,
        fillMessages_eq_map, fillMessages_eq_map, List.map_map, List.map_map]
      congr 1
      · exact List.map_congr_left fun f _ => index.fillField_of_cleared fullName f
      · exact List.map_congr_left ih

theorem fillService_of_cleared (scope : String) (s : Service) :
    index.fillService scope s.cleared = index.fillService scope s := by
  rw [fillService, fillService, Service.cleared, List.map_map]
  rfl

theorem fillFile_of_cleared (f : File) : index.fillFile f.cleared = index.fillFile f := by
  simp only [fillFile, File.cleared, fillMessages_eq_map, clearedMessages_eq_map,
    List.map_map]
  congr 1
  · exact List.map_congr_left fun m _ => index.fillMessage_of_cleared m
  · exact List.map_congr_left fun s _ => index.fillService_of_cleared f.package s

theorem map_fillFile_of_cleared (files : List File) :
    (files.map File.cleared).map index.fillFile = files.map index.fillFile := by
  rw [List.map_map]
  exact List.map_congr_left fun f _ => index.fillFile_of_cleared f

theorem scalarKey_cleared {scope : String} {f : Field} :
    index.ScalarKey scope f.cleared ↔ index.ScalarKey scope f := by
  simp only [ScalarKey, Field.cleared, Option.map_eq_some_iff]
  constructor
  · intro h m hm
    exact h m.cleared ⟨m, hm, rfl⟩
  · rintro h _ ⟨m, hm, rfl⟩
    exact h m hm

theorem scalarKeys_cleared {m : Message} :
    index.ScalarKeys m.cleared ↔ index.ScalarKeys m := by
  simp only [ScalarKeys, Message.cleared_fields, Message.cleared_fullName,
    List.forall_mem_map, scalarKey_cleared]

theorem scalarKeysAll_cleared {files : List File} :
    index.ScalarKeysAll (files.map File.cleared) ↔ index.ScalarKeysAll files := by
  simp only [ScalarKeysAll, List.forall_mem_map, ← File.mem_allMessages,
    File.allMessages_cleared, scalarKeys_cleared]

end Index

/-! ## Resolving files that differ in slots -/

section

variable {files files' : List File} {r : Resolution}
  (h : files'.map File.cleared = files.map File.cleared)

include h

/-- Of files that differ in nothing but slots one resolution succeeds when the
other does, and then they come to the same. -/
theorem resolve_of_cleared_eq (hr : resolve files = .ok r) :
    ∃ r', resolve files' = .ok r' ∧ r'.Agrees r := by
  obtain ⟨hnd, hkeys, rfl⟩ := resolve_eq_ok_iff.1 hr
  have hkey : (declarations files').map Declaration.key =
      (declarations files).map Declaration.key := by
    rw [← map_key_cleared, h, map_key_cleared]
  have hnd' : (declaredNames files').Nodup := by
    rwa [← map_fst_key_declarations, hkey, map_fst_key_declarations]
  have href : Index.reference (declarations files') =
      Index.reference (declarations files) :=
    Index.reference_eq_of_perm (by rwa [map_fullName_declarations]) (.of_eq hkey)
  have hkeys' : Index.ScalarKeysAll (declarations files') files' := by
    rwa [Index.scalarKeysAll_congr href, ← Index.scalarKeysAll_cleared, h,
      Index.scalarKeysAll_cleared]
  have hfiles : files'.map (Index.fillFile (declarations files')) =
      files.map (Index.fillFile (declarations files)) := by
    rw [Index.fillFile_congr href, ← Index.map_fillFile_of_cleared, h,
      Index.map_fillFile_of_cleared]
  refine ⟨_, resolve_of_scalarKeys hnd' hkeys', hfiles, hkey, ?_⟩
  simp only [Index.diagnose_unresolved, hfiles]

end

/-- A resolution changes nothing but slots. What was in them before does not
matter for anything that it gives, so the files that it gives can be resolved
again, and that changes nothing any more. -/
theorem resolve_repeats {files : List File} {r : Resolution} (h : resolve files = .ok r) :
    r.files.map File.cleared = files.map File.cleared ∧
      (∀ files' : List File, files'.map File.cleared = files.map File.cleared →
        ∃ r', resolve files' = .ok r' ∧ r'.Agrees r) ∧
      ∃ r', resolve r.files = .ok r' ∧ r'.Agrees r := by
  have hcleared : r.files.map File.cleared = files.map File.cleared := by
    obtain ⟨-, -, rfl⟩ := resolve_eq_ok_iff.1 h
    rw [List.map_map]
    exact List.map_congr_left fun f _ => Index.fillFile_cleared _ f
  exact ⟨hcleared, fun _ hfiles => resolve_of_cleared_eq hfiles h,
    resolve_of_cleared_eq hcleared h⟩

/-- Slots in which something stands already, and all of it is wrong: a target
that is not there, a target of another kind, and the key of a map as a message. -/
def stale : List File := [
  { path := "a.proto", package := "p"
    messages := [{
      name := "M", fullName := "p.M"
      fields := [
        { name := "self", typeName := "M"
          typeRef := some (.resolved "p.Old" "old.proto" .message) },
        { name := "pairs", typeName := "map", label := .repeated
          map := some {
            keyType := "string", valueType := "Gone"
            keyRef := some (.resolved "p.M" "a.proto" .message)
            valueRef := some (.primitive "string") }
          typeRef := some (.unresolved "Other") }]
      messages := [{
        name := "Inner", fullName := "p.M.Inner"
        fields := [{
          name := "up", typeName := ".p.M"
          typeRef := some (.resolved "p.M" "a.proto" .enum) }] }] }]
    services := [{
      name := "S", fullName := "p.S"
      methods := [{
        name := "Get", requestType := "M.Inner", responseType := "M"
        requestRef := some (.unresolved "M.Inner") }] }] }]

theorem resolve_repeats_stale :
    ∃ r, resolve stale = .ok r ∧ r.files.flatMap File.slots ≠ stale.flatMap File.slots ∧
      r.files.map File.cleared = stale.map File.cleared ∧
      (∀ files' : List File, files'.map File.cleared = stale.map File.cleared →
        ∃ r', resolve files' = .ok r' ∧ r'.Agrees r) ∧
      ∃ r', resolve r.files = .ok r' ∧ r'.Agrees r :=
  ⟨_, rfl, by decide, resolve_repeats rfl⟩

end SchemaDocs
