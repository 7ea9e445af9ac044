import Mathlib.Data.List.Flatten
import SchemaDocs.Proofs.RecordLoading
import SchemaDocs.Proofs.ScopeFree

/-!
# From descriptors to resolved files

What a descriptor set says is loaded as it is, and then resolved. Nothing stands
in the way: the full names that are left when the entries of maps are gone are
still different, and the keys of maps are scalars. All other names of types are
absolute, so scopes play no part: a name is resolved to the message or the enum
of this name and the file that has it, or it is not resolved because there is
none.
-/

namespace SchemaDocs

namespace Descriptor

/-! ## Full names that are left -/

/-- What does not depend on the index can be read off the items. -/
theorem map_map_indexed {α β γ : Type} {g : α × Int → β} {h : β → γ} {k : α → γ}
    (hk : ∀ x, h (g x) = k x.1) (items : List α) :
    ((indexed items).map g).map h = items.map k := by
  conv_rhs => rw [← map_fst_indexed items, List.map_map]
  rw [List.map_map]
  exact List.map_congr_left fun x _ => hk x

theorem mem_toMessages {comments : Comments} {file scope : String} {path : List Int}
    {k : Message} : ∀ {ms : List MessageProto} {index : Int},
    k ∈ toMessages comments file scope path index ms →
    ∃ m ∈ ms, m.mapEntry = false ∧
    ∃ path', k = m.toMessage comments file scope path' := by
  intro ms
  induction ms with
  | nil => exact fun h => nomatch h
  | cons m rest ih =>
      intro index h
      rw [toMessages] at h
      cases hentry : m.mapEntry with
      | true =>
          rw [hentry, if_pos rfl] at h
          obtain ⟨n, hn, hrest⟩ := ih h
          exact ⟨n, List.mem_cons_of_mem m hn, hrest⟩
      | false =>
          rw [hentry, if_neg Bool.false_ne_true] at h
          rcases List.mem_cons.1 h with rfl | h
          · exact ⟨m, List.mem_cons_self, hentry, _, rfl⟩
          · obtain ⟨n, hn, hrest⟩ := ih h
            exact ⟨n, List.mem_cons_of_mem m hn, hrest⟩

theorem toMessages_sublist {comments : Comments} {file scope : String} {path : List Int} :
    ∀ {ms : List MessageProto} (index : Int),
    (∀ m ∈ ms, ∀ path, ((m.toMessage comments file scope path).declaredNames).Sublist
      (m.fullNames scope)) →
    ((toMessages comments file scope path index ms).flatMap Message.declaredNames).Sublist
      (ms.flatMap (MessageProto.fullNames scope)) := by
  intro ms
  induction ms with
  | nil => exact fun _ _ => .refl _
  | cons m rest ih =>
      intro index h
      rw [List.forall_mem_cons] at h
      rw [toMessages, List.flatMap_cons]
      cases m.mapEntry with
      | true => exact (ih (index + 1) h.2).trans (List.sublist_append_right _ _)
      | false =>
          rw [if_neg Bool.false_ne_true, List.flatMap_cons]
          exact (h.1 _).append (ih (index + 1) h.2)

theorem MessageProto.declaredNames_sublist (comments : Comments) (file : String)
    (m : MessageProto) {scope : String} (path : List Int) :
    ((m.toMessage comments file scope path).declaredNames).Sublist
      (m.fullNames scope) := by
  induction m using MessageProto.nestedInduction generalizing scope path with
  | step m ih =>
      have henums : (((indexed m.enums).map fun x =>
            x.1.toEnum comments file (qualify scope m.name.display)
              (path ++ [4, x.2])).map
          fun e => e.fullName) =
          m.enums.map (qualify (qualify scope m.name.display) ·.name.display) :=
        map_map_indexed (fun _ => by rfl) _
      rw [Message.declaredNames_eq, MessageProto.toMessage_eq, MessageProto.fullNames_eq]
      dsimp only
      rw [henums]
      exact (List.Sublist.refl _).append
        (toMessages_sublist 0 fun n hn path => ih n hn path)

theorem FileProto.declaredNames_sublist (p : FileProto) :
    p.toFile.declaredNames.Sublist p.fullNames := by
  have hmessages : (p.toFile.messages.flatMap Message.declaredNames).Sublist
      (p.messages.flatMap (MessageProto.fullNames p.package.display)) := by
    rw [FileProto.toFile, List.flatMap_map]
    conv_rhs => rw [← map_fst_indexed p.messages, List.flatMap_map]
    exact List.Sublist.flatMap_right _ fun x _ =>
      MessageProto.declaredNames_sublist _ _ x.1 _
  have henums : (p.toFile.enums.map fun e => e.fullName) =
      p.enums.map (qualify p.package.display ·.name.display) :=
    map_map_indexed (fun _ => by rfl) _
  have hservices : (p.toFile.services.map fun s => s.fullName) =
      p.services.map (qualify p.package.display ·.name.display) :=
    map_map_indexed (fun _ => by rfl) _
  rw [File.declaredNames, FileProto.fullNames, fullNamesOf_eq_flatMap,
    declaredInMessages_eq_flatMap, henums, hservices]
  exact (hmessages.append (.refl _)).append (.refl _)

theorem FileSet.nodup_declaredNames {s : FileSet} (h : s.fullNames.Nodup) :
    (declaredNames s.toFiles).Nodup := by
  refine List.Sublist.nodup ?_ h
  rw [declaredNames, FileSet.toFiles, List.flatMap_map]
  exact List.Sublist.flatMap_right _ fun p _ => FileProto.declaredNames_sublist p

/-! ## Messages of a file -/

/-- A message that is said to be anywhere inside another is said by a
descriptor inside. -/
theorem MessageProto.within_toMessage {comments : Comments} {file : String} {k : Message}
    (m : MessageProto) {scope : String} {path : List Int} (h : m.Proper scope)
    (hk : k.Within (m.toMessage comments file scope path)) :
    ∃ (n : MessageProto) (scope' : String) (path' : List Int), n.Sound ∧
      k = n.toMessage comments file scope' path' := by
  induction m using MessageProto.nestedInduction generalizing scope path with
  | step m ih =>
      rcases nested_iff.1 hk with rfl | ⟨b, hb, hk⟩
      · exact ⟨m, scope, path, h.sound, rfl⟩
      · rw [MessageProto.toMessage_eq] at hb
        obtain ⟨n, hn, -, path', rfl⟩ := mem_toMessages hb
        exact ih n hn (h.nested hn) hk

theorem FileProto.hasMessage_toFile {p : FileProto} (h : p.WellWritten)
    (hnames : p.fullNames.Nodup) {k : Message} (hk : p.toFile.HasMessage k) :
    ∃ (m : MessageProto) (scope : String) (path : List Int), m.Sound ∧
      k = m.toMessage p.comments p.name.display scope path := by
  obtain ⟨top, htop, hk⟩ := hk
  obtain ⟨x, hx, rfl⟩ := List.mem_map.1 htop
  exact MessageProto.within_toMessage x.1 (h.proper hnames (mem_of_mem_indexed hx)) hk

/-! ## Names of types -/

theorem FieldType.name_mem_primitiveNames {type : FieldType} (h : type.isNamed = false) :
    type.name ∈ primitiveNames := by
  cases type
  case group | message | enum => cases h
  all_goals decide

theorem Str.IsAbsolute.scopeFree {s : Str} (h : s.IsAbsolute) : ScopeFree s.display := by
  obtain ⟨rest, hrest⟩ := List.head?_eq_some_iff.1 h.2.1
  exact Or.inr ⟨_, toList_eq_dot_cons_iff.1 hrest⟩

theorem FieldProto.WellWritten.scopeFree {m : MessageProto} {p : FieldProto}
    (h : p.WellWritten m) : ScopeFree p.typeText := by
  rw [FieldProto.typeText]
  split
  · next hnamed => exact (h.absolute hnamed).scopeFree
  · next hscalar =>
      exact Or.inl (FieldType.name_mem_primitiveNames (by simpa using hscalar))

theorem FieldProto.toField_scopeFree {m : MessageProto} {p : FieldProto} (hm : m.Sound)
    (hp : p ∈ m.fields) (fullName description : String) :
    (p.toField m fullName description).ScopeFree := by
  have hwritten := hm.self.fields p hp
  rw [FieldProto.toField]
  constructor
  case plain =>
      dsimp only
      intro hmap
      rw [hmap]
      exact hwritten.scopeFree
  case key =>
      intro k hk
      obtain ⟨e, key, value, -, -, hscalar, rfl⟩ := FieldProto.map?_eq_some hm hk
      dsimp only
      rw [FieldProto.typeText, hscalar]
      exact FieldType.name_mem_primitiveNames hscalar
  case value =>
      intro k hk
      obtain ⟨e, key, value, -, hvalue, -, rfl⟩ := FieldProto.map?_eq_some hm hk
      exact hvalue.scopeFree

theorem FileProto.toFile_scopeFree {p : FileProto} (h : p.WellWritten)
    (hnames : p.fullNames.Nodup) : p.toFile.ScopeFree := by
  constructor
  case fields =>
      intro k hk x hx
      obtain ⟨m, scope, path, hm, rfl⟩ := FileProto.hasMessage_toFile h hnames hk
      rw [MessageProto.toMessage_eq] at hx
      obtain ⟨y, hy, rfl⟩ := List.mem_map.1 hx
      exact FieldProto.toField_scopeFree hm (mem_of_mem_indexed hy) _ _
  case methods =>
      intro s hs x hx
      obtain ⟨y, hy, rfl⟩ := List.mem_map.1 hs
      obtain ⟨z, hz, rfl⟩ := List.mem_map.1 hx
      have hmethod :=
        (h.services y.1 (mem_of_mem_indexed hy)).methods z.1 (mem_of_mem_indexed hz)
      exact ⟨hmethod.input.scopeFree, hmethod.output.scopeFree⟩

/-! ## Slots that are still empty -/

theorem MessageProto.toMapType?_cleared (e : MessageProto) :
    e.toMapType?.map MapType.cleared = e.toMapType? := by
  rw [MessageProto.toMapType?]
  split <;> rfl

theorem FieldProto.toField_cleared (p : FieldProto) (m : MessageProto)
    (fullName description : String) :
    (p.toField m fullName description).cleared = p.toField m fullName description := by
  have hmap : (p.map? m fullName).map MapType.cleared = p.map? m fullName := by
    rw [FieldProto.map?]
    cases m.entryOf? fullName p.typeName with
    | none => rfl
    | some e => exact e.toMapType?_cleared
  rw [Field.cleared, FieldProto.toField]
  dsimp only
  rw [hmap]

theorem clearedMessages_of_forall : ∀ {ms : List Message}, (∀ m ∈ ms, m.cleared = m) →
    clearedMessages ms = ms
  | [], _ => rfl
  | m :: rest, h => by
      rw [List.forall_mem_cons] at h
      rw [clearedMessages, h.1, clearedMessages_of_forall h.2]

theorem MessageProto.toMessage_cleared (comments : Comments) (file : String)
    (m : MessageProto) {scope : String} (path : List Int) :
    (m.toMessage comments file scope path).cleared =
      m.toMessage comments file scope path := by
  induction m using MessageProto.nestedInduction generalizing scope path with
  | step m ih =>
      have hnested : clearedMessages
          (toMessages comments file (qualify scope m.name.display) path 0 m.nested) =
          toMessages comments file (qualify scope m.name.display) path 0 m.nested := by
        refine clearedMessages_of_forall fun k hk => ?_
        obtain ⟨n, hn, -, path', rfl⟩ := mem_toMessages hk
        exact ih n hn path'
      rw [MessageProto.toMessage_eq, Message.cleared, hnested, List.map_map]
      congr 1
      exact List.map_congr_left fun x _ => FieldProto.toField_cleared x.1 m _ _

theorem FileProto.toFile_cleared (p : FileProto) : p.toFile.cleared = p.toFile := by
  have hmessages : clearedMessages p.toFile.messages = p.toFile.messages := by
    refine clearedMessages_of_forall fun k hk => ?_
    obtain ⟨x, -, rfl⟩ := List.mem_map.1 hk
    exact MessageProto.toMessage_cleared _ _ x.1 _
  have hservices : p.toFile.services.map Service.cleared = p.toFile.services := by
    rw [FileProto.toFile, List.map_map]
    refine List.map_congr_left fun x _ => ?_
    simp only [Function.comp_apply, ServiceProto.toService, Service.cleared, List.map_map]
    rfl
  rw [File.cleared, hmessages, hservices]

/-- A descriptor set that is well written becomes resolved files: its records
are loaded as what it says, resolution succeeds and changes nothing but slots,
and every slot of every file is resolved by the name beside it. -/
theorem FileSet.records_resolve {s : FileSet} (h : s.WellWritten) (base : String) :
    ∃ raw r, s.records = .ok raw ∧
      Schema.load raw (.text base) = .ok { files := s.toFiles, routeBase := base } ∧
      resolve s.toFiles = .ok r ∧ r.files.map File.cleared = s.toFiles ∧
      ∀ f ∈ r.files, f.Resolved s.toFiles := by
  obtain ⟨raw, hraw, hload⟩ := FileSet.records_load h base
  have hnames := h.names
  rw [FileSet.fullNames, List.nodup_flatMap] at hnames
  have hfree : ∀ f ∈ s.toFiles, f.ScopeFree := by
    intro f hf
    obtain ⟨p, hp, rfl⟩ := List.mem_map.1 hf
    exact FileProto.toFile_scopeFree (h.files p hp) (hnames.1 p hp)
  have hcleared : s.toFiles.map File.cleared = s.toFiles := by
    rw [FileSet.toFiles, List.map_map]
    exact List.map_congr_left fun p _ => p.toFile_cleared
  obtain ⟨r, hr, hkept, hresolved⟩ :=
    resolve_scopeFree (FileSet.nodup_declaredNames h.names) hfree
  exact ⟨raw, r, hraw, hload, hr, hkept.trans hcleared, hresolved⟩

/-- A file with a map to messages, nested messages with a map of their own, and
a service, which uses a type of a file that is not in the set. -/
def accounts : FileSet where
  files := [{
    name := .text "acme/v1/user.proto"
    package := .text "acme.v1"
    dependencies := [.text "google/protobuf/timestamp.proto"]
    messages := [{
      name := .text "User"
      fields := [
        { name := .text "id", number := 1, type := .sfixed64 },
        { name := .text "labels", number := 2, label := .repeated, type := .message
          typeName := .text ".acme.v1.User.LabelsEntry" },
        { name := .text "role", number := 3, type := .enum
          typeName := .text ".acme.v1.Role", oneofIndex := some 0 },
        { name := .text "joined", number := 4, type := .message
          typeName := .text ".google.protobuf.Timestamp" }]
      oneofs := [.text "kind"]
      nested := [
        { name := .text "LabelsEntry", mapEntry := true
          fields := [
            { name := .text "key", number := 1, type := .string },
            { name := .text "value", number := 2, type := .message
              typeName := .text ".acme.v1.User.Label" }] },
        { name := .text "Label"
          fields := [
            { name := .text "counts", number := 1, label := .repeated, type := .message
              typeName := .text ".acme.v1.User.Label.CountsEntry" }]
          nested := [{
            name := .text "CountsEntry", mapEntry := true
            fields := [
              { name := .text "key", number := 1, type := .uint32 },
              { name := .text "value", number := 2, type := .bool }] }] }] }]
    enums := [{
      name := .text "Role", values := [{ name := .text "NONE", number := 0 }] }]
    services := [{
      name := .text "Users"
      methods := [{
        name := .text "Watch", inputType := .text ".acme.v1.User"
        outputType := .text ".acme.v1.User.Label", serverStreaming := true }] }]
    locations := [{ path := [4, 0], leading := .text " An account.\n" }] }]

theorem records_resolve_accounts :
    accounts.WellWritten ∧ ∃ raw r, accounts.records = .ok raw ∧
      Schema.load raw (.text "docs") =
        .ok { files := accounts.toFiles, routeBase := "docs" } ∧
      resolve accounts.toFiles = .ok r ∧ r.files.map File.cleared = accounts.toFiles ∧
      ∀ f ∈ r.files, f.Resolved accounts.toFiles := by
  have hwritten : accounts.WellWritten := by decide
  exact ⟨hwritten, FileSet.records_resolve hwritten "docs"⟩

end Descriptor

end SchemaDocs
