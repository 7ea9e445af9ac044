import SchemaDocs.Command.Run
import SchemaDocs.Proofs.RecordLoading

/-!
# Descriptors that cannot be turned into records

Octets that are not a descriptor set, or not a description, are reported with
the name of their file. A set that can be read may still point beside what it
holds, in three ways: a map entry has fewer than two fields, a field belongs to
a group that its message does not have, a package is not text. Then the run
breaks off. There is no other way, which is shown level by level: a step gives a
record if and only if what it points to is there.
-/

namespace SchemaDocs

variable {α : Type}

namespace Descriptor

/-! ## What can be turned into records -/

/-- The entry of a map has a key and a value, and a group that is pointed to is
among those of the message, counted from either end. -/
structure FieldProto.Recordable (m : MessageProto) (fullName : String) (f : FieldProto) :
    Prop where
  entry : ∀ e, m.mapEntry? fullName f.typeName = some e → 2 ≤ e.fields.length
  group : ∀ i, f.oneofIndex = some i → f.proto3Optional = false →
    -(m.oneofs.length : Int) ≤ i ∧ i < m.oneofs.length

inductive MessageProto.Recordable : String → MessageProto → Prop
  | intro {fullName : String} {m : MessageProto}
      (fields : ∀ f ∈ m.fields, f.Recordable m fullName)
      (nested : ∀ n ∈ m.nested, n.mapEntry = false →
        Recordable (fullName ++ "." ++ n.name.display) n) :
      Recordable fullName m

/-- A package is text, or there is none. -/
structure FileProto.Recordable (f : FileProto) : Prop where
  package : f.package.IsText ∨ f.package.isEmpty
  messages : ∀ m ∈ f.messages, ∀ scope, f.scope = .ok scope →
    m.Recordable (scope ++ "." ++ m.name.display)

def FileSet.Recordable (s : FileSet) : Prop := ∀ f ∈ s.files, f.Recordable

/-! ## Fields -/

theorem exists_orOutOfRange_iff {x : Option α} :
    (∃ a, orOutOfRange x = .ok a) ↔ x.isSome := by
  cases x <;> simp [orOutOfRange]

theorem isSome_atIndex?_iff {items : List α} {i : Int} :
    (atIndex? items i).isSome ↔ -(items.length : Int) ≤ i ∧ i < items.length := by
  rw [atIndex?]
  split
  · next hneg =>
    split
    · next hle =>
      rw [isSome_getElem?]
      omega
    · next hle =>
      simp only [Option.isSome_none, Bool.false_eq_true, false_iff]
      omega
  · next hneg =>
    rw [isSome_getElem?]
    omega

/-- The part of a record that says the type. -/
def FieldProto.typeEntries (m : MessageProto) (fullName : String) (description : Value)
    (f : FieldProto) : Except RecordError (List (String × Value)) :=
  let described : List (String × Value) :=
    [("label", .text f.label.name), ("description", description)]
  match m.mapEntry? fullName f.typeName with
  | none => .ok (("type", f.typeValue) :: described)
  | some entry => do
    let key ← orOutOfRange entry.fields[0]?
    let value ← orOutOfRange entry.fields[1]?
    return ("type", .text "map") :: described ++
      [("key_type", key.typeValue), ("value_type", value.typeValue)]

/-- The part of a record that says the group. -/
def FieldProto.groupEntries (m : MessageProto) (f : FieldProto) :
    Except RecordError (List (String × Value)) :=
  match f.oneofIndex with
  | some i =>
    if f.proto3Optional then .ok []
    else (orOutOfRange (atIndex? m.oneofs i)).map fun name => [("oneof", name.toValue)]
  | none => .ok []

theorem FieldProto.record_eq_entries (m : MessageProto) (fullName : String)
    (description : Value)
    (f : FieldProto) : f.record m fullName description = (do
      let typed ← f.typeEntries m fullName description
      let group ← f.groupEntries m
      return .object
        ([("name", f.name.toValue), ("number", .int f.number)] ++ typed ++ group ++
        match f.defaultValue with
        | some s => [("default_value", s.toValue)]
        | none => [])) := by
  have hgroup : ∀ next : List (String × Value) → Except RecordError Value,
      f.groupEntries m >>= next =
        match f.oneofIndex with
        | some i =>
          if f.proto3Optional then next []
          else orOutOfRange (atIndex? m.oneofs i) >>= fun name =>
            next [("oneof", name.toValue)]
        | none => next [] := by
    intro next
    rw [FieldProto.groupEntries]
    split
    · next i _ =>
      split
      · rfl
      · cases orOutOfRange (atIndex? m.oneofs i) <;> rfl
    · rfl
  simp only [hgroup]
  rw [FieldProto.record, FieldProto.typeEntries]
  cases m.mapEntry? fullName f.typeName with
  | none => rfl
  | some entry =>
      dsimp only
      cases orOutOfRange entry.fields[0]? with
      | error e => rfl
      | ok key => cases orOutOfRange entry.fields[1]? <;> rfl

theorem FieldProto.exists_typeEntries_iff {m : MessageProto}
    {fullName : String} {f : FieldProto}
    {description : Value} :
    (∃ typed, f.typeEntries m fullName description = .ok typed) ↔
      ∀ e, m.mapEntry? fullName f.typeName = some e → 2 ≤ e.fields.length := by
  rw [FieldProto.typeEntries]
  cases m.mapEntry? fullName f.typeName with
  | none => simp
  | some e =>
      simp only [exists_bind_eq_ok_iff, exists_pure_eq_ok, and_true, exists_and_right,
        exists_orOutOfRange_iff, isSome_getElem?, Option.some.injEq, forall_eq']
      omega

theorem FieldProto.exists_groupEntries_iff {m : MessageProto} {f : FieldProto} :
    (∃ group, f.groupEntries m = .ok group) ↔
      ∀ i, f.oneofIndex = some i → f.proto3Optional = false →
        -(m.oneofs.length : Int) ≤ i ∧ i < m.oneofs.length := by
  rw [FieldProto.groupEntries]
  cases f.oneofIndex with
  | none => simp
  | some i =>
      simp only [Option.some.injEq, forall_eq', ← isSome_atIndex?_iff]
      cases f.proto3Optional with
      | true => simp
      | false => cases atIndex? m.oneofs i <;> simp [orOutOfRange, Except.map]

theorem FieldProto.exists_record_iff {m : MessageProto} {fullName : String}
    {f : FieldProto}
    {description : Value} :
    (∃ v, f.record m fullName description = .ok v) ↔ f.Recordable m fullName := by
  rw [FieldProto.record_eq_entries, exists_bind_eq_ok_iff]
  simp only [exists_bind_eq_ok_iff_of_total fun _ => exists_pure_eq_ok _,
    exists_and_right, exists_typeEntries_iff, exists_groupEntries_iff]
  exact ⟨fun ⟨hentry, hgroup⟩ => ⟨hentry, hgroup⟩,
    fun ⟨hentry, hgroup⟩ => ⟨hentry, hgroup⟩⟩

/-! ## Messages, files and sets -/

/-- Nothing but its place goes into the record of a message from the path. -/
theorem exists_nestedRecords_iff (comments : Comments) {fullName : String}
    (path : List Int)
    (index : Int) {ms : List MessageProto} {fine : MessageProto → Prop}
    (h : ∀ m ∈ ms, m.mapEntry = false → ∀ path,
      (∃ v, m.record comments (fullName ++ "." ++ m.name.display) path = .ok v) ↔
      fine m) :
    (∃ vs, nestedRecords comments fullName path index ms = .ok vs) ↔
      ∀ m ∈ ms, m.mapEntry = false → fine m := by
  induction ms generalizing index with
  | nil => simp [nestedRecords]
  | cons m rest ih =>
      rw [List.forall_mem_cons] at h
      rw [nestedRecords, List.forall_mem_cons]
      cases hentry : m.mapEntry with
      | true =>
          simp only [↓reduceIte, Bool.true_eq_false, false_imp_iff, true_and]
          exact ih (index + 1) h.2
      | false =>
          simp only [Bool.false_eq_true, ↓reduceIte, exists_bind_eq_ok_iff,
            exists_pure_eq_ok, and_true, exists_and_right, ih (index + 1) h.2, h.1 hentry,
            true_imp_iff]

theorem forall_mem_indexed {items : List α} {p : α → Prop} :
    (∀ x ∈ indexed items, p x.1) ↔ ∀ a ∈ items, p a := by
  rw [← List.forall_mem_map (f := Prod.fst) (P := p), map_fst_indexed]

theorem MessageProto.recordable_iff {m : MessageProto} {fullName : String} :
    m.Recordable fullName ↔ (∀ f ∈ m.fields, f.Recordable m fullName) ∧
      ∀ n ∈ m.nested, n.mapEntry = false →
      n.Recordable (fullName ++ "." ++ n.name.display) :=
  ⟨fun ⟨hfields, hnested⟩ => ⟨hfields, hnested⟩,
    fun ⟨hfields, hnested⟩ => ⟨hfields, hnested⟩⟩

theorem MessageProto.exists_record_iff {comments : Comments} {m : MessageProto}
    {fullName : String} {path : List Int} :
    (∃ v, m.record comments fullName path = .ok v) ↔ m.Recordable fullName := by
  induction m using MessageProto.nestedInduction generalizing fullName path with
  | step m ih =>
      have hnested := exists_nestedRecords_iff comments path 0
        fun n hn _ path => @ih n hn (fullName ++ "." ++ n.name.display) path
      rw [MessageProto.record_eq, exists_bind_eq_ok_iff, MessageProto.recordable_iff]
      simp only [exists_bind_eq_ok_iff_of_total fun _ => exists_pure_eq_ok _,
        exists_and_right, exists_mapM_eq_ok_iff, hnested, FieldProto.exists_record_iff]
      exact and_congr_left'
        (forall_mem_indexed (p := fun f : FieldProto => f.Recordable m fullName))

theorem FileProto.exists_scope_iff {f : FileProto} :
    (∃ scope, f.scope = .ok scope) ↔ f.package.IsText ∨ f.package.isEmpty := by
  rw [FileProto.scope]
  cases f.package with
  | text s =>
      simp only [Str.IsText, Str.display, true_or, iff_true]
      split
      · exact ⟨_, rfl⟩
      · exact ⟨_, rfl⟩
  | octets bytes => cases (Str.octets bytes).isEmpty <;> simp [Str.IsText]

theorem FileProto.exists_record_iff {f : FileProto} :
    (∃ v, f.record = .ok v) ↔ f.Recordable := by
  rw [FileProto.record, exists_bind_eq_ok_iff]
  simp only [exists_bind_eq_ok_iff_of_total fun _ => exists_pure_eq_ok _,
    exists_mapM_eq_ok_iff, MessageProto.exists_record_iff]
  constructor
  · rintro ⟨scope, hscope, hmessages⟩
    refine ⟨FileProto.exists_scope_iff.1 ⟨scope, hscope⟩, fun m hm scope' hscope' => ?_⟩
    cases hscope.symm.trans hscope'
    exact forall_mem_indexed (p := fun m => m.Recordable (scope ++ "." ++ m.name.display))
      |>.1 hmessages m hm
  · rintro ⟨hpackage, hmessages⟩
    obtain ⟨scope, hscope⟩ := FileProto.exists_scope_iff.2 hpackage
    exact ⟨scope, hscope, forall_mem_indexed
      (p := fun m => m.Recordable (scope ++ "." ++ m.name.display))
      |>.2 fun m hm => hmessages m hm scope hscope⟩

theorem FileSet.exists_records_iff {s : FileSet} :
    (∃ v, s.records = .ok v) ↔ s.Recordable := by
  rw [FileSet.records, exists_bind_eq_ok_iff_of_total fun _ => exists_pure_eq_ok _,
    exists_mapM_eq_ok_iff]
  simp only [FileProto.exists_record_iff]
  rfl

end Descriptor

namespace Command

/-! ## Reading a file of descriptors -/

/-- Descriptors were read, or they were refused with the path of their file. -/
def Reported (path : String) (x : Except ReadFault Value) : Prop :=
  (∃ raw, x = .ok raw) ∨
    ∃ opening ∈ [": not a valid JSON descriptor set: ",
      ": not a valid FileDescriptorSet: "],
      ∃ reason, x = .error (.refused (path ++ opening ++ reason))

theorem readJson_reported (path : String) (octets : List UInt8) :
    Reported path (readJson path octets) := by
  rw [readJson]
  dsimp only
  split
  · next fault _ => exact .inr ⟨_, List.mem_cons_self, fault.message, rfl⟩
  · next document _ =>
    cases Json.parse document with
    | ok raw => exact .inl ⟨raw, rfl⟩
    | error reason => exact .inr ⟨_, List.mem_cons_self, reason, rfl⟩

theorem readBinary_reported_iff {path : String} {octets : List UInt8} :
    Reported path (readBinary path octets) ↔
      ∀ s, Descriptor.FileSet.decode octets = .ok s → s.Recordable := by
  rw [readBinary]
  split
  · next fault hdecode =>
    simp only [hdecode, reduceCtorEq, false_imp_iff, implies_true, iff_true]
    exact .inr ⟨_, List.mem_cons_of_mem _ List.mem_cons_self, fault.message, rfl⟩
  · next s hdecode =>
    simp only [hdecode, Except.ok.injEq, forall_eq',
      ← Descriptor.FileSet.exists_records_iff]
    cases s.records with
    | ok raw => simp [Reported, Except.mapError]
    | error e => simp [Reported, Except.mapError]

/-- A file of descriptors is read or refused by its name, unless it holds a
descriptor set that points to what is not there. -/
theorem readDescriptors_reported_iff (path : String) (octets : List UInt8) :
    Reported path (readDescriptors path octets) ↔
      Text.endsWith ".json" path ∨
        ∀ s, Descriptor.FileSet.decode octets = .ok s → s.Recordable := by
  rw [readDescriptors]
  split
  · next hjson => exact iff_of_true (readJson_reported path octets) (.inl hjson)
  · next hjson => rw [readBinary_reported_iff, or_iff_right hjson]

/-- A message `M` in `a.proto`, with a field of the type of an entry that has no
fields. -/
def emptyEntry : List UInt8 := [
  10, 45, 10, 7, 97, 46, 112, 114, 111, 116, 111, 18, 1, 112,
  34, 31, 10, 1, 77, 18, 17, 10, 1,
  97, 24, 1, 32, 3, 40, 11, 50, 6, 46, 112, 46, 77, 46, 69, 26,
  7, 10, 1, 69, 58, 2, 56, 1]

/-- What a reading broke off with, if it did over its records. -/
def recordFault? : Except ReadFault Value → Option Descriptor.RecordError
  | .error (.broken (.records e)) => some e
  | _ => none

theorem recordFault?_eq_some {x : Except ReadFault Value} {e : Descriptor.RecordError}
    (h : recordFault? x = some e) : x = .error (.broken (.records e)) := by
  rw [recordFault?.eq_def] at h
  split at h
  · cases h
    rfl
  · cases h

theorem readDescriptors_emptyEntry :
    readDescriptors "d.bin" emptyEntry = .error (.broken (.records .indexOutOfRange)) ∧
      ¬ Reported "d.bin" (readDescriptors "d.bin" emptyEntry) := by
  have hbroken := recordFault?_eq_some (by decide +kernel :
    recordFault? (readDescriptors "d.bin" emptyEntry) = some .indexOutOfRange)
  rw [hbroken]
  simp [Reported]

end Command

end SchemaDocs
