import SchemaDocs.Proofs.DirectReading
import SchemaDocs.Proofs.Keys
import SchemaDocs.Proofs.Loading
import SchemaDocs.Proofs.Parts

/-!
# Records carry what descriptors say

Between descriptors and files stand records. They are made without a look at
what the loader accepts, and loaded without a look at what they were made from,
and both put full names together on their own: one with a dot in front, to find
the entries of maps, the other without. For descriptors that are well written
the two agree, no check fails, and what is loaded is what the descriptors say.

The proof follows the descriptors. For each kind there is the record that it
gets and what this record is loaded as. Messages are the only kind that nests,
so they have an induction, which carries that the messages inside are well
written and that no full name is used twice.
-/

namespace SchemaDocs

namespace Descriptor

/-! ## Strings of descriptors -/

theorem Str.IsText.toValue {s : Str} (h : s.IsText) : s.toValue = .text s.display := by
  rw [h]
  rfl

theorem Str.IsAbsolute.plainType {s : Str} (h : s.IsAbsolute) :
    Load.PlainType s.display := by
  obtain ⟨-, hdot, hblank⟩ := h
  obtain ⟨rest, hrest⟩ := List.head?_eq_some_iff.1 hdot
  constructor
  case nonempty =>
      intro hempty
      rw [hempty] at hrest
      cases hrest
  case trimmed => exact (Text.Trimmed.of_noBlank hblank).trim_eq
  case noNotation =>
      rw [MapNotation.parse?, hrest]
      rfl
  case notMap =>
      intro hmap
      rw [hmap] at hrest
      cases hrest

theorem FieldType.plainType {type : FieldType} (h : type.isNamed = false) :
    Load.PlainType type.name := by
  cases type
  case group | message | enum => cases h
  all_goals exact ⟨by decide, by decide, by decide, by decide⟩

theorem FieldProto.WellWritten.plainType {m : MessageProto} {p : FieldProto}
    (h : p.WellWritten m) : Load.PlainType p.typeText := by
  rw [FieldProto.typeText]
  split
  · next hnamed => exact (h.absolute hnamed).plainType
  · next hscalar => exact FieldType.plainType (Bool.eq_false_iff.2 hscalar)

theorem FieldProto.WellWritten.typeValue {m : MessageProto} {p : FieldProto}
    (h : p.WellWritten m) : p.typeValue = .text p.typeText := by
  rw [FieldProto.typeValue, FieldProto.typeText, h.text.toValue]
  split <;> rfl

theorem FieldLabel.text_toLabel (l : FieldLabel) : l.toLabel.text = l.name := by
  cases l <;> rfl

/-! ## Comments -/

theorem Str.IsText.trim {s : Str} (h : s.IsText) : s.trim.IsText := by
  rw [h]
  rfl

theorem FileProto.WellWritten.describe {p : FileProto} (h : p.WellWritten)
    (path : List Int) :
    p.comments.describe path = .text (p.comments.say path) := by
  have htext : ∀ c ∈ p.comments, c.2.IsText := by
    intro c hc
    rw [FileProto.comments, List.mem_filterMap] at hc
    obtain ⟨l, hl, hc⟩ := hc
    obtain ⟨text, htext, rfl⟩ := Option.map_eq_some_iff.1 hc
    rw [Location.comment?] at htext
    split at htext
    · cases htext
      exact (h.comments l hl).1.trim
    · split at htext
      · cases htext
        exact (h.comments l hl).2.trim
      · cases htext
  rw [Comments.say, Comments.describe]
  split
  · next hlast =>
      rw [(htext _ (List.mem_of_mem_filter (List.mem_of_getLast? hlast))).toValue]
      rfl
  · rfl

/-! ## Map entries -/

theorem absolute_qualify {scope : String} (h : scope ≠ "") (name : String) :
    "." ++ scope ++ "." ++ name = "." ++ qualify scope name := by
  rw [qualify_of_ne h, String.append_assoc, String.append_assoc, String.append_assoc]

/-- The absolute names under which entries are looked up are those that follow
from the scopes of loading. -/
theorem MessageProto.mapEntry?_eq {m : MessageProto} {fullName : String} {typeName : Str}
    (hfull : fullName ≠ "") (htext : typeName.IsText)
    (hnd : (m.nested.map (·.name.display)).Nodup) :
    m.mapEntry? ("." ++ fullName) typeName = m.entryOf? fullName typeName := by
  obtain ⟨text, rfl⟩ : ∃ text, typeName = .text text := ⟨_, htext⟩
  rw [MessageProto.mapEntry?, MessageProto.entryOf?, Str.display]
  simp only [absolute_qualify hfull]
  refine getLast?_filter_eq_find? hnd fun a b ha hb => ?_
  rw [Bool.and_eq_true, beq_iff_eq] at ha hb
  have hqualified := ha.2.trans hb.2.symm
  rw [qualify_of_ne hfull, qualify_of_ne hfull] at hqualified
  simpa using hqualified

/-! ## Fields -/

theorem atIndex?_of_nonneg {α : Type} (items : List α) {i : Int} (h : 0 ≤ i) :
    atIndex? items i = items[i.toNat]? := by
  rw [atIndex?, if_neg (by omega)]

theorem MessageProto.IsEntry.fields {e : MessageProto} (h : e.IsEntry) :
    ∃ key value rest, e.fields = key :: value :: rest ∧ key.type.isNamed = false := by
  obtain ⟨hlength, hkey⟩ := h
  match hfields : e.fields with
  | [] => simp [hfields] at hlength
  | [_] => simp [hfields] at hlength
  | key :: value :: rest => exact ⟨key, value, rest, rfl, hkey key (by rw [hfields]; rfl)⟩

/-- A message and what is directly inside it, as they are written. -/
structure MessageProto.Sound (m : MessageProto) : Prop where
  self : m.WellWritten
  nested : ∀ n ∈ m.nested, n.WellWritten
  names : (m.nested.map (·.name.display)).Nodup

/-- The types of a map, which are plain, are those of two fields of an entry. -/
theorem MessageProto.Sound.entry {m e : MessageProto} (h : m.Sound) {fullName : String}
    {typeName : Str} (he : m.entryOf? fullName typeName = some e) :
    ∃ key value rest, e.fields = key :: value :: rest ∧ key.type.isNamed = false ∧
      key.WellWritten e ∧ value.WellWritten e := by
  have hmem := List.mem_of_find?_eq_some he
  have hfound := List.find?_some he
  rw [Bool.and_eq_true] at hfound
  obtain ⟨key, value, rest, hfields, hscalar⟩ := (h.self.entries e hmem hfound.1).fields
  have hwritten := (h.nested e hmem).fields
  rw [hfields] at hwritten
  exact ⟨key, value, rest, hfields, hscalar, hwritten key (by simp),
    hwritten value (by simp)⟩

/-- The attributes that say the type of a field. -/
def FieldProto.typing (p : FieldProto) (description : Value) :
    Option MapType → List (String × Value)
  | none => [
    ("type", .text p.typeText), ("label", .text p.label.name),
    ("description", description)]
  | some k => [
    ("type", .text "map"), ("label", .text p.label.name), ("description", description),
    ("key_type", .text k.keyType), ("value_type", .text k.valueType)]

/-- The attributes of a field's record. -/
def FieldProto.attributes (p : FieldProto) (m : MessageProto) (fullName : String)
    (description : Value) : List (String × Value) :=
  [("name", .text p.name.display), ("number", .int p.number)] ++
    p.typing description (p.map? m fullName) ++
    (p.group? m).toList.map (fun s => ("oneof", s.toValue)) ++
    p.defaultValue.toList.map (fun s => ("default_value", s.toValue))

section

variable {m : MessageProto} {p : FieldProto} {fullName : String} {description : Value}

/-- A well-written field is in a group that is there, or in none. -/
theorem FieldProto.WellWritten.group_cases (h : p.WellWritten m) :
    (p.group? m = none ∧ (p.oneofIndex = none ∨ p.proto3Optional = true)) ∨
      ∃ i s, p.group? m = some s ∧ p.oneofIndex = some i ∧ p.proto3Optional = false ∧
        atIndex? m.oneofs i = some s := by
  rw [FieldProto.group?]
  cases hopt : p.proto3Optional with
  | true => exact Or.inl ⟨rfl, Or.inr rfl⟩
  | false =>
      cases hi : p.oneofIndex with
      | none => exact Or.inl ⟨rfl, Or.inl rfl⟩
      | some i =>
          obtain ⟨hnonneg, hlt⟩ := h.group i (by rw [hi]; rfl)
          have hrange : i.toNat < m.oneofs.length := by omega
          have hget := List.getElem?_eq_getElem hrange
          refine Or.inr ⟨i, m.oneofs[i.toNat], ?_, rfl, rfl, ?_⟩
          · rw [if_neg Bool.false_ne_true, Option.bind_some, hget]
          · rw [atIndex?_of_nonneg _ hnonneg, hget]

/-- What a record goes on with when the type has been said: the group, if there
is one, and the default. -/
theorem FieldProto.WellWritten.record_rest (h : p.WellWritten m)
    (said : List (String × Value)) :
    (do
      let group : List (String × Value) ← match p.oneofIndex with
        | some i =>
          if p.proto3Optional then pure []
          else do
            let name ← orOutOfRange (atIndex? m.oneofs i)
            pure [("oneof", name.toValue)]
        | none => pure []
      let preset : List (String × Value) := match p.defaultValue with
        | some s => [("default_value", s.toValue)]
        | none => []
      return .object (said ++ group ++ preset) : Except RecordError Value) =
    .ok (.object (said ++ (p.group? m).toList.map (fun s => ("oneof", s.toValue)) ++
      p.defaultValue.toList.map (fun s => ("default_value", s.toValue)))) := by
  rcases h.group_cases with ⟨hgroup, hi | hopt⟩ | ⟨i, s, hgroup, hi, hopt, hindex⟩
  · simp only [hi, hgroup]
    cases p.defaultValue <;> rfl
  · simp only [hopt, hgroup]
    cases p.oneofIndex <;> cases p.defaultValue <;> rfl
  · simp only [hi, hopt, hindex, hgroup]
    cases p.defaultValue <;> rfl

theorem FieldProto.record_eq (hm : m.Sound) (hp : p ∈ m.fields) (hfull : fullName ≠ "") :
    p.record m ("." ++ fullName) description =
      .ok (.object (p.attributes m fullName description)) := by
  have h := hm.self.fields p hp
  rw [FieldProto.record, MessageProto.mapEntry?_eq hfull h.text hm.names,
    FieldProto.attributes, FieldProto.map?]
  cases hentry : m.entryOf? fullName p.typeName with
  | none =>
      simp only [h.name.1.toValue, h.typeValue]
      exact h.record_rest _
  | some e =>
      obtain ⟨key, value, rest, hfields, -, hkey, hvalue⟩ := hm.entry hentry
      have hmap : e.toMapType? =
          some { keyType := key.typeText, valueType := value.typeText } := by
        rw [MessageProto.toMapType?, hfields]
      have hfirst : orOutOfRange e.fields[0]? = .ok key := by rw [hfields]; rfl
      have hsecond : orOutOfRange e.fields[1]? = .ok value := by rw [hfields]; rfl
      simp only [h.name.1.toValue, Option.bind_some, hmap, hfirst,
        hsecond, bind, Except.bind, hkey.typeValue, hvalue.typeValue]
      exact h.record_rest _

end

section

variable {m : MessageProto} {p : FieldProto} {fullName : String}

/-- A map that a field stands for has plain types, a scalar for its keys, and
no slots filled. -/
theorem FieldProto.map?_eq_some (hm : m.Sound) {k : MapType}
    (hk : p.map? m fullName = some k) :
    ∃ (e : MessageProto) (key value : FieldProto),
      key.WellWritten e ∧ value.WellWritten e ∧
      key.type.isNamed = false ∧
      k = { keyType := key.typeText, valueType := value.typeText } := by
  obtain ⟨e, he, hk⟩ := Option.bind_eq_some_iff.1 hk
  obtain ⟨key, value, rest, hfields, hscalar, hkey, hvalue⟩ := hm.entry he
  rw [MessageProto.toMapType?, hfields] at hk
  cases hk
  exact ⟨e, key, value, hkey, hvalue, hscalar, rfl⟩

theorem FieldProto.group?_isName (hm : m.WellWritten) {s : Str}
    (h : p.group? m = some s) :
    s.IsName := by
  rw [FieldProto.group?] at h
  split at h
  · cases h
  · obtain ⟨i, -, hi⟩ := Option.bind_eq_some_iff.1 h
    exact hm.groups s (List.mem_of_getElem? hi)

theorem FieldProto.oneof_attributes (hm : m.WellWritten) (description : Value) :
    Load.oneof (p.attributes m fullName description) = (p.group? m).map Str.toValue := by
  rw [FieldProto.attributes]
  cases hgroup : p.group? m with
  | none => cases p.map? m fullName <;> cases p.defaultValue <;> rfl
  | some s =>
      obtain ⟨htext, hne⟩ := FieldProto.group?_isName hm hgroup
      have hloaded :
          (if (Value.text s.display).isFalsy then none else some (.text s.display)) =
            some (Value.text s.display) := by
        rw [Value.isFalsy, if_neg (by simpa using hne)]
      rw [Option.map_some, htext.toValue, ← hloaded]
      cases p.map? m fullName <;>
        simp only [Option.toList_some, List.map_cons, htext.toValue] <;> rfl

theorem FieldProto.defaultValue_attributes (h : p.WellWritten m) (description : Value) :
    Load.defaultValue (p.attributes m fullName description) = p.preset? := by
  rw [FieldProto.attributes, FieldProto.preset?]
  cases hpreset : p.defaultValue with
  | none => cases p.map? m fullName <;> cases p.group? m <;> rfl
  | some s =>
      have htext : s.toValue = .text s.display :=
        (h.preset s (by rw [hpreset]; rfl)).toValue
      have hloaded : (if s.display = "" then none else some s.display) =
          (some s.display).filter (· != "") := by
        rw [Option.filter]
        by_cases hs : s.display = "" <;> simp [hs]
      rw [Option.map_some, ← hloaded]
      simp only [Option.toList_some, List.map_cons, htext]
      cases p.map? m fullName <;> cases p.group? m <;> rfl

theorem FieldProto.load_eq (hm : m.Sound) (hp : p ∈ m.fields) (description : String)
    (place : Place) :
    Load.field place (.object (p.attributes m fullName (.text description))) =
      .ok (p.toField m fullName description) := by
  have h := hm.self.fields p hp
  have hlabel : p.label.toLabel.text = p.label.name := FieldLabel.text_toLabel p.label
  rw [FieldProto.toField, ← FieldProto.oneof_attributes hm.self,
    ← FieldProto.defaultValue_attributes h]
  rw [FieldProto.attributes]
  cases hmap : p.map? m fullName with
  | none =>
      exact Load.field_eq_ok rfl h.name.2 rfl h.plainType.nonempty h.plainType.trimmed
        (by rw [hlabel]; rfl) (fun _ => Load.mapType_of_plain h.plainType) rfl rfl
  | some k =>
      obtain ⟨e, key, value, hkey, hvalue, -, rfl⟩ := FieldProto.map?_eq_some hm hmap
      have hmapType (place : Place) :
          Load.mapType place (p.attributes m fullName (.text description)) "map" =
            .ok (some { keyType := key.typeText, valueType := value.typeText }) := by
        rw [FieldProto.attributes, hmap]
        exact Load.mapType_map rfl rfl hkey.plainType hvalue.plainType
      rw [FieldProto.attributes, hmap] at hmapType
      rw [Option.isSome_some, if_pos rfl]
      exact Load.field_eq_ok rfl h.name.2 rfl (by decide) (by decide)
        (hlabel ▸ rfl) hmapType rfl rfl

end

/-! ## Enums and services -/

/-- Comments that are text. -/
def Comments.Plain (comments : Comments) : Prop :=
  ∀ path, comments.describe path = .text (comments.say path)

theorem map_fst_indexed {α : Type} (items : List α) :
    (indexed items).map Prod.fst = items := by
  rw [indexed, List.map_map]
  exact List.zipIdx_map_fst 0 items

theorem indexed_map {α β : Type} (g : α → β) (items : List α) :
    indexed (items.map g) = (indexed items).map fun x => (g x.1, x.2) := by
  rw [indexed, List.zipIdx_map, List.map_map, indexed, List.map_map]
  rfl

theorem mem_of_mem_indexed {α : Type} {items : List α} {x : α × Int}
    (h : x ∈ indexed items) : x.1 ∈ items := by
  obtain ⟨y, hmem, rfl⟩ := List.mem_map.1 h
  exact List.fst_mem_of_mem_zipIdx hmem

section

variable {comments : Comments} (hcomments : comments.Plain) (file scope : String)
  (path : List Int)

include hcomments

theorem EnumProto.load_eq {e : EnumProto} (h : e.WellWritten) :
    Load.enumDef file scope (e.record comments path) =
      .ok (e.toEnum comments file scope path) := by
  rw [EnumProto.record, EnumProto.toEnum, h.name.1.toValue, hcomments]
  refine Load.enumDef_eq_ok rfl h.name.2 rfl (fun place => ?_) rfl
  rw [List.mapM_map]
  refine mapM_eq_map fun x hx => ?_
  have hname := h.values x.1 (mem_of_mem_indexed hx)
  simp only [Function.comp_apply, hname.1.toValue, hcomments _]
  exact Load.enumValue_eq_ok rfl hname.2 rfl rfl

theorem ServiceProto.load_eq {s : ServiceProto} (h : s.WellWritten) :
    Load.service file scope (s.record comments path) =
      .ok (s.toService comments file scope path) := by
  rw [ServiceProto.record, ServiceProto.toService, h.name.1.toValue, hcomments]
  refine Load.service_eq_ok rfl h.name.2 rfl (fun place => ?_) rfl
  rw [List.mapM_map]
  refine mapM_eq_map fun x hx => ?_
  have hmethod := h.methods x.1 (mem_of_mem_indexed hx)
  simp only [Function.comp_apply, hmethod.name.1.toValue, hmethod.input.1.toValue,
    hmethod.output.1.toValue, hcomments _]
  exact Load.method_eq_ok rfl hmethod.name.2 rfl rfl rfl rfl rfl hmethod.input.plainType
    hmethod.output.plainType

end

/-! ## Messages -/

/-- A record that a message is loaded from, with whatever fuel covers it. -/
def LoadsAs (file scope : String) (v : Value) (m : Message) : Prop :=
  ∀ fuel, v.depth ≤ fuel → Load.message fuel file scope v = .ok m

theorem LoadsAs.mapM {file scope : String} {vs : List Value}
    {ms : List Message} {fuel : Nat}
    (h : List.Forall₂ (LoadsAs file scope) vs ms) (hfuel : Value.depthItems vs ≤ fuel) :
    vs.mapM (Load.message fuel file scope) = .ok ms := by
  rw [mapM_eq_ok_iff]
  induction h with
  | nil => exact .nil
  | cons hv _ ih =>
      rw [Value.depthItems] at hfuel
      exact .cons (hv fuel (by omega)) (ih (by omega))

/-- What holds of a message as soon as it holds of all messages nested in it
holds of every message. -/
@[elab_as_elim]
theorem MessageProto.nestedInduction {P : MessageProto → Prop}
    (step : ∀ m : MessageProto, (∀ n ∈ m.nested, P n) → P m) (m : MessageProto) :
    P m := by
  match m with
  | ⟨name, fields, nested, enums, oneofs, mapEntry⟩ =>
      refine step _ fun n hn => ?_
      exact MessageProto.nestedInduction step n
termination_by sizeOf m
decreasing_by
  have := List.sizeOf_lt_of_mem hn
  simp only [MessageProto.mk.sizeOf_spec] at this ⊢
  omega

theorem preorderProtos_eq_flatMap (ms : List MessageProto) :
    preorderProtos ms = ms.flatMap MessageProto.preorder := by
  induction ms with
  | nil => rfl
  | cons m rest ih => rw [preorderProtos, List.flatMap_cons, ih]

theorem MessageProto.preorder_eq (m : MessageProto) :
    m.preorder = m :: m.nested.flatMap MessageProto.preorder := by
  cases m
  rw [MessageProto.preorder, preorderProtos_eq_flatMap]

theorem fullNamesOf_eq_flatMap (scope : String) (ms : List MessageProto) :
    fullNamesOf scope ms = ms.flatMap (MessageProto.fullNames scope) := by
  induction ms with
  | nil => rfl
  | cons m rest ih => rw [fullNamesOf, List.flatMap_cons, ih]

theorem MessageProto.fullNames_eq (scope : String) (m : MessageProto) :
    m.fullNames scope = qualify scope m.name.display ::
      m.enums.map (qualify (qualify scope m.name.display) ·.name.display) ++
        m.nested.flatMap (MessageProto.fullNames (qualify scope m.name.display)) := by
  cases m
  rw [MessageProto.fullNames, fullNamesOf_eq_flatMap]

theorem sublist_fullNames (scope : String) (ms : List MessageProto) :
    (ms.map fun m => qualify scope m.name.display).Sublist
      (ms.flatMap (MessageProto.fullNames scope)) := by
  induction ms with
  | nil => exact .refl _
  | cons m rest ih =>
      rw [List.map_cons, List.flatMap_cons, MessageProto.fullNames_eq, List.cons_append,
        List.cons_append]
      exact (ih.trans (List.sublist_append_right _ _)).cons_cons _

/-- A message that is well written at every depth, in which no full name is used
twice. On the way into nested messages this is what is kept. -/
structure MessageProto.Proper (scope : String) (m : MessageProto) : Prop where
  written : ∀ k ∈ m.preorder, k.WellWritten
  names : (m.fullNames scope).Nodup

section

variable {m : MessageProto} {scope : String}

theorem MessageProto.Proper.nested (h : m.Proper scope) {n : MessageProto}
    (hn : n ∈ m.nested) : n.Proper (qualify scope m.name.display) := by
  obtain ⟨hwritten, hnames⟩ := h
  rw [MessageProto.preorder_eq, List.forall_mem_cons] at hwritten
  rw [MessageProto.fullNames_eq, List.nodup_append, List.nodup_flatMap] at hnames
  exact ⟨fun k hk => hwritten.2 k (List.mem_flatMap.2 ⟨n, hn, hk⟩), hnames.2.1.1 n hn⟩

theorem MessageProto.Proper.self (h : m.Proper scope) : m.WellWritten := by
  refine h.written m ?_
  rw [MessageProto.preorder_eq]
  exact List.mem_cons_self

theorem MessageProto.Proper.sound (h : m.Proper scope) : m.Sound := by
  refine ⟨h.self, fun n hn => (h.nested hn).self, ?_⟩
  have hnames := h.names
  rw [MessageProto.fullNames_eq, List.nodup_append] at hnames
  have hqualified := (sublist_fullNames _ m.nested).nodup hnames.2.1
  rw [show (fun n : MessageProto =>
    qualify (qualify scope m.name.display) n.name.display) =
    qualify (qualify scope m.name.display) ∘ fun n => n.name.display from rfl,
    ← List.map_map] at hqualified
  exact List.Nodup.of_map _ hqualified

end

theorem FileProto.WellWritten.proper {p : FileProto} (h : p.WellWritten)
    (hnames : p.fullNames.Nodup) {m : MessageProto} (hm : m ∈ p.messages) :
    m.Proper p.package.display := by
  have hwritten := h.messages
  rw [preorderProtos_eq_flatMap] at hwritten
  rw [FileProto.fullNames, fullNamesOf_eq_flatMap, List.append_assoc, List.nodup_append,
    List.nodup_flatMap] at hnames
  exact ⟨fun k hk => hwritten k (List.mem_flatMap.2 ⟨m, hm, hk⟩), hnames.1.1 m hm⟩

section

variable {comments : Comments} (file : String)

theorem MessageProto.record_eq (m : MessageProto) (fullName : String) (path : List Int) :
    m.record comments fullName path = (do
      let fields ← (indexed m.fields).mapM fun x =>
        x.1.record m fullName (comments.describe (path ++ [2, x.2]))
      let messages ← nestedRecords comments fullName path 0 m.nested
      return .object [
        ("name", m.name.toValue),
        ("description", comments.describe path),
        ("fields", .list fields),
        ("messages", .list messages),
        ("enums", .list ((indexed m.enums).map fun x =>
          x.1.record comments (path ++ [4, x.2])))]) := by
  cases m
  rw [MessageProto.record]

theorem MessageProto.toMessage_eq (m : MessageProto) (scope : String) (path : List Int) :
    m.toMessage comments file scope path = {
      name := m.name.display
      fullName := qualify scope m.name.display
      fields := (indexed m.fields).map fun x =>
        x.1.toField m (qualify scope m.name.display) (comments.say (path ++ [2, x.2]))
      messages := toMessages comments file (qualify scope m.name.display) path 0 m.nested
      enums := (indexed m.enums).map fun x =>
        x.1.toEnum comments file (qualify scope m.name.display) (path ++ [4, x.2])
      description := comments.say path
      filePath := file } := by
  cases m
  rw [MessageProto.toMessage]

/-- The records of the messages nested in a message, given those of each. -/
theorem nestedRecords_load {scope : String} (hscope : scope ≠ "") (path : List Int) :
    ∀ {ms : List MessageProto} (index : Int),
    (∀ m ∈ ms, ∀ path, ∃ v,
      m.record comments ("." ++ qualify scope m.name.display) path = .ok v ∧
        LoadsAs file scope v (m.toMessage comments file scope path)) →
    ∃ vs, nestedRecords comments ("." ++ scope) path index ms = .ok vs ∧
      List.Forall₂ (LoadsAs file scope) vs
        (toMessages comments file scope path index ms) := by
  intro ms
  induction ms with
  | nil => exact fun _ _ => ⟨[], rfl, .nil⟩
  | cons m rest ih =>
      intro index h
      rw [List.forall_mem_cons] at h
      obtain ⟨vs, hvs, hrest⟩ := ih (index + 1) h.2
      rw [nestedRecords, toMessages]
      cases m.mapEntry with
      | true => exact ⟨vs, hvs, hrest⟩
      | false =>
          obtain ⟨v, hv, hfirst⟩ := h.1 (path ++ [3, index])
          refine ⟨v :: vs, ?_, .cons hfirst hrest⟩
          rw [absolute_qualify hscope, hv, hvs]
          rfl

/-- What the record of a message is loaded as is what its descriptor says. -/
theorem MessageProto.record_load (hcomments : comments.Plain) (m : MessageProto)
    {scope : String} (path : List Int) (h : m.Proper scope) :
    ∃ v, m.record comments ("." ++ qualify scope m.name.display) path = .ok v ∧
      LoadsAs file scope v (m.toMessage comments file scope path) := by
  induction m using MessageProto.nestedInduction generalizing scope path with
  | step m ih =>
      have hsound := h.sound
      have hname := hsound.self.name
      have hfull := qualify_ne_empty scope hname.2
      obtain ⟨vs, hvs, hnested⟩ := nestedRecords_load file hfull path 0
        fun n hn path => ih n hn path (h.nested hn)
      let fieldRecords := (indexed m.fields).map fun x =>
        Value.object (x.1.attributes m (qualify scope m.name.display)
          (.text (comments.say (path ++ [2, x.2]))))
      have hfields : (indexed m.fields).mapM (fun x =>
          x.1.record m ("." ++ qualify scope m.name.display)
            (comments.describe (path ++ [2, x.2]))) = .ok fieldRecords := by
        refine mapM_eq_map fun x hx => ?_
        rw [hcomments, FieldProto.record_eq hsound (mem_of_mem_indexed hx) hfull]
      have hrecord : m.record comments ("." ++ qualify scope m.name.display) path =
          .ok (.object [
            ("name", .text m.name.display), ("description", .text (comments.say path)),
            ("fields", .list fieldRecords), ("messages", .list vs),
            ("enums", .list ((indexed m.enums).map fun x =>
              x.1.record comments (path ++ [4, x.2])))]) := by
        rw [MessageProto.record_eq, hfields, hvs, hname.1.toValue, hcomments]
        rfl
      refine ⟨_, hrecord, fun fuel hfuel => ?_⟩
      -- the record is deeper than those in its list, so one unit is for itself
      cases fuel with
      | zero => simp [Value.depth] at hfuel
      | succ fuel =>
          simp only [Value.depth, Value.depthEntries] at hfuel
          rw [MessageProto.toMessage_eq]
          refine Load.message_eq_ok rfl hname.2 rfl (fun place => ?_) rfl
            (LoadsAs.mapM hnested (by omega)) rfl ?_ rfl
          · rw [List.mapM_map]
            exact mapM_eq_map fun x hx =>
              FieldProto.load_eq hsound (mem_of_mem_indexed hx) _ place
          · rw [List.mapM_map]
            exact mapM_eq_map fun x hx => EnumProto.load_eq hcomments file _ _
              (hsound.self.enums x.1 (mem_of_mem_indexed hx))

end

/-! ## Files -/

theorem FileProto.WellWritten.scope {p : FileProto} (h : p.WellWritten) :
    ∃ scope, p.scope = .ok scope ∧
      ∀ name, scope ++ "." ++ name = "." ++ qualify p.package.display name := by
  obtain ⟨package, hpackage⟩ : ∃ package, p.package = .text package := ⟨_, h.package⟩
  rw [FileProto.scope, hpackage, Str.isEmpty, Str.display]
  by_cases hempty : package = ""
  · refine ⟨"", by rw [hempty]; rfl, fun name => ?_⟩
    rw [qualify, if_pos hempty, String.empty_append]
  · refine ⟨"." ++ package, ?_, absolute_qualify hempty⟩
    rw [if_neg (by simpa using hempty)]

theorem FileProto.record_load {p : FileProto} (h : p.WellWritten)
    (hnames : p.fullNames.Nodup) :
    ∃ v, p.record = .ok v ∧ ∀ index, Load.file index v = .ok p.toFile := by
  obtain ⟨scope, hscope, hqualify⟩ := h.scope
  have hcomments : p.comments.Plain := h.describe
  have hmessage : ∀ x ∈ indexed p.messages, ∃ v,
      x.1.record p.comments (scope ++ "." ++ x.1.name.display) [4, x.2] = .ok v ∧
        LoadsAs p.name.display p.package.display v
          (x.1.toMessage p.comments p.name.display p.package.display [4, x.2]) := by
    intro x hx
    rw [hqualify]
    exact MessageProto.record_load p.name.display hcomments x.1 [4, x.2]
      (h.proper hnames (mem_of_mem_indexed hx))
  obtain ⟨vs, hvs, hmessages⟩ := exists_mapM hmessage
  have hrecord : p.record = .ok (.object [
      ("path", .text p.name.display), ("package", .text p.package.display),
      ("dependencies", .list (p.dependencies.map Str.toValue)), ("messages", .list vs),
      ("enums", .list ((indexed p.enums).map fun x => x.1.record p.comments [5, x.2])),
      ("services", .list ((indexed p.services).map fun x =>
        x.1.record p.comments [6, x.2]))]) := by
    rw [FileProto.record, hscope, h.name.1.toValue, h.package.toValue]
    simp only [bind, Except.bind, hvs]
    rfl
  refine ⟨_, hrecord, fun index => ?_⟩
  have hdependencies : p.dependencies.map Str.toValue =
      (p.dependencies.map Str.display).map Value.text := by
    rw [List.map_map]
    exact List.map_congr_left fun d hd => (h.dependencies d hd).toValue
  refine Load.file_eq_ok rfl h.name.2 rfl rfl hdependencies rfl
    (LoadsAs.mapM hmessages ?_) rfl ?_ rfl ?_ rfl
  · simp only [Value.depth, Value.depthEntries]
    omega
  · rw [List.mapM_map]
    exact mapM_eq_map fun x hx =>
      EnumProto.load_eq hcomments _ _ _ (h.enums x.1 (mem_of_mem_indexed hx))
  · rw [List.mapM_map]
    exact mapM_eq_map fun x hx =>
      ServiceProto.load_eq hcomments _ _ _ (h.services x.1 (mem_of_mem_indexed hx))

theorem files_eq_ok {vs : List Value} {fs : List File}
    (h : List.Forall₂ (fun v f => ∀ index, Load.file index v = .ok f) vs fs)
    (index : Nat) :
    Load.files index vs = .ok fs := by
  induction h generalizing index with
  | nil => rfl
  | cons hv _ ih =>
      rw [Load.files, hv, ih]
      rfl

/-- The records of a descriptor set are loaded as what it says. -/
theorem FileSet.records_load {s : FileSet} (h : s.WellWritten) (base : String) :
    ∃ raw, s.records = .ok raw ∧
      Schema.load raw (.text base) = .ok { files := s.toFiles, routeBase := base } := by
  have hnames := h.names
  rw [FileSet.fullNames, List.nodup_flatMap] at hnames
  have hfile : ∀ p ∈ s.files, ∃ v, p.record = .ok v ∧
      ∀ index, Load.file index v = .ok p.toFile := fun p hp =>
    FileProto.record_load (h.files p hp) (hnames.1 p hp)
  obtain ⟨vs, hvs, hfiles⟩ :=
    exists_mapM (R := fun v f => ∀ index, Load.file index v = .ok f) hfile
  refine ⟨.object [("files", .list vs)], ?_, ?_⟩
  · rw [FileSet.records, hvs]
    rfl
  · have hload := files_eq_ok hfiles 0
    have hget : Value.get? [("files", Value.list vs)] "files" = some (.list vs) := rfl
    rw [Schema.load]
    simp only [hget, hload, bind, Except.bind]
    rfl

end Descriptor

end SchemaDocs
