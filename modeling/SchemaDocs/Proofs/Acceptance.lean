import Mathlib.Tactic.MkIffOfInductiveProp
import SchemaDocs.Proofs.Keys
import SchemaDocs.Proofs.Loading

/-!
# Which records are accepted

Every attribute of a record has a type, and a record is well typed if all its
attributes are, and those of the records that it lists. Loading accepts what is
well typed, and refuses everything else.

With three attributes it is more lenient than what is written about them. A
package or a label that counts as absent is taken as such before its type is
looked at, so that zero, false and an empty list pass, and the group of a field
is handed on whatever it is. `Leeway` says what these three may be, and the
types of records have it as a parameter: `taken` is what loading takes, and
`documented` is text or null.

The loader is followed function by function. `Checks` says of each that it
passes exactly what is good, and that it refuses anything else at its place or
further in.
-/

namespace SchemaDocs

open Load (Record Result attribute?)

/-! ## Types of attributes -/

inductive Required (P : Value → Prop) : Option Value → Prop
  | given {v : Value} (h : P v) : Required P (some v)

/-- Null stands for what is left out. -/
inductive Optional (P : Value → Prop) : Option Value → Prop
  | absent : Optional P none
  | null : Optional P (some .null)
  | given {v : Value} (h : P v) : Optional P (some v)

/-- Neither left out nor null. -/
inductive Present : Option Value → Prop
  | given {v : Value} (h : v ≠ .null) : Present (some v)

inductive Value.IsText : Value → Prop
  | intro (s : String) : IsText (.text s)

inductive Value.IsName : Value → Prop
  | intro {s : String} (h : s ≠ "") : IsName (.text s)

inductive Value.IsFlag : Value → Prop
  | intro (b : Bool) : IsFlag (.bool b)

inductive Value.IsWhole : Value → Prop
  | int (n : Int) : IsWhole (.int n)
  | text {s : String} {n : Int} (h : Numeral.readInt? s = some n) : IsWhole (.text s)

inductive Value.ListOf (P : Value → Prop) : Value → Prop
  | intro {vs : List Value} (h : ∀ v ∈ vs, P v) : ListOf P (.list vs)

inductive Value.ObjectOf (P : Record → Prop) : Value → Prop
  | intro {r : Record} (h : P r) : ObjectOf P (.object r)

/-- What a package, a label and a group may be. -/
structure Leeway where
  package : Value → Prop
  label : Value → Prop
  oneof : Value → Prop

/-- What is written about the three. -/
def Leeway.documented : Leeway where
  package v := v = .null ∨ v.IsText
  label := Value.IsText
  oneof := Value.IsText

/-- What loading takes. -/
def Leeway.taken : Leeway where
  package v := v.isFalsy = true ∨ v.IsText
  label v := v.isFalsy = true ∨ ∃ l : Label, v = .text l.text
  oneof _ := True

section

variable {P : Value → Prop} {v : Value}

@[simp]
theorem required_some_iff : Required P (some v) ↔ P v :=
  ⟨fun h => by cases h with | given h => exact h, .given⟩

@[simp]
theorem not_required_none : ¬ Required P none := by
  rintro ⟨⟩

theorem optional_some_iff (hnull : v ≠ .null) : Optional P (some v) ↔ P v := by
  constructor
  · intro h
    cases h with
    | null => exact absurd rfl hnull
    | given h => exact h
  · exact .given

/-- What must be there is what may be there, and is. -/
theorem required_iff (hnull : ¬ P .null) {v : Option Value} :
    Required P v ↔ Optional P v ∧ Present v := by
  constructor
  · rintro ⟨h⟩
    refine ⟨.given h, .given ?_⟩
    rintro rfl
    exact hnull h
  · rintro ⟨h, ⟨hpresent⟩⟩
    exact .given ((optional_some_iff hpresent).1 h)

end

/-! ## Types of records -/

open Value (IsText IsName IsFlag IsWhole ListOf ObjectOf)

/-- A map has a type for its keys and one for its values, unless they are
written out in its own. -/
@[mk_iff]
structure MapTyped (r : Record) : Prop where
  key : Required IsName (attribute? r ["key_type", "keyType"])
  value : Required IsName (attribute? r ["value_type", "valueType"])

@[mk_iff]
structure FieldTyped (l : Leeway) (r : Record) : Prop where
  name : Required IsName (attribute? r ["name"])
  type : Required IsName (attribute? r ["type", "type_name", "typeName"])
  label : Optional l.label (attribute? r ["label"])
  map : ∀ s, attribute? r ["type", "type_name", "typeName"] = some (.text s) →
    Text.trim s = "map" → MapTyped r
  number : Optional IsWhole (attribute? r ["number"])
  description : Optional IsText (attribute? r ["description"])
  oneof : Optional l.oneof (attribute? r ["oneof", "oneof_name", "oneofdecl"])

@[mk_iff]
structure EnumValueTyped (r : Record) : Prop where
  name : Required IsName (attribute? r ["name"])
  number : Required IsWhole (attribute? r ["number"])
  description : Optional IsText (attribute? r ["description"])

@[mk_iff]
structure EnumTyped (r : Record) : Prop where
  name : Required IsName (attribute? r ["name"])
  values : Optional (ListOf (ObjectOf EnumValueTyped)) (attribute? r ["values"])
  description : Optional IsText (attribute? r ["description"])

@[mk_iff]
structure MethodTyped (r : Record) : Prop where
  name : Required IsName (attribute? r ["name"])
  request : Required IsName
    (attribute? r ["request_type", "requestType", "input_type", "inputType"])
  response : Required IsName
    (attribute? r ["response_type", "responseType", "output_type", "outputType"])
  client : Optional IsFlag
    (attribute? r ["client_streaming", "clientStreaming", "requestStreaming"])
  server : Optional IsFlag
    (attribute? r ["server_streaming", "serverStreaming", "responseStreaming"])
  description : Optional IsText (attribute? r ["description"])

@[mk_iff]
structure ServiceTyped (r : Record) : Prop where
  name : Required IsName (attribute? r ["name"])
  methods : Optional (ListOf (ObjectOf MethodTyped)) (attribute? r ["methods"])
  description : Optional IsText (attribute? r ["description"])

/-- Messages nest to any depth. -/
@[mk_iff]
inductive MessageTyped (l : Leeway) : Record → Prop
  | intro {r : Record} (name : Required IsName (attribute? r ["name"]))
      (fields : Optional (ListOf (ObjectOf (FieldTyped l))) (attribute? r ["fields"]))
      (messages : Optional (ListOf (ObjectOf (MessageTyped l)))
        (attribute? r ["messages"]))
      (enums : Optional (ListOf (ObjectOf EnumTyped)) (attribute? r ["enums"]))
      (description : Optional IsText (attribute? r ["description"])) : MessageTyped l r

@[mk_iff]
structure FileTyped (l : Leeway) (r : Record) : Prop where
  path : Required IsName (attribute? r ["path", "name"])
  package : Required l.package (attribute? r ["package"])
  dependencies : Optional (ListOf IsText) (attribute? r ["dependencies"])
  messages : Optional (ListOf (ObjectOf (MessageTyped l))) (attribute? r ["messages"])
  enums : Optional (ListOf (ObjectOf EnumTyped)) (attribute? r ["enums"])
  services : Optional (ListOf (ObjectOf ServiceTyped)) (attribute? r ["services"])
  description : Optional IsText (attribute? r ["description"])

structure SchemaTyped (l : Leeway) (r : Record) : Prop where
  files : Required (ListOf (ObjectOf (FileTyped l))) (Value.get? r "files")

/-! ## Checks -/

/-- A fault at a place or further in. -/
def LoadError.Below (place : Place) (e : LoadError) : Prop :=
  ∃ inner fault, e = .at (place ++ inner) fault

/-- A step passes if something is good, and otherwise refuses it at a place. -/
inductive Checks {α : Type} (place : Place) : Result α → Prop → Prop
  | ok {a : α} {good : Prop} (h : good) : Checks place (.ok a) good
  | refused {e : LoadError} {good : Prop} (h : ¬ good) (hbelow : e.Below place) :
      Checks place (.error e) good

namespace Checks

variable {α β : Type} {place : Place} {x : Result α} {good fine : Prop}

theorem fail {fault : RecordFault} (h : ¬ good) :
    Checks place (Load.fail place fault : Result α) good :=
  .refused h ⟨[], fault, by rw [List.append_nil]⟩

/-- What is refused further in is refused here. -/
theorem inside (inner : Place) (h : Checks (place ++ inner) x good) :
    Checks place x good := by
  cases h with
  | ok h => exact .ok h
  | refused h hbelow =>
      obtain ⟨further, fault, rfl⟩ := hbelow
      exact .refused h ⟨inner ++ further, fault, by rw [List.append_assoc]⟩

theorem congr (h : Checks place x good) (hiff : good ↔ fine) : Checks place x fine := by
  rwa [← hiff]

theorem exists_ok_iff (h : Checks place x good) : (∃ a, x = .ok a) ↔ good := by
  cases h with
  | ok h => exact iff_of_true ⟨_, rfl⟩ h
  | refused h _ => exact iff_of_false (by simp) h

theorem below (h : Checks place x good) {e : LoadError} (he : x = .error e) :
    e.Below place := by
  cases h with
  | ok => cases he
  | refused _ hbelow =>
      cases he
      exact hbelow

/-- Checks one after the other, of which the second may use what the first
gave. -/
theorem bind {f : α → Result β} (hx : Checks place x good)
    (hf : ∀ a, x = .ok a → Checks place (f a) fine) :
    Checks place (x >>= f) (good ∧ fine) := by
  cases hx with
  | ok hgood => exact (hf _ rfl).congr (and_iff_right hgood).symm
  | refused hbad hbelow => exact .refused (fun h => hbad h.1) hbelow

/-- A check that is the last. -/
theorem map {f : α → β} (hx : Checks place x good) :
    Checks place (x >>= fun a => pure (f a)) good :=
  (hx.bind fun _ _ => ok trivial).congr (iff_of_eq (and_true good))

theorem mapM {good : β → Prop} {f : β → Result α} {vs : List β}
    (h : ∀ v ∈ vs, Checks place (f v) (good v)) :
    Checks place (vs.mapM f) (∀ v ∈ vs, good v) := by
  induction vs with
  | nil => exact ok (by simp)
  | cons v rest ih =>
      rw [List.forall_mem_cons] at h
      rw [List.mapM_cons, List.forall_mem_cons]
      exact h.1.bind fun _ _ => (ih h.2).map

end Checks

/-! ## Attributes -/

section

variable {place : Place} {r : Record}

theorem requiredText_checks {fault : RecordFault} {v : Option Value} :
    Checks place (Load.requiredText place fault v) (Required IsName v) := by
  rw [Load.requiredText.eq_def]
  split
  · next s =>
    split
    · next hempty =>
      refine .fail ?_
      rintro ⟨⟨hs⟩⟩
      exact hs hempty
    · next hs => exact .ok (.given (.intro hs))
  · next hno =>
    refine .fail ?_
    rintro ⟨⟨hs⟩⟩
    exact hno _ rfl

theorem name_checks :
    Checks place (Load.name place r) (Required IsName (attribute? r ["name"])) :=
  requiredText_checks

/-- An attribute that may be left out, and has a wrong type. -/
theorem fail_checks {α : Type} {fault : RecordFault} {P : Value → Prop} {v : Value}
    (hnull : v ≠ .null) (h : ¬ P v) :
    Checks place (Load.fail place fault : Result α) (Optional P (some v)) := by
  refine .fail ?_
  rwa [optional_some_iff hnull]

theorem description_checks :
    Checks place (Load.description place r)
      (Optional IsText (attribute? r ["description"])) := by
  rw [Load.description]
  split
  · next h => exact h ▸ .ok .absent
  · next h => exact h ▸ .ok .null
  · next s h => exact h ▸ .ok (.given (.intro s))
  · next v hnull htext h =>
    rw [h]
    refine fail_checks hnull ?_
    rintro ⟨s⟩
    exact htext s rfl

theorem flag_checks {key : String} {spellings : List String} :
    Checks place (Load.flag place r key spellings)
      (Optional IsFlag (attribute? r spellings)) := by
  rw [Load.flag]
  split
  · next h => exact h ▸ .ok .absent
  · next h => exact h ▸ .ok .null
  · next b h => exact h ▸ .ok (.given (.intro b))
  · next v hnull hflag h =>
    rw [h]
    refine fail_checks hnull ?_
    rintro ⟨b⟩
    exact hflag b rfl

theorem number_checks :
    Checks place (Load.number place r) (Optional IsWhole (attribute? r ["number"])) := by
  rw [Load.number]
  split
  · next h => exact h ▸ .ok .absent
  · next h => exact h ▸ .ok .null
  · next b h =>
    rw [h]
    refine fail_checks (by simp) ?_
    rintro ⟨⟩
  · next n h => exact h ▸ .ok (.given (.int n))
  · next s h =>
    rw [h]
    split
    · next n hn => exact .ok (.given (.text hn))
    · next hn =>
      refine fail_checks (by simp) ?_
      rintro (_ | hs)
      rw [hn] at hs
      cases hs
  · next v hnull hbool hint htext h =>
    rw [h]
    refine fail_checks hnull ?_
    rintro (n | hs)
    · exact hint n rfl
    · exact htext _ rfl

/-- A number is given where its attribute is. -/
theorem isSome_number_iff {n : Option Int} (h : Load.number place r = .ok n) :
    n.isSome ↔ Present (attribute? r ["number"]) := by
  have hnone : ¬ Present none := by rintro ⟨⟩
  have hnull : ¬ Present (some .null) := by
    rintro ⟨h⟩
    exact h rfl
  rw [Load.number] at h
  split at h
  · next hr =>
    cases h
    rw [hr]
    exact iff_of_false Bool.false_ne_true hnone
  · next hr =>
    cases h
    rw [hr]
    exact iff_of_false Bool.false_ne_true hnull
  · cases h
  · next hr =>
    cases h
    rw [hr]
    exact iff_of_true rfl (.given (by simp))
  · next hr =>
    rw [hr]
    split at h
    · cases h
      exact iff_of_true rfl (.given (by simp))
    · cases h
  · cases h

theorem Label.ofText?_eq_some_iff {s : String} {l : Label} :
    Label.ofText? s = some l ↔ l.text = s := by
  constructor
  · intro h
    simpa using List.find?_some h
  · rintro rfl
    cases l <;> rfl

theorem label_checks :
    Checks place (Load.label place r)
      (Optional Leeway.taken.label (attribute? r ["label"])) := by
  rw [Load.label]
  split
  · next h => exact h ▸ .ok .absent
  · next v h =>
    rw [h]
    split
    · next hfalsy => exact .ok (.given (.inl hfalsy))
    · next hfalsy =>
      have hnull : v ≠ .null := by
        rintro rfl
        exact hfalsy rfl
      split
      · next s =>
        split
        · next l hl =>
            exact .ok (.given (.inr ⟨l, by rw [Label.ofText?_eq_some_iff.1 hl]⟩))
        · next hl =>
          refine fail_checks hnull ?_
          rintro (h | ⟨l, hs⟩)
          · exact hfalsy h
          · rw [Label.ofText?_eq_some_iff.2 (Value.text.inj hs).symm] at hl
            cases hl
      · next htext =>
        refine fail_checks hnull ?_
        rintro (h | ⟨l, hs⟩)
        · exact hfalsy h
        · exact htext _ hs

theorem package_checks :
    Checks place (Load.package place r)
      (Required Leeway.taken.package (attribute? r ["package"])) := by
  rw [Load.package]
  split
  · next h => exact h ▸ .fail not_required_none
  · next v h =>
    rw [h, required_some_iff]
    split
    · next hfalsy => exact .ok (.inl hfalsy)
    · next hfalsy =>
      split
      · next s => exact .ok (.inr (.intro s))
      · next htext =>
        refine .fail ?_
        rintro (h | ⟨⟨s⟩⟩)
        · exact hfalsy h
        · exact htext s rfl

/-- Only a type that is called "map" needs two more attributes. -/
theorem mapType_checks {type : String} :
    Checks place (Load.mapType place r type) (type = "map" → MapTyped r) := by
  rw [Load.mapType]
  split
  · next hnotation =>
    refine .ok ?_
    rintro rfl
    have hnone : MapNotation.parse? "map" = none := by decide
    rw [hnone] at hnotation
    cases hnotation
  · split
    · next hother => exact .ok fun h => absurd h hother
    · next hmap =>
      rw [not_not] at hmap
      rw [mapTyped_iff, imp_iff_right hmap]
      exact requiredText_checks.bind fun key _ => requiredText_checks.map

/-- A list of things that are checked one after the other. What is not a list
is refused further in, and its entries where they say. -/
theorem entries_checks {α β : Type} {key : String} {good : Value → Prop} {fine : Prop}
    {f : Value → Result α} {rest : List α → Result β} (inner : Place)
    (hentry : ∀ vs, attribute? r [key] = some (.list vs) →
      ∀ v ∈ vs, Checks place (f v) (good v))
    (hrest : ∀ ys, Checks place (rest ys) fine) :
    Checks place (Load.list (place ++ inner) r key >>= fun vs => vs.mapM f >>= rest)
      (Optional (ListOf good) (attribute? r [key]) ∧ fine) := by
  rw [← bind_assoc]
  refine .bind ?_ fun ys _ => hrest ys
  rw [Load.list]
  split
  · next h => exact h ▸ .ok .absent
  · next h => exact h ▸ .ok .null
  · next vs h =>
    rw [h]
    refine (Checks.mapM (hentry vs h)).congr ?_
    rw [optional_some_iff (by simp)]
    exact ⟨.intro, fun hlist => by cases hlist with | intro h => exact h⟩
  · next v hnull hlist h =>
    rw [h]
    refine .inside inner (fail_checks hnull ?_)
    rintro ⟨hvs⟩
    exact hlist _ rfl

/-- A record is opened before its attributes are looked at. -/
theorem object_checks {α : Type} {v : Value} {good : Record → Prop}
    {f : Record → Result α}
    (place inner : Place) (h : ∀ r, v = .object r → Checks place (f r) (good r)) :
    Checks place (Load.object (place ++ inner) v >>= f) (ObjectOf good v) := by
  cases v with
  | object r =>
      refine (h r rfl).congr ⟨.intro, fun hobject => ?_⟩
      cases hobject with
      | intro h => exact h
  | _ =>
      refine .inside inner (.fail ?_)
      rintro ⟨⟩

end

/-! ## Records -/

section

variable {place : Place} {v : Value}

theorem fieldTyped_taken_iff {r : Record} : FieldTyped .taken r ↔
    Required IsName (attribute? r ["name"]) ∧
      Required IsName (attribute? r ["type", "type_name", "typeName"]) ∧
      Optional Leeway.taken.label (attribute? r ["label"]) ∧
      (∀ s, attribute? r ["type", "type_name", "typeName"] = some (.text s) →
        Text.trim s = "map" → MapTyped r) ∧
      Optional IsWhole (attribute? r ["number"]) ∧
      Optional IsText (attribute? r ["description"]) := by
  have honeof (v : Option Value) : Optional Leeway.taken.oneof v := by
    cases v with
    | none => exact .absent
    | some v => exact .given trivial
  rw [fieldTyped_iff]
  simp only [honeof, and_true]

theorem field_checks :
    Checks place (Load.field place v) (ObjectOf (FieldTyped .taken) v) := by
  rw [Load.field]
  refine object_checks place [.anyField] fun r _ => ?_
  rw [fieldTyped_taken_iff]
  refine (name_checks.inside [.anyField]).bind fun name _ => ?_
  refine .inside [.field name] ?_
  refine requiredText_checks.bind fun type htype => ?_
  obtain ⟨htype, -⟩ := Load.requiredText_eq_ok_iff.1 htype
  refine label_checks.bind fun label _ => ?_
  -- the loader has the type at hand here, the record has to say it once more
  have hmap : Checks (place ++ [.field name])
      (Load.mapType (place ++ [.field name]) r (Text.trim type))
      (∀ s, attribute? r ["type", "type_name", "typeName"] = some (.text s) →
        Text.trim s = "map" → MapTyped r) := by
    refine mapType_checks.congr ?_
    rw [htype]
    simp only [Option.some.injEq, Value.text.injEq, forall_eq']
  refine hmap.bind fun map _ => ?_
  exact number_checks.bind fun number _ => description_checks.map

theorem enumValue_checks :
    Checks place (Load.enumValue place v) (ObjectOf EnumValueTyped v) := by
  rw [Load.enumValue]
  refine object_checks place [.anyValue] fun r _ => ?_
  have hnull : ¬ IsWhole .null := by rintro ⟨⟩
  rw [enumValueTyped_iff, required_iff hnull, and_assoc]
  refine (name_checks.inside [.anyValue]).bind fun name _ => ?_
  refine (number_checks.inside [.value name]).bind fun number hnumber => ?_
  have hpresent := isSome_number_iff hnumber
  cases number with
  | none => exact .fail fun h => Bool.false_ne_true (hpresent.2 h.1)
  | some n => exact description_checks.map.congr (and_iff_right (hpresent.1 rfl)).symm

theorem enumDef_checks {path scope : String} :
    Checks [.file path] (Load.enumDef path scope v) (ObjectOf EnumTyped v) := by
  rw [Load.enumDef]
  refine object_checks [.file path] [.enumIn scope] fun r _ => ?_
  rw [enumTyped_iff]
  refine (name_checks.inside [.enumIn scope]).bind fun name _ => ?_
  refine entries_checks [.enum (qualify scope name)]
    (fun vs _ v _ => enumValue_checks.inside [.enum (qualify scope name)])
      fun values => ?_
  exact (description_checks.inside [.enum (qualify scope name)]).map

theorem method_checks : Checks place (Load.method place v) (ObjectOf MethodTyped v) := by
  rw [Load.method]
  refine object_checks place [.anyMethod] fun r _ => ?_
  rw [methodTyped_iff]
  refine (name_checks.inside [.anyMethod]).bind fun name _ => ?_
  refine .inside [.method name] ?_
  refine requiredText_checks.bind fun request _ => ?_
  refine requiredText_checks.bind fun response _ => ?_
  refine flag_checks.bind fun client _ => flag_checks.bind fun server _ => ?_
  exact description_checks.map

theorem service_checks {path scope : String} :
    Checks [.file path] (Load.service path scope v) (ObjectOf ServiceTyped v) := by
  rw [Load.service]
  refine object_checks [.file path] [.anyService] fun r _ => ?_
  rw [serviceTyped_iff]
  refine (name_checks.inside [.anyService]).bind fun name _ => ?_
  refine entries_checks [.service (qualify scope name)]
    (fun vs _ v _ => method_checks.inside [.service (qualify scope name)])
      fun methods => ?_
  exact (description_checks.inside [.service (qualify scope name)]).map

end

/-! ## Messages and files -/

theorem Value.depth_le_depthItems {v : Value} {vs : List Value} (h : v ∈ vs) :
    v.depth ≤ Value.depthItems vs := by
  induction vs with
  | nil => cases h
  | cons w rest ih =>
      rw [Value.depthItems]
      rcases List.mem_cons.1 h with rfl | h
      · exact Nat.le_max_left _ _
      · exact Nat.le_trans (ih h) (Nat.le_max_right _ _)

theorem Value.depth_le_depthEntries {key : String} {v : Value}
    {r : Record} (h : (key, v) ∈ r) :
    v.depth ≤ Value.depthEntries r := by
  induction r with
  | nil => cases h
  | cons entry rest ih =>
      rw [Value.depthEntries.eq_def]
      rcases List.mem_cons.1 h with rfl | h
      · exact Nat.le_max_left _ _
      · exact Nat.le_trans (ih h) (Nat.le_max_right _ _)

/-- What a record lists is less deep than the record. -/
theorem Value.depth_lt_of_listed {r : Record} {key : String} {vs : List Value} {v : Value}
    (hlist : attribute? r [key] = some (.list vs)) (hv : v ∈ vs) :
    v.depth < (Value.object r).depth := by
  rw [Load.attribute?_singleton] at hlist
  have hentry := Value.depth_le_depthEntries (mem_of_lookup hlist)
  have hitem := Value.depth_le_depthItems hv
  rw [Value.depth.eq_def (.list vs)] at hentry
  rw [Value.depth.eq_def (.object r)]
  dsimp only at hentry ⊢
  omega

/-- By the depth to which a message is read, which covers the value. -/
theorem message_checks {fuel : Nat} {path : String} : ∀ {scope : String} {v : Value},
    v.depth ≤ fuel →
    Checks [.file path] (Load.message fuel path scope v)
      (ObjectOf (MessageTyped .taken) v) := by
  induction fuel with
  | zero =>
      intro scope v hdepth
      cases v <;> simp [Value.depth] at hdepth
  | succ fuel ih =>
      intro scope v hdepth
      rw [Load.message]
      refine object_checks [.file path] [.messageIn scope] fun r hr => ?_
      subst hr
      rw [messageTyped_iff]
      refine (name_checks.inside [.messageIn scope]).bind fun name _ => ?_
      refine entries_checks [.message (qualify scope name)]
        (fun vs _ v _ => field_checks.inside [.message (qualify scope name)])
          fun fields => ?_
      -- a nested message is refused under the file, not under the message around it
      refine entries_checks [.message (qualify scope name)] (fun vs hvs v hv => ?_)
        fun messages => ?_
      · have hless := Value.depth_lt_of_listed hvs hv
        exact ih (Nat.le_of_lt_succ (Nat.lt_of_lt_of_le hless hdepth))
      · refine entries_checks [.message (qualify scope name)]
          (fun vs _ v _ => enumDef_checks) fun enums => ?_
        exact (description_checks.inside [.message (qualify scope name)]).map

/-- A file that has a path refuses everything under it. -/
theorem namedFile_checks {i : Nat} {r : Record} {path : String}
    (hpath : attribute? r ["path", "name"] = some (.text path)) (hnamed : path ≠ "") :
    Checks [.file path] (Load.file i (.object r)) (FileTyped .taken r) := by
  have hname : Required IsName (attribute? r ["path", "name"]) :=
    hpath ▸ .given (.intro hnamed)
  have hopened : Load.object [.entry i] (.object r) = pure r := rfl
  have hfound :
      Load.requiredText [.entry i] (.missing "path") (attribute? r ["path", "name"]) =
        pure path := by
    rw [hpath, Load.requiredText_eq_ok hnamed]
    rfl
  rw [Load.file_eq, hopened, pure_bind, hfound, pure_bind, fileTyped_iff,
    and_iff_right hname]
  refine package_checks.bind fun package _ => ?_
  refine entries_checks [] (fun vs _ v _ => ?_) fun dependencies => ?_
  · cases v with
    | text s => exact .ok (.intro s)
    | _ =>
        refine .fail ?_
        rintro ⟨⟩
  refine entries_checks [] (fun vs hvs v hv => ?_) fun messages => ?_
  · exact message_checks (Nat.le_of_lt (Value.depth_lt_of_listed hvs hv))
  refine entries_checks [] (fun vs _ v _ => enumDef_checks) fun enums => ?_
  refine entries_checks [] (fun vs _ v _ => service_checks) fun services => ?_
  exact description_checks.map

theorem file_checks {i : Nat} {v : Value} :
    Checks [] (Load.file i v) (ObjectOf (FileTyped .taken) v) := by
  cases v with
  | object r =>
      have hobject : FileTyped .taken r ↔ ObjectOf (FileTyped .taken) (.object r) :=
        ⟨.intro, fun h => by cases h with | intro h => exact h⟩
      have hfirst : Checks [.entry i] (Load.requiredText [.entry i] (.missing "path")
          (attribute? r ["path", "name"])) _ := requiredText_checks
      cases hpath : Load.requiredText [.entry i] (.missing "path")
          (attribute? r ["path", "name"]) with
      | ok path =>
          obtain ⟨hpath, hnamed⟩ := Load.requiredText_eq_ok_iff.1 hpath
          exact .congr (.inside [.file path] (namedFile_checks hpath hnamed)) hobject
      | error e =>
          have hopened : Load.object [.entry i] (.object r) = pure r := rfl
          have hfails : Load.file i (.object r) = .error e := by
            rw [Load.file_eq, hopened, pure_bind, hpath]
            rfl
          have hunnamed : ¬ Required IsName (attribute? r ["path", "name"]) := by
            rw [← hfirst.exists_ok_iff, hpath]
            simp
          rw [hfails]
          exact .inside [.entry i] (.refused (fun h => hunnamed (hobject.2 h).path)
            (hfirst.below hpath))
  | _ =>
      refine .inside [.entry i] (.fail ?_)
      rintro ⟨⟩

theorem files_checks {records : List Value} : ∀ {i : Nat},
    Checks [] (Load.files i records) (∀ v ∈ records, ObjectOf (FileTyped .taken) v) := by
  induction records with
  | nil => exact fun {i} => .ok (by simp)
  | cons v rest ih =>
      intro i
      rw [Load.files, List.forall_mem_cons]
      exact file_checks.bind fun _ _ => ih.map

/-! ## Descriptions of schemas -/

theorem schemaTyped_taken_iff {raw : Value} : ObjectOf (SchemaTyped .taken) raw ↔
    ∃ records, raw.Describes records ∧ ∀ v ∈ records, ObjectOf (FileTyped .taken) v := by
  constructor
  · rintro ⟨⟨hfiles⟩⟩
    generalize hlist : Value.get? _ "files" = files at hfiles
    obtain ⟨⟨hfiles⟩⟩ := hfiles
    exact ⟨_, ⟨_, rfl, hlist⟩, hfiles⟩
  · rintro ⟨records, ⟨r, rfl, hlist⟩, hfiles⟩
    refine .intro ⟨?_⟩
    rw [hlist]
    exact .given (.intro hfiles)

/-- Only what lists the records of files is read at all. -/
theorem describes_of_load {raw routeBase : Value} {schema : Schema}
    (h : Schema.load raw routeBase = .ok schema) : ∃ records, raw.Describes records := by
  by_contra hnone
  rw [not_exists] at hnone
  by_cases hobject : ∃ r, raw = .object r
  · obtain ⟨r, rfl⟩ := hobject
    rw [Schema.load_of_no_files fun records hfiles => hnone records ⟨r, rfl, hfiles⟩] at h
    cases h
  · rw [Schema.load_of_not_object (not_exists.1 hobject)] at h
    cases h

theorem base_checks {routeBase : Value} :
    (∃ base, Load.base routeBase = .ok base) ↔ Optional IsText (some routeBase) := by
  rw [Load.base.eq_def]
  split
  · exact iff_of_true ⟨_, rfl⟩ .null
  · next s => exact iff_of_true ⟨_, rfl⟩ (.given (.intro s))
  · next v hnull htext =>
    refine iff_of_false (by simp) ?_
    rw [optional_some_iff hnull]
    rintro ⟨s⟩
    exact htext s rfl

/-- A description is loaded if and only if it is well typed, to any depth, with
the leeway that loading takes for packages, labels and groups, and the route
base is text or null. -/
theorem load_accepts_iff (raw routeBase : Value) :
    (∃ schema, Schema.load raw routeBase = .ok schema) ↔
      ObjectOf (SchemaTyped .taken) raw ∧ Optional IsText (some routeBase) := by
  rw [schemaTyped_taken_iff, ← base_checks]
  constructor
  · rintro ⟨schema, h⟩
    obtain ⟨records, hraw⟩ := describes_of_load h
    rw [Schema.load_eq hraw] at h
    obtain ⟨base, hbase, h⟩ := bind_eq_ok_iff.1 h
    obtain ⟨files, hfiles, -⟩ := bind_eq_ok_iff.1 h
    exact ⟨⟨records, hraw, files_checks.exists_ok_iff.1 ⟨files, hfiles⟩⟩, base, hbase⟩
  · rintro ⟨⟨records, hraw, hfiles⟩, base, hbase⟩
    obtain ⟨files, hfiles⟩ := files_checks.exists_ok_iff.2 hfiles
    rw [Schema.load_eq hraw]
    exact ⟨_, bind_eq_ok_iff.2 ⟨base, hbase, bind_eq_ok_iff.2 ⟨files, hfiles, rfl⟩⟩⟩

/-- A file whose package is the number zero. -/
def zeroPackage : Value :=
  .object [("files", .list [.object [("path", .text "a.proto"), ("package", .int 0)]])]

/-- The number passes as a package, although it is neither text nor null. -/
theorem load_zeroPackage :
    ¬ ∀ raw routeBase schema, Schema.load raw routeBase = .ok schema →
    ObjectOf (SchemaTyped .documented) raw := by
  intro h
  obtain ⟨⟨hfiles⟩⟩ : ObjectOf (SchemaTyped .documented) zeroPackage := h _ .null _ rfl
  have hfiles' : Required (ListOf (ObjectOf (FileTyped .documented)))
      (some (.list [.object [("path", .text "a.proto"), ("package", .int 0)]])) := hfiles
  obtain ⟨⟨hfile⟩⟩ := hfiles'
  obtain ⟨hfile⟩ := hfile _ List.mem_cons_self
  have hpackage : Required Leeway.documented.package (some (.int 0)) := hfile.package
  obtain ⟨h | ⟨⟨⟩⟩⟩ := hpackage
  cases h

end SchemaDocs
