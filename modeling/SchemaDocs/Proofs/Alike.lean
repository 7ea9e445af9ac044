import SchemaDocs.Proofs.FileOrder
import SchemaDocs.Proofs.Redaction

/-!
# Descriptions that say the same of a file

Two records of a file are alike when they differ only in what is shown on the
page of the file: descriptions anywhere, the values of enums, and of fields
their numbers, labels, groups and defaults. Everything else has to be the same
under every key, entry by entry where a record lists others.

What two alike records load as is the same file once it is redacted. This goes
from the inside out, and for messages by the depth to which they are read,
which may be another one for each of the two.
-/

namespace SchemaDocs

open Load (Record)

/-! ## Alike records -/

/-- Records with the same values, but for some keys. -/
def AgreeBut (free : List String) (r r' : Record) : Prop :=
  ∀ key, key ∉ free → Value.get? r' key = Value.get? r key

inductive Alike (R : Record → Record → Prop) : Value → Value → Prop
  | same (v : Value) : Alike R v v
  | object {r r' : Record} (h : R r r') : Alike R (.object r) (.object r')

/-- Lists with alike entries, or the same where there is no list. -/
inductive ListedAlike (R : Record → Record → Prop) : Option Value → Option Value → Prop
  | same (v : Option Value) : ListedAlike R v v
  | list {vs vs' : List Value} (h : List.Forall₂ (Alike R) vs vs') :
      ListedAlike R (some (.list vs)) (some (.list vs'))

def FieldAlike : Record → Record → Prop :=
  AgreeBut ["number", "label", "oneof", "oneof_name", "oneofdecl",
    "default_value", "defaultValue",
    "description"]

def EnumAlike : Record → Record → Prop := AgreeBut ["values", "description"]

def MethodAlike : Record → Record → Prop := AgreeBut ["description"]

structure ServiceAlike (r r' : Record) : Prop where
  agree : AgreeBut ["methods", "description"] r r'
  methods : ListedAlike MethodAlike (Value.get? r "methods") (Value.get? r' "methods")

inductive MessageAlike : Record → Record → Prop
  | intro {r r' : Record}
    (agree : AgreeBut ["fields", "messages", "enums", "description"] r r')
      (fields : ListedAlike FieldAlike (Value.get? r "fields") (Value.get? r' "fields"))
      (messages : ListedAlike MessageAlike (Value.get? r "messages")
        (Value.get? r' "messages"))
      (enums : ListedAlike EnumAlike (Value.get? r "enums") (Value.get? r' "enums")) :
      MessageAlike r r'

structure FileAlike (r r' : Record) : Prop where
  agree : AgreeBut ["messages", "enums", "services", "description"] r r'
  messages : ListedAlike MessageAlike (Value.get? r "messages") (Value.get? r' "messages")
  enums : ListedAlike EnumAlike (Value.get? r "enums") (Value.get? r' "enums")
  services : ListedAlike ServiceAlike (Value.get? r "services") (Value.get? r' "services")

theorem AgreeBut.refl (free : List String) (r : Record) : AgreeBut free r r :=
  fun _ _ => rfl

theorem Alike.of_objects {R : Record → Record → Prop} (hR : ∀ r, R r r) {r r' : Record}
    (h : Alike R (.object r) (.object r')) : R r r' := by
  cases h with
  | same => exact hR r
  | object h => exact h

theorem Alike.imp {R R' : Record → Record → Prop} (hR : ∀ r r', R r r' → R' r r')
    {v v' : Value}
    (h : Alike R v v') : Alike R' v v' := by
  cases h with
  | same => exact .same v
  | object h => exact .object (hR _ _ h)

theorem ListedAlike.imp {R R' : Record → Record → Prop} (hR : ∀ r r', R r r' → R' r r')
    {v v' : Option Value} (h : ListedAlike R v v') : ListedAlike R' v v' := by
  cases h with
  | same => exact .same v
  | list h => exact .list (h.imp fun _ _ h => h.imp hR)

theorem MessageAlike.refl (r : Record) : MessageAlike r r :=
  .intro (.refl _ r) (.same _) (.same _) (.same _)

/-! ## What is read of alike records -/

/-- The entry of a key is among those of all keys that have a property of it. -/
theorem Value.get?_filter {p : String → Bool} {key : String} (hkey : p key) (r : Record) :
    Value.get? (r.filter (p ·.1)) key = Value.get? r key := by
  induction r with
  | nil => rfl
  | cons e rest ih =>
      rw [Value.get?, Value.get?] at ih ⊢
      rw [List.filter_cons]
      split
      · rw [List.lookup_cons, List.lookup_cons, ih]
      · next hfree =>
        have hne : ¬ key = e.1 := fun h => hfree (h ▸ hkey)
        rw [List.lookup_cons, beq_false_of_ne hne, ih]

theorem AgreeBut.of_filter {free : List String} {r r' : Record}
    (h : r'.filter (·.1 ∉ free) = r.filter (·.1 ∉ free)) : AgreeBut free r r' := by
  intro key hkey
  have hkept := Value.get?_filter (p := fun key => key ∉ free) (by simpa using hkey)
  rw [← hkept r', ← hkept r, h]

section

variable {free : List String} {r r' : Record}

theorem Load.attribute?_congr {spellings : List String}
    (h : ∀ key ∈ spellings, Value.get? r' key = Value.get? r key) :
    Load.attribute? r' spellings = Load.attribute? r spellings := by
  induction spellings with
  | nil => rfl
  | cons key rest ih =>
      rw [List.forall_mem_cons] at h
      have hrest := ih h.2
      rw [Load.attribute?, Load.attribute?] at hrest ⊢
      rw [List.findSome?_cons, List.findSome?_cons, h.1, hrest]

theorem AgreeBut.attribute?_eq (h : AgreeBut free r r') (spellings : List String)
    (hkept : ∀ key ∈ spellings, key ∉ free) :
    Load.attribute? r' spellings = Load.attribute? r spellings :=
  Load.attribute?_congr fun key hkey => h key (hkept key hkey)

theorem AgreeBut.name_eq (h : AgreeBut free r r') (hkept : "name" ∉ free)
    (place : Place) :
    Load.name place r' = Load.name place r := by
  rw [Load.name, Load.name, h.attribute?_eq _ (by simpa using hkept)]

theorem AgreeBut.description_eq (h : AgreeBut free r r') (hkept : "description" ∉ free)
    (place : Place) : Load.description place r' = Load.description place r := by
  rw [Load.description, Load.description, h.attribute?_eq _ (by simpa using hkept)]

theorem AgreeBut.list_eq (h : AgreeBut free r r') (key : String) (hkept : key ∉ free)
    (place : Place) : Load.list place r' key = Load.list place r key := by
  rw [Load.list, Load.list, h.attribute?_eq _ (by simpa using hkept)]

theorem ListedAlike.forall₂ {R : Record → Record → Prop} {key : String} {place : Place}
    {vs vs' : List Value} (h : ListedAlike R (Value.get? r key) (Value.get? r' key))
    (hvs : Load.list place r key = .ok vs) (hvs' : Load.list place r' key = .ok vs') :
    List.Forall₂ (Alike R) vs vs' := by
  rw [Load.list, Load.attribute?_singleton] at hvs hvs'
  generalize Value.get? r key = listed at h hvs
  generalize Value.get? r' key = listed' at h hvs'
  cases h with
  | same =>
      cases hvs.symm.trans hvs'
      exact List.forall₂_same.2 fun v _ => .same v
  | list h =>
      cases hvs
      cases hvs'
      exact h

/-- What is loaded from alike lists, seen in a way in which alike entries are
the same. -/
theorem ListedAlike.map_eq {α β : Type} {R : Record → Record → Prop}
    {key : String} {place : Place}
    {vs vs' : List Value} {f f' : Value → Load.Result α} {ys ys' : List α} {view : α → β}
    (h : ListedAlike R (Value.get? r key) (Value.get? r' key))
    (hvs : Load.list place r key = .ok vs) (hvs' : Load.list place r' key = .ok vs')
    (hys : vs.mapM f = .ok ys) (hys' : vs'.mapM f' = .ok ys')
    (hview : ∀ v v' y y', Alike R v v' → f v = .ok y → f' v' = .ok y' →
      view y' = view y) :
    ys'.map view = ys.map view := by
  have halike := h.forall₂ hvs hvs'
  rw [mapM_eq_ok_iff] at hys hys'
  clear h hvs hvs'
  induction halike generalizing ys ys' with
  | nil => cases hys; cases hys'; rfl
  | cons hv _ ih =>
      cases hys with
      | cons hy hys =>
      cases hys' with
      | cons hy' hys' =>
      rw [List.map_cons, List.map_cons, hview _ _ _ _ hv hy hy', ih hys hys']

end

/-! ## What alike records load as -/

theorem FieldAlike.redacted_eq {place : Place} {v v' : Value} {f f' : Field}
    (h : Alike FieldAlike v v') (hf : Load.field place v = .ok f)
    (hf' : Load.field place v' = .ok f') : f'.redacted = f.redacted := by
  simp only [Load.field, Load.name, bind_eq_ok_iff, Load.object_eq_ok_iff,
    Load.requiredText_eq_ok_iff, pure, Except.pure, Except.ok.injEq] at hf hf'
  obtain ⟨r, rfl, name, ⟨hname, -⟩, type, ⟨htype, -⟩, -, -, map, hmap, -, -, -, -, rfl⟩ :=
    hf
  obtain ⟨r', rfl, name', ⟨hname', -⟩, type', ⟨htype', -⟩, -,
      -, map', hmap', -, -, -, -, rfl⟩ :=
    hf'
  have hagree : FieldAlike r r' := h.of_objects (.refl _)
  rw [hagree.attribute?_eq _ (by decide), hname] at hname'
  cases hname'
  rw [hagree.attribute?_eq _ (by decide), htype] at htype'
  cases htype'
  rw [Load.mapType] at hmap hmap'
  rw [hagree.attribute?_eq ["key_type", "keyType"] (by decide),
    hagree.attribute?_eq ["value_type", "valueType"] (by decide)] at hmap'
  cases hmap.symm.trans hmap'
  rfl

theorem EnumAlike.redacted_eq {path scope : String} {v v' : Value} {e e' : EnumDef}
    (h : Alike EnumAlike v v') (he : Load.enumDef path scope v = .ok e)
    (he' : Load.enumDef path scope v' = .ok e') : e'.redacted = e.redacted := by
  simp only [Load.enumDef, Load.name, bind_eq_ok_iff, Load.object_eq_ok_iff,
    Load.requiredText_eq_ok_iff, pure, Except.pure, Except.ok.injEq] at he he'
  obtain ⟨r, rfl, name, ⟨hname, -⟩, -, -, -, -, -, -, rfl⟩ := he
  obtain ⟨r', rfl, name', ⟨hname', -⟩, -, -, -, -, -, -, rfl⟩ := he'
  have hagree : EnumAlike r r' := h.of_objects (.refl _)
  rw [hagree.attribute?_eq _ (by decide), hname] at hname'
  cases hname'
  rfl

theorem MethodAlike.redacted_eq {place : Place} {v v' : Value} {m m' : Method}
    (h : Alike MethodAlike v v') (hm : Load.method place v = .ok m)
    (hm' : Load.method place v' = .ok m') : m'.redacted = m.redacted := by
  simp only [Load.method, Load.name, bind_eq_ok_iff, Load.object_eq_ok_iff,
    Load.requiredText_eq_ok_iff, pure, Except.pure, Except.ok.injEq] at hm hm'
  obtain ⟨r, rfl, name, ⟨hname, -⟩, request, ⟨hrequest, -⟩, response, ⟨hresponse, -⟩,
    client, hclient, server, hserver, -, -, rfl⟩ := hm
  obtain ⟨r', rfl, name', ⟨hname', -⟩, request', ⟨hrequest', -⟩,
    response', ⟨hresponse', -⟩,
    client', hclient', server', hserver', -, -, rfl⟩ := hm'
  have hagree : MethodAlike r r' := h.of_objects (.refl _)
  rw [hagree.attribute?_eq _ (by decide), hname] at hname'
  cases hname'
  rw [hagree.attribute?_eq _ (by decide), hrequest] at hrequest'
  cases hrequest'
  rw [hagree.attribute?_eq _ (by decide), hresponse] at hresponse'
  cases hresponse'
  rw [Load.flag] at hclient hclient' hserver hserver'
  rw [hagree.attribute?_eq _ (by decide)] at hclient' hserver'
  cases hclient.symm.trans hclient'
  cases hserver.symm.trans hserver'
  rfl

theorem ServiceAlike.redacted_eq {path scope : String} {v v' : Value} {s s' : Service}
    (h : Alike ServiceAlike v v') (hs : Load.service path scope v = .ok s)
    (hs' : Load.service path scope v' = .ok s') : s'.redacted = s.redacted := by
  simp only [Load.service, Load.name, bind_eq_ok_iff, Load.object_eq_ok_iff,
    Load.requiredText_eq_ok_iff, pure, Except.pure, Except.ok.injEq] at hs hs'
  obtain ⟨r, rfl, name, ⟨hname, -⟩, vs, hvs, methods, hmethods, -, -, rfl⟩ := hs
  obtain ⟨r', rfl, name', ⟨hname', -⟩, vs', hvs', methods', hmethods', -, -, rfl⟩ := hs'
  obtain ⟨hagree, halike⟩ : ServiceAlike r r' :=
    h.of_objects fun r => ⟨.refl _ r, .same _⟩
  rw [hagree.attribute?_eq _ (by decide), hname] at hname'
  cases hname'
  have hsame := halike.map_eq hvs hvs' hmethods hmethods'
    fun _ _ _ _ h hm hm' => MethodAlike.redacted_eq h hm hm'
  simp only [Service.redacted, hsame]

/-- The two messages may be read to different depths. -/
theorem MessageAlike.redacted_eq {path : String} {fuel fuel' : Nat} : ∀ {scope : String}
    {v v' : Value} {m m' : Message}, Alike MessageAlike v v' →
    Load.message fuel path scope v = .ok m → Load.message fuel' path scope v' = .ok m' →
    m'.redacted = m.redacted := by
  induction fuel generalizing fuel' with
  | zero => exact fun _ hm => nomatch hm
  | succ fuel ih =>
      intro scope v v' m m' h hm hm'
      cases fuel' with
      | zero => exact nomatch hm'
      | succ fuel' =>
      simp only [Load.message, Load.name, bind_eq_ok_iff, Load.object_eq_ok_iff,
        Load.requiredText_eq_ok_iff, pure, Except.pure, Except.ok.injEq] at hm hm'
      obtain ⟨r, rfl, name, ⟨hname, -⟩, fs, hfs, fields, hfields,
        ms, hms, messages, hmessages,
        es, hes, enums, henums, -, -, rfl⟩ := hm
      obtain ⟨r', rfl, name', ⟨hname', -⟩, fs', hfs', fields',
        hfields', ms', hms', messages',
        hmessages', es', hes', enums', henums', -, -, rfl⟩ := hm'
      obtain ⟨hagree, hfa, hma, hea⟩ : MessageAlike r r' := h.of_objects .refl
      rw [hagree.attribute?_eq _ (by decide), hname] at hname'
      cases hname'
      have hfields := hfa.map_eq hfs hfs' hfields hfields'
        fun _ _ _ _ h hf hf' => FieldAlike.redacted_eq h hf hf'
      have hmessages :=
        hma.map_eq hms hms' hmessages hmessages' fun _ _ _ _ h hm hm' => ih h hm hm'
      have henums := hea.map_eq hes hes' henums henums'
        fun _ _ _ _ h he he' => EnumAlike.redacted_eq h he he'
      rw [Message.redacted, Message.redacted, redactedMessages_eq_map,
        redactedMessages_eq_map, hfields, hmessages, henums]

theorem FileAlike.redacted_eq {i : Nat} {v v' : Value} {f f' : File}
    (h : Alike FileAlike v v') (hf : Load.file i v = .ok f)
    (hf' : Load.file i v' = .ok f') :
    f'.redacted = f.redacted := by
  simp only [Load.file_eq, bind_eq_ok_iff, Load.object_eq_ok_iff,
    Load.requiredText_eq_ok_iff, pure, Except.pure, Except.ok.injEq] at hf hf'
  obtain ⟨r, rfl, path, ⟨hpath, -⟩, package, hpackage, ds, hds,
    dependencies, hdependencies,
    ms, hms, messages, hmessages, es, hes, enums, henums, ss,
    hss, services, hservices, -, -,
    rfl⟩ := hf
  obtain ⟨r', rfl, path', ⟨hpath', -⟩, package', hpackage', ds', hds', dependencies',
    hdependencies', ms', hms', messages', hmessages', es', hes',
    enums', henums', ss', hss',
    services', hservices', -, -, rfl⟩ := hf'
  obtain ⟨hagree, hma, hea, hsa⟩ : FileAlike r r' :=
    h.of_objects fun r => ⟨.refl _ r, .same _, .same _, .same _⟩
  rw [hagree.attribute?_eq _ (by decide), hpath] at hpath'
  cases hpath'
  rw [Load.package] at hpackage hpackage'
  rw [hagree.attribute?_eq _ (by decide)] at hpackage'
  cases hpackage.symm.trans hpackage'
  rw [Load.list] at hds hds'
  rw [hagree.attribute?_eq _ (by decide)] at hds'
  cases hds.symm.trans hds'
  cases hdependencies.symm.trans hdependencies'
  have hmessages := hma.map_eq hms hms' hmessages hmessages'
    fun _ _ _ _ h hm hm' => MessageAlike.redacted_eq h hm hm'
  have henums := hea.map_eq hes hes' henums henums'
    fun _ _ _ _ h he he' => EnumAlike.redacted_eq h he he'
  have hservices := hsa.map_eq hss hss' hservices hservices'
    fun _ _ _ _ h hs hs' => ServiceAlike.redacted_eq h hs hs'
  simp only [File.redacted, redactedMessages_eq_map, hmessages, henums, hservices]

end SchemaDocs
