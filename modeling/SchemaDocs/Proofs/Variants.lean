import SchemaDocs.Proofs.Acceptance
import SchemaDocs.Proofs.Alike
import SchemaDocs.Proofs.Changes

/-!
# Descriptions that vary in their fields and methods

Two descriptions have the same records, but for those of fields and methods,
at any depth. Whether they load as the same then depends on the fields and the
methods alone. If each two of them fail together or load as what a change
makes the same, so do the two descriptions.

A field or a method does not say at which depth it is. The depth to which
messages are read is another one for each of the descriptions, and it covers
both.
-/

namespace SchemaDocs

open Load (Record attribute?)

/-! ## Records that vary inside -/

inductive MessageVaries (F : Record → Record → Prop) : Record → Record → Prop
  | intro {r r' : Record} (agree : AgreeBut ["fields", "messages"] r r')
      (fields : ListedAlike F (Value.get? r "fields") (Value.get? r' "fields"))
      (messages : ListedAlike (MessageVaries F) (Value.get? r "messages")
        (Value.get? r' "messages")) : MessageVaries F r r'

structure ServiceVaries (M : Record → Record → Prop) (r r' : Record) : Prop where
  agree : AgreeBut ["methods"] r r'
  methods : ListedAlike M (Value.get? r "methods") (Value.get? r' "methods")

structure FileVaries (F M : Record → Record → Prop) (r r' : Record) : Prop where
  path : attribute? r' ["path", "name"] = attribute? r ["path", "name"]
  agree : AgreeBut ["path", "name", "messages", "services"] r r'
  messages : ListedAlike (MessageVaries F) (Value.get? r "messages")
    (Value.get? r' "messages")
  services : ListedAlike (ServiceVaries M) (Value.get? r "services")
    (Value.get? r' "services")

structure SchemaVaries (R : Record → Record → Prop) (r r' : Record) : Prop where
  files : ListedAlike R (Value.get? r "files") (Value.get? r' "files")

section

variable (F M : Record → Record → Prop) (r : Record)

theorem MessageVaries.refl : MessageVaries F r r := .intro (.refl _ r) (.same _) (.same _)

theorem ServiceVaries.refl : ServiceVaries M r r := ⟨.refl _ r, .same _⟩

theorem FileVaries.refl : FileVaries F M r r := ⟨rfl, .refl _ r, .same _, .same _⟩

end

/-! ## What is read of them -/

section

variable {R : Record → Record → Prop} {place : Place}

theorem Alike.object_alongside (hR : ∀ r, R r r) {v v' : Value} (h : Alike R v v') :
    Alongside Eq (fun r r' => R r r' ∧ v = .object r ∧ v' = .object r')
      (Load.object place v) (Load.object place v') := by
  cases h with
  | same =>
      cases v with
      | object r => exact .ok ⟨hR r, rfl, rfl⟩
      | _ => exact .error rfl
  | object h => exact .ok ⟨h, rfl, rfl⟩

/-- Two alike entries, each with the record that lists it. -/
structure Entries (R : Record → Record → Prop) (key : String)
    (r r' : Record) (v v' : Value) :
    Prop where
  alike : Alike R v v'
  left : ∃ vs, attribute? r [key] = some (.list vs) ∧ v ∈ vs
  right : ∃ vs, attribute? r' [key] = some (.list vs) ∧ v' ∈ vs

theorem forall₂_entries {key : String} {r r' : Record} {vs vs' : List Value}
    (h : List.Forall₂ (Alike R) vs vs') (hvs : attribute? r [key] = some (.list vs))
    (hvs' : attribute? r' [key] = some (.list vs')) :
    List.Forall₂ (Entries R key r r') vs vs' := by
  rw [List.forall₂_iff_zip] at h ⊢
  refine ⟨h.1, fun hmem => ?_⟩
  obtain ⟨hv, hv'⟩ := List.of_mem_zip hmem
  exact ⟨h.2 hmem, ⟨vs, hvs, hv⟩, vs', hvs', hv'⟩

theorem ListedAlike.list_alongside {key : String} {r r' : Record}
    (h : ListedAlike R (Value.get? r key) (Value.get? r' key)) :
    Alongside Eq (List.Forall₂ (Entries R key r r')) (Load.list place r key)
      (Load.list place r' key) := by
  rw [← Load.attribute?_singleton, ← Load.attribute?_singleton] at h
  have hentries := fun vs vs' => @forall₂_entries R key r r' vs vs'
  rw [Load.list, Load.list]
  generalize attribute? r [key] = listed at h hentries
  generalize attribute? r' [key] = listed' at h hentries
  cases h with
  | same =>
      split
      · exact .ok .nil
      · exact .ok .nil
      · next vs =>
          exact .ok (hentries vs vs (List.forall₂_same.2 fun v _ => .same v) rfl rfl)
      · exact .error rfl
  | list h => exact .ok (hentries _ _ h rfl rfl)

theorem map_eq_of_forall₂ {α β : Type} {g : α → β} {as as' : List α}
    (h : List.Forall₂ (fun a a' => g a' = g a) as as') : as'.map g = as.map g := by
  induction h with
  | nil => rfl
  | cons h _ ih => rw [List.map_cons, List.map_cons, h, ih]

end

/-! ## What they load as -/

section

variable {c : Change} {F M : Record → Record → Prop}
  (hF : ∀ place v v', Alike F v v' →
    Alongside Eq (fun f f' => c.field f' = c.field f) (Load.field place v)
      (Load.field place v'))
  (hM : ∀ place v v', Alike M v v' →
    Alongside Eq Eq (Load.method place v) (Load.method place v'))

include hF in
/-- By the depths to which the two messages are read. -/
theorem MessageVaries.load {path : String} {fuel : Nat} : ∀ {fuel' : Nat} {scope : String}
    {v v' : Value}, Alike (MessageVaries F) v v' → v.depth ≤ fuel → v'.depth ≤ fuel' →
    Alongside Eq (fun m m' => c.message m' = c.message m) (Load.message fuel path scope v)
      (Load.message fuel' path scope v') := by
  have hdeep : ∀ v : Value, ¬ v.depth ≤ 0 := fun v => by cases v <;> simp [Value.depth]
  induction fuel with
  | zero => exact fun _ h => absurd h (hdeep _)
  | succ fuel ih =>
      intro fuel' scope v v' h hdepth hdepth'
      cases fuel' with
      | zero => exact absurd hdepth' (hdeep _)
      | succ fuel' =>
      rw [Load.message, Load.message]
      refine (h.object_alongside (.refl F)).bind ?_
      rintro r r' ⟨⟨hagree, hfields, hmessages⟩, rfl, rfl⟩
      have hname := hagree.name_eq (by decide)
      have henums := hagree.list_eq "enums" (by decide)
      have hdescription := hagree.description_eq (by decide)
      have hnested (scope : String) (v v' : Value)
          (hv : Entries (MessageVaries F) "messages" r r' v v') :
          Alongside Eq (fun m m' => c.message m' = c.message m)
            (Load.message fuel path scope v) (Load.message fuel' path scope v') := by
        obtain ⟨halike, ⟨_, hlist, hmem⟩, _, hlist', hmem'⟩ := hv
        have hless := Value.depth_lt_of_listed hlist hmem
        have hless' := Value.depth_lt_of_listed hlist' hmem'
        exact ih halike (Nat.le_of_lt_succ (hless.trans_le hdepth))
          (Nat.le_of_lt_succ (hless'.trans_le hdepth'))
      simp only [hname, henums, hdescription]
      refine .behind _ fun name => hfields.list_alongside.bind fun vs vs' hvs => ?_
      refine (Alongside.mapM hvs fun v v' hv => hF _ v v' hv.alike).bind
        fun fs fs' hfs => ?_
      refine hmessages.list_alongside.bind fun vs vs' hvs => ?_
      refine (Alongside.mapM hvs (hnested _)).bind fun ms ms' hms => ?_
      refine .behind _ fun es => .behind _ fun enums => .behind _ fun text => .ok ?_
      rw [Change.message, Change.message, c.messageAll_eq_map, c.messageAll_eq_map,
        map_eq_of_forall₂ hfs, map_eq_of_forall₂ hms]

include hM in
theorem ServiceVaries.load {path scope : String} {v v' : Value}
    (h : Alike (ServiceVaries M) v v') :
    Alongside Eq Eq (Load.service path scope v) (Load.service path scope v') := by
  rw [Load.service, Load.service]
  refine (h.object_alongside (.refl M)).bind ?_
  rintro r r' ⟨⟨hagree, hmethods⟩, -, -⟩
  have hname := hagree.name_eq (by decide)
  have hdescription := hagree.description_eq (by decide)
  simp only [hname, hdescription]
  refine .behind _ fun name => hmethods.list_alongside.bind fun vs vs' hvs => ?_
  refine (Alongside.mapM hvs fun v v' hv => hM _ v v' hv.alike).bind fun ms ms' hms => ?_
  refine .behind _ fun text => .ok ?_
  rw [List.forall₂_eq_eq_eq] at hms
  rw [hms]

include hF hM in
theorem FileVaries.load {i : Nat} {v v' : Value} (h : Alike (FileVaries F M) v v') :
    Alongside Eq (fun f f' => c.file f' = c.file f) (Load.file i v) (Load.file i v') := by
  rw [Load.file_eq, Load.file_eq]
  refine (h.object_alongside (.refl F M)).bind ?_
  rintro r r' ⟨⟨hpath, hagree, hmessages, hservices⟩, rfl, rfl⟩
  have hpackage (place : Place) : Load.package place r' = Load.package place r := by
    rw [Load.package, Load.package, hagree.attribute?_eq _ (by decide)]
  have hdependencies := hagree.list_eq "dependencies" (by decide)
  have henums := hagree.list_eq "enums" (by decide)
  have hdescription := hagree.description_eq (by decide)
  have hnested (path package : String) (v v' : Value)
      (hv : Entries (MessageVaries F) "messages" r r' v v') :
      Alongside Eq (fun m m' => c.message m' = c.message m)
        (Load.message (Value.object r).depth path package v)
        (Load.message (Value.object r').depth path package v') := by
    obtain ⟨halike, ⟨_, hlist, hmem⟩, _, hlist', hmem'⟩ := hv
    exact MessageVaries.load hF halike (Value.depth_lt_of_listed hlist hmem).le
      (Value.depth_lt_of_listed hlist' hmem').le
  simp only [hpath, hpackage, hdependencies, henums, hdescription]
  refine .behind _ fun path => .behind _ fun package => .behind _ fun ds => ?_
  refine .behind _ fun dependencies => hmessages.list_alongside.bind fun vs vs' hvs => ?_
  refine (Alongside.mapM hvs (hnested path package)).bind fun ms ms' hms => ?_
  refine .behind _ fun es => .behind _ fun enums => ?_
  refine hservices.list_alongside.bind fun vs vs' hvs => ?_
  refine (Alongside.mapM hvs fun v v' hv => ServiceVaries.load hM hv.alike).bind
    fun ss ss' hss => .behind _ fun text => .ok ?_
  rw [List.forall₂_eq_eq_eq] at hss
  rw [Change.file, Change.file, map_eq_of_forall₂ hms, hss]

include hF hM in
theorem FileVaries.load_all {vs vs' : List Value}
    (h : List.Forall₂ (Alike (FileVaries F M)) vs vs') : ∀ i : Nat,
    Alongside Eq (fun fs fs' => fs'.map c.file = fs.map c.file) (Load.files i vs)
      (Load.files i vs') := by
  induction h with
  | nil => exact fun _ => .ok rfl
  | cons hv _ ih =>
      intro i
      rw [Load.files, Load.files]
      refine (FileVaries.load hF hM hv).bind fun f f' hf =>
        (ih (i + 1)).bind fun fs fs' hfs => ?_
      exact .ok (by rw [List.map_cons, List.map_cons, hf, hfs])

include hF hM in
/-- Descriptions that vary in their fields and methods load as the same up to
a change of the fields, or fail with the same error. -/
theorem SchemaVaries.load {raw raw' : Value}
    (h : Alike (SchemaVaries (FileVaries F M)) raw raw')
    (routeBase : Value) :
    Alongside Eq (fun s s' => c.schema s' = c.schema s) (Schema.load raw routeBase)
      (Schema.load raw' routeBase) := by
  cases h with
  | same =>
      refine .same (fun _ => rfl) ?_ _
      exact fun _ => rfl
  | @object r r' h =>
      have hlists (vs vs' : List Value) (hvs : Value.get? r "files" = some (.list vs))
          (hvs' : Value.get? r' "files" = some (.list vs'))
          (hall : List.Forall₂ (Alike (FileVaries F M)) vs vs') :
          Alongside Eq (fun s s' => c.schema s' = c.schema s)
            (Schema.load (.object r) routeBase) (Schema.load (.object r') routeBase) := by
        rw [Schema.load_eq ⟨r, rfl, hvs⟩, Schema.load_eq ⟨r', rfl, hvs'⟩]
        refine .behind _ fun base =>
          (FileVaries.load_all hF hM hall 0).bind fun fs fs' hfs => ?_
        exact .ok (by rw [Change.schema, Change.schema, hfs])
      have hnone := fun r => @Schema.load_of_no_files r routeBase
      have hfiles := h.files
      have hleft := hnone r
      have hright := hnone r'
      generalize Value.get? r "files" = listed at hfiles hlists hleft
      generalize Value.get? r' "files" = listed' at hfiles hlists hright
      cases hfiles with
      | list hall => exact hlists _ _ rfl rfl hall
      | same =>
          by_cases hvs : ∃ vs, listed = some (.list vs)
          · obtain ⟨vs, rfl⟩ := hvs
            exact hlists vs vs rfl rfl (List.forall₂_same.2 fun v _ => .same v)
          · rw [hleft fun vs h => hvs ⟨vs, h⟩, hright fun vs h => hvs ⟨vs, h⟩]
            exact .error rfl

end

end SchemaDocs
