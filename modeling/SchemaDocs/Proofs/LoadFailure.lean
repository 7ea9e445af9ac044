import SchemaDocs.Proofs.Acceptance

/-!
# What is said of a description that is not loaded

Loading breaks off at the first fault. If the description has no list of
records, or the route base is not text, there is nothing else to say. Otherwise
the fault is that of the first record in the list that is refused, and it is
the same that loading this record alone gives.

A record that has a path refuses everything under it, at whatever depth the
fault is, so that the message starts with the path.
-/

namespace SchemaDocs

open Load (Record attribute?)
open Value (IsText)

/-- The fault of the first record that is refused. The records are numbered,
and each is loaded on its own under its number. -/
inductive FirstRefused (index : Nat) (records : List Value) : LoadError → Prop
  | intro {i : Nat} {v : Value} {e : LoadError} (hv : records[i]? = some v)
      (hrefused : Load.file (index + i) v = .error e)
      (hbefore : ∀ j w, j < i → records[j]? = some w →
        ∃ f, Load.file (index + j) w = .ok f) :
      FirstRefused index records e

/-- What can be said of a description that is not loaded. -/
inductive LoadFails (raw routeBase : Value) : LoadError → Prop
  | notAnObject (h : ∀ r, raw ≠ .object r) :
      LoadFails raw routeBase (.notADescriptorSet raw.kind)
  | noFiles {r : Record} (hraw : raw = .object r)
      (h : ∀ records, Value.get? r "files" ≠ some (.list records)) :
      LoadFails raw routeBase .noFileList
  | routeBase {records : List Value} (hraw : raw.Describes records)
      (hbase : ¬ Optional IsText (some routeBase)) :
      LoadFails raw routeBase (.routeBaseNotText routeBase.kind)
  | record {records : List Value} {e : LoadError} (hraw : raw.Describes records)
      (hbase : Optional IsText (some routeBase)) (he : FirstRefused 0 records e) :
      LoadFails raw routeBase e

/-! ## The first record -/

theorem not_firstRefused_nil {index : Nat} {e : LoadError} :
    ¬ FirstRefused index [] e := by
  rintro ⟨hv, -, -⟩
  rw [List.getElem?_nil] at hv
  cases hv

theorem firstRefused_cons_iff {index : Nat} {v : Value} {rest : List Value}
    {e : LoadError} :
    FirstRefused index (v :: rest) e ↔ Load.file index v = .error e ∨
      ∃ f, Load.file index v = .ok f ∧ FirstRefused (index + 1) rest e := by
  constructor
  · rintro @⟨i, w, _, hv, hrefused, hbefore⟩
    cases i with
    | zero =>
        rw [List.getElem?_cons_zero] at hv
        cases hv
        exact .inl hrefused
    | succ i =>
        -- the first record is in order, and the rest is numbered from the next on
        rw [List.getElem?_cons_succ] at hv
        have hshift (j : Nat) : index + (j + 1) = index + 1 + j := by omega
        obtain ⟨f, hf⟩ := hbefore 0 v i.succ_pos List.getElem?_cons_zero
        rw [hshift] at hrefused
        refine .inr ⟨f, hf, .intro hv hrefused fun j w hj hw => ?_⟩
        rw [← hshift]
        exact hbefore (j + 1) w (Nat.succ_lt_succ hj) (by rwa [List.getElem?_cons_succ])
  · rintro (hrefused | ⟨f, hf, @⟨i, w, _, hv, hrefused, hbefore⟩⟩)
    · exact .intro List.getElem?_cons_zero hrefused fun j _ hj =>
        absurd hj (Nat.not_lt_zero j)
    · have hshift (j : Nat) : index + 1 + j = index + (j + 1) := by omega
      rw [hshift] at hrefused
      refine .intro (i := i + 1) (by rwa [List.getElem?_cons_succ]) hrefused
        fun j w hj hw => ?_
      cases j with
      | zero =>
          rw [List.getElem?_cons_zero] at hw
          cases hw
          exact ⟨f, hf⟩
      | succ j =>
          rw [List.getElem?_cons_succ] at hw
          rw [← hshift]
          exact hbefore j w (Nat.lt_of_succ_lt_succ hj) hw

/-- By the list: the first record is refused, or it is loaded and the others
decide. -/
theorem files_eq_error_iff {records : List Value} {e : LoadError} : ∀ {index : Nat},
    Load.files index records = .error e ↔ FirstRefused index records e := by
  induction records with
  | nil => exact fun {index} => iff_of_false (by simp [Load.files]) not_firstRefused_nil
  | cons v rest ih =>
      intro index
      rw [Load.files, bind_eq_error_iff, firstRefused_cons_iff]
      refine or_congr Iff.rfl (exists_congr fun f => and_congr_right fun _ => ?_)
      rw [bind_eq_error_iff, ih]
      exact or_iff_left (by rintro ⟨fs, -, h⟩; cases h)

/-! ## The whole description -/

theorem base_eq_error_iff {routeBase : Value} {e : LoadError} :
    Load.base routeBase = .error e ↔
      ¬ Optional IsText (some routeBase) ∧ e = .routeBaseNotText routeBase.kind := by
  cases h : Load.base routeBase with
  | ok base =>
      have htext := base_checks.1 ⟨base, h⟩
      simp [htext]
  | error e' =>
      have htext : ¬ Optional IsText (some routeBase) := by
        rw [← base_checks, h]
        simp
      have hkind : e' = .routeBaseNotText routeBase.kind := by
        cases routeBase <;> cases h <;> rfl
      subst hkind
      simp [htext, eq_comm]

theorem LoadFails.load_eq {raw routeBase : Value} {e : LoadError}
    (h : LoadFails raw routeBase e) :
    Schema.load raw routeBase = .error e := by
  cases h with
  | notAnObject h => exact Schema.load_of_not_object h
  | noFiles hraw h =>
      subst hraw
      exact Schema.load_of_no_files h
  | routeBase hraw hbase =>
      rw [Schema.load_eq hraw, bind_eq_error_iff, base_eq_error_iff]
      exact .inl ⟨hbase, rfl⟩
  | record hraw hbase he =>
      rw [← base_checks] at hbase
      obtain ⟨base, hbase⟩ := hbase
      rw [← files_eq_error_iff] at he
      rw [Schema.load_eq hraw, hbase, he]
      rfl

/-- Every description is loaded, or something is to be said of it. -/
theorem load_or_fails (raw routeBase : Value) :
    (∃ schema, Schema.load raw routeBase = .ok schema) ∨
      ∃ e, LoadFails raw routeBase e := by
  by_cases hobject : ∃ r, raw = .object r
  case neg => exact .inr ⟨_, .notAnObject (not_exists.1 hobject)⟩
  obtain ⟨r, rfl⟩ := hobject
  by_cases hfiles : ∃ records, Value.get? r "files" = some (.list records)
  case neg => exact .inr ⟨_, .noFiles rfl (not_exists.1 hfiles)⟩
  obtain ⟨records, hrecords⟩ := hfiles
  have hraw : (Value.object r).Describes records := ⟨r, rfl, hrecords⟩
  by_cases hbase : Optional IsText (some routeBase)
  case neg => exact .inr ⟨_, .routeBase hraw hbase⟩
  cases hloaded : Load.files 0 records with
  | ok files =>
      obtain ⟨base, hbase⟩ := base_checks.2 hbase
      rw [Schema.load_eq hraw, hbase, hloaded]
      exact .inl ⟨_, rfl⟩
  | error e => exact .inr ⟨e, .record hraw hbase (files_eq_error_iff.1 hloaded)⟩

theorem load_eq_error_iff {raw routeBase : Value} {e : LoadError} :
    Schema.load raw routeBase = .error e ↔ LoadFails raw routeBase e := by
  refine ⟨fun h => ?_, LoadFails.load_eq⟩
  obtain ⟨schema, hschema⟩ | ⟨e', he'⟩ := load_or_fails raw routeBase
  · cases h.symm.trans hschema
  · cases h.symm.trans he'.load_eq
    exact he'

/-! ## Where the fault is -/

theorem LoadError.Below.message_eq {path : String} {e : LoadError}
    (h : e.Below [.file path]) :
    ∃ words, e.message = path ++ ": " ++ words := by
  obtain ⟨inner, fault, rfl⟩ := h
  exact ⟨_, rfl⟩

/-- A description is loaded, or there is one thing to be said of it: if its
records are to blame, the fault of the first that is refused. The message about
a record that has a path starts with this path. -/
theorem load_failures_located (raw routeBase : Value) :
    ((∃ schema, Schema.load raw routeBase = .ok schema) ∨
      ∃ e, LoadFails raw routeBase e) ∧
      (∀ e, Schema.load raw routeBase = .error e ↔ LoadFails raw routeBase e) ∧
      ∀ i r path e, attribute? r ["path", "name"] = some (.text path) → path ≠ "" →
        Load.file i (.object r) = .error e →
        ∃ words, e.message = path ++ ": " ++ words := by
  refine ⟨load_or_fails raw routeBase, fun e => load_eq_error_iff, ?_⟩
  intro i r path e hpath hnamed he
  exact ((namedFile_checks hpath hnamed).below he).message_eq

/-- The record of a file with a field that has no type, two messages down. -/
def untypedField : Record := [
  ("path", .text "b.proto"), ("package", .text "p"),
  ("messages", .list [.object [("name", .text "Outer"),
    ("messages", .list [.object [("name", .text "Inner"),
      ("fields", .list [.object [("name", .text "x")]])]])]])]

/-- It stands between a file that is in order and one that has no package. -/
def untypedFields : Value := .object [("files", .list [
  .object [("path", .text "a.proto"), ("package", .null)], .object untypedField,
  .object [("path", .text "c.proto")]])]

theorem load_failures_located_untyped :
    let e :=
      LoadError.at [.file "b.proto", .message "p.Outer.Inner", .field "x"]
        (.missing "type")
    LoadFails untypedFields .null e ∧ Load.file 1 (.object untypedField) = .error e ∧
      ∃ words, e.message = "b.proto" ++ ": " ++ words :=
  have h := load_failures_located untypedFields .null
  ⟨(h.2.1 _).1 rfl, rfl, h.2.2 1 untypedField "b.proto" _ rfl (by decide) rfl⟩

end SchemaDocs
