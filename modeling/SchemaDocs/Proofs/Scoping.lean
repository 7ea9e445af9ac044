import SchemaDocs.Proofs.Declarations
import SchemaDocs.Schema.Resolve

/-!
# What a type name denotes

The rule of scopes, stated without the list of candidates that the look-up
goes through. A name with a dot in front is the full name behind the dot. Any
other is tried in front of the first `k` parts of its scope, and what counts
is the largest `k` under which a message or an enum is declared. Services are
no types: a service under a larger `k` changes nothing.

`denotes_iff` is the bridge: as long as no full name is declared twice, a name
denotes exactly what the index says it refers to. So the rule leaves no choice,
and nothing that is said of references below opens the look-up again.
-/

namespace SchemaDocs

/-- Some file declares a message or an enum under a full name. -/
def TypeDeclared (files : List File) (fullName path : String)
    (kind : EntityKind) : Prop :=
  (∃ f ∈ files, f.path = path ∧ f.Declares kind fullName) ∧ kind ≠ .service

/-- The full name that a relative name has in the first `k` parts of a scope. -/
def nameIn (scope : String) (k : Nat) (name : String) : String :=
  qualify (Text.join "." ((scopeParts scope).take k)) name

/-- What a type name denotes in a scope. -/
inductive Denotes (files : List File) (scope name : String) : TypeRef → Prop
  | primitive (hp : name ∈ primitiveNames) :
      Denotes files scope name (.primitive name)
  | absolute {rest path : String} {kind : EntityKind}
      (hp : name ∉ primitiveNames) (hn : name = "." ++ rest)
      (hd : TypeDeclared files rest path kind) :
      Denotes files scope name (.resolved rest path kind)
  | absoluteUnknown {rest : String}
      (hp : name ∉ primitiveNames) (hn : name = "." ++ rest)
      (hd : ∀ path kind, ¬ TypeDeclared files rest path kind) :
      Denotes files scope name (.unresolved name)
  | relative {k : Nat} {path : String} {kind : EntityKind}
      (hp : name ∉ primitiveNames) (hn : ∀ rest, name ≠ "." ++ rest)
      (hk : k ≤ (scopeParts scope).length)
      (hd : TypeDeclared files (nameIn scope k name) path kind)
      (inner : ∀ j, k < j → j ≤ (scopeParts scope).length →
        ∀ path kind, ¬ TypeDeclared files (nameIn scope j name) path kind) :
      Denotes files scope name (.resolved (nameIn scope k name) path kind)
  | relativeUnknown
      (hp : name ∉ primitiveNames) (hn : ∀ rest, name ≠ "." ++ rest)
      (hd : ∀ j ≤ (scopeParts scope).length,
        ∀ path kind, ¬ TypeDeclared files (nameIn scope j name) path kind) :
      Denotes files scope name (.unresolved name)

/-! ## The candidates, in the order in which they are tried -/

theorem toList_eq_dot_cons_iff {name : String} {rest : List Char} :
    name.toList = '.' :: rest ↔ name = "." ++ String.ofList rest := by
  constructor
  · intro h
    rw [← String.toList_inj, h]
    simp
  · rintro rfl
    simp

theorem candidates_absolute {rest scope : String} :
    candidates ("." ++ rest) scope = [rest] := by
  have h : ("." ++ rest).toList = '.' :: rest.toList := by
    rw [String.toList_append]
    rfl
  rw [candidates, h]
  simp

theorem candidates_relative {name scope : String}
    (hn : ∀ rest, name ≠ "." ++ rest) :
    candidates name scope =
      (List.range ((scopeParts scope).length + 1)).reverse.map
        fun k => nameIn scope k name := by
  rw [candidates]
  split
  · next rest h => exact absurd (toList_eq_dot_cons_iff.1 h) (hn _)
  · rw [prefixesDown, List.map_map]
    rfl

/-- Counting down, the first hit is the largest. -/
theorem findSome?_countdown_eq_some_iff {α : Type} {f : Nat → Option α} {n : Nat}
    {a : α} :
    (List.range (n + 1)).reverse.findSome? f = some a ↔
      ∃ k ≤ n, f k = some a ∧ ∀ j, k < j → j ≤ n → f j = none := by
  induction n with
  | zero =>
      simp only [Nat.zero_add, List.range_one, List.reverse_singleton,
        List.findSome?_singleton]
      constructor
      · intro h
        exact ⟨0, Nat.le_refl 0, h, fun j hj hj' => by omega⟩
      · rintro ⟨k, hk, h, -⟩
        rwa [Nat.le_zero.1 hk] at h
  | succ n ih =>
      rw [List.range_succ, List.reverse_append, List.reverse_singleton,
        List.singleton_append, List.findSome?_cons]
      cases hf : f (n + 1) with
      | some b =>
          simp only [Option.some.injEq]
          constructor
          · rintro rfl
            exact ⟨n + 1, Nat.le_refl _, hf, fun j hj hj' => by omega⟩
          · rintro ⟨k, hk, h, hlast⟩
            rcases Nat.lt_or_ge k (n + 1) with hlt | hge
            · rw [hlast (n + 1) hlt (Nat.le_refl _)] at hf
              cases hf
            · rw [Nat.le_antisymm hk hge, hf] at h
              exact Option.some.inj h
      | none =>
          simp only []
          rw [ih]
          constructor
          · rintro ⟨k, hk, h, hlast⟩
            refine ⟨k, by omega, h, fun j hj hj' => ?_⟩
            rcases Nat.lt_or_ge j (n + 1) with hlt | hge
            · exact hlast j hj (by omega)
            · rwa [Nat.le_antisymm hj' hge]
          · rintro ⟨k, hk, h, hlast⟩
            have hne : k ≠ n + 1 := by
              rintro rfl
              rw [hf] at h
              cases h
            exact ⟨k, by omega, h, fun j hj hj' => hlast j hj (by omega)⟩

/-! ## The look-up finds what is declared -/

section

variable {files : List File} (hnd : (declaredNames files).Nodup)

include hnd

theorem find?_declarations_eq_some_iff {name : String} {d : Declaration} :
    Index.find? (declarations files) name = some d ↔
      d ∈ declarations files ∧ d.fullName = name :=
  Index.find?_eq_some_iff (by rwa [map_fullName_declarations])

theorem findType?_eq_some_iff {name : String} {d : Declaration} :
    Index.findType? (declarations files) name = some d ↔
      d ∈ declarations files ∧ d.fullName = name ∧ d.kind ≠ .service := by
  rw [Index.findType?]
  cases hf : Index.find? (declarations files) name with
  | none =>
      have hno := Index.find?_eq_none_iff.1 hf
      simp only [reduceCtorEq, false_iff, not_and]
      rintro hd rfl
      exact absurd (List.mem_map_of_mem hd) hno
  | some e =>
      have he := (find?_declarations_eq_some_iff hnd).1 hf
      simp only []
      constructor
      · intro h
        split at h
        · cases h
        · next hk =>
            cases h
            exact ⟨he.1, he.2, hk⟩
      · rintro ⟨hd, hname, hk⟩
        have := (find?_declarations_eq_some_iff hnd).2 ⟨hd, hname⟩
        rw [hf, Option.some.injEq] at this
        rw [this, if_neg hk]

/-- A type is declared under a name exactly when the index has it. -/
theorem typeDeclared_iff {name path : String} {kind : EntityKind} :
    TypeDeclared files name path kind ↔
      ∃ d, Index.findType? (declarations files) name = some d ∧
        d.file = path ∧ d.kind = kind := by
  rw [TypeDeclared, ← exists_declaration_iff]
  constructor
  · rintro ⟨⟨d, hd, hname, rfl, rfl⟩, hk⟩
    exact ⟨d, (findType?_eq_some_iff hnd).2 ⟨hd, hname, hk⟩, rfl, rfl⟩
  · rintro ⟨d, hf, rfl, rfl⟩
    obtain ⟨hd, hname, hk⟩ := (findType?_eq_some_iff hnd).1 hf
    exact ⟨⟨d, hd, hname, rfl, rfl⟩, hk⟩

theorem findType?_eq_none_iff {name : String} :
    Index.findType? (declarations files) name = none ↔
      ∀ path kind, ¬ TypeDeclared files name path kind := by
  constructor
  · intro h path kind hd
    obtain ⟨d, hf, -⟩ := (typeDeclared_iff hnd).1 hd
    rw [h] at hf
    cases hf
  · intro h
    cases hf : Index.findType? (declarations files) name with
    | none => rfl
    | some d => exact absurd ((typeDeclared_iff hnd).2 ⟨d, hf, rfl, rfl⟩) (h _ _)

theorem lookup?_relative_eq_some_iff {scope name : String} {d : Declaration}
    (hn : ∀ rest, name ≠ "." ++ rest) :
    Index.lookup? (declarations files) scope name = some d ↔
      ∃ k ≤ (scopeParts scope).length,
        Index.findType? (declarations files) (nameIn scope k name) = some d ∧
        ∀ j, k < j → j ≤ (scopeParts scope).length →
          ∀ path kind, ¬ TypeDeclared files (nameIn scope j name) path kind := by
  rw [Index.lookup?, candidates_relative hn, List.findSome?_map,
    findSome?_countdown_eq_some_iff]
  simp only [Function.comp_apply, findType?_eq_none_iff hnd]

theorem lookup?_relative_eq_none_iff {scope name : String}
    (hn : ∀ rest, name ≠ "." ++ rest) :
    Index.lookup? (declarations files) scope name = none ↔
      ∀ j ≤ (scopeParts scope).length,
        ∀ path kind, ¬ TypeDeclared files (nameIn scope j name) path kind := by
  rw [Index.lookup?, candidates_relative hn, List.findSome?_map,
    List.findSome?_eq_none_iff]
  simp only [List.mem_reverse, List.mem_range, Nat.lt_succ_iff,
    Function.comp_apply, findType?_eq_none_iff hnd]

theorem denotes_reference (scope name : String) :
    Denotes files scope name
      (Index.reference (declarations files) scope name) := by
  rw [Index.reference]
  split
  · next hp => exact .primitive (by simpa [isPrimitive] using hp)
  · next hp =>
      replace hp : name ∉ primitiveNames := by simpa [isPrimitive] using hp
      by_cases hn : ∃ rest, name = "." ++ rest
      · obtain ⟨rest, rfl⟩ := hn
        rw [Index.lookup?, candidates_absolute, List.findSome?_singleton]
        split
        · next d hd =>
            rw [((findType?_eq_some_iff hnd).1 hd).2.1]
            exact .absolute hp rfl ((typeDeclared_iff hnd).2 ⟨d, hd, rfl, rfl⟩)
        · next hd => exact .absoluteUnknown hp rfl ((findType?_eq_none_iff hnd).1 hd)
      · rw [not_exists] at hn
        split
        · next d hd =>
            obtain ⟨k, hk, hd, inner⟩ := (lookup?_relative_eq_some_iff hnd hn).1 hd
            rw [((findType?_eq_some_iff hnd).1 hd).2.1]
            exact .relative hp hn hk ((typeDeclared_iff hnd).2 ⟨d, hd, rfl, rfl⟩)
              inner
        · next hd =>
            exact .relativeUnknown hp hn
              ((lookup?_relative_eq_none_iff hnd hn).1 hd)

/-- The rule leaves no choice. -/
theorem Denotes.eq_reference {scope name : String} {t : TypeRef}
    (h : Denotes files scope name t) :
    t = Index.reference (declarations files) scope name := by
  have hprim (hp : name ∉ primitiveNames) : ¬ isPrimitive name = true := by
    simpa [isPrimitive] using hp
  rw [Index.reference]
  cases h with
  | primitive hp =>
      rw [if_pos (by simpa [isPrimitive] using hp)]
  | absolute hp hn ht =>
      obtain ⟨d, hd, rfl, rfl⟩ := (typeDeclared_iff hnd).1 ht
      rw [if_neg (hprim hp), hn, Index.lookup?, candidates_absolute,
        List.findSome?_singleton, hd]
      simp only []
      rw [((findType?_eq_some_iff hnd).1 hd).2.1]
  | absoluteUnknown hp hn hd =>
      rw [if_neg (hprim hp), hn, Index.lookup?, candidates_absolute,
        List.findSome?_singleton, (findType?_eq_none_iff hnd).2 hd]
  | @relative k path kind hp hn hk ht inner =>
      obtain ⟨d, hd, rfl, rfl⟩ := (typeDeclared_iff hnd).1 ht
      have hl := (lookup?_relative_eq_some_iff hnd hn).2 ⟨k, hk, hd, inner⟩
      rw [if_neg (hprim hp), hl]
      simp only []
      rw [((findType?_eq_some_iff hnd).1 hd).2.1]
  | relativeUnknown hp hn hd =>
      rw [if_neg (hprim hp), (lookup?_relative_eq_none_iff hnd hn).2 hd]

/-- A name denotes exactly what the index says it refers to. -/
theorem denotes_iff {scope name : String} {t : TypeRef} :
    Denotes files scope name t ↔
      t = Index.reference (declarations files) scope name := by
  constructor
  · exact fun h => h.eq_reference hnd
  · rintro rfl
    exact denotes_reference hnd scope name

end

end SchemaDocs
