import Mathlib.Data.List.Nodup

/-!
# Entries with different keys

A list is searched from the front, and what is found is the first entry of a
key. As long as no two entries have one key, it is the only one, and the order
of the list does not matter for it.
-/

namespace SchemaDocs

variable {α κ : Type} [DecidableEq κ]

/-- Where keys occur once, a search by key finds what has the key. -/
theorem find?_key_eq_some_iff {key : α → κ} {entries : List α}
    (hnd : (entries.map key).Nodup) {k : κ} {a : α} :
    entries.find? (key · == k) = some a ↔ a ∈ entries ∧ key a = k := by
  constructor
  · intro h
    exact ⟨List.mem_of_find?_eq_some h, by simpa using List.find?_some h⟩
  · rintro ⟨ha, rfl⟩
    cases hfind : entries.find? (key · == key a) with
    | none =>
        rw [List.find?_eq_none] at hfind
        exact absurd (beq_self_eq_true (key a)) (hfind a ha)
    | some b =>
        have hb : b ∈ entries := List.mem_of_find?_eq_some hfind
        have hkey : key b = key a := by simpa using List.find?_some hfind
        rw [List.inj_on_of_nodup_map hnd hb ha hkey]

/-- Where keys occur once, a search does not depend on the order. -/
theorem find?_key_eq_of_perm {key : α → κ} {entries entries' : List α}
    (hnd : (entries.map key).Nodup) (h : entries'.Perm entries) (k : κ) :
    entries'.find? (key · == k) = entries.find? (key · == k) := by
  have hnd' : (entries'.map key).Nodup := (h.map key).nodup_iff.2 hnd
  refine Option.ext fun a => ?_
  rw [find?_key_eq_some_iff hnd', find?_key_eq_some_iff hnd, h.mem_iff]

omit [DecidableEq κ] in
/-- Where keys occur once, what only one key can satisfy is satisfied once. -/
theorem getLast?_filter_eq_find? {key : α → κ} {p : α → Bool} {entries : List α}
    (hnd : (entries.map key).Nodup) (hp : ∀ a b, p a → p b → key a = key b) :
    (entries.filter p).getLast? = entries.find? p := by
  induction entries with
  | nil => rfl
  | cons a rest ih =>
      rw [List.map_cons, List.nodup_cons] at hnd
      rw [List.filter_cons, List.find?_cons]
      cases ha : p a with
      | true =>
          have hrest : rest.filter p = [] := by
            rw [List.filter_eq_nil_iff]
            intro b hb hpb
            exact hnd.1 (hp a b ha hpb ▸ List.mem_map_of_mem hb)
          rw [if_pos rfl, hrest, List.getLast?_singleton]
      | false => rw [if_neg Bool.false_ne_true, ih hnd.2]

theorem mem_of_lookup {entries : List (κ × α)} {k : κ} {a : α}
    (h : entries.lookup k = some a) : (k, a) ∈ entries := by
  obtain ⟨before, behind, rfl, -⟩ := List.lookup_eq_some_iff.1 h
  simp

/-- Where keys occur once, a look-up gives what stands beside the key. -/
theorem lookup_of_mem {entries : List (κ × α)}
    (hnd : (entries.map Prod.fst).Nodup) {k : κ} {a : α} (h : (k, a) ∈ entries) :
    entries.lookup k = some a := by
  obtain ⟨before, behind, rfl⟩ := List.append_of_mem h
  refine List.lookup_eq_some_iff.2 ⟨before, behind, rfl, fun p hp => ?_⟩
  rw [List.map_append, List.map_cons] at hnd
  have hp' : p.1 ∈ before.map Prod.fst := List.mem_map_of_mem hp
  rw [bne_iff_ne]
  rintro rfl
  exact List.disjoint_of_nodup_append hnd hp' List.mem_cons_self

/-- Taking the entries of one key away leaves what is found under another. -/
theorem lookup_filter_of_ne {κ : Type} [BEq κ] [LawfulBEq κ] {k other : κ}
    (h : other ≠ k) (entries : List (κ × α)) :
    (entries.filter (·.1 != k)).lookup other = entries.lookup other := by
  induction entries with
  | nil => rfl
  | cons e rest ih =>
      obtain ⟨key, a⟩ := e
      rw [List.filter_cons, List.lookup_cons]
      by_cases hkey : key = k
      · subst hkey
        rw [if_neg (by simp), beq_false_of_ne h]
        exact ih
      · rw [if_pos (by simpa using hkey), List.lookup_cons, ih]

/-- Where keys occur once, a look-up does not depend on the order. -/
theorem lookup_eq_of_perm {entries entries' : List (κ × α)}
    (hnd : (entries.map Prod.fst).Nodup) (h : entries'.Perm entries) (k : κ) :
    entries'.lookup k = entries.lookup k := by
  have hnd' : (entries'.map Prod.fst).Nodup := (h.map _).nodup_iff.2 hnd
  have hmem {es : List (κ × α)} (hes : (es.map Prod.fst).Nodup) (a : α) :
      es.lookup k = some a ↔ (k, a) ∈ es :=
    ⟨mem_of_lookup, lookup_of_mem hes⟩
  refine Option.ext fun a => ?_
  rw [hmem hnd', hmem hnd, h.mem_iff]

end SchemaDocs
