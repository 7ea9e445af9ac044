import Mathlib.Logic.Function.Defs
import SchemaDocs.Proofs.Escaping

/-!
# Reading escaped text back

One pass from left to right takes the escapes away again: where an entity
stands, its character is read, and any other character is read as itself.
`Unescapes` says this without the bookkeeping of the function, and since one
text has one reading, the two are the same.

What the escaper writes reads back as the text it was given. A character that
it keeps cannot start an entity, because it is not an ampersand; and what looks
like an entity in the text has its ampersand escaped, so it is read as the text
that it was. The texts it writes are just those in which nothing reserved stands
by itself.
-/

namespace SchemaDocs.Text

/-- The reading of a text from left to right, in one pass. -/
inductive Unescapes : List Char → List Char → Prop
  | nil : Unescapes [] []
  | entity {c : Char} {e : String} {rest out : List Char} (he : mdxEntity? c = some e)
      (h : Unescapes rest out) : Unescapes (e.toList ++ rest) (c :: out)
  | char {c : Char} {rest out : List Char}
    (hc : ∀ e ∈ mdxEntities, ¬ e.toList <+: c :: rest)
      (h : Unescapes rest out) : Unescapes (c :: rest) (c :: out)

/-! ## Entities -/

theorem mem_mdxEntities {c : Char} {e : String} (he : mdxEntity? c = some e) :
    e ∈ mdxEntities := by
  rw [mdxEntity?.eq_def] at he
  split at he <;> cases he <;> decide

theorem escapeMdxChar_eq {c : Char} {e : String} (he : mdxEntity? c = some e) :
    escapeMdxChar c = e.toList := by
  rw [escapeMdxChar, he]

theorem mem_mdxReserved_iff {c : Char} :
    c ∈ mdxReserved ↔ ∃ e, mdxEntity? c = some e := by
  constructor
  · have hall : mdxReserved.all fun c => (mdxEntity? c).isSome := by decide
    exact fun hc => Option.isSome_iff_exists.1 (List.all_eq_true.1 hall c hc)
  · rintro ⟨e, he⟩
    by_contra hc
    obtain ⟨tail, htail, -⟩ := toList_of_mem_mdxEntities (mem_mdxEntities he)
    have hself := escapeMdxChar_of_notMem hc
    rw [escapeMdxChar_eq he, htail] at hself
    exact hc ((List.cons.inj hself).1 ▸ List.mem_cons_self)

/-- Each entity is the one of some character. -/
theorem exists_mdxEntity? {e : String} (he : e ∈ mdxEntities) :
    ∃ c, mdxEntity? c = some e := by
  have hall : mdxEntities.all fun e => mdxReserved.any fun c =>
    mdxEntity? c = some e := by
    decide
  obtain ⟨c, -, hc⟩ := List.any_eq_true.1 (List.all_eq_true.1 hall e he)
  exact ⟨c, of_decide_eq_true hc⟩

/-- Only an ampersand starts an entity. -/
theorem no_entity_of_ne {c : Char} (hc : c ≠ '&') (rest : List Char) :
    ∀ e ∈ mdxEntities, ¬ e.toList <+: c :: rest := by
  intro e he hstarts
  obtain ⟨tail, htail, -⟩ := toList_of_mem_mdxEntities he
  rw [htail, List.cons_prefix_cons] at hstarts
  exact hc hstarts.1.symm

/-! ## What is read at the front of a text -/

/-- The entity that is read is the one that stands there. No entity begins with
another one, so there is no choice. -/
theorem readEntity?_eq_some_iff {cs rest : List Char} {c : Char} :
    readEntity? cs = some (c, rest) ↔
    ∃ e, mdxEntity? c = some e ∧ cs = e.toList ++ rest := by
  constructor
  · intro h
    obtain ⟨d, hd, hread⟩ := List.exists_of_findSome?_eq_some h
    obtain ⟨hstarts, hsame⟩ := Option.ite_none_right_eq_some.1 hread
    obtain ⟨rfl, rfl⟩ := Prod.mk.inj (Option.some.inj hsame)
    obtain ⟨e, he⟩ := mem_mdxReserved_iff.1 hd
    obtain ⟨rest, rfl⟩ := List.isPrefixOf_iff_prefix.1 hstarts
    exact ⟨e, he, by rw [List.drop_left, escapeMdxChar_eq he]⟩
  · rintro ⟨e, he, rfl⟩
    rw [mdxEntity?.eq_def] at he
    split at he <;> cases he <;> rfl

theorem readEntity?_eq_none_iff {cs : List Char} :
    readEntity? cs = none ↔ ∀ e ∈ mdxEntities, ¬ e.toList <+: cs := by
  constructor
  · intro h e he hstarts
    obtain ⟨c, hc⟩ := exists_mdxEntity? he
    obtain ⟨rest, hrest⟩ := hstarts
    rw [readEntity?_eq_some_iff.2 ⟨e, hc, hrest.symm⟩] at h
    cases h
  · intro h
    cases hread : readEntity? cs with
    | none => rfl
    | some read =>
        obtain ⟨e, he, rfl⟩ := readEntity?_eq_some_iff.1 hread
        exact absurd (List.prefix_append _ _) (h e (mem_mdxEntities he))

/-! ## The reading of a text -/

section

variable {fuel : Nat} {c : Char} {cs rest out : List Char}

theorem unescapeMdxFrom_entity {e : String} (he : mdxEntity? c = some e) :
    unescapeMdxFrom (fuel + 1) (e.toList ++ rest) = c :: unescapeMdxFrom fuel rest := by
  have hread : readEntity? (e.toList ++ rest) = some (c, rest) :=
    readEntity?_eq_some_iff.2 ⟨e, he, rfl⟩
  obtain ⟨tail, htail, -⟩ := toList_of_mem_mdxEntities (mem_mdxEntities he)
  rw [htail, List.cons_append] at hread ⊢
  rw [unescapeMdxFrom, hread]

theorem unescapeMdxFrom_char (hc : ∀ e ∈ mdxEntities, ¬ e.toList <+: c :: rest) :
    unescapeMdxFrom (fuel + 1) (c :: rest) = c :: unescapeMdxFrom fuel rest := by
  rw [unescapeMdxFrom, readEntity?_eq_none_iff.2 hc]

/-- With fuel for each character of a text, all of it is read. -/
theorem unescapes_unescapeMdxFrom (h : cs.length ≤ fuel) :
    Unescapes cs (unescapeMdxFrom fuel cs) := by
  induction fuel generalizing cs with
  | zero =>
      rw [List.length_eq_zero_iff.1 (Nat.le_zero.1 h)]
      exact .nil
  | succ fuel ih =>
      cases cs with
      | nil => exact .nil
      | cons c rest =>
          cases hread : readEntity? (c :: rest) with
          | none =>
              have hc := readEntity?_eq_none_iff.1 hread
              rw [unescapeMdxFrom_char hc]
              exact .char hc (ih (Nat.le_of_succ_le_succ h))
          | some read =>
              obtain ⟨e, he, hcs⟩ := readEntity?_eq_some_iff.1 hread
              obtain ⟨tail, htail, -⟩ := toList_of_mem_mdxEntities (mem_mdxEntities he)
              rw [hcs, htail, List.length_append, List.length_cons] at h
              rw [hcs, unescapeMdxFrom_entity he]
              exact .entity he (ih (by omega))

/-- A reading of a text is what the function reads, whatever fuel there is left over. -/
theorem Unescapes.unescapeMdxFrom_eq (hread : Unescapes cs out) (h : cs.length ≤ fuel) :
    unescapeMdxFrom fuel cs = out := by
  induction hread generalizing fuel with
  | nil => cases fuel <;> rfl
  | @entity c e rest out he _ ih =>
      obtain ⟨tail, htail, -⟩ := toList_of_mem_mdxEntities (mem_mdxEntities he)
      rw [htail, List.length_append, List.length_cons] at h
      obtain ⟨fuel, rfl⟩ := Nat.exists_eq_add_of_le' (Nat.le_trans (by omega : 1 ≤ _) h)
      rw [unescapeMdxFrom_entity he, ih (by omega)]
  | @char c rest out hc _ ih =>
      rw [List.length_cons] at h
      obtain ⟨fuel, rfl⟩ := Nat.exists_eq_add_of_le' (Nat.le_trans (by omega : 1 ≤ _) h)
      rw [unescapeMdxFrom_char hc, ih (by omega)]

end

/-- There is one reading of a text. -/
theorem unescapes_iff {s : String} {out : List Char} :
    Unescapes s.toList out ↔ out = (unescapeMdx s).toList := by
  rw [unescapeMdx, String.toList_ofList]
  constructor
  · exact fun h => (h.unescapeMdxFrom_eq (Nat.le_refl _)).symm
  · rintro rfl
    exact unescapes_unescapeMdxFrom (Nat.le_refl _)

/-! ## Escaping and reading back -/

theorem unescapes_escapeMdxChars (cs : List Char) : Unescapes (escapeMdxChars cs) cs := by
  induction cs with
  | nil => exact .nil
  | cons c rest ih =>
      rw [escapeMdxChars, List.flatMap_cons]
      by_cases hc : c ∈ mdxReserved
      · obtain ⟨e, he⟩ := mem_mdxReserved_iff.1 hc
        rw [escapeMdxChar_eq he]
        exact .entity he ih
      · rw [escapeMdxChar_of_notMem hc]
        refine .char (no_entity_of_ne ?_ _) ih
        rintro rfl
        exact hc List.mem_cons_self

theorem unescapeMdx_escapeMdx (s : String) : unescapeMdx (escapeMdx s) = s := by
  have hread : Unescapes (escapeMdx s).toList s.toList := by
    rw [escapeMdx, String.toList_ofList]
    exact unescapes_escapeMdxChars s.toList
  exact (String.toList_inj.1 (unescapes_iff.1 hread)).symm

theorem Escaped.exists_escapeMdxChars {cs : List Char} (h : Escaped mdxReserved cs) :
    ∃ out, Text.escapeMdxChars out = cs := by
  induction h with
  | nil => exact ⟨[], rfl⟩
  | @char c cs _ hc _ ih =>
      obtain ⟨out, rfl⟩ := ih
      refine ⟨c :: out, ?_⟩
      rw [Text.escapeMdxChars, List.flatMap_cons, escapeMdxChar_of_notMem hc]
      rfl
  | @entity e cs he _ ih =>
      obtain ⟨out, rfl⟩ := ih
      obtain ⟨c, hc⟩ := exists_mdxEntity? he
      refine ⟨c :: out, ?_⟩
      rw [Text.escapeMdxChars, List.flatMap_cons, escapeMdxChar_eq hc]
      rfl

/-- The escaper writes every text in which nothing reserved stands by itself. -/
theorem exists_escapeMdx_iff {t : String} :
    (∃ s, escapeMdx s = t) ↔ Escaped mdxReserved t.toList := by
  constructor
  · rintro ⟨s, rfl⟩
    rw [escapeMdx, String.toList_ofList]
    exact .escapeMdxChars s.toList
  · intro h
    obtain ⟨cs, hcs⟩ := h.exists_escapeMdxChars
    exact ⟨String.ofList cs, by
      rw [escapeMdx, String.toList_ofList, hcs, String.ofList_toList]⟩

/-- Escaping hides each reserved character behind an entity and loses nothing:
there is one way to read the escaped text from left to right, and it gives the
text back. So no two texts are escaped alike. Parts of a text are escaped one by
one. -/
theorem escapeMdx_lossless (s t : String) :
    (∀ c ∈ ['<', '>', '{', '}', '|', '`'], c ∉ (escapeMdx s).toList) ∧
    AmpersandsEscaped (escapeMdx s).toList ∧
    (∀ out, Unescapes (escapeMdx s).toList out ↔ out = s.toList) ∧
    unescapeMdx (escapeMdx s) = s ∧
    Function.Injective escapeMdx ∧
    escapeMdx (s ++ t) = escapeMdx s ++ escapeMdx t := by
  have hescaped : Escaped mdxReserved (escapeMdx s).toList :=
    exists_escapeMdx_iff.1 ⟨s, rfl⟩
  refine ⟨fun c hc => ?_, hescaped.ampersands, fun out => ?_, unescapeMdx_escapeMdx s,
    Function.LeftInverse.injective unescapeMdx_escapeMdx, ?_⟩
  · have hmem : c ∈ mdxReserved := List.mem_cons_of_mem _ hc
    exact hescaped.notMem hmem hmem (by rintro rfl; exact absurd hc (by decide))
  · rw [unescapes_iff, unescapeMdx_escapeMdx]
  · rw [escapeMdx, escapeMdx, escapeMdx, String.toList_append, escapeMdxChars,
      List.flatMap_append, String.ofList_append, escapeMdxChars, escapeMdxChars]

end SchemaDocs.Text
