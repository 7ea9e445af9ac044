import Mathlib.Data.List.Basic
import SchemaDocs.Text.Mdx

/-!
# Escaped text

In a text that goes into a page some characters must not stand by themselves,
because they would start something: a tag, an expression, a piece of code.
`Escaped` says of a text that it is put together from other characters and
from the entities that stand for these. Which characters are reserved depends
on the place, so they are a parameter.

Put together like this, texts can be put one behind the other, and two things
can be read off them. No reserved character is in them, since no entity has
one. And every ampersand starts an entity: it cannot stand by itself, and no
entity has a second one, so none is hidden inside another.
-/

namespace SchemaDocs.Text

/-- The entities that stand for reserved characters. -/
def mdxEntities : List String :=
  ["&amp;", "&lt;", "&gt;", "&#123;", "&#125;", "&#124;", "&#96;"]

/-- A text in which reserved characters and the ampersand are written as
entities. -/
inductive Escaped (reserved : List Char) : List Char → Prop
  | nil : Escaped reserved []
  | char {c : Char} {cs : List Char} (hamp : c ≠ '&') (hc : c ∉ reserved)
      (h : Escaped reserved cs) : Escaped reserved (c :: cs)
  | entity {e : String} {cs : List Char} (he : e ∈ mdxEntities)
      (h : Escaped reserved cs) : Escaped reserved (e.toList ++ cs)

/-- Every ampersand of a text starts an entity. -/
def AmpersandsEscaped (cs : List Char) : Prop :=
  ∀ rest, '&' :: rest <:+ cs → ∃ e ∈ mdxEntities, e.toList <+: '&' :: rest

/-! ## Entities -/

/-- An entity has an ampersand in front and none behind it. -/
theorem toList_of_mem_mdxEntities {e : String} (he : e ∈ mdxEntities) :
    ∃ tail, e.toList = '&' :: tail ∧ '&' ∉ tail := by
  have hall : mdxEntities.all fun e =>
      e.toList = '&' :: e.toList.tail ∧ '&' ∉ e.toList.tail := by decide
  exact ⟨e.toList.tail, of_decide_eq_true (List.all_eq_true.1 hall e he)⟩

/-- Nothing that is reserved for MDX stands in an entity behind its ampersand. -/
theorem notMem_of_mem_mdxEntities {e : String} (he : e ∈ mdxEntities) {c : Char}
    (hc : c ∈ mdxReserved) (hamp : c ≠ '&') : c ∉ e.toList := by
  have hall : mdxEntities.all fun e => mdxReserved.all fun c =>
      c ≠ '&' → c ∉ e.toList := by decide
  have he := List.all_eq_true.1 hall e he
  exact of_decide_eq_true (List.all_eq_true.1 he c hc) hamp

/-- What is not reserved stays as it is. -/
theorem escapeMdxChar_of_notMem {c : Char} (hc : c ∉ mdxReserved) :
    escapeMdxChar c = [c] := by
  simp only [mdxReserved, List.mem_cons, List.not_mem_nil, or_false, not_or] at hc
  rw [escapeMdxChar]
  split
  · next e he =>
      rw [mdxEntity?.eq_def] at he
      split at he <;> simp_all
  · rfl

/-- A character is reserved and becomes an entity, or it stays as it is. -/
theorem escapeMdxChar_cases (c : Char) :
    (∃ e ∈ mdxEntities, escapeMdxChar c = e.toList) ∨
      c ∉ mdxReserved ∧ escapeMdxChar c = [c] := by
  by_cases hc : c ∈ mdxReserved
  · left
    have hall : mdxReserved.all fun c => mdxEntities.any fun e =>
        escapeMdxChar c = e.toList := by decide
    obtain ⟨e, he, hec⟩ := List.any_eq_true.1 (List.all_eq_true.1 hall c hc)
    exact ⟨e, he, of_decide_eq_true hec⟩
  · exact Or.inr ⟨hc, escapeMdxChar_of_notMem hc⟩

/-- A rest that starts with a character starts behind whatever lacks it. -/
theorem suffix_of_suffix_append {c : Char} {rest pre cs : List Char}
    (h : c :: rest <:+ pre ++ cs) (hpre : c ∉ pre) : c :: rest <:+ cs := by
  induction pre with
  | nil => exact h
  | cons d pre ih =>
      rw [List.mem_cons, not_or] at hpre
      rcases List.suffix_cons_iff.1 h with h | h
      · exact absurd (List.cons.inj h).1 hpre.1
      · exact ih h hpre.2

/-! ## Putting texts together -/

namespace Escaped

variable {reserved other : List Char} {cs ds : List Char}

theorem append (h : Escaped reserved cs) (hd : Escaped reserved ds) :
    Escaped reserved (cs ++ ds) := by
  induction h with
  | nil => exact hd
  | char hamp hc _ ih => exact .char hamp hc ih
  | entity he _ ih =>
      rw [List.append_assoc]
      exact .entity he ih

/-- Fewer characters may be reserved. -/
theorem mono (h : Escaped reserved cs) (hsub : other ⊆ reserved) :
    Escaped other cs := by
  induction h with
  | nil => exact .nil
  | char hamp hc _ ih => exact .char hamp (fun hmem => hc (hsub hmem)) ih
  | entity he _ ih => exact .entity he ih

theorem of_forall (h : ∀ c ∈ cs, c ≠ '&' ∧ c ∉ reserved) : Escaped reserved cs := by
  induction cs with
  | nil => exact .nil
  | cons c rest ih =>
      have hc := h c List.mem_cons_self
      exact .char hc.1 hc.2 (ih fun d hd => h d (List.mem_cons_of_mem c hd))

/-- The same for a text that is known, by looking at each character. -/
theorem of_all (h : cs.all fun c => c ≠ '&' ∧ c ∉ reserved) : Escaped reserved cs :=
  of_forall fun c hc => of_decide_eq_true (List.all_eq_true.1 h c hc)

/-- The escaper leaves nothing reserved, whatever it is given. -/
theorem escapeMdxChars (cs : List Char) :
    Escaped mdxReserved (escapeMdxChars cs) := by
  induction cs with
  | nil => exact .nil
  | cons c rest ih =>
      rw [Text.escapeMdxChars, List.flatMap_cons]
      rcases escapeMdxChar_cases c with ⟨e, he, hec⟩ | ⟨hc, hec⟩
      · rw [hec]
        exact .entity he ih
      · rw [hec]
        exact .char (fun h => hc (h ▸ List.mem_cons_self)) hc ih

/-! ## What is not in an escaped text -/

theorem notMem (h : Escaped reserved cs) {c : Char} (hc : c ∈ reserved)
    (hmdx : c ∈ mdxReserved) (hamp : c ≠ '&') : c ∉ cs := by
  induction h with
  | nil => exact List.not_mem_nil
  | char _ hd _ ih =>
      rw [List.mem_cons, not_or]
      exact ⟨fun h => hd (h ▸ hc), ih⟩
  | entity he _ ih =>
      rw [List.mem_append, not_or]
      exact ⟨notMem_of_mem_mdxEntities he hmdx hamp, ih⟩

theorem ampersands (h : Escaped reserved cs) : AmpersandsEscaped cs := by
  intro rest hrest
  induction h with
  | nil => simp at hrest
  | char hamp _ _ ih =>
      rcases List.suffix_cons_iff.1 hrest with h | h
      · exact absurd (List.cons.inj h).1.symm hamp
      · exact ih h
  | @entity e cs he _ ih =>
      obtain ⟨tail, htail, hnone⟩ := toList_of_mem_mdxEntities he
      rw [htail, List.cons_append] at hrest
      rcases List.suffix_cons_iff.1 hrest with h | h
      · exact ⟨e, he, by rw [h, htail]; exact ⟨cs, rfl⟩⟩
      · exact ih (suffix_of_suffix_append h hnone)

end Escaped

end SchemaDocs.Text
