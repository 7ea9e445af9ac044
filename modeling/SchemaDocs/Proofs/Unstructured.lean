import SchemaDocs.Proofs.Escaping
import SchemaDocs.Proofs.Keys
import SchemaDocs.Text.Uppercase

/-!
# Texts without structure

Six characters give an MDX page its structure: they start and end tags and
expressions, part the cells of a table and mark code. A text without them is
read as nothing but text. Escaped texts are such texts, parts of such texts
are, and so is one in upper case: no letter has a bracket, a bar or a backtick
for its upper case.
-/

namespace SchemaDocs.Text

def structural : List Char := ['<', '>', '{', '}', '|', '`']

/-- A text in which nothing is read as structure. -/
def Unstructured (s : String) : Prop := ∀ c ∈ s.toList, c ∉ structural

namespace Unstructured

variable {s t : String} {cs : List Char}

theorem ofList (h : ∀ c ∈ cs, c ∉ structural) : Unstructured (String.ofList cs) := by
  rw [Unstructured, String.toList_ofList]
  exact h

theorem empty : Unstructured "" := by simp [Unstructured]

theorem append (hs : Unstructured s) (ht : Unstructured t) : Unstructured (s ++ t) := by
  intro c hc
  rw [String.toList_append, List.mem_append] at hc
  exact hc.elim (hs c) (ht c)

/-- Characters of a text without structure, in any order and number. -/
theorem of_subset (hs : Unstructured s) (h : cs ⊆ s.toList) :
    Unstructured (String.ofList cs) :=
  ofList fun c hc => hs c (h hc)

theorem escapeMdx (s : String) : Unstructured (escapeMdx s) := by
  refine ofList fun c hc hmem => ?_
  have hsub : structural.all fun c => c ∈ mdxReserved ∧ c ≠ '&' := by decide
  obtain ⟨hmdx, hamp⟩ := of_decide_eq_true (List.all_eq_true.1 hsub c hmem)
  exact (Escaped.escapeMdxChars s.toList).notMem hmdx hmdx hamp hc

end Unstructured

/-! ## Upper case -/

def structuralCodes : List Nat := structural.map Char.toNat

/-- A number that is no code point stands for the null character, which has no
structure. -/
theorem mem_structuralCodes_of_ofNat {n : Nat} (h : Char.ofNat n ∈ structural) :
    n ∈ structuralCodes := by
  have hcode : (Char.ofNat n).toNat ∈ structuralCodes := List.mem_map_of_mem h
  by_cases hvalid : n.isValidChar
  · rw [Char.ofNat, dif_pos hvalid] at hcode
    exact hcode
  · rw [Char.ofNat, dif_neg hvalid] at hcode
    exact absurd hcode (by decide)

/-- No run of the table moves a character to one that is structural. -/
theorem notMem_structural_of_covers {r : CaseRun} (hr : r ∈ upperRuns) {n : Nat}
    (hn : r.covers n) : Char.ofNat (n + r.shift).toNat ∉ structural := by
  intro hmem
  have hall : upperRuns.all fun r => structuralCodes.all fun code =>
      0 < code ∧ r.covers (code - r.shift).toNat = false := by decide
  have hcodes := List.all_eq_true.1 hall r hr
  obtain ⟨hpos, hnone⟩ := of_decide_eq_true
    (List.all_eq_true.1 hcodes _ (mem_structuralCodes_of_ofNat hmem))
  have hback : ((((n : Int) + r.shift).toNat : Int) - r.shift).toNat = n := by omega
  rw [hback, hn] at hnone
  cases hnone

theorem upperChar_notMem {c d : Char} (hc : c ∉ structural) (hd : d ∈ upperChar c) :
    d ∉ structural := by
  rw [upperChar] at hd
  split at hd
  · next hascii =>
      have hall : (List.range 128).all fun n =>
          Char.ofNat n ∉ structural → (Char.ofNat n).toUpper ∉ structural := by decide
      have hupper := of_decide_eq_true
        (List.all_eq_true.1 hall c.toNat (List.mem_range.2 hascii))
      rw [Char.ofNat_toNat] at hupper
      rw [List.mem_singleton.1 hd]
      exact hupper hc
  · split at hd
    · next r hr =>
        rw [List.mem_singleton.1 hd]
        have hcovers : r.covers c.toNat := by simpa using List.find?_some hr
        exact notMem_structural_of_covers (List.mem_of_find?_eq_some hr) hcovers
    · split at hd
      · next codes hcodes =>
          have hall : upperExpansions.all fun e => e.2.all fun n =>
              Char.ofNat n ∉ structural := by decide
          obtain ⟨n, hn, rfl⟩ := List.mem_map.1 hd
          have hexpansion := List.all_eq_true.1 hall _ (mem_of_lookup hcodes)
          exact of_decide_eq_true (List.all_eq_true.1 hexpansion n hn)
      · rw [List.mem_singleton.1 hd]
        exact hc

theorem Unstructured.upper {s : String} (h : Unstructured s) :
    Unstructured (upper s) := by
  refine ofList fun c hc => ?_
  obtain ⟨d, hd, hc⟩ := List.mem_flatMap.1 hc
  exact upperChar_notMem (h d hd) hc

end SchemaDocs.Text
