import Mathlib.Data.List.Basic
import SchemaDocs.Layout.Markdown
import SchemaDocs.Proofs.Parts

/-!
# Where the front matter ends

The front matter stands between the first line of a page and the next line of
three dashes, so it would end early if the title could bring such a line with
it. It cannot, because a quoted text is printable ASCII: whatever is in the
title, it stays on its line, and the line starts with other letters.
-/

namespace SchemaDocs

/-- What stands behind the front matter of a page: behind the first line of
three dashes below the first line. -/
def behindFrontMatter (text : String) : String :=
  Text.join "\n" ((((Text.splitOn '\n' text).drop 1).dropWhile (· ≠ "---")).drop 1)

/-- Characters from the blank to the tilde. -/
def PrintableAscii (c : Char) : Prop := 32 ≤ c.toNat ∧ c.toNat < 127

instance (c : Char) : Decidable (PrintableAscii c) := inferInstanceAs (Decidable (_ ∧ _))

/-! ## Quoted text -/

theorem printableAscii_of_mem_hex {width n : Nat} {c : Char}
    (h : c ∈ Text.hex width n) : PrintableAscii c := by
  have hdigit : ∀ k < 16, PrintableAscii (Text.hexDigit k) := by decide
  induction width generalizing n with
  | zero => cases h
  | succ width ih =>
      rw [Text.hex, List.mem_append, List.mem_singleton] at h
      rcases h with h | rfl
      · exact ih h
      · exact hdigit (n % 16) (Nat.mod_lt n (by decide))

theorem printableAscii_of_mem_unitEscape {n : Nat} {c : Char}
    (h : c ∈ Json.unitEscape n) : PrintableAscii c := by
  simp only [Json.unitEscape, List.mem_cons] at h
  rcases h with rfl | rfl | h
  · decide
  · decide
  · exact printableAscii_of_mem_hex h

theorem printableAscii_of_mem_escapeChar {c d : Char} (h : d ∈ Json.escapeChar c) :
    PrintableAscii d := by
  have hpair {a b : Char} (ha : PrintableAscii a) (hb : PrintableAscii b)
      (h : d ∈ [a, b]) : PrintableAscii d := by
    rcases List.mem_pair.1 h with rfl | rfl
    · exact ha
    · exact hb
  rw [Json.escapeChar.eq_def] at h
  split at h
  case h_8 =>
      split at h
      · next hc =>
          rw [List.mem_singleton] at h
          subst h
          exact hc
      · split at h
        · exact printableAscii_of_mem_unitEscape h
        · rcases List.mem_append.1 h with h | h
          · exact printableAscii_of_mem_unitEscape h
          · exact printableAscii_of_mem_unitEscape h
  all_goals exact hpair (by decide) (by decide) h

theorem printableAscii_of_mem_quote {s : String} {c : Char}
    (h : c ∈ (Json.quote s).toList) : PrintableAscii c := by
  rw [Json.quote, String.toList_ofList, List.mem_append, List.mem_cons,
    List.mem_singleton, List.mem_flatMap] at h
  rcases h with (rfl | ⟨d, -, h⟩) | rfl
  · decide
  · exact printableAscii_of_mem_escapeChar h
  · decide

/-! ## The front matter of a page -/

/-- Lines without line ends are the first parts of a text that is cut at these. -/
theorem splitOn_lines_append {ls : List String} (h : ∀ l ∈ ls, '\n' ∉ l.toList)
    (s : String) :
    Text.splitOn '\n' (Text.lines ls ++ s) = ls ++ Text.splitOn '\n' s := by
  induction ls with
  | nil =>
      rw [Text.lines, List.foldr_nil, String.empty_append]
      rfl
  | cons l rest ih =>
      obtain ⟨hl, hrest⟩ := List.forall_mem_cons.1 h
      have hlines :
          Text.lines (l :: rest) ++ s = l ++ "\n" ++ (Text.lines rest ++ s) := by
        simp only [Text.lines, List.foldr_cons, String.append_assoc]
      rw [hlines, List.cons_append, ← ih hrest]
      exact Text.splitOn_append hl

/-- The lines of the front matter, with a title as it is written there. -/
def frontMatterLines (title : String) : List String :=
  ["---", "title: " ++ title, "hide_title: true", "---"]

theorem lines_frontMatter (title : String) :
    Layout.frontMatter title = Text.lines (frontMatterLines (Json.quote title)) := by
  have hopen : ("---\ntitle: " : String) = "---" ++ "\n" ++ "title: " := rfl
  have hclose : ("\nhide_title: true\n---\n" : String) =
    "\n" ++ ("hide_title: true" ++ "\n" ++ ("---" ++ "\n" ++ "")) := rfl
  simp only [Layout.frontMatter, frontMatterLines, Text.lines,
    List.foldr_cons, List.foldr_nil, hopen, hclose, String.append_assoc]

/-- No title breaks a line of the front matter in two. -/
theorem splitOn_page (p : PageBindings) : Text.splitOn '\n' (Layout.page p) =
    frontMatterLines (Json.quote p.title) ++ Text.splitOn '\n' (Layout.body p) := by
  rw [Layout.page, lines_frontMatter, splitOn_lines_append]
  have htitle : '\n' ∉ ("title: " ++ Json.quote p.title).toList := by
    rw [String.toList_append, List.mem_append, not_or]
    refine ⟨by decide, fun h => ?_⟩
    exact absurd (printableAscii_of_mem_quote h) (by decide)
  simp only [frontMatterLines, List.forall_mem_cons, htitle]
  decide

/-- Below the front matter stands the body of the page, whatever its title. -/
theorem behindFrontMatter_page (p : PageBindings) :
    behindFrontMatter (Layout.page p) = Layout.body p := by
  have hdashes : "title: " ++ Json.quote p.title ≠ "---" := by
    intro h
    simpa using congrArg (fun s => s.toList.head?) h
  rw [behindFrontMatter, splitOn_page, frontMatterLines, List.cons_append,
    List.cons_append, List.cons_append, List.cons_append, List.nil_append,
    List.drop_succ_cons, List.drop_zero,
    List.dropWhile_cons_of_pos (by simpa using hdashes),
    List.dropWhile_cons_of_pos (by decide), List.dropWhile_cons_of_neg (by decide),
    List.drop_succ_cons, List.drop_zero]
  exact Text.join_splitOn '\n' (Layout.body p)

end SchemaDocs
