import Mathlib.Data.List.TakeWhile
import SchemaDocs.Text.Blank
import SchemaDocs.Text.Split

/-!
# Trimming and cutting, as far as nothing is left

What a text is trimmed to is empty exactly when all of it is trimmed off, and
otherwise it ends with a character that is kept. A text that is cut has only
empty parts exactly when there is nothing but separators in it, and its last
part is empty only if there is nothing at all or a separator at the end. The
two meet where a path is trimmed of the slashes it is then cut at.
-/

namespace SchemaDocs.Text

section

variable {α : Type} {p : α → Bool} {cs : List α}

theorem eq_false_of_head?_dropWhile {c : α} (h : (cs.dropWhile p).head? = some c) :
    p c = false := by
  have hhead := List.head?_dropWhile_not p cs
  rw [h] at hhead
  simpa using hhead

theorem dropEnd_eq_nil_iff : dropEnd p cs = [] ↔ ∀ c ∈ cs, p c = true := by
  rw [dropEnd, List.reverse_eq_nil_iff, List.dropWhile_eq_nil_iff]
  simp only [List.mem_reverse]

/-- What is left of a trimmed text starts and ends with what is kept, so there
is nothing left only if nothing is kept. -/
theorem trimBy_eq_nil_iff : trimBy p cs = [] ↔ ∀ c ∈ cs, p c = true := by
  rw [trimBy, dropEnd_eq_nil_iff]
  constructor
  · intro h
    cases hd : cs.dropWhile p with
    | nil => exact List.dropWhile_eq_nil_iff.1 hd
    | cons c rest =>
        have hc := eq_false_of_head?_dropWhile (congrArg List.head? hd)
        rw [hd] at h
        exact absurd (h c List.mem_cons_self) (by rw [hc]; exact Bool.false_ne_true)
  · intro h c hc
    exact h c (List.dropWhile_sublist p |>.subset hc)

theorem trimBy_sublist : (trimBy p cs).Sublist cs := by
  rw [trimBy, dropEnd, ← List.reverse_sublist, List.reverse_reverse]
  exact (List.dropWhile_sublist p).trans (List.dropWhile_sublist p).reverse

theorem mem_of_mem_trimBy {c : α} (h : c ∈ trimBy p cs) : c ∈ cs :=
  trimBy_sublist.subset h

/-- What is trimmed off stands at the ends. -/
theorem exists_trimBy_append (p : α → Bool) (cs : List α) : ∃ before behind,
    cs = before ++ trimBy p cs ++ behind ∧ ∀ c ∈ before ++ behind, p c = true := by
  refine ⟨cs.takeWhile p, ((cs.dropWhile p).reverse.takeWhile p).reverse, ?_, ?_⟩
  · rw [trimBy, dropEnd, List.append_assoc, ← List.reverse_append,
      List.takeWhile_append_dropWhile, List.reverse_reverse,
      List.takeWhile_append_dropWhile]
  · intro c hc
    rw [List.mem_append, List.mem_reverse] at hc
    exact hc.elim List.mem_takeWhile_imp List.mem_takeWhile_imp

theorem getLast?_dropEnd {c : α} (h : (dropEnd p cs).getLast? = some c) :
    p c = false := by
  rw [dropEnd, List.getLast?_reverse] at h
  exact eq_false_of_head?_dropWhile h

theorem getLast?_trimBy {c : α} (h : (trimBy p cs).getLast? = some c) : p c = false :=
  getLast?_dropEnd h

theorem dropEnd_prefix : dropEnd p cs <+: cs := by
  rw [dropEnd, ← List.reverse_suffix, List.reverse_reverse]
  exact List.dropWhile_suffix p

theorem head?_trimBy {c : α} (h : (trimBy p cs).head? = some c) : p c = false := by
  obtain ⟨rest, hrest⟩ : trimBy p cs <+: cs.dropWhile p := dropEnd_prefix
  have hhead : (cs.dropWhile p).head? = some c := by
    rw [← hrest, List.head?_append, h, Option.some_or]
  exact eq_false_of_head?_dropWhile hhead

theorem dropEnd_append {ds : List α} (h : ∀ c ∈ ds, p c = true) :
    dropEnd p (cs ++ ds) = dropEnd p cs := by
  have hreverse : ∀ c ∈ ds.reverse, p c = true := fun c hc => h c (List.mem_reverse.1 hc)
  rw [dropEnd, List.reverse_append, List.dropWhile_append_of_pos hreverse, dropEnd]

/-- As long as something is kept behind it, a text is kept. -/
theorem dropEnd_append_of_ne_nil {ds : List α} (h : dropEnd p ds ≠ []) :
    dropEnd p (cs ++ ds) = cs ++ dropEnd p ds := by
  rw [dropEnd, ne_eq, List.reverse_eq_nil_iff] at h
  rw [dropEnd, List.reverse_append, List.dropWhile_append, if_neg (by simpa using h),
    List.reverse_append, List.reverse_reverse, dropEnd]

/-- What is trimmed off may be there or not. -/
theorem trimBy_between {before behind : List α} (hbefore : ∀ c ∈ before, p c = true)
    (hbehind : ∀ c ∈ behind, p c = true) :
    trimBy p (before ++ cs ++ behind) = trimBy p cs := by
  rw [trimBy, List.append_assoc, List.dropWhile_append_of_pos hbefore,
    List.dropWhile_append]
  split
  · next hnil =>
      have hcs : cs.dropWhile p = [] := by simpa using hnil
      rw [List.dropWhile_eq_nil_iff.2 hbehind, trimBy, hcs]
  · exact dropEnd_append hbehind

theorem dropWhile_eq_self (h : ∀ c, cs.head? = some c → p c = false) :
    cs.dropWhile p = cs := by
  cases cs with
  | nil => rfl
  | cons c rest => rw [List.dropWhile_cons, h c rfl, if_neg Bool.false_ne_true]

theorem dropEnd_eq_self (h : ∀ c, cs.getLast? = some c → p c = false) :
    dropEnd p cs = cs := by
  rw [← List.head?_reverse] at h
  rw [dropEnd, dropWhile_eq_self h, List.reverse_reverse]

/-- What starts and ends with what is kept is kept. -/
theorem trimBy_eq_self (hhead : ∀ c, cs.head? = some c → p c = false)
    (hlast : ∀ c, cs.getLast? = some c → p c = false) : trimBy p cs = cs := by
  rw [trimBy, dropWhile_eq_self hhead, dropEnd_eq_self hlast]

end

/-- No white space at either end. -/
def Trimmed (s : String) : Prop :=
  (∀ c, s.toList.head? = some c → isBlank c = false) ∧
    ∀ c, s.toList.getLast? = some c → isBlank c = false

/-- Nothing but white space, if anything. -/
def Blank (s : String) : Prop := ∀ c ∈ s.toList, isBlank c = true

theorem trim_eq_empty_iff {s : String} : trim s = "" ↔ Blank s := by
  rw [trim, String.ofList_eq_empty_iff, trimBy_eq_nil_iff, Blank]

theorem trimmed_trimBy (cs : List Char) :
    Trimmed (String.ofList (trimBy isBlank cs)) := by
  rw [Trimmed, String.toList_ofList]
  exact ⟨fun c => head?_trimBy, fun c => getLast?_trimBy⟩

theorem trimmed_trim (s : String) : Trimmed (trim s) := trimmed_trimBy s.toList

theorem Trimmed.trim_eq {s : String} (h : Trimmed s) : trim s = s := by
  rw [trim, trimBy_eq_self h.1 h.2, String.ofList_toList]

theorem Trimmed.of_noBlank {s : String} (h : ∀ c ∈ s.toList, isBlank c = false) :
    Trimmed s :=
  ⟨fun c hc => h c (List.mem_of_head? hc), fun c hc => h c (List.mem_of_getLast? hc)⟩

section

variable {sep : Char}

theorem splitChars_all_nil_iff {cs : List Char} :
    (∀ part ∈ splitChars sep cs, part = []) ↔ ∀ c ∈ cs, c = sep := by
  induction cs with
  | nil => simp [splitChars]
  | cons c rest ih =>
      rw [splitChars]
      split
      · next hc => simp [ih, hc]
      · next hc =>
          split <;> simp [hc]

/-- Only a separator at the end leaves an empty last part. -/
theorem eq_nil_or_getLast?_of_splitChars : ∀ {cs : List Char},
    (splitChars sep cs).getLast? = some [] → cs = [] ∨ cs.getLast? = some sep := by
  intro cs
  induction cs with
  | nil => exact fun _ => Or.inl rfl
  | cons c rest ih =>
      intro h
      right
      rw [splitChars] at h
      have hne := splitChars_ne_nil sep rest
      split at h
      · next hc =>
          obtain ⟨part, parts, hs⟩ := List.exists_cons_of_ne_nil hne
          rw [hs, List.getLast?_cons_cons, ← hs] at h
          rcases ih h with rfl | hlast
          · rw [hc, List.getLast?_singleton]
          · rw [List.getLast?_cons, hlast, Option.getD_some]
      · next hc =>
          split at h
          · next hs => exact absurd hs hne
          · next part parts hs =>
              cases parts with
              | nil => simp at h
              | cons q qs =>
                  rw [List.getLast?_cons_cons] at h
                  rw [hs, List.getLast?_cons_cons] at ih
                  rcases ih h with rfl | hlast
                  · simp [splitChars] at hs
                  · rw [List.getLast?_cons, hlast, Option.getD_some]

end

theorem joinChars_cons_cons (sep part next : List Char) (parts : List (List Char)) :
    joinChars sep (part :: next :: parts) =
      part ++ sep ++ joinChars sep (next :: parts) := rfl

theorem join_map_ofList (sep : List Char) (parts : List (List Char)) :
    join (String.ofList sep) (parts.map String.ofList) =
      String.ofList (joinChars sep parts) := by
  induction parts with
  | nil => rfl
  | cons p rest ih =>
      cases rest with
      | nil => rfl
      | cons q rest =>
          simp only [List.map_cons, join, joinChars] at ih ⊢
          rw [ih, String.ofList_append, String.ofList_append]

/-- Behind the parts there are, a last one is joined like any other. -/
theorem join_concat (sep : String) {parts : List String} (h : parts ≠ [])
    (last : String) :
    join sep (parts ++ [last]) = join sep parts ++ sep ++ last := by
  induction parts with
  | nil => exact absurd rfl h
  | cons part rest ih =>
      cases rest with
      | nil => rfl
      | cons next rest =>
          rw [List.cons_append, join.eq_3 _ _ _ (by simp),
            ih (List.cons_ne_nil next rest), join.eq_3 _ _ _ (List.cons_ne_nil next rest)]
          simp only [String.append_assoc]

/-- Joining the parts of a text gives it back. -/
theorem join_splitOn (sep : Char) (s : String) :
    join (String.ofList [sep]) (splitOn sep s) = s := by
  rw [splitOn, join_map_ofList, joinChars_splitChars, String.ofList_toList]

theorem splitChars_append (sep : Char) (cs ds : List Char) :
    splitChars sep (cs ++ sep :: ds) = splitChars sep cs ++ splitChars sep ds := by
  induction cs with
  | nil => simp [splitChars]
  | cons c rest ih =>
      obtain ⟨part, parts, hs⟩ := List.exists_cons_of_ne_nil (splitChars_ne_nil sep rest)
      rw [List.cons_append, splitChars, splitChars, ih, hs]
      split <;> rfl

/-- A separator between two texts cuts them apart. -/
theorem splitOn_between (sep : Char) (a b : String) :
    splitOn sep (a ++ String.ofList [sep] ++ b) = splitOn sep a ++ splitOn sep b := by
  have hlist : (a ++ String.ofList [sep] ++ b).toList = a.toList ++ sep :: b.toList := by
    simp
  rw [splitOn, hlist, splitChars_append, List.map_append, splitOn, splitOn]

theorem splitChars_of_notMem {sep : Char} {cs : List Char} (h : sep ∉ cs) :
    splitChars sep cs = [cs] := by
  induction cs with
  | nil => rfl
  | cons c rest ih =>
      rw [List.mem_cons, not_or] at h
      rw [splitChars, if_neg (Ne.symm h.1), ih h.2]

theorem splitOn_of_notMem {sep : Char} {s : String} (h : sep ∉ s.toList) :
    splitOn sep s = [s] := by
  rw [splitOn, splitChars_of_notMem h, List.map_singleton, String.ofList_toList]

/-- What stands in front of the first separator is the first part. -/
theorem splitOn_append {sep : Char} {a b : String} (ha : sep ∉ a.toList) :
    splitOn sep (a ++ String.ofList [sep] ++ b) = a :: splitOn sep b := by
  rw [splitOn_between, splitOn_of_notMem ha, List.singleton_append]

theorem notMem_of_mem_splitChars {sep : Char} : ∀ {cs part : List Char},
    part ∈ splitChars sep cs → sep ∉ part := by
  intro cs
  induction cs with
  | nil => intro part h; simp_all [splitChars]
  | cons c rest ih =>
      intro part h
      obtain ⟨first, parts, hs⟩ := List.exists_cons_of_ne_nil (splitChars_ne_nil sep rest)
      rw [hs] at ih
      rw [splitChars, hs] at h
      split at h
      · rcases List.mem_cons.1 h with rfl | h
        · exact List.not_mem_nil
        · exact ih h
      · next hc =>
          rcases List.mem_cons.1 h with rfl | h
          · rw [List.mem_cons, not_or]
            exact ⟨Ne.symm hc, ih List.mem_cons_self⟩
          · exact ih (List.mem_cons_of_mem first h)

theorem notMem_of_mem_splitOn {sep : Char} {s part : String} (h : part ∈ splitOn sep s) :
    sep ∉ part.toList := by
  obtain ⟨cs, hcs, rfl⟩ := List.mem_map.1 h
  rw [String.toList_ofList]
  exact notMem_of_mem_splitChars hcs

/-- Only the new character comes in, and the old one is gone. -/
theorem mem_replaceChar {old new c : Char} {s : String}
    (h : c ∈ (replaceChar old new s).toList) : c = new ∨ (c ∈ s.toList ∧ c ≠ old) := by
  rw [replaceChar, String.toList_ofList] at h
  obtain ⟨d, hd, rfl⟩ := List.mem_map.1 h
  split
  · exact Or.inl rfl
  · next hold => exact Or.inr ⟨hd, hold⟩

theorem sublist_joinChars (sep : List Char) :
    ∀ {parts : List (List Char)} {part : List Char},
    part ∈ parts → part.Sublist (joinChars sep parts)
  | [_], _, h => by
      rw [List.mem_singleton.1 h]
      exact List.Sublist.refl _
  | first :: next :: rest, part, h => by
      rw [joinChars_cons_cons, List.append_assoc]
      rcases List.mem_cons.1 h with rfl | h
      · exact List.sublist_append_left _ _
      · exact ((sublist_joinChars sep h).trans (List.sublist_append_right sep _)).trans
          (List.sublist_append_right first _)

/-- Cutting makes no characters. -/
theorem mem_of_mem_splitOn {sep c : Char} {s part : String} (h : part ∈ splitOn sep s)
    (hc : c ∈ part.toList) : c ∈ s.toList := by
  obtain ⟨cs, hcs, rfl⟩ := List.mem_map.1 h
  rw [String.toList_ofList] at hc
  rw [← joinChars_splitChars sep s.toList]
  exact (sublist_joinChars [sep] hcs).subset hc

/-- Parts without a separator in them come out as they were put in. -/
theorem splitOn_join {sep : Char} : ∀ {parts : List String}, parts ≠ [] →
    (∀ part ∈ parts, sep ∉ part.toList) →
    splitOn sep (join (String.ofList [sep]) parts) = parts := by
  intro parts
  induction parts with
  | nil => intro h; exact absurd rfl h
  | cons part rest ih =>
      intro _ hno
      rw [List.forall_mem_cons] at hno
      cases rest with
      | nil => rw [join, splitOn_of_notMem hno.1]
      | cons next rest =>
          rw [join, splitOn_append hno.1, ih (List.cons_ne_nil next rest) hno.2]
          exact fun h => by cases h

/-- Cut at one character, a text without it at its end has a last part. -/
theorem getLastD_splitOn_eq_empty_iff {sep : Char} {s : String}
    (hlast : s.toList.getLast? ≠ some sep) :
    (splitOn sep s).getLastD "" = "" ↔ s = "" := by
  rw [splitOn, List.getLastD_eq_getLast?, List.getLast?_map]
  have hne := splitChars_ne_nil sep s.toList
  cases hl : (splitChars sep s.toList).getLast? with
  | none => exact absurd (List.getLast?_eq_none_iff.1 hl) hne
  | some part =>
      rw [Option.map_some, Option.getD_some]
      constructor
      · intro h
        have hpart : part = [] := by simpa using congrArg String.toList h
        rw [hpart] at hl
        rcases eq_nil_or_getLast?_of_splitChars hl with h | h
        · simpa using h
        · exact absurd h hlast
      · rintro rfl
        simp only [String.toList_empty, splitChars, List.getLast?_singleton,
          Option.some.injEq] at hl
        rw [← hl]

/-- A text has a part with something in it unless it is all separators. -/
theorem filter_splitOn_eq_nil_iff {sep : Char} {s : String} :
    (splitOn sep s).filter (· ≠ "") = [] ↔ ∀ c ∈ s.toList, c = sep := by
  rw [← splitChars_all_nil_iff, splitOn, List.filter_eq_nil_iff]
  simp

end SchemaDocs.Text
