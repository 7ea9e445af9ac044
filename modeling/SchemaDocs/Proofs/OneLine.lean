import Mathlib.Data.List.Chain
import SchemaDocs.Proofs.Parts
import SchemaDocs.Text.Search

/-!
# Text on one line

A text falls into its maximal runs of characters that are not white space, with
white space between them and perhaps at the ends. `RunsOf` says so of a list of
runs, and one list only has this to say of a text: it is what the accumulating
reader finds, and what cutting at white space gives.

Folding a text onto one line is said by these runs alone. White space in front of
a run has become a single space, or nothing where it is the first run, and all
behind the last run is trimmed off; so the runs stand there with single spaces
between them. Everything else follows. No white space but single spaces is left,
and with it no end of a line; and a text of such runs falls into these runs again,
so folding it once more changes nothing.
-/

namespace SchemaDocs.Text

/-- A run of characters none of which is white space. -/
structure IsRun (w : List Char) : Prop where
  ne_nil : w ≠ []
  noBlank : ∀ c ∈ w, isBlank c = false

/-- The maximal runs of a text, in order. A run ends where the text ends or white
space comes. -/
inductive RunsOf : List Char → List (List Char) → Prop
  | gap {gap : List Char} (hgap : ∀ c ∈ gap, isBlank c = true) : RunsOf gap []
  | run {gap w rest : List Char} {ws : List (List Char)}
    (hgap : ∀ c ∈ gap, isBlank c = true)
      (hw : IsRun w) (hend : ∀ c, rest.head? = some c → isBlank c = true)
      (h : RunsOf rest ws) : RunsOf (gap ++ (w ++ rest)) (w :: ws)

/-! ## The runs of a text -/

section

variable {c : Char} {cs gap w rest : List Char} {ws : List (List Char)}

theorem RunsOf.isRun (h : RunsOf cs ws) : ∀ w ∈ ws, IsRun w := by
  induction h with
  | gap _ => exact List.forall_mem_nil _
  | run _ hw _ _ ih => exact List.forall_mem_cons.2 ⟨hw, ih⟩

/-- White space in front of a text is no part of its runs. -/
theorem RunsOf.blank_cons (hc : isBlank c = true) (h : RunsOf cs ws) :
    RunsOf (c :: cs) ws := by
  cases h with
  | gap hgap => exact .gap (List.forall_mem_cons.2 ⟨hc, hgap⟩)
  | @run gap w rest ws hgap hw hend h =>
      show RunsOf (c :: gap ++ (w ++ rest)) (w :: ws)
      exact .run (List.forall_mem_cons.2 ⟨hc, hgap⟩) hw hend h

/-- A run at the front of a text, with white space behind it. -/
theorem RunsOf.run_cons (hw : IsRun w) (hc : isBlank c = true) (h : RunsOf cs ws) :
    RunsOf (w ++ c :: cs) (w :: ws) := by
  show RunsOf ([] ++ (w ++ c :: cs)) (w :: ws)
  refine .run (List.forall_mem_nil _) hw (fun d hd => ?_) (h.blank_cons hc)
  rwa [← Option.some.inj hd]

theorem IsRun.runsOf (hw : IsRun w) : RunsOf w [w] := by
  have h : RunsOf ([] ++ (w ++ [])) [w] :=
    .run (List.forall_mem_nil _) hw nofun (.gap (List.forall_mem_nil _))
  rwa [List.nil_append, List.append_nil] at h

theorem isRun_reverse (hne : w.isEmpty = false) (hw : ∀ c ∈ w, isBlank c = false) :
    IsRun w.reverse :=
  ⟨by simpa using hne, fun c hc => hw c (List.mem_reverse.1 hc)⟩

/-- The reader finds the runs of what it has read and what is still to be read. -/
theorem runsOf_go {word : List Char} (hword : ∀ c ∈ word, isBlank c = false) :
    RunsOf (word.reverse ++ cs) (words.go word cs) := by
  induction cs generalizing word with
  | nil =>
      rw [words.go, List.append_nil]
      cases hne : word.isEmpty with
      | true =>
          rw [List.isEmpty_iff.1 hne]
          exact .gap (List.forall_mem_nil _)
      | false => exact (isRun_reverse hne hword).runsOf
  | cons c rest ih =>
      rw [words.go]
      cases hc : isBlank c with
      | true =>
          have hrest := ih (List.forall_mem_nil _)
          cases hne : word.isEmpty with
          | true =>
              rw [List.isEmpty_iff.1 hne]
              exact hrest.blank_cons hc
          | false => exact .run_cons (isRun_reverse hne hword) hc hrest
      | false =>
          have hrest := ih (List.forall_mem_cons.2 ⟨hc, hword⟩)
          rwa [List.reverse_cons, List.append_assoc, List.singleton_append] at hrest

theorem go_gap (hgap : ∀ c ∈ gap, isBlank c = true) :
    words.go [] (gap ++ cs) = words.go [] cs := by
  induction gap with
  | nil => rfl
  | cons c gap ih =>
      rw [List.forall_mem_cons] at hgap
      rw [List.cons_append, words.go, if_pos hgap.1]
      exact ih hgap.2

theorem go_run {word : List Char} (hw : ∀ c ∈ w, isBlank c = false) :
    words.go word (w ++ cs) = words.go (w.reverse ++ word) cs := by
  induction w generalizing word with
  | nil => rfl
  | cons c w ih =>
      rw [List.forall_mem_cons] at hw
      rw [List.cons_append, words.go, hw.1, if_neg Bool.false_ne_true, ih hw.2,
        List.reverse_cons, List.append_assoc, List.singleton_append]

theorem go_end {word : List Char} (hne : word ≠ [])
    (hend : ∀ c, rest.head? = some c → isBlank c = true) :
    words.go word rest = word.reverse :: words.go [] rest := by
  have hempty : ¬ word.isEmpty = true := fun h => hne (List.isEmpty_iff.1 h)
  cases rest with
  | nil =>
      rw [words.go, if_neg hempty]
      rfl
  | cons c rest =>
      have hgap : words.go [] ([c] ++ rest) = words.go [] rest :=
        go_gap (List.forall_mem_singleton.2 (hend c rfl))
      rw [List.singleton_append] at hgap
      rw [hgap, words.go, if_pos (hend c rfl), if_neg hempty]

theorem RunsOf.words_eq (h : RunsOf cs ws) : words cs = ws := by
  induction h with
  | @gap gap hgap =>
      have hall : words.go [] (gap ++ []) = [] := go_gap hgap
      rw [List.append_nil] at hall
      exact hall
  | @run gap w rest ws hgap hw hend _ ih =>
      have hne : w.reverse ≠ [] := fun h => hw.ne_nil (List.reverse_eq_nil_iff.1 h)
      rw [words, go_gap hgap, go_run hw.noBlank, List.append_nil, go_end hne hend,
        List.reverse_reverse, ← words, ih]

/-- A text has one list of maximal runs. -/
theorem runsOf_iff : RunsOf cs ws ↔ ws = words cs := by
  constructor
  · exact fun h => h.words_eq.symm
  · rintro rfl
    exact runsOf_go (List.forall_mem_nil _)

/-- A run begins with its first character and goes on as long as no white space
comes. -/
theorem RunsOf.of_first (hgap : ∀ c ∈ gap, isBlank c = true) (hc : isBlank c = false)
    (h : RunsOf (rest.dropWhile (!isBlank ·)) ws) :
    RunsOf (gap ++ c :: rest) ((c :: rest.takeWhile (!isBlank ·)) :: ws) := by
  have hrun : IsRun (c :: rest.takeWhile (!isBlank ·)) := by
    refine ⟨List.cons_ne_nil c _, List.forall_mem_cons.2 ⟨hc, fun d hd => ?_⟩⟩
    simpa using List.mem_takeWhile_imp hd
  have hend : ∀ d, (rest.dropWhile (!isBlank ·)).head? = some d → isBlank d = true := by
    intro d hd
    simpa using eq_false_of_head?_dropWhile hd
  have hruns := RunsOf.run hgap hrun hend h
  rwa [List.cons_append, List.takeWhile_append_dropWhile] at hruns

/-- Behind what is taken from the front of a text stands the rest of it. -/
theorem drop_takeWhile_length (p : Char → Bool) (cs : List Char) :
    cs.drop (cs.takeWhile p).length = cs.dropWhile p := by
  calc cs.drop (cs.takeWhile p).length
      = (cs.takeWhile p ++ cs.dropWhile p).drop (cs.takeWhile p).length := by
        rw [List.takeWhile_append_dropWhile]
    _ = cs.dropWhile p := List.drop_left

/-- Cutting at white space, as often as there is some, gives the runs. -/
theorem runsOf_splitBlanksAt : ∀ {fuel : Nat} {cs : List Char},
    cs.length < fuel → RunsOf cs (splitBlanksAt fuel none cs) := by
  intro fuel
  induction fuel with
  | zero => exact fun h => absurd h (Nat.not_lt_zero _)
  | succ fuel ih =>
      intro cs h
      have hsplit := List.takeWhile_append_dropWhile (p := isBlank) (l := cs)
      have hgap : ∀ c ∈ cs.takeWhile isBlank, isBlank c = true :=
        fun c => List.mem_takeWhile_imp
      have hlength := (List.dropWhile_sublist isBlank (l := cs)).length_le
      rw [splitBlanksAt]
      split
      · next hnil =>
          rw [hnil, List.append_nil] at hsplit
          rw [← hsplit]
          exact .gap hgap
      · next c rest hcs =>
          have hc := eq_false_of_head?_dropWhile (congrArg List.head? hcs)
          rw [hcs] at hsplit hlength
          have hword :
              (c :: rest).takeWhile (!isBlank ·) = c :: rest.takeWhile (!isBlank ·) :=
            List.takeWhile_cons_of_pos (by rw [hc]; rfl)
          have hrest := (List.dropWhile_sublist (!isBlank ·) (l := rest)).length_le
          have hfuel : (rest.dropWhile (!isBlank ·)).length < fuel := by
            rw [List.length_cons] at hlength
            omega
          have hruns := RunsOf.of_first hgap hc (ih hfuel)
          rw [hsplit, ← drop_takeWhile_length] at hruns
          rw [if_pos (show mayCut none = true from rfl), hword]
          exact hruns

theorem splitBlanks_eq_words (cs : List Char) : splitBlanks none cs = words cs :=
  runsOf_iff.1 (runsOf_splitBlanksAt (Nat.lt_succ_self _))

end

/-! ## Folding a text onto one line -/

section

variable {inRun : Bool} {c : Char} {cs gap w : List Char} {ws : List (List Char)}

/-- Behind the white space that is left at the front, the text is what it would
be inside of a run. -/
theorem dropWhile_squeeze : (squeeze inRun cs).dropWhile isBlank = squeeze true cs := by
  induction cs generalizing inRun with
  | nil => rfl
  | cons c rest ih =>
      rw [squeeze, squeeze]
      cases hc : isBlank c with
      | true =>
          cases inRun with
          | true => exact ih
          | false => exact ih
      | false => exact List.dropWhile_cons_of_neg (by rw [hc]; exact Bool.false_ne_true)

theorem squeeze_gap (hgap : ∀ c ∈ gap, isBlank c = true) :
    squeeze true (gap ++ cs) = squeeze true cs := by
  induction gap with
  | nil => rfl
  | cons c gap ih =>
      rw [List.forall_mem_cons] at hgap
      rw [List.cons_append, squeeze, if_pos hgap.1, if_pos rfl, ih hgap.2]

theorem squeeze_run (hw : IsRun w) : squeeze inRun (w ++ cs) = w ++ squeeze false cs := by
  obtain ⟨hne, hblank⟩ := hw
  induction w generalizing inRun with
  | nil => exact absurd rfl hne
  | cons c w ih =>
      rw [List.forall_mem_cons] at hblank
      rw [List.cons_append, squeeze, hblank.1, if_neg Bool.false_ne_true,
        List.cons_append]
      cases w with
      | nil => rfl
      | cons d w => rw [ih (List.cons_ne_nil d w) hblank.2]

theorem joinChars_ne_nil (hw : IsRun w) (sep : List Char) :
    joinChars sep (w :: ws) ≠ [] := by
  cases ws with
  | nil => exact hw.ne_nil
  | cons v ws =>
      rw [joinChars_cons_cons, List.append_assoc]
      exact List.append_ne_nil_of_left_ne_nil hw.ne_nil _

/-- Where white space comes first, there is one space for all of it. -/
theorem squeeze_of_blank (hc : isBlank c = true) :
    squeeze false (c :: cs) = ' ' :: squeeze true (c :: cs) := by
  rw [squeeze, squeeze, if_pos hc, if_pos hc, if_neg Bool.false_ne_true, if_pos rfl]

/-- What is left of a text when white space is trimmed off. -/
theorem dropEnd_squeeze (h : RunsOf cs ws) :
    dropEnd isBlank (squeeze true cs) = joinChars [' '] ws := by
  induction h with
  | @gap gap hgap =>
      have hnil : squeeze true (gap ++ []) = [] := squeeze_gap hgap
      rw [List.append_nil] at hnil
      rw [hnil]
      rfl
  | @run gap w rest ws hgap hw hend h ih =>
      have hwhole : dropEnd isBlank w = w := dropEnd_eq_self fun c hc =>
        hw.noBlank c (List.mem_of_getLast? hc)
      rw [squeeze_gap hgap, squeeze_run hw]
      cases rest with
      | nil =>
          obtain rfl : ws = [] := runsOf_iff.1 h
          rw [squeeze, List.append_nil, hwhole, joinChars]
      | cons c rest =>
          rw [squeeze_of_blank (hend c rfl), ← List.singleton_append, ← List.append_assoc]
          cases ws with
          | nil =>
              -- Behind the last run there is only white space.
              have hblank := dropEnd_eq_nil_iff.1 ih
              rw [List.append_assoc, dropEnd_append, hwhole]
              · rfl
              · exact List.forall_mem_append.2 ⟨List.forall_mem_singleton.2 rfl, hblank⟩
          | cons v ws =>
              have hne : joinChars [' '] (v :: ws) ≠ [] :=
                joinChars_ne_nil (h.isRun v List.mem_cons_self) [' ']
              rw [dropEnd_append_of_ne_nil (ih ▸ hne), ih, joinChars_cons_cons]

theorem toList_oneLine (s : String) :
    (oneLine s).toList = joinChars [' '] (words s.toList) := by
  rw [oneLine, String.toList_ofList, trimBy, dropWhile_squeeze]
  exact dropEnd_squeeze (runsOf_iff.2 rfl)

/-- Runs with a space between them are the runs of the text that they make. -/
theorem runsOf_joinChars : ∀ {ws : List (List Char)}, (∀ w ∈ ws, IsRun w) →
    RunsOf (joinChars [' '] ws) ws
  | [], _ => .gap (List.forall_mem_nil _)
  | [w], h => (h w List.mem_cons_self).runsOf
  | w :: v :: ws, h => by
      rw [List.forall_mem_cons] at h
      rw [joinChars_cons_cons, List.append_assoc, List.singleton_append]
      exact .run_cons h.1 rfl (runsOf_joinChars h.2)

theorem oneLine_oneLine (s : String) : oneLine (oneLine s) = oneLine s := by
  have hruns : RunsOf s.toList (words s.toList) := runsOf_iff.2 rfl
  have hagain := runsOf_iff.1 (runsOf_joinChars hruns.isRun)
  rw [← String.toList_inj, toList_oneLine, toList_oneLine, ← hagain]

/-! ## White space that is left -/

/-- Of all white space, only spaces are left. -/
theorem eq_space_of_mem_squeeze (hc : isBlank c = true) (h : c ∈ squeeze inRun cs) :
    c = ' ' := by
  induction cs generalizing inRun with
  | nil => cases h
  | cons d rest ih =>
      rw [squeeze] at h
      split at h
      · split at h
        · exact ih h
        · exact (List.mem_cons.1 h).elim id ih
      · next hd =>
          rcases List.mem_cons.1 h with rfl | h
          · exact absurd hc hd
          · exact ih h

theorem eq_space_of_mem_oneLine {s : String} (h : c ∈ (oneLine s).toList)
    (hc : isBlank c = true) : c = ' ' := by
  rw [oneLine, String.toList_ofList] at h
  exact eq_space_of_mem_squeeze hc (mem_of_mem_trimBy h)

/-- Inside of a run of white space no more of it is written. -/
theorem head?_squeeze (h : (squeeze true cs).head? = some c) : isBlank c = false := by
  have hdrop : (squeeze true cs).dropWhile isBlank = squeeze true cs := dropWhile_squeeze
  rw [← hdrop] at h
  exact eq_false_of_head?_dropWhile h

theorem isChain_squeeze (inRun : Bool) (cs : List Char) :
    (squeeze inRun cs).IsChain fun c d => isBlank c = true → isBlank d = false := by
  induction cs generalizing inRun with
  | nil => exact .nil
  | cons c rest ih =>
      rw [squeeze]
      split
      · cases inRun with
        | true => exact ih true
        | false => exact (ih true).cons fun d hd _ => head?_squeeze hd
      · next hc => exact (ih false).cons fun d _ hblank => absurd hblank hc

theorem isBlank_of_isLineEnd (h : isLineEnd c = true) : isBlank c = true := by
  rw [isLineEnd, inRanges_iff] at h
  rw [isBlank, inRanges_iff]
  simp only [blankRanges, List.mem_cons, List.not_mem_nil, or_false, exists_eq_or_imp,
    exists_eq_left] at h ⊢
  omega

end

/-- A text on one line is its maximal runs of characters other than white space,
joined by single spaces. It has no white space at its ends and no two pieces of it
side by side; all its white space is spaces, and so no line ends in it. And it is
on one line already. -/
theorem oneLine_words (s : String) :
    oneLine s = join " " ((words s.toList).map String.ofList) ∧
    splitBlanks none s.toList = words s.toList ∧
    (∀ ws, RunsOf s.toList ws ↔ ws = words s.toList) ∧
    Trimmed (oneLine s) ∧
    ((oneLine s).toList.IsChain fun c d => isBlank c = true → isBlank d = false) ∧
    (∀ c ∈ (oneLine s).toList, isBlank c = true → c = ' ') ∧
    (∀ c ∈ (oneLine s).toList, isLineEnd c = false) ∧
    oneLine (oneLine s) = oneLine s := by
  refine ⟨?_, splitBlanks_eq_words s.toList, fun ws => runsOf_iff, ?_, ?_,
    fun c => eq_space_of_mem_oneLine, fun c hc => ?_, oneLine_oneLine s⟩
  · have hjoin := join_map_ofList [' '] (words s.toList)
    rw [← toList_oneLine, String.ofList_toList] at hjoin
    exact hjoin.symm
  · exact trimmed_trimBy (squeeze false s.toList)
  · rw [oneLine, String.toList_ofList]
    obtain ⟨before, behind, hsplit, -⟩ :=
      exists_trimBy_append isBlank (squeeze false s.toList)
    have hchain := isChain_squeeze false s.toList
    rw [hsplit] at hchain
    exact hchain.left_of_append.right_of_append
  · rw [Bool.eq_false_iff]
    intro hend
    have hspace := eq_space_of_mem_oneLine hc (isBlank_of_isLineEnd hend)
    subst hspace
    exact absurd hend (by decide)

end SchemaDocs.Text
