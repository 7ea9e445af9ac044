import SchemaDocs.Proofs.Routes

/-!
# Bases of routes

A base is freed of the white space at its ends, and then of the slashes. That
makes it a slash and a text that has neither at its ends, or nothing at all,
as long as all the white space stands outside of the slashes. Where some stands
behind a slash at the front, or before one at the end, it comes to light when
the slashes go, and nothing takes it away.

So this is the one thing that decides. What is left starts and ends as it should
exactly if the white space stands outside, and a base of slashes and white space
alone is emptied exactly then. To do it all again changes nothing as long as no
white space came to light at the end: what came to light at the front is kept
apart from it by the slash that is put there.
-/

namespace SchemaDocs

namespace Text

/-- White space or a slash. -/
def isEdge (c : Char) : Bool := isBlank c || isSlash c

/-- The text has nothing of a class at its ends. -/
structure FreeEnds (p : Char → Bool) (cs : List Char) : Prop where
  head : ∀ c, cs.head? = some c → p c = false
  last : ∀ c, cs.getLast? = some c → p c = false

section

variable {p q : Char → Bool} {cs : List Char}

theorem freeEnds_trimBy : FreeEnds p (trimBy p cs) :=
  ⟨fun _ => head?_trimBy, fun _ => getLast?_trimBy⟩

theorem FreeEnds.trimBy_eq (h : FreeEnds p cs) : trimBy p cs = cs :=
  trimBy_eq_self h.head h.last

theorem FreeEnds.eq_nil (h : FreeEnds p cs) (hall : ∀ c ∈ cs, p c = true) : cs = [] := by
  rw [← h.trimBy_eq]
  exact trimBy_eq_nil_iff.2 hall

theorem isEdge_eq_false_iff {c : Char} :
    isEdge c = false ↔ isBlank c = false ∧ isSlash c = false := Bool.or_eq_false_iff

theorem freeEnds_isEdge_iff :
    FreeEnds isEdge cs ↔ FreeEnds isBlank cs ∧ FreeEnds isSlash cs := by
  constructor
  · intro h
    have hhead := fun c hc => isEdge_eq_false_iff.1 (h.head c hc)
    have hlast := fun c hc => isEdge_eq_false_iff.1 (h.last c hc)
    exact ⟨⟨fun c hc => (hhead c hc).1, fun c hc => (hlast c hc).1⟩,
      ⟨fun c hc => (hhead c hc).2, fun c hc => (hlast c hc).2⟩⟩
  · rintro ⟨hblank, hslash⟩
    exact ⟨fun c hc => isEdge_eq_false_iff.2 ⟨hblank.head c hc, hslash.head c hc⟩,
      fun c hc => isEdge_eq_false_iff.2 ⟨hblank.last c hc, hslash.last c hc⟩⟩

/-- What stands around a text may be at the ends instead of it. -/
theorem FreeEnds.between {before behind : List Char} (h : FreeEnds p cs)
    (hbefore : ∀ c ∈ before, p c = false) (hbehind : ∀ c ∈ behind, p c = false) :
    FreeEnds p (before ++ cs ++ behind) := by
  constructor
  · intro c hc
    rw [List.head?_append, List.head?_append, Option.or_eq_some_iff,
      Option.or_eq_some_iff] at hc
    rcases hc with (hc | ⟨-, hc⟩) | ⟨-, hc⟩
    · exact hbefore c (List.mem_of_head? hc)
    · exact h.head c hc
    · exact hbehind c (List.mem_of_head? hc)
  · intro c hc
    rw [List.getLast?_append, List.getLast?_append, Option.or_eq_some_iff,
      Option.or_eq_some_iff] at hc
    rcases hc with hc | ⟨-, hc | ⟨-, hc⟩⟩
    · exact hbehind c (List.mem_of_getLast? hc)
    · exact h.last c hc
    · exact hbefore c (List.mem_of_getLast? hc)

end

theorem isBlank_of_isSlash {c : Char} (h : isSlash c = true) : isBlank c = false := by
  rw [isSlash, beq_iff_eq] at h
  subst h
  rfl

end Text

open Text

/-- In normal form: nothing, or a slash and a text that has neither white space
nor slashes at its ends. -/
def IsRouteBase (s : String) : Prop :=
  s = "" ∨ ∃ t, s = "/" ++ t ∧ t ≠ "" ∧ FreeEnds isEdge t.toList

/-- All white space at the ends stands outside of the slashes there. -/
def BlankOutside (base : String) : Prop :=
  ∃ before front inner back behind : List Char,
    base.toList = before ++ (front ++ inner ++ back) ++ behind ∧
      (∀ c ∈ before ++ behind, isBlank c = true) ∧
      (∀ c ∈ front ++ back, isSlash c = true) ∧
      FreeEnds isEdge inner

/-! ## What is left of a base -/

/-- What is left of a base between the white space and the slashes. -/
def routeBaseInner (base : String) : List Char :=
  trimBy isSlash (trimBy isBlank base.toList)

theorem normalizeRouteBase_eq (base : String) : normalizeRouteBase base =
    if routeBaseInner base = [] then ""
    else "/" ++ String.ofList (routeBaseInner base) := by
  rw [normalizeRouteBase, trimSlashes, trim, String.toList_ofList, ← routeBaseInner]
  simp only [String.ofList_eq_empty_iff]

theorem normalizeRouteBase_eq_empty_iff (base : String) :
    normalizeRouteBase base = "" ↔ routeBaseInner base = [] := by
  rw [normalizeRouteBase_eq]
  split
  · next h => exact iff_of_true rfl h
  · next h =>
      refine iff_of_false (fun hempty => ?_) h
      have hchars := congrArg String.toList hempty
      rw [String.toList_append] at hchars
      cases hchars

theorem freeEnds_routeBaseInner (base : String) :
    FreeEnds isSlash (routeBaseInner base) :=
  freeEnds_trimBy

/-- Where the white space stands outside, what is left is what stands between
the slashes. -/
theorem routeBaseInner_of_split {base : String}
    {before front inner back behind : List Char}
    (hbase : base.toList = before ++ (front ++ inner ++ back) ++ behind)
    (hblank : ∀ c ∈ before ++ behind, isBlank c = true)
    (hslash : ∀ c ∈ front ++ back, isSlash c = true) (hinner : FreeEnds isEdge inner) :
    routeBaseInner base = inner := by
  obtain ⟨hbefore, hbehind⟩ := List.forall_mem_append.1 hblank
  obtain ⟨hfront, hback⟩ := List.forall_mem_append.1 hslash
  obtain ⟨hfreeBlank, hfreeSlash⟩ := freeEnds_isEdge_iff.1 hinner
  have hmiddle : FreeEnds isBlank (front ++ inner ++ back) :=
    hfreeBlank.between (fun c hc => isBlank_of_isSlash (hfront c hc))
      fun c hc => isBlank_of_isSlash (hback c hc)
  rw [routeBaseInner, hbase, trimBy_between hbefore hbehind, hmiddle.trimBy_eq,
    trimBy_between hfront hback, hfreeSlash.trimBy_eq]

/-- A base falls into what is taken off and what is left. -/
theorem exists_split (base : String) : ∃ before front back behind : List Char,
    base.toList = before ++ (front ++ routeBaseInner base ++ back) ++ behind ∧
      (∀ c ∈ before ++ behind, isBlank c = true) ∧
      ∀ c ∈ front ++ back, isSlash c = true := by
  obtain ⟨before, behind, hbase, hblank⟩ := exists_trimBy_append isBlank base.toList
  obtain ⟨front, back, hinner, hslash⟩ :=
    exists_trimBy_append isSlash (trimBy isBlank base.toList)
  refine ⟨before, front, back, behind, ?_, hblank, hslash⟩
  rw [routeBaseInner, ← hinner, ← hbase]

theorem blankOutside_iff {base : String} :
    BlankOutside base ↔ FreeEnds isBlank (routeBaseInner base) := by
  constructor
  · rintro ⟨before, front, inner, back, behind, hbase, hblank, hslash, hinner⟩
    rw [routeBaseInner_of_split hbase hblank hslash hinner]
    exact (freeEnds_isEdge_iff.1 hinner).1
  · intro h
    obtain ⟨before, front, back, behind, hbase, hblank, hslash⟩ := exists_split base
    exact ⟨before, front, _, back, behind, hbase, hblank, hslash,
      freeEnds_isEdge_iff.2 ⟨h, freeEnds_routeBaseInner base⟩⟩

theorem isRouteBase_iff {base : String} :
    IsRouteBase (normalizeRouteBase base) ↔ BlankOutside base := by
  rw [blankOutside_iff, IsRouteBase, normalizeRouteBase_eq_empty_iff]
  constructor
  · rintro (hnil | ⟨t, ht, hne, hfree⟩)
    · rw [hnil]
      exact ⟨nofun, nofun⟩
    · rw [normalizeRouteBase_eq] at ht
      split at ht
      · have hchars := congrArg String.toList ht
        rw [String.toList_append] at hchars
        cases hchars
      · rw [← (String.append_right_inj _).1 ht, String.toList_ofList] at hfree
        exact (freeEnds_isEdge_iff.1 hfree).1
  · intro h
    rw [normalizeRouteBase_eq]
    by_cases hnil : routeBaseInner base = []
    · exact Or.inl hnil
    · refine Or.inr ⟨String.ofList (routeBaseInner base), if_neg hnil, ?_, ?_⟩
      · rwa [ne_eq, String.ofList_eq_empty_iff]
      · rw [String.toList_ofList]
        exact freeEnds_isEdge_iff.2 ⟨h, freeEnds_routeBaseInner base⟩

/-- A base is emptied if nothing but white space and slashes is there, with the
white space outside. -/
theorem routeBaseInner_eq_nil_iff {base : String} : routeBaseInner base = [] ↔
    BlankOutside base ∧ ∀ c ∈ base.toList, isEdge c = true := by
  constructor
  · intro hnil
    refine ⟨blankOutside_iff.2 (by rw [hnil]; exact ⟨nofun, nofun⟩), ?_⟩
    obtain ⟨before, front, back, behind, hbase, hblank, hslash⟩ := exists_split base
    rw [hbase, hnil]
    simp only [List.forall_mem_append, List.append_nil] at hblank hslash ⊢
    simp only [isEdge, Bool.or_eq_true]
    exact ⟨⟨fun c hc => .inl (hblank.1 c hc), fun c hc => .inr (hslash.1 c hc),
      fun c hc => .inr (hslash.2 c hc)⟩, fun c hc => .inl (hblank.2 c hc)⟩
  · rintro ⟨houtside, hedge⟩
    have hfree := freeEnds_isEdge_iff.2
      ⟨blankOutside_iff.1 houtside, freeEnds_routeBaseInner base⟩
    exact hfree.eq_nil fun c hc => hedge c (mem_of_mem_trimBy (mem_of_mem_trimBy hc))

/-! ## Doing it again -/

/-- Behind the slash that was put in front, only the end is trimmed. -/
theorem routeBaseInner_slash (cs : List Char) :
    routeBaseInner ("/" ++ String.ofList cs) = trimBy isSlash (dropEnd isBlank cs) := by
  have htrim : trimBy isBlank ('/' :: cs) = '/' :: dropEnd isBlank cs := by
    rw [trimBy, List.dropWhile_cons_of_neg (by decide), dropEnd, List.reverse_cons,
      List.dropWhile_append]
    split
    · next hnil =>
        have hnil' : cs.reverse.dropWhile isBlank = [] := by simpa using hnil
        rw [dropEnd, hnil']
        rfl
    · rw [List.reverse_append]
      rfl
  have hbetween : trimBy isSlash (['/'] ++ dropEnd isBlank cs ++ []) =
      trimBy isSlash (dropEnd isBlank cs) :=
    trimBy_between (List.forall_mem_singleton.2 rfl) (List.forall_mem_nil _)
  rw [List.append_nil, List.singleton_append] at hbetween
  have hchars : ("/" ++ String.ofList cs).toList = '/' :: cs := by
    simp only [String.toList_append, String.toList_ofList]
    rfl
  rw [routeBaseInner, hchars, htrim, hbetween]

theorem trimBy_dropEnd_eq_iff {cs : List Char} (h : FreeEnds isSlash cs) :
    trimBy isSlash (dropEnd isBlank cs) = cs ↔
      ∀ c, cs.getLast? = some c → isBlank c = false := by
  constructor
  · intro heq c hc
    -- Trimming twice took nothing off, so trimming once took nothing off.
    have hlength := calc
      cs.length = (trimBy isSlash (dropEnd isBlank cs)).length := by rw [heq]
      _ ≤ (dropEnd isBlank cs).length := trimBy_sublist.length_le
    have hkept : dropEnd isBlank cs = cs := dropEnd_prefix.sublist.eq_of_length_le hlength
    exact getLast?_dropEnd (hkept.symm ▸ hc)
  · intro hlast
    rw [dropEnd_eq_self hlast, h.trimBy_eq]

theorem normalizeRouteBase_twice_iff (base : String) :
    normalizeRouteBase (normalizeRouteBase base) = normalizeRouteBase base ↔
      ∀ c, (normalizeRouteBase base).toList.getLast? = some c → isBlank c = false := by
  by_cases hnil : routeBaseInner base = []
  · rw [(normalizeRouteBase_eq_empty_iff base).2 hnil]
    exact iff_of_true rfl nofun
  · have hbase : normalizeRouteBase base =
      "/" ++ String.ofList (routeBaseInner base) := by
      rw [normalizeRouteBase_eq, if_neg hnil]
    have hlast :
        (normalizeRouteBase base).toList.getLast? = (routeBaseInner base).getLast? := by
      simp only [hbase, String.toList_append, String.toList_ofList, List.getLast?_append,
        List.getLast?_eq_some_getLast hnil, Option.some_or]
    have hagain : routeBaseInner (normalizeRouteBase base) = routeBaseInner base ↔
        ∀ c, (normalizeRouteBase base).toList.getLast? = some c → isBlank c = false := by
      rw [hlast, ← trimBy_dropEnd_eq_iff (freeEnds_routeBaseInner base), hbase,
        routeBaseInner_slash]
    rw [← hagain]
    constructor
    · intro h
      rw [normalizeRouteBase_eq] at h
      split at h
      · exact absurd ((normalizeRouteBase_eq_empty_iff base).1 h.symm) hnil
      · exact String.ofList_inj.1 ((String.append_right_inj _).1 (h.trans hbase))
    · intro h
      rw [normalizeRouteBase_eq, h, if_neg hnil, hbase]

/-! ## Normal forms -/

/-- Whatever the base is, what is left of it has no slashes at its ends but the
one in front. It is in normal form exactly if the white space of the base stands
outside of the slashes; it is empty exactly if nothing but white space and
slashes is there, with the white space outside; and normalizing it again changes
nothing exactly if it does not end with white space. -/
theorem normalizeRouteBase_normal (base : String) :
    (normalizeRouteBase base = "" ∨
      ∃ t, normalizeRouteBase base = "/" ++ t ∧ t ≠ "" ∧ FreeEnds isSlash t.toList) ∧
    (IsRouteBase (normalizeRouteBase base) ↔ BlankOutside base) ∧
    (normalizeRouteBase base = "" ↔
      BlankOutside base ∧ ∀ c ∈ base.toList, isBlank c = true ∨ isSlash c = true) ∧
    (normalizeRouteBase (normalizeRouteBase base) = normalizeRouteBase base ↔
      ∀ c, (normalizeRouteBase base).toList.getLast? = some c → isBlank c = false) := by
  refine ⟨?_, isRouteBase_iff, ?_, normalizeRouteBase_twice_iff base⟩
  · rw [normalizeRouteBase_eq]
    split
    · exact Or.inl rfl
    · next hne =>
        refine Or.inr ⟨_, rfl, ?_, ?_⟩
        · rwa [ne_eq, String.ofList_eq_empty_iff]
        · rw [String.toList_ofList]
          exact freeEnds_routeBaseInner base
  · rw [normalizeRouteBase_eq_empty_iff, routeBaseInner_eq_nil_iff]
    simp only [isEdge, Bool.or_eq_true]

/-- One blank between two slashes comes to light when the slashes go. What is
left is not empty, ends with white space, and goes when all is done again. -/
theorem normalizeRouteBase_blankInside :
    (∀ c ∈ "/ /".toList, isBlank c = true ∨ isSlash c = true) ∧
      normalizeRouteBase "/ /" = "/ " ∧ ¬ IsRouteBase (normalizeRouteBase "/ /") ∧
      normalizeRouteBase (normalizeRouteBase "/ /") ≠ normalizeRouteBase "/ /" := by
  have hleft : normalizeRouteBase "/ /" = "/ " := by decide
  have hedge : ∀ c ∈ ['/', ' ', '/'], isBlank c = true ∨ isSlash c = true := by
    simp only [List.forall_mem_cons]
    exact ⟨.inr rfl, .inl rfl, .inr rfl, List.forall_mem_nil _⟩
  refine ⟨hedge, hleft, ?_, by decide⟩
  rw [hleft]
  rintro (hempty | ⟨t, ht, -, hfree⟩)
  · exact absurd hempty (by decide)
  · have hblank : " " = t := (String.append_right_inj "/").1 ht
    subst hblank
    exact absurd (hfree.head ' ' rfl) (by decide)

end SchemaDocs
