import Mathlib.Data.Finset.Card
import Mathlib.Data.Finset.Image
import Mathlib.Data.Nat.Find
import SchemaDocs.Site.Route

/-!
# A page always finds a free name

The search for a name goes through a sequence of candidates until one is not
taken. From the second candidate on no two are the same: among one more
candidates than there are names taken, one must be free. The first candidate is
left out of this, since it may be the same as the second.

The search so comes to an end by itself, after a number of turns that the names
taken bound, and its fuel, one more than there are of them, never decides what
it finds.
-/

namespace SchemaDocs

theorem toString_nat_injective {i j : Nat} (h : toString i = toString j) :
    i = j := by
  have hdigits : Nat.toDigits 10 i = Nat.toDigits 10 j := by
    rw [← Nat.toList_repr, ← Nat.toList_repr]
    exact congrArg String.toList h
  have hread {n : Nat} := Nat.ofDigitChars_toDigits (b := 10) (n := n)
    (by decide) (by decide)
  rw [← hread (n := i), hdigits, hread]

theorem isDigit_of_mem_toString {n : Nat} {c : Char} (h : c ∈ (toString n).toList) :
    c.isDigit = true := by
  have hdigits : c ∈ Nat.toDigits 10 n := by rwa [← Nat.toList_repr]
  exact Nat.isDigit_of_mem_toDigits (by decide) (by decide) hdigits

/-- Later candidates differ: the second has no number, and the others have
different ones. -/
theorem slugCandidate_succ_injective (slug flat : String) :
    Function.Injective fun n => slugCandidate slug flat (n + 1) := by
  have hlonger (n : Nat) : flat ≠ flat ++ "_" ++ toString (n + 2) := by
    intro h
    have := congrArg String.length h
    simp only [String.length_append] at this
    have : "_".length = 1 := rfl
    omega
  intro i j h
  cases i with
  | zero =>
      cases j with
      | zero => rfl
      | succ j => exact absurd h (hlonger j)
  | succ i =>
      cases j with
      | zero => exact absurd h.symm (hlonger i)
      | succ j =>
          have hnum : toString (i + 2) = toString (j + 2) := by
            simpa [slugCandidate] using h
          have := toString_nat_injective hnum
          omega

section

variable {taken : List String} {group slug flat : String}

/-- The page name that a candidate gives is not taken. -/
def SlugFree (taken : List String) (group slug flat : String) (n : Nat) : Prop :=
  group ++ slugCandidate slug flat n ∉ taken

/-- The candidate is free, and none in front of it is. -/
def FirstFree (taken : List String) (group slug flat : String) (n : Nat) : Prop :=
  SlugFree taken group slug flat n ∧ ∀ j < n, ¬ SlugFree taken group slug flat j

/-- One of the candidates that the search gets to see is free. -/
theorem exists_slugFree (taken : List String) (group slug flat : String) :
    ∃ n, 1 ≤ n ∧ n ≤ taken.toFinset.card + 1 ∧ SlugFree taken group slug flat n := by
  by_contra hno
  simp only [not_exists, not_and, SlugFree, not_not] at hno
  let name (n : Nat) : String := group ++ slugCandidate slug flat (n + 1)
  have hinj : Function.Injective name := by
    intro i j h
    exact slugCandidate_succ_injective slug flat (by simpa [name] using h)
  have hsub : (Finset.range (taken.toFinset.card + 1)).image name ⊆ taken.toFinset := by
    intro s hs
    obtain ⟨n, hn, rfl⟩ := Finset.mem_image.1 hs
    rw [Finset.mem_range] at hn
    exact List.mem_toFinset.2 (hno (n + 1) (by omega) (by omega))
  have hcard := Finset.card_le_card hsub
  rw [Finset.card_image_of_injective _ hinj, Finset.card_range] at hcard
  omega

theorem exists_firstFree (taken : List String) (group slug flat : String) :
    ∃ n, n ≤ taken.toFinset.card + 1 ∧ FirstFree taken group slug flat n := by
  classical
  obtain ⟨n, -, hle, hfree⟩ := exists_slugFree taken group slug flat
  have hexists : ∃ n, SlugFree taken group slug flat n := ⟨n, hfree⟩
  exact ⟨Nat.find hexists, (Nat.find_min' hexists hfree).trans hle,
    Nat.find_spec hexists, fun j hj => Nat.find_min hexists hj⟩

/-- The search gives the first candidate that is free, on any fuel that takes it
there. -/
theorem searchSlug_eq {m : Nat} (h : FirstFree taken group slug flat m) :
    ∀ (fuel n : Nat), n ≤ m → m ≤ n + fuel →
      searchSlug taken group slug flat fuel n = slugCandidate slug flat m := by
  intro fuel
  induction fuel with
  | zero =>
      intro n hle hge
      obtain rfl : n = m := by omega
      rfl
  | succ fuel ih =>
      intro n hle hge
      rw [searchSlug]
      rcases Nat.eq_or_lt_of_le hle with rfl | hlt
      · exact if_neg (by simpa [SlugFree] using h.1)
      · rw [if_pos (by simpa [SlugFree] using h.2 n hlt)]
        exact ih (n + 1) hlt (by omega)

/-- The slug of a page is the first free candidate. -/
theorem freeSlug_first (taken : List String) (group slug path : String) :
    ∃ m, freeSlug taken group slug path = slugCandidate slug (flatName slug path) m ∧
      SlugFree taken group slug (flatName slug path) m ∧
      ∀ j < m, ¬ SlugFree taken group slug (flatName slug path) j := by
  obtain ⟨m, hle, hfirst⟩ := exists_firstFree taken group slug (flatName slug path)
  have hcard := taken.toFinset_card_le
  exact ⟨m, searchSlug_eq hfirst _ 0 (Nat.zero_le m) (by omega), hfirst⟩

/-- Of what is taken, the slug depends on the names that it might give. -/
theorem freeSlug_congr {taken' : List String} {path : String}
    (h : ∀ n, SlugFree taken group slug (flatName slug path) n ↔
      SlugFree taken' group slug (flatName slug path) n) :
    freeSlug taken group slug path = freeSlug taken' group slug path := by
  obtain ⟨m, hm, hfirst⟩ := freeSlug_first taken group slug path
  obtain ⟨m', hm', hfirst'⟩ := freeSlug_first taken' group slug path
  simp only [h] at hfirst
  rcases Nat.lt_trichotomy m m' with hlt | heq | hlt
  · exact absurd hfirst.1 (hfirst'.2 m hlt)
  · rw [hm, hm', heq]
  · exact absurd hfirst'.1 (hfirst.2 m' hlt)

theorem freeSlug_not_taken (taken : List String) (group slug path : String) :
    group ++ freeSlug taken group slug path ∉ taken := by
  obtain ⟨m, hrun, hfree, -⟩ := freeSlug_first taken group slug path
  rw [hrun]
  exact hfree

/-! ## How long the search goes on -/

/-- The search for a number, turn by turn. It holds a candidate and the number
to try next; as long as the name of the candidate is taken, a turn goes on to
the flat name with that number behind it. -/
inductive Renumbers (taken : List String) (group flat : String) :
    (turns : Nat) → (candidate : String) → (next : Nat) → (found : String) → Prop
  | found {candidate : String} {next : Nat} (h : group ++ candidate ∉ taken) :
      Renumbers taken group flat 0 candidate next candidate
  | turn {turns next : Nat} {candidate found : String} (h : group ++ candidate ∈ taken)
      (hrest : Renumbers taken group flat turns (flat ++ "_" ++ toString next) (next + 1)
        found) :
      Renumbers taken group flat (turns + 1) candidate next found

/-- From one candidate behind the plain slug to the first free one there are as
many turns as candidates to pass over. -/
theorem FirstFree.renumbers : ∀ {turns n : Nat},
    FirstFree taken group slug flat (n + 1 + turns) →
    Renumbers taken group flat turns (slugCandidate slug flat (n + 1)) (n + 2)
      (slugCandidate slug flat (n + 1 + turns)) := by
  intro turns
  induction turns with
  | zero => exact fun h => .found h.1
  | succ turns ih =>
      intro n h
      have hplace : n + 1 + (turns + 1) = n + 1 + 1 + turns := by omega
      have htaken : group ++ slugCandidate slug flat (n + 1) ∈ taken :=
        not_not.1 (h.2 (n + 1) (by omega))
      rw [hplace] at h ⊢
      exact .turn htaken (ih h)

/-- Whatever is taken, the search for a slug comes to an end with the first
candidate that is free. Behind a slug that is taken it takes no more turns than
there are names taken, and it needs no more fuel than one for each of them and
one for the slug. -/
theorem freeSlug_terminates (taken : List String) (group slug path : String) :
    ∃ n, FirstFree taken group slug (flatName slug path) n ∧
      freeSlug taken group slug path = slugCandidate slug (flatName slug path) n ∧
      group ++ freeSlug taken group slug path ∉ taken ∧
      (group ++ slug ∈ taken → ∃ turns ≤ taken.toFinset.card,
        Renumbers taken group (flatName slug path) turns (flatName slug path) 2
          (freeSlug taken group slug path)) ∧
      ∀ fuel > taken.toFinset.card,
        searchSlug taken group slug (flatName slug path) fuel 0 =
          freeSlug taken group slug path := by
  obtain ⟨n, hle, hfirst⟩ := exists_firstFree taken group slug (flatName slug path)
  have hsearch (fuel : Nat) (hfuel : taken.toFinset.card < fuel) :
      searchSlug taken group slug (flatName slug path) fuel 0 =
        slugCandidate slug (flatName slug path) n :=
    searchSlug_eq hfirst fuel 0 (Nat.zero_le n) (by omega)
  have hfound :
      freeSlug taken group slug path = slugCandidate slug (flatName slug path) n :=
    hsearch _ (Nat.lt_succ_of_le taken.toFinset_card_le)
  refine ⟨n, hfirst, hfound, freeSlug_not_taken taken group slug path, ?_,
    fun fuel hfuel => (hsearch fuel hfuel).trans hfound.symm⟩
  intro htaken
  cases n with
  | zero => exact absurd htaken hfirst.1
  | succ turns =>
      rw [hfound]
      rw [Nat.add_comm turns 1, ← Nat.zero_add 1] at hfirst ⊢
      exact ⟨turns, by omega, hfirst.renumbers⟩

/-- The names of a group that has given away the plain name and the flat one. -/
def crowded : List String := ["p/user", "p/two_user", "q/two_user_2"]

theorem freeSlug_terminates_crowded :
    "p/" ++ "user" ∈ crowded ∧
      freeSlug crowded "p/" "user" "two/user.proto" = "two_user_2" ∧
      ∃ turns ≤ crowded.toFinset.card,
        Renumbers crowded "p/" "two_user" turns "two_user" 2 "two_user_2" := by
  have hflat : flatName "user" "two/user.proto" = "two_user" := by decide +kernel
  have hslug : freeSlug crowded "p/" "user" "two/user.proto" = "two_user_2" := by
    decide +kernel
  have htaken : "p/" ++ "user" ∈ crowded := by decide
  obtain ⟨-, -, -, -, hturns, -⟩ :=
    freeSlug_terminates crowded "p/" "user" "two/user.proto"
  rw [hflat, hslug] at hturns
  exact ⟨htaken, hslug, hturns htaken⟩

end

end SchemaDocs
