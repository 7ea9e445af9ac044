import SchemaDocs.Proofs.Parts
import SchemaDocs.Site.Page

/-!
# The files that have no route

Deriving a route fails in two ways, and both come down to there being nothing
in a text but its separators: a package of dots has no parts, and a path of
slashes has no name in it. A path with anything else has a name, because the
slashes at its ends are trimmed off before it is cut, and because what stands
in front of an extension is not empty: dots at the beginning of a name belong
to the name.
-/

namespace SchemaDocs

/-- There is nothing to derive a route from. -/
def File.Unroutable (f : File) : Prop :=
  (f.package ≠ "" ∧ ∀ c ∈ f.package.toList, c = '.') ∨
    (f.package = "" ∧ ∀ c ∈ f.path.toList, c = '/')

/-! ## The name of a path -/

/-- Something stands before the last separator if there is something else in
front. -/
theorem beforeLast?_ne_nil {sep c : Char} {cs before : List Char} (hc : c ≠ sep)
    (h : beforeLast? sep (c :: cs) = some before) : before ≠ [] := by
  rw [beforeLast?] at h
  split at h
  · cases h
  · next last rest hrest =>
      cases h
      rintro hnil
      rw [List.reverse_eq_nil_iff] at hnil
      rw [hnil, List.reverse_cons, List.dropWhile_append] at hrest
      split at hrest
      · simp [hc] at hrest
      · next hne =>
          have hlen := congrArg List.length hrest
          simp only [List.length_append, List.length_singleton] at hlen
          exact hne (List.isEmpty_iff_length_eq_zero.2 (by omega))

theorem stem_eq_empty_iff {name : String} : stem name = "" ↔ name = "" := by
  constructor
  · intro h
    rw [stem] at h
    simp only [] at h
    split at h
    · next before hb =>
        exfalso
        rw [← String.toList_inj, String.toList_ofList] at h
        have hbefore : before = [] := (List.append_eq_nil_iff.1 h).2
        cases hd : name.toList.dropWhile (· == '.') with
        | nil =>
            rw [hd] at hb
            cases hb
        | cons c rest =>
            have hc := Text.eq_false_of_head?_dropWhile (congrArg List.head? hd)
            rw [hd] at hb
            exact beforeLast?_ne_nil (by simpa using hc) hb hbefore
    · exact h
  · rintro rfl
    rfl

theorem trimSlashes_eq_empty_iff {path : String} :
    trimSlashes path = "" ↔ ∀ c ∈ path.toList, c = '/' := by
  rw [trimSlashes, ← String.toList_inj, String.toList_ofList,
    String.toList_empty, Text.trimBy_eq_nil_iff]
  simp [Text.isSlash]

theorem getLast?_trimSlashes (path : String) :
    (trimSlashes path).toList.getLast? ≠ some '/' := by
  intro h
  rw [trimSlashes, String.toList_ofList] at h
  have := Text.getLast?_trimBy h
  simp [Text.isSlash] at this

theorem getLastD_stemParts (path : String) :
    (stemParts path).getLastD "" = stem ((pathParts path).getLastD "") := by
  simp [stemParts]

theorem getLastD_mem_stemParts (path : String) :
    (stemParts path).getLastD "" ∈ stemParts path := by
  simp [stemParts]

/-- A path has a name unless it is made of slashes. -/
theorem getLastD_stemParts_eq_empty_iff {path : String} :
    (stemParts path).getLastD "" = "" ↔ ∀ c ∈ path.toList, c = '/' := by
  rw [getLastD_stemParts, stem_eq_empty_iff, pathParts,
    Text.getLastD_splitOn_eq_empty_iff (getLast?_trimSlashes path),
    trimSlashes_eq_empty_iff]

/-! ## The two failures -/

theorem File.segments_eq_nil_iff {f : File} (hp : f.package ≠ "") :
    f.segments = [] ↔ ∀ c ∈ f.package.toList, c = '.' := by
  rw [File.segments, if_neg hp, Text.filter_splitOn_eq_nil_iff]

/-- A file has a route unless there is nothing to derive it from. -/
theorem File.route_eq_error_iff {f : File} (base : String) :
    (∃ e, f.route base = .error e) ↔ f.Unroutable := by
  rw [File.route, File.Unroutable, ← getLastD_stemParts_eq_empty_iff]
  by_cases hp : f.package = ""
  · rw [if_pos hp]
    split <;> simp_all
  · rw [if_neg hp, ← File.segments_eq_nil_iff hp]
    cases hs : f.segments.getLast? with
    | none => simp_all
    | some last =>
        have : f.segments ≠ [] := by
          rintro hnil
          rw [hnil] at hs
          cases hs
        simp_all

end SchemaDocs
