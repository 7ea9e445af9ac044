import SchemaDocs.Proofs.Parts
import SchemaDocs.Schema.MapNotation

/-!
# Map types that are written out

The two names of a map stand between marks, and white space may stand around
each of them. No character of a name is white, and no mark is either of the
two, so where a part ends does not depend on what comes behind it. That is why
every text that is put together from the parts is read back as the two names,
however much white space there is.
-/

namespace SchemaDocs.MapNotation

open Text (isBlank Trimmed)

/-! ## Names -/

/-- What a map names its keys and values by. -/
structure IsName (s : String) : Prop where
  nonempty : s ≠ ""
  chars : ∀ c ∈ s.toList, Text.isWord c = true ∨ c = '.'

theorem ranges_apart : Text.blankRanges.all fun r =>
    Text.alphanumericRanges.all fun s => r.2 < s.1 || s.2 < r.1 := by decide +kernel

theorem isBlank_eq_false_of_isAlphanum {c : Char} (hascii : c.toNat < 128)
    (h : c.isAlphanum = true) : isBlank c = false := by
  have hall : ∀ n < 128, (Char.ofNat n).isAlphanum = true →
      isBlank (Char.ofNat n) = false := by
    decide
  have hc := hall c.toNat hascii
  rw [Char.ofNat_toNat] at hc
  exact hc h

theorem isBlank_eq_false_of_isNameChar {c : Char} (h : isNameChar c = true) :
    isBlank c = false := by
  simp only [isNameChar, Text.isWord, Bool.or_eq_true, beq_iff_eq] at h
  obtain (rfl | h) | rfl := h
  · decide
  · rw [Text.isAlphanumeric] at h
    split at h
    · next hascii => exact isBlank_eq_false_of_isAlphanum hascii h
    · obtain ⟨s, hs, hle, hge⟩ := Text.inRanges_iff.1 h
      rw [isBlank, Bool.eq_false_iff]
      intro hblank
      obtain ⟨r, hr, hle', hge'⟩ := Text.inRanges_iff.1 hblank
      have hapart := List.all_eq_true.1 (List.all_eq_true.1 ranges_apart r hr) s hs
      simp only [Bool.or_eq_true, decide_eq_true_eq] at hapart
      omega
  · decide

theorem IsName.isNameChar {s : String} (h : IsName s) :
    ∀ c ∈ s.toList, MapNotation.isNameChar c = true := by
  intro c hc
  rw [MapNotation.isNameChar, Bool.or_eq_true, beq_iff_eq]
  exact h.chars c hc

/-- Decided over the characters of the text, and not over all there are. -/
instance (s : String) : Decidable (IsName s) :=
  decidable_of_iff (s ≠ "" ∧ s.toList.all MapNotation.isNameChar = true)
    ⟨fun h => ⟨h.1, fun c hc => by
      simpa [MapNotation.isNameChar] using List.all_eq_true.1 h.2 c hc⟩,
    fun h => ⟨h.nonempty, List.all_eq_true.2 h.isNameChar⟩⟩

theorem IsName.trimmed {s : String} (h : IsName s) : Trimmed s :=
  .of_noBlank fun c hc => isBlank_eq_false_of_isNameChar (h.isNameChar c hc)

theorem isNameChar_eq_false_of_isBlank {c : Char} (h : isBlank c = true) :
    isNameChar c = false := by
  rw [Bool.eq_false_iff]
  intro hname
  rw [isBlank_eq_false_of_isNameChar hname] at h
  cases h

/-! ## Reading what is written -/

/-- A map type written out, with a text before, between and behind its parts. -/
def written (gaps : Fin 7 → String) (key value : String) : String :=
  gaps 0 ++ "map" ++ gaps 1 ++ "<" ++ gaps 2 ++ key ++ gaps 3 ++
    "," ++ gaps 4 ++ value ++ gaps 5 ++ ">" ++ gaps 6

theorem skipBlank_append {gap rest : List Char} (hgap : ∀ c ∈ gap, isBlank c = true)
    (hrest : ∀ c, rest.head? = some c → isBlank c = false) :
    skipBlank (gap ++ rest) = rest := by
  rw [skipBlank, List.dropWhile_append_of_pos hgap, Text.dropWhile_eq_self hrest]

/-- A mark behind white space. -/
theorem expect?_mark {gap rest : List Char} {mark : Char}
    (hgap : ∀ c ∈ gap, isBlank c = true)
    (hmark : isBlank mark = false) :
    expect? [mark] (skipBlank (gap ++ mark :: rest)) = some rest := by
  have hhead : ∀ c, (mark :: rest).head? = some c → isBlank c = false := by
    rintro _ ⟨⟩
    exact hmark
  rw [skipBlank_append hgap hhead]
  simp [expect?, List.isPrefixOf]

/-- A name behind white space, which something else ends. -/
theorem readName?_append {gap rest : List Char} {name : String}
    (hgap : ∀ c ∈ gap, isBlank c = true) (hname : IsName name)
    (hrest : ∀ c, rest.head? = some c → isNameChar c = false) :
    readName? (skipBlank (gap ++ (name.toList ++ rest))) = some (name, rest) := by
  obtain ⟨c, cs, hcs⟩ :=
    List.exists_cons_of_ne_nil (fun h => hname.nonempty (String.toList_eq_nil_iff.1 h))
  have hchars := hname.isNameChar
  have hhead : ∀ d, (name.toList ++ rest).head? = some d → isBlank d = false := by
    intro d hd
    rw [hcs, List.cons_append, List.head?_cons, Option.some.injEq] at hd
    exact isBlank_eq_false_of_isNameChar (hchars d (hcs ▸ hd ▸ List.mem_cons_self))
  have htake : rest.takeWhile isNameChar = [] := by
    cases rest with
    | nil => rfl
    | cons d ds => rw [List.takeWhile_cons, hrest d rfl, if_neg Bool.false_ne_true]
  rw [skipBlank_append hgap hhead, readName?, List.takeWhile_append_of_pos hchars, htake,
    List.append_nil, List.dropWhile_append_of_pos hchars, Text.dropWhile_eq_self hrest,
    hcs]
  simp only [← hcs, String.ofList_toList]

/-- A mark behind white space ends a name. -/
theorem isNameChar_head?_eq_false {gap : List Char} {mark : Char}
    (hgap : ∀ c ∈ gap, isBlank c = true) (hmark : isNameChar mark = false)
    (rest : List Char) :
    ∀ c, (gap ++ mark :: rest).head? = some c → isNameChar c = false := by
  cases gap with
  | nil =>
      rintro _ ⟨⟩
      exact hmark
  | cons d ds =>
      rintro _ ⟨⟩
      exact isNameChar_eq_false_of_isBlank (hgap d List.mem_cons_self)

/-- White space may stand before, between and behind the parts of a map type. -/
theorem parse?_trim_written {gaps : Fin 7 → String} {key value : String}
    (hgaps : ∀ i, Text.Blank (gaps i)) (hkey : IsName key) (hvalue : IsName value) :
    parse? (Text.trim (written gaps key value)) = some (key, value) := by
  let gap (i : Fin 7) : List Char := (gaps i).toList
  let inner : List Char := gap 1 ++ '<' :: (gap 2 ++ (key.toList ++ (gap 3 ++ ',' ::
    (gap 4 ++ (value.toList ++ (gap 5 ++ ['>']))))))
  have hwritten : (written gaps key value).toList =
      gap 0 ++ ("map".toList ++ inner) ++ gap 6 := by
    simp [written, gap, inner]
  have htrim : (Text.trim (written gaps key value)).toList = "map".toList ++ inner := by
    rw [Text.trim, String.toList_ofList, hwritten,
      Text.trimBy_between (hgaps 0) (hgaps 6)]
    refine Text.trimBy_eq_self ?_ ?_
    · rintro _ ⟨⟩
      decide
    · have hends : "map".toList ++ inner = "map".toList ++ gap 1 ++
        ['<'] ++ gap 2 ++ key.toList ++
          gap 3 ++ [','] ++ gap 4 ++ value.toList ++ gap 5 ++ ['>'] := by simp [inner]
      rw [hends, List.getLast?_concat]
      rintro _ ⟨⟩
      decide
  have hmap : expect? "map".toList ("map".toList ++ inner) = some inner := by
    simp [expect?, List.isPrefixOf]
  have hkeyEnd :=
    isNameChar_head?_eq_false (hgaps 3) (show isNameChar ',' = false by decide)
      (gap 4 ++ (value.toList ++ (gap 5 ++ ['>'])))
  have hvalueEnd :=
    isNameChar_head?_eq_false (hgaps 5) (show isNameChar '>' = false by decide) []
  rw [parse?, htrim, hmap]
  simp only [Option.bind_eq_bind, Option.bind_some, inner]
  rw [expect?_mark (hgaps 1) (by decide)]
  simp only [Option.bind_some]
  rw [readName?_append (hgaps 2) hkey hkeyEnd]
  simp only [Option.bind_some]
  rw [expect?_mark (hgaps 3) (by decide)]
  simp only [Option.bind_some]
  rw [readName?_append (hgaps 4) hvalue hvalueEnd]
  simp only [Option.bind_some]
  rw [expect?_mark (hgaps 5) (by decide)]
  rfl

/-! ## What is read as a map -/

theorem readName?_isName {cs rest : List Char} {name : String}
    (h : readName? cs = some (name, rest)) : IsName name := by
  rw [readName?] at h
  split at h
  · cases h
  · next hne =>
    cases h
    constructor
    · intro hempty
      exact hne (String.ofList_eq_empty_iff.1 hempty)
    · intro c hc
      rw [String.toList_ofList] at hc
      have hname : isNameChar c = true := List.mem_takeWhile_imp hc
      rwa [isNameChar, Bool.or_eq_true, beq_iff_eq] at hname

theorem parse?_isName {s key value : String} (h : parse? s = some (key, value)) :
    IsName key ∧ IsName value := by
  simp only [parse?, Option.bind_eq_bind, Option.bind_eq_some_iff] at h
  obtain ⟨_, -, _, -, ⟨k, cs⟩, hkey, _, -, ⟨v, ds⟩, hvalue, _, -, hend⟩ := h
  split at hend
  · cases hend
    exact ⟨readName?_isName hkey, readName?_isName hvalue⟩
  · cases hend

end SchemaDocs.MapNotation
