import Mathlib.Data.List.Basic
import SchemaDocs.Json.Reader
import SchemaDocs.Json.Writer

/-!
# Reading what was written

A document of texts, lists and objects is read back as it was, however deep it
is indented. A text is written character by character, as one or two code units
each, and read as code units, from which the characters are put together again
at the end. That works because no character is a surrogate: a high one that is
read is always the first half of a character, and the low one behind it belongs
to it.

The reader runs on fuel, and every call takes one unit of it. As much fuel as
there are characters is enough, since every call but those for lists and objects
takes a character off, and these stand behind a bracket that was taken off for
them. This is how the lemmas bound it, each for the piece of text it is about,
with any text behind that piece.
-/

namespace SchemaDocs

/-! ## Hexadecimal digits -/

namespace Text

theorem hexValue?_hexDigit : ∀ d < 16, hexValue? (hexDigit d) = some d := by
  decide

/-- The writer puts the lowest digit last; the reader takes the highest first. -/
theorem hex_succ (width n : Nat) :
    hex (width + 1) n = hexDigit (n / Nat.pow 16 width % 16) :: hex width n := by
  induction width generalizing n with
  | zero => simp [hex]
  | succ width ih =>
      have hpow : Nat.pow 16 (width + 1) = 16 * Nat.pow 16 width := Nat.pow_succ'
      rw [hex, ih, hex, List.cons_append, Nat.div_div_eq_div_mul, hpow]

theorem readHex?_hex (width n : Nat) (rest : List Char) :
    readHex? width (hex width n ++ rest) = some (n % Nat.pow 16 width, rest) := by
  induction width generalizing n with
  | zero => simp [hex, readHex?, Nat.mod_one]
  | succ width ih =>
      have hdigit := hexValue?_hexDigit _ (Nat.mod_lt (n / Nat.pow 16 width) (by decide))
      have hpow : n % Nat.pow 16 (width + 1) =
          n % Nat.pow 16 width + Nat.pow 16 width * (n / Nat.pow 16 width % 16) :=
        Nat.mod_pow_succ
      have hvalue : n / Nat.pow 16 width % 16 * Nat.pow 16 width + n % Nat.pow 16 width =
          n % Nat.pow 16 (width + 1) := by
        rw [hpow, Nat.add_comm, Nat.mul_comm]
      rw [hex_succ, List.cons_append, readHex?, hdigit, ← hvalue]
      simp only [ih, bind, Option.bind, pure]

end Text

namespace Json

/-! ## Characters as code units -/

/-- The code units of a character. -/
def unitsOf (c : Char) : List Nat :=
  if c.toNat < 0x10000 then [c.toNat]
  else [(surrogates c.toNat).1, (surrogates c.toNat).2]

/-- No character is a surrogate. -/
theorem toNat_valid (c : Char) :
    c.toNat < 0xD800 ∨ (0xDFFF < c.toNat ∧ c.toNat < 0x110000) :=
  c.valid

theorem surrogates_lt (c : Char) :
    (surrogates c.toNat).1 < 0x10000 ∧ (surrogates c.toNat).2 < 0x10000 := by
  have hvalid := toNat_valid c
  simp only [surrogates]
  omega

/-- A reading with some code units put in front. -/
def prepend (units : List Nat) (reading : List Nat × List Char) : List Nat × List Char :=
  (units ++ reading.1, reading.2)

theorem readUnits_quote (fuel : Nat) (rest : List Char) :
    readUnits (fuel + 1) ('"' :: rest) = .ok ([], rest) := by
  rw [readUnits.eq_def]
  rfl

theorem readUnits_plain {c : Char} (hquote : c ≠ '"') (hbackslash : c ≠ '\\')
    (hplain : 0x20 ≤ c.toNat) (fuel : Nat) (rest : List Char) :
    readUnits (fuel + 1) (c :: rest) = (readUnits fuel rest).map (prepend [c.toNat]) := by
  rw [readUnits.eq_def]
  simp only [if_neg hquote, if_neg hbackslash, if_neg (Nat.not_lt.2 hplain)]
  cases readUnits fuel rest <;> rfl

theorem readUnits_unitEscape {n : Nat} (hn : n < 0x10000) (fuel : Nat) {rest : List Char}
    (hrest : rest ≠ []) :
    readUnits (fuel + 1) (unitEscape n ++ rest) =
      (readUnits fuel rest).map (prepend [n]) := by
  obtain ⟨after, behind, rfl⟩ := List.exists_cons_of_ne_nil hrest
  rw [unitEscape, List.cons_append, List.cons_append, readUnits, if_neg (by decide),
    if_pos rfl]
  have hdigits : n % Nat.pow 16 4 = n := Nat.mod_eq_of_lt hn
  simp only [Text.readHex?_hex, hdigits]
  cases readUnits fuel (after :: behind) <;> rfl

/-- What is written for a character is read as its code units. -/
theorem readUnits_escapeChar (c : Char) (fuel : Nat) {rest : List Char}
    (hrest : rest ≠ []) :
    readUnits (fuel + (unitsOf c).length) (escapeChar c ++ rest) =
      (readUnits fuel rest).map (prepend (unitsOf c)) := by
  have hshort {e : Char} {n : Nat} (he : e ≠ 'u') (hn : simpleEscape? e = some n) :
      readUnits (fuel + 1) ('\\' :: e :: rest) =
        (readUnits fuel rest).map (prepend [n]) := by
    rw [readUnits, if_neg (by decide), if_pos rfl]
    · simp only [hn]
      cases readUnits fuel rest <;> rfl
    · exact he
  rw [escapeChar.eq_def]
  split
  case h_8 hquote hbackslash _ _ _ _ _ =>
      split
      · next hplain =>
          have hunits : unitsOf c = [c.toNat] := if_pos (by omega)
          rw [hunits]
          exact readUnits_plain hquote hbackslash hplain.1 fuel rest
      · split
        · next hbasic =>
            have hunits : unitsOf c = [c.toNat] := if_pos hbasic
            rw [hunits]
            exact readUnits_unitEscape hbasic fuel hrest
        · next hbeyond =>
            have hunits : unitsOf c = [(surrogates c.toNat).1, (surrogates c.toNat).2] :=
              if_neg hbeyond
            obtain ⟨hhigh, hlow⟩ := surrogates_lt c
            rw [hunits, List.append_assoc]
            show readUnits (fuel + 1 + 1) _ = _
            rw [readUnits_unitEscape hhigh _ (by simp [unitEscape]),
              readUnits_unitEscape hlow _ hrest]
            cases readUnits fuel rest <;> rfl
  all_goals exact hshort (by decide) rfl

theorem readUnits_flatMap (cs : List Char) {fuel : Nat} (rest : List Char)
    (h : (cs.flatMap unitsOf).length < fuel) :
    readUnits fuel (cs.flatMap escapeChar ++ '"' :: rest) =
      .ok (cs.flatMap unitsOf, rest) := by
  induction cs generalizing fuel with
  | nil =>
      obtain ⟨fuel, rfl⟩ := Nat.exists_eq_add_one.2 h
      exact readUnits_quote fuel rest
  | cons c cs ih =>
      rw [List.flatMap_cons, List.length_append] at h
      have hfuel : fuel = fuel - (unitsOf c).length + (unitsOf c).length := by omega
      rw [List.flatMap_cons, List.append_assoc, hfuel, readUnits_escapeChar c _ (by simp),
        ih (by omega)]
      rfl

theorem isHighSurrogate_iff {n : Nat} :
    isHighSurrogate n = true ↔ 0xD800 ≤ n ∧ n < 0xDC00 := by
  simp [isHighSurrogate]

theorem isLowSurrogate_iff {n : Nat} :
    isLowSurrogate n = true ↔ 0xDC00 ≤ n ∧ n < 0xE000 := by
  simp [isLowSurrogate]

/-- The first character comes out of its code units, whatever stands behind them. -/
theorem joinUnits_unitsOf (c : Char) (units : List Nat) :
    joinUnits (unitsOf c ++ units) = c :: joinUnits units := by
  have hvalid := toNat_valid c
  by_cases hbasic : c.toNat < 0x10000
  · have hhigh : isHighSurrogate c.toNat = false :=
      Bool.eq_false_iff.2 (mt isHighSurrogate_iff.1 (by omega))
    have hlow : isLowSurrogate c.toNat = false :=
      Bool.eq_false_iff.2 (mt isLowSurrogate_iff.1 (by omega))
    rw [unitsOf, if_pos hbasic, List.singleton_append]
    cases units with
    | nil => simp [joinUnits, hhigh, hlow]
    | cons unit units => simp [joinUnits, hhigh, hlow]
  · have hhigh : isHighSurrogate (surrogates c.toNat).1 = true :=
      isHighSurrogate_iff.2 (by simp only [surrogates]; omega)
    have hlow : isLowSurrogate (surrogates c.toNat).2 = true :=
      isLowSurrogate_iff.2 (by simp only [surrogates]; omega)
    have hjoined : 0x10000 + ((surrogates c.toNat).1 - 0xD800) * 0x400 +
        ((surrogates c.toNat).2 - 0xDC00) = c.toNat := by
      simp only [surrogates]
      omega
    rw [unitsOf, if_neg hbasic, List.cons_append, List.singleton_append,
      joinUnits, hhigh, hlow, hjoined, Char.ofNat_toNat]
    rfl

theorem joinUnits_flatMap (cs : List Char) : joinUnits (cs.flatMap unitsOf) = cs := by
  induction cs with
  | nil => rfl
  | cons c cs ih => rw [List.flatMap_cons, joinUnits_unitsOf, ih]

theorem length_unitsOf_le (c : Char) : (unitsOf c).length ≤ (escapeChar c).length := by
  have htwo : (unitsOf c).length ≤ 2 := by
    rw [unitsOf]
    split <;> simp
  rw [escapeChar.eq_def]
  split
  case h_8 =>
      split
      · next hplain => simp [unitsOf, show c.toNat < 0x10000 by omega]
      · split <;> simp [unitEscape] <;> omega
  all_goals exact htwo

theorem length_flatMap_unitsOf_le (cs : List Char) :
    (cs.flatMap unitsOf).length ≤ (cs.flatMap escapeChar).length := by
  induction cs with
  | nil => exact Nat.le_refl 0
  | cons c cs ih =>
      rw [List.flatMap_cons, List.flatMap_cons, List.length_append, List.length_append]
      exact Nat.add_le_add (length_unitsOf_le c) ih

/-! ## Texts -/

theorem toList_quote (s : String) :
    (quote s).toList = '"' :: (s.toList.flatMap escapeChar ++ ['"']) := by
  rw [quote, String.toList_ofList, List.cons_append]

/-- Behind its opening quote a text is read to its closing one. -/
theorem readString_quote (s : String) {fuel : Nat} (rest : List Char)
    (h : (quote s).toList.length ≤ fuel) :
    readString fuel (s.toList.flatMap escapeChar ++ '"' :: rest) = .ok (s, rest) := by
  have hunits := length_flatMap_unitsOf_le s.toList
  rw [toList_quote, List.length_cons, List.length_append, List.length_singleton] at h
  rw [readString, readUnits_flatMap s.toList rest (by omega)]
  simp only [joinUnits_flatMap, String.ofList_toList]

end Json

/-! ## Documents -/

/-- Texts, and lists and objects of these in which no key comes twice. -/
inductive Value.Textual : Value → Prop
  | text (s : String) : Textual (.text s)
  | list {items : List Value} (h : ∀ v ∈ items, Textual v) : Textual (.list items)
  | object {entries : List (String × Value)} (hkeys : (entries.map Prod.fst).Nodup)
      (h : ∀ e ∈ entries, Textual e.2) : Textual (.object entries)

namespace Json

theorem skipSpace_newline (indent level : Nat) (cs : List Char) :
    skipSpace ((newline indent level).toList ++ cs) = skipSpace cs := by
  rw [newline, String.toList_ofList, skipSpace, List.dropWhile_append_of_pos, skipSpace]
  intro c hc
  rcases List.mem_cons.1 hc with rfl | hc
  · rfl
  · rw [List.eq_of_mem_replicate hc]
    rfl

theorem skipSpace_mark {c : Char} (h : isSpace c = false) (cs : List Char) :
    skipSpace (c :: cs) = c :: cs := by
  rw [skipSpace, List.dropWhile_cons_of_neg (by simp [h])]

/-- A document of this kind starts with one of these characters. -/
def documentStarts : List Char := ['"', '[', '\x7b']

theorem documentStarts_unlike : ∀ c ∈ documentStarts,
    isSpace c = false ∧ c ≠ ']' ∧ c ≠ '\x7d' ∧ c ≠ '\uFEFF' := by
  simp only [documentStarts, List.forall_mem_cons]
  exact ⟨by decide, by decide, by decide, List.forall_mem_nil _⟩

theorem exists_write_cons {v : Value} (h : v.Textual) (indent level : Nat)
    (rest : List Char) :
    ∃ c ∈ documentStarts, ∃ cs, (write indent level v).toList ++ rest = c :: cs := by
  cases h with
  | text s =>
      rw [write, toList_quote]
      exact ⟨'"', by decide, _, rfl⟩
  | @list items _ =>
      cases items with
      | nil =>
          rw [write]
          exact ⟨'[', by decide, _, rfl⟩
      | cons v items =>
          simp only [write, String.toList_append]
          exact ⟨'[', by decide, _, rfl⟩
  | @object entries _ _ =>
      cases entries with
      | nil =>
          rw [write]
          exact ⟨'\x7b', by decide, _, rfl⟩
      | cons e entries =>
          simp only [write, String.toList_append]
          exact ⟨'\x7b', by decide, _, rfl⟩

/-- No space comes before a document. -/
theorem skipSpace_write {v : Value} (h : v.Textual) (indent level : Nat)
    (rest : List Char) :
    skipSpace ((write indent level v).toList ++ rest) =
      (write indent level v).toList ++ rest := by
  obtain ⟨c, hc, cs, hwrite⟩ := exists_write_cons h indent level rest
  rw [hwrite, skipSpace_mark (documentStarts_unlike c hc).1]

/-! ### One value, given what is inside -/

section

variable {fuel : Nat} {cs start rest : List Char}

theorem readValue_text (s : String) (h : (quote s).toList.length ≤ fuel) :
    readValue fuel ((quote s).toList ++ rest) = .ok (.text s, rest) := by
  obtain ⟨fuel, rfl⟩ : ∃ n, fuel = n + 1 := by
    rw [toList_quote, List.length_cons] at h
    exact ⟨fuel - 1, by omega⟩
  have hread := readString_quote s rest h
  rw [toList_quote, List.cons_append, List.append_assoc, List.singleton_append,
    readValue, hread]
  rfl

theorem readValue_list {items : List Value} (hstart : skipSpace cs = start)
    (hdocument : ∃ c ∈ documentStarts, ∃ tail, start = c :: tail)
    (h : readItems fuel start = .ok (items, rest)) :
    readValue (fuel + 1) ('[' :: cs) = .ok (.list items, rest) := by
  obtain ⟨c, hc, tail, rfl⟩ := hdocument
  rw [readValue, hstart]
  split
  · next heq =>
      cases heq
      exact absurd rfl (documentStarts_unlike _ hc).2.1
  · rw [h]
    rfl

theorem readValue_object {entries : List (String × Value)} (hstart : skipSpace cs = start)
    (hdocument : ∃ c ∈ documentStarts, ∃ tail, start = c :: tail)
    (h : readEntries fuel [] start = .ok (entries, rest)) :
    readValue (fuel + 1) ('\x7b' :: cs) = .ok (.object entries, rest) := by
  obtain ⟨c, hc, tail, rfl⟩ := hdocument
  rw [readValue, hstart]
  split
  · next heq =>
      cases heq
      exact absurd rfl (documentStarts_unlike _ hc).2.2.1
  · rw [h]
    rfl

end

theorem notMem_of_nodup_append {before behind : List (String × Value)}
    {key : String} {v : Value}
    (h : ((before ++ (key, v) :: behind).map Prod.fst).Nodup) :
    key ∉ before.map Prod.fst := by
  rw [List.map_append, List.map_cons, List.nodup_append] at h
  exact fun hmem => h.2.2 key hmem key List.mem_cons_self rfl

/-- A key that is new goes behind the entries before it. -/
theorem putEntry_of_notMem {key : String} {v : Value} {entries : List (String × Value)}
    (h : key ∉ entries.map Prod.fst) :
    putEntry key v entries = entries ++ [(key, v)] := by
  induction entries with
  | nil => rfl
  | cons e entries ih =>
      rw [List.map_cons, List.mem_cons, not_or] at h
      rw [putEntry, if_neg (Ne.symm h.1), ih h.2, List.cons_append]

/-- A value at some indent is read back, whatever stands behind it. -/
def ReadBack (indent level : Nat) (v : Value) : Prop :=
  ∀ (fuel : Nat) (rest : List Char), (write indent level v).toList.length ≤ fuel →
    readValue fuel ((write indent level v).toList ++ rest) = .ok (v, rest)

section

variable {indent level : Nat}

theorem toList_writeItems (v : Value) (items : List Value) :
    (writeItems indent level (v :: items)).toList =
      ',' :: ((newline indent level).toList ++
      ((write indent level v).toList ++ (writeItems indent level items).toList)) := by
  simp only [writeItems, String.toList_append, List.append_assoc]
  rfl

theorem toList_writeEntries (key : String) (v : Value) (entries : List (String × Value)) :
    (writeEntries indent level ((key, v) :: entries)).toList =
      ',' :: ((newline indent level).toList ++ ((quote key).toList ++ (':' :: ' ' ::
        ((write indent level v).toList ++
          (writeEntries indent level entries).toList)))) := by
  simp only [writeEntries, String.toList_append, List.append_assoc]
  rfl

theorem toList_write_list (v : Value) (items : List Value) :
    (write indent level (.list (v :: items))).toList =
      '[' :: ((newline indent (level + 1)).toList ++
        ((write indent (level + 1) v).toList ++
          ((writeItems indent (level + 1) items).toList ++
            ((newline indent level).toList ++ [']'])))) := by
  simp only [write, String.toList_append, List.append_assoc]
  rfl

theorem toList_write_object (key : String) (v : Value) (entries : List (String × Value)) :
    (write indent level (.object ((key, v) :: entries))).toList =
      '\x7b' :: ((newline indent (level + 1)).toList ++
        ((quote key).toList ++ (':' :: ' ' ::
        ((write indent (level + 1) v).toList ++
          ((writeEntries indent (level + 1) entries).toList ++
            ((newline indent level).toList ++ ['\x7d'])))))) := by
  simp only [write, String.toList_append, List.append_assoc]
  rfl

/-- Items are read up to the bracket, which may stand at another indent. -/
theorem readItems_write (outer : Nat) (rest : List Char) :
    ∀ {items : List Value} {v : Value} {fuel : Nat}, (∀ w ∈ v :: items, w.Textual) →
    (∀ w ∈ v :: items, ReadBack indent level w) →
    (write indent level v).toList.length +
      (writeItems indent level items).toList.length < fuel →
    readItems fuel
      ((write indent level v).toList ++ ((writeItems indent level items).toList ++
      ((newline indent outer).toList ++ ']' :: rest))) = .ok (v :: items, rest) := by
  intro items
  induction items with
  | nil =>
      intro v fuel _ hread hfuel
      obtain ⟨fuel, rfl⟩ : ∃ n, fuel = n + 1 := ⟨fuel - 1, by omega⟩
      have hempty : (writeItems indent level []).toList = [] := rfl
      rw [readItems, hread v List.mem_cons_self fuel _ (by omega),
        hempty, List.nil_append]
      have hclose := skipSpace_mark (show isSpace ']' = false from rfl)
      simp only [bind, Except.bind, skipSpace_newline, hclose]
      rfl
  | cons w items ih =>
      intro v fuel htextual hread hfuel
      obtain ⟨fuel, rfl⟩ : ∃ n, fuel = n + 1 := ⟨fuel - 1, by omega⟩
      obtain ⟨-, htextual⟩ := List.forall_mem_cons.1 htextual
      obtain ⟨hv, hread⟩ := List.forall_mem_cons.1 hread
      rw [toList_writeItems, List.length_cons, List.length_append, List.length_append]
        at hfuel
      rw [readItems, hv fuel _ (by omega), toList_writeItems]
      simp only [bind, Except.bind, List.cons_append, List.append_assoc,
        skipSpace_mark (show isSpace ',' = false from rfl), skipSpace_newline,
        skipSpace_write (htextual w List.mem_cons_self)]
      rw [ih htextual hread (by omega)]
      rfl

/-- The entry of a new key is read, and the mark behind it says how to go on. -/
theorem readEntries_entry {before : List (String × Value)} {key : String} {v : Value}
    {fuel : Nat} (behind : List Char) (hkey : key ∉ before.map Prod.fst)
    (htextual : v.Textual)
    (hread : ReadBack indent level v)
    (hfuel : (quote key).toList.length + (write indent level v).toList.length ≤ fuel) :
    readEntries (fuel + 1) before ((quote key).toList ++ (':' :: ' ' ::
      ((write indent level v).toList ++ behind))) =
    match skipSpace behind with
    | '\x7d' :: rest => .ok (before ++ [(key, v)], rest)
    | ',' :: rest => readEntries fuel (before ++ [(key, v)]) (skipSpace rest)
    | rest => .error ⟨.expectingComma, rest.length⟩ := by
  have hname : readString (fuel + 1) _ = _ := readString_quote key
    (':' :: ' ' :: ((write indent level v).toList ++ behind)) (by omega)
  have hspace : skipSpace (' ' :: ((write indent level v).toList ++ behind)) =
      (write indent level v).toList ++ behind :=
    skipSpace_write htextual indent level behind
  rw [toList_quote, List.cons_append, List.append_assoc, List.singleton_append,
    readEntries, hname]
  simp only [bind, Except.bind, skipSpace_mark (show isSpace ':' = false from rfl),
    hspace, hread fuel behind (by omega), putEntry_of_notMem hkey]
  rfl

/-- Entries are read up to the brace and put behind those before them, as long
as no key comes twice. -/
theorem readEntries_write (outer : Nat) (rest : List Char) :
    ∀ {entries before : List (String × Value)} {key : String} {v : Value} {fuel : Nat},
    ((before ++ (key, v) :: entries).map Prod.fst).Nodup →
    (∀ e ∈ (key, v) :: entries, e.2.Textual) →
    (∀ e ∈ (key, v) :: entries, ReadBack indent level e.2) →
    (quote key).toList.length + (write indent level v).toList.length +
      (writeEntries indent level entries).toList.length < fuel →
    readEntries fuel before
      ((quote key).toList ++ (':' :: ' ' :: ((write indent level v).toList ++
      ((writeEntries indent level entries).toList ++ ((newline indent outer).toList ++
        '\x7d' :: rest))))) = .ok (before ++ (key, v) :: entries, rest) := by
  intro entries
  induction entries with
  | nil =>
      intro before key v fuel hkeys htextual hread hfuel
      obtain ⟨fuel, rfl⟩ : ∃ n, fuel = n + 1 := ⟨fuel - 1, by omega⟩
      have hempty : (writeEntries indent level []).toList = [] := rfl
      have hv : v.Textual := htextual _ List.mem_cons_self
      have hreadFirst : ReadBack indent level v := hread _ List.mem_cons_self
      have hkey := notMem_of_nodup_append hkeys
      rw [readEntries_entry _ hkey hv hreadFirst (by omega), hempty, List.nil_append,
        skipSpace_newline,
        skipSpace_mark (show isSpace '\x7d' = false from rfl)]
      rfl
  | cons e entries ih =>
      intro before key v fuel hkeys htextual hread hfuel
      obtain ⟨fuel, rfl⟩ : ∃ n, fuel = n + 1 := ⟨fuel - 1, by omega⟩
      obtain ⟨other, w⟩ := e
      obtain ⟨hv : v.Textual, htextual⟩ := List.forall_mem_cons.1 htextual
      obtain ⟨hreadFirst : ReadBack indent level v, hread⟩ := List.forall_mem_cons.1 hread
      have hkey := notMem_of_nodup_append hkeys
      have hquote : skipSpace ((quote other).toList ++ (':' :: ' ' ::
          ((write indent level w).toList ++ ((writeEntries indent level entries).toList ++
            ((newline indent outer).toList ++ '\x7d' :: rest))))) = _ :=
        skipSpace_write (.text other) indent level _
      rw [List.append_cons] at hkeys
      rw [toList_writeEntries, List.length_cons, List.length_append, List.length_append,
        List.length_cons, List.length_cons, List.length_append] at hfuel
      rw [readEntries_entry _ hkey hv hreadFirst (by omega),
        toList_writeEntries, List.cons_append,
        skipSpace_mark (show isSpace ',' = false from rfl)]
      simp only [List.append_assoc, List.cons_append, skipSpace_newline, hquote]
      rw [write, ih hkeys htextual hread (by omega), ← List.append_cons]

end

/-- Documents are read back at every indent. -/
theorem readBack_of_textual {v : Value} (h : v.Textual) :
    ∀ indent level, ReadBack indent level v := by
  induction h with
  | text s =>
      intro indent level fuel rest hfuel
      rw [write] at hfuel ⊢
      exact readValue_text s hfuel
  | @list items htextual ih =>
      intro indent level fuel rest hfuel
      cases items with
      | nil =>
          rw [write] at hfuel ⊢
          obtain ⟨fuel, rfl⟩ :=
            Nat.exists_eq_add_one.2 (Nat.lt_of_lt_of_le (by decide) hfuel)
          rfl
      | cons v items =>
          rw [toList_write_list] at hfuel ⊢
          simp only [List.length_cons, List.length_append] at hfuel
          obtain ⟨fuel, rfl⟩ : ∃ n, fuel = n + 1 := ⟨fuel - 1, by omega⟩
          have hv := htextual v List.mem_cons_self
          simp only [List.cons_append, List.append_assoc]
          refine readValue_list ?_ (exists_write_cons hv indent (level + 1) _)
            (readItems_write level rest htextual (fun w hw => ih w hw indent (level + 1))
              (by omega))
          rw [skipSpace_newline, skipSpace_write hv]
          rfl
  | @object entries hkeys htextual ih =>
      intro indent level fuel rest hfuel
      cases entries with
      | nil =>
          rw [write] at hfuel ⊢
          obtain ⟨fuel, rfl⟩ :=
            Nat.exists_eq_add_one.2 (Nat.lt_of_lt_of_le (by decide) hfuel)
          rfl
      | cons e entries =>
          obtain ⟨key, v⟩ := e
          rw [toList_write_object] at hfuel ⊢
          simp only [List.length_cons, List.length_append] at hfuel
          obtain ⟨fuel, rfl⟩ : ∃ n, fuel = n + 1 := ⟨fuel - 1, by omega⟩
          have hkey : Value.Textual (.text key) := .text key
          simp only [List.cons_append, List.append_assoc]
          refine readValue_object ?_ (exists_write_cons hkey indent (level + 1) _)
            (readEntries_write level rest hkeys htextual
              (fun w hw => ih w hw indent (level + 1))
              (by omega))
          rw [skipSpace_newline, ← skipSpace_write hkey indent (level + 1), write]
          rfl

/-- A document of texts, lists and objects is read back as it was written. -/
theorem parse_write {v : Value} (h : v.Textual) (indent : Nat) :
    parse (write indent 0 v) = .ok v := by
  have hspace := skipSpace_write h indent 0 []
  have hread :=
    readBack_of_textual h indent 0 (2 * (write indent 0 v).toList.length + 2) []
      (by omega)
  have hmark : (write indent 0 v).toList.head? ≠ some '\uFEFF' := by
    obtain ⟨c, hc, cs, hstart⟩ := exists_write_cons h indent 0 []
    rw [List.append_nil] at hstart
    rw [hstart, List.head?_cons, ne_eq, Option.some.injEq]
    exact (documentStarts_unlike c hc).2.2.2
  rw [List.append_nil] at hspace hread
  rw [parse, readDocument, if_neg hmark, hspace]
  simp only [bind, Except.bind, hread]
  rfl

end Json

end SchemaDocs
