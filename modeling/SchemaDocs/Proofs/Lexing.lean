import SchemaDocs.Proofs.Beforehand

/-!
# Faults of the text

A text that cannot be cut into tokens has a fault in the place of the token that
is missing. Such a fault is reported as a fault of the template, unless it is a
number that cannot be read: that goes by a name of its own.
-/

namespace SchemaDocs.Template

/-! ## Numbers -/

theorem foreignDigit?_contained {ds : List Char} {e : SyntaxError}
    (h : foreignDigit? ds = some e) :
    e.Contained := by
  obtain ⟨c, -, rfl⟩ := Option.map_eq_some_iff.1 h
  exact .number _

theorem realFault?_contained {significand exponent : List Char} {e : SyntaxError}
    (h : realFault? significand exponent = some e) : e.Contained := by
  rw [realFault?.eq_def] at h
  rcases Option.or_eq_some_iff.1 h with h | ⟨-, h⟩
  · exact foreignDigit?_contained h
  · split at h
    · split at h
      · exact foreignDigit?_contained h
      · cases h
        exact .number _
    · cases h

theorem realOf_meets (whole fraction : List Char) (negative : Bool)
    (exponent : List Char) :
    Meets SyntaxError.Contained (realOf whole fraction negative exponent) fun _ =>
      True := by
  rw [realOf]
  split
  · next h => exact .error (realFault?_contained h)
  · exact .ok trivial

theorem readReal?_meets {previous : Option Char} {cs left : List Char}
    {x : Except SyntaxError Binary64} (h : readReal? previous cs = some (x, left)) :
    Meets SyntaxError.Contained x fun _ => True := by
  rw [readReal?] at h
  split at h
  · cases h
  · split at h
    · cases h
    · dsimp only at h
      split at h
      · cases h
        exact realOf_meets _ _ _ _
      · split at h
        · cases h
        · cases h
          exact realOf_meets _ _ _ _

theorem wholeNumber_meets {begins : Bool} {ds rest left : List Char}
    {n : Except SyntaxError Nat}
    (h : (if begins then
        if ds.length ≤ Numeral.digitLimit then some (.ok (valueOf 10 ds), rest)
        else some (.error (.number (.tooManyDigits ds.length)), rest)
      else none) = some (n, left)) : Meets SyntaxError.Contained n fun _ => True := by
  split at h
  · split at h
    · cases h
      exact .ok trivial
    · cases h
      exact .error (.number _)
  · cases h

theorem readInteger?_meets {cs left : List Char} {n : Except SyntaxError Nat}
    (h : readInteger? cs = some (n, left)) :
    Meets SyntaxError.Contained n fun _ => True := by
  rw [readInteger?.eq_def] at h
  split at h
  · cases h
    exact .ok trivial
  · split at h
    exact wholeNumber_meets h

/-! ## Strings -/

theorem codeEscape_meets (width : Nat) (shape : String) (cs : List Char) :
    Meets SyntaxError.Contained (codeEscape width shape cs) fun _ => True := by
  rw [codeEscape]
  split
  · exact .ite (.ok trivial) (.error (.own rfl))
  · exact .error (.own rfl)

theorem nameEscape_meets (cs : List Char) :
    Meets SyntaxError.Contained (nameEscape cs) fun _ => True := by
  unfold nameEscape
  dsimp only
  split
  · split
    · exact .error (.own rfl)
    · exact .error (.own rfl)
    · split
      · exact .ok trivial
      · exact .error (.own rfl)
  · exact .error (.own rfl)

/-- A character that was written as an escape, and what follows it. -/
theorem decoded_meets {fuel : Nat} {decoded : Except SyntaxError (Char × List Char)}
    (h : Meets SyntaxError.Contained decoded fun _ => True)
    (hrest : ∀ cs, Meets SyntaxError.Contained (unescape fuel cs) fun _ => True) :
    Meets SyntaxError.Contained (do
      let (c, rest) ← decoded
      return c :: (← unescape fuel rest)) fun _ => True :=
  h.bind fun decoded _ => (hrest decoded.2).bind fun _ _ => .pure trivial

theorem unescape_meets (fuel : Nat) (cs : List Char) :
    Meets SyntaxError.Contained (unescape fuel cs) fun _ => True := by
  induction fuel generalizing cs with
  | zero => cases cs <;> exact .ok trivial
  | succ fuel hrest =>
      rw [unescape.eq_def]
      split
      · exact .ok trivial
      · exact .ok trivial
      · next hfuel =>
          cases hfuel
          refine .ite (hrest _) (.ite ?_ (.ite ?_ ?_))
          · refine .ite (decoded_meets (codeEscape_meets _ _ _) hrest) ?_
            refine .ite (decoded_meets (codeEscape_meets _ _ _) hrest) ?_
            exact .ite (decoded_meets (codeEscape_meets _ _ _) hrest)
              (decoded_meets (nameEscape_meets _) hrest)
          · exact (hrest _).bind fun _ _ => .pure trivial
          · split
            · exact (hrest _).bind fun _ _ => .pure trivial
            · exact (hrest _).bind fun _ _ => .pure trivial
      · next hfuel =>
          cases hfuel
          exact (hrest _).bind fun _ _ => .pure trivial

/-! ## Tokens -/

theorem balance_meets (op : String) (closers : List Char) :
    Meets SyntaxError.Contained (balance op closers) fun _ => True := by
  rw [balance.eq_def]
  split
  case h_4 =>
    refine .ite ?_ (.ok trivial)
    split
    · exact .error (.own rfl)
    · exact .ite (.ok trivial) (.error (.own rfl))
  all_goals exact .ok trivial

theorem readToken_meets (closers : List Char) (previous : Option Char)
    (offset : Nat) (c : Char)
    (rest : List Char) :
    Meets SyntaxError.Contained (readToken closers previous offset c rest) fun _ =>
      True := by
  rw [readToken]
  dsimp only
  split
  · next h => exact (readReal?_meets h).bind fun _ _ => .pure trivial
  · split
    · next h => exact (readInteger?_meets h).bind fun _ _ => .pure trivial
    · refine .ite (.ite (.ok trivial) (.error (.own rfl))) ?_
      split
      · exact (unescape_meets _ _).bind fun _ _ => .pure trivial
      · split
        · exact (balance_meets _ _).bind fun _ _ => .pure trivial
        · exact .error (.own rfl)

/-- A fault among tokens is contained. -/
def FaultsContained (lexemes : List Lexeme) : Prop :=
  ∀ e, Lexeme.fault e ∈ lexemes → e.Contained

theorem faultsContained_nil : FaultsContained [] := fun _ h => nomatch h

@[simp] theorem faultsContained_token {t : Token} {line : Nat} {rest : List Lexeme} :
    FaultsContained (.token t line :: rest) ↔ FaultsContained rest := by
  simp [FaultsContained]

theorem faultsContained_fault {e : SyntaxError} (h : e.Contained) :
    FaultsContained [.fault e] := by
  intro e' he
  cases List.mem_singleton.1 he
  exact h

theorem FaultsContained.append {ls ls' : List Lexeme} (h : FaultsContained ls)
    (h' : FaultsContained ls') : FaultsContained (ls ++ ls') :=
  fun e he => (List.mem_append.1 he).elim (h e) (h' e)

theorem faultsContained_dataToken (cs : List Char) (line : Nat) :
    FaultsContained (dataToken cs line) := by
  rw [dataToken]
  split <;> simp [faultsContained_nil]

theorem scan_faultsContained (total : Nat) : ∀ (fuel : Nat) (mode : Mode) (line : Nat)
    (lineStart : Bool) (previous : Option Char) (cs : List Char),
      FaultsContained (scan total fuel mode line lineStart previous cs)
  | 0, mode, line, lineStart, previous, cs => by
      cases cs <;> simp [scan, faultsContained_nil]
  | fuel + 1, mode, line, lineStart, previous, cs => by
      have hrest := scan_faultsContained total fuel
      rw [scan.eq_def]
      split
      · simp [faultsContained_nil]
      · simp [faultsContained_nil]
      · next heq _ =>
          cases heq
          split
          · refine (faultsContained_dataToken _ _).append ?_
            simp [faultsContained_nil]
          · refine (faultsContained_dataToken _ _).append ?_
            split
            · exact faultsContained_token.2 (hrest _ _ _ _ _)
            · exact faultsContained_token.2 (hrest _ _ _ _ _)
            · split
              · exact hrest _ _ _ _ _
              · split
                · simp [faultsContained_nil]
                · exact faultsContained_fault (.own rfl)
            · split
              · exact (faultsContained_dataToken _ _).append (hrest _ _ _ _ _)
              · split
                · simp [faultsContained_nil]
                · exact faultsContained_fault (.own rfl)
      · next heq =>
          cases heq
          dsimp only
          split
          · exact faultsContained_token.2 (hrest _ _ _ _ _)
          · split
            · exact hrest _ _ _ _ _
            · have htoken := readToken_meets
              split
              · next h => exact faultsContained_fault ((htoken _ _ _ _ _).of_error h)
              · exact faultsContained_token.2 (hrest _ _ _ _ _)

theorem tokens_faultsContained (source : String) : FaultsContained (tokens source) :=
  scan_faultsContained _ _ _ _ _ _ _

end SchemaDocs.Template
