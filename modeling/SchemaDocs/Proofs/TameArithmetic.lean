import SchemaDocs.Proofs.CleanOperations
import SchemaDocs.Proofs.TameOperations

/-!
# What calculating comes to

Operators and formats work on any items whatever. What they fail with is
contained, apart from arithmetic that has no result, results that are too large,
and characters that do not exist; so a template that calculates fails with one of
these or in a contained way.

A format takes its values from a supply one after the other. Nothing needs to be
known about them, and the state of the supply does not matter either.
-/

namespace SchemaDocs.Template

open Item (Tame TameAll tame_list tame_tuple tameAll_append tame_float_of_calculates)
open RenderError (Contained)

variable {constant : Bool}

theorem RenderError.Contained.format (fault : FormatFault) :
    (RenderError.format fault).Contained true := by
  cases fault with
  | characterRange | octetRange => exact .arithmetic rfl
  | _ => exact .own rfl

/-! ## Numbers -/

namespace Item

theorem realOfWhole_meets (n : Int) :
    Meets (Contained true) (realOfWhole n) fun _ => True := by
  rw [realOfWhole]
  split
  · exact .error (.arithmetic rfl)
  · exact .ok trivial

theorem Number.real_meets (x : Number) : Meets (Contained true) x.real fun _ => True := by
  cases x with
  | int n => exact realOfWhole_meets n
  | float x => exact .ok trivial

theorem Number.whole_meets (x : Number) :
    Meets (Contained true) x.whole fun _ => True := by
  cases x with
  | int n => exact .ok trivial
  | float x =>
      rw [Number.whole, wholePart.eq_def]
      split
      · exact .ok trivial
      · exact .error (.arithmetic rfl)
      · exact .error (.own rfl)

theorem wholeOfText_meets (shown s : String) :
    Meets (Contained true) (wholeOfText shown s) fun _ => True := by
  rw [wholeOfText]
  split
  · exact .ok trivial
  · exact .error (.own rfl)
  · exact .error (.own rfl)

theorem whole_meets (item : Item) : Meets (Contained true) item.whole fun _ => True := by
  rw [whole.eq_def]
  split
  · exact .error (.undefined _)
  · split
    · exact (wholeOfText_meets _ _).map fun _ _ => trivial
    · exact .error (.own rfl)
  · split
    · exact (Number.whole_meets _).map fun _ _ => trivial
    · exact (wholeOfText_meets _ _).map fun _ _ => trivial
    · exact .ok trivial

theorem real_meets (item : Item) : Meets (Contained true) item.real fun _ => True := by
  rw [real.eq_def]
  split
  · exact .error (.undefined _)
  · split
    · exact Number.real_meets _
    · split
      · split
        · exact .ok trivial
        · exact .error (.own rfl)
      · split
        · split
          · exact .ok trivial
          · exact .error (.own rfl)
        · exact .error (.own rfl)

theorem powerOfFloats_meets (x y : Binary64) :
    Meets (Contained true) (powerOfFloats x y) (Tame true constant) := by
  unfold powerOfFloats
  refine .ite (.error (.arithmetic rfl)) ?_
  split
  · exact .error (.arithmetic rfl)
  · exact .ok (tame_float_of_calculates _)

theorem applyFloats_meets (op : ArithmeticOp) (x y : Binary64) :
    Meets (Contained true) (applyFloats op x y) (Tame true constant) := by
  cases op with
  | add | sub | mul => exact .ok (tame_float_of_calculates _)
  | div | floorDiv | mod =>
      exact .ite (.error (.arithmetic rfl)) (.ok (tame_float_of_calculates _))
  | pow => exact powerOfFloats_meets x y

theorem divideInts_meets (m n : Int) :
    Meets (Contained true) (divideInts m n) (Tame true constant) := by
  rw [divideInts]
  refine .ite (.error (.arithmetic rfl)) ?_
  split
  · exact .error (.arithmetic rfl)
  · exact .ok (tame_float_of_calculates _)

theorem applyInts_meets (op : ArithmeticOp) (m n : Int) :
    Meets (Contained true) (applyInts op m n) (Tame true constant) := by
  cases op with
  | add | sub | mul => exact .ok (.int _)
  | div => exact divideInts_meets m n
  | floorDiv | mod => exact .ite (.error (.arithmetic rfl)) (.ok (.int _))
  | pow =>
      refine .ite (.ok (.int _)) ((realOfWhole_meets m).bind fun x _ => ?_)
      exact (realOfWhole_meets n).bind fun y _ => powerOfFloats_meets x y

theorem applyNumbers_meets (op : ArithmeticOp) (x y : Number) :
    Meets (Contained true) (applyNumbers op x y) (Tame true constant) := by
  rw [applyNumbers.eq_def]
  split
  · exact applyInts_meets op _ _
  · refine (Number.real_meets _).bind fun x _ => (Number.real_meets _).bind fun y _ => ?_
    exact applyFloats_meets op x y

/-! ## Sequences -/

theorem repetitions_meets (n : Int) :
    Meets (Contained true) (repetitions n) fun _ => True := by
  rw [repetitions]
  exact .ite (.error (.arithmetic rfl)) (.ok trivial)

theorem repeated?_tame {n : Nat} {item found : Item} (h : item.Tame true constant)
    (hfound : item.repeated? n = some found) : found.Tame true constant := by
  rw [repeated?.eq_def] at hfound
  split at hfound <;> cases hfound
  · exact .text _
  · exact tame_list.2 ((tame_list.1 h).subset (flatten_replicate_subset n _))
  · exact tame_tuple.2 ((tame_tuple.1 h).subset (flatten_replicate_subset n _))
  · exact .bytes _

theorem repeatMarkup_meets (s : String) (other : Item) :
    Meets (Contained true) (repeatMarkup s other) (Tame true constant) := by
  rw [repeatMarkup]
  split
  · exact (repetitions_meets _).bind fun n _ => .pure (.markup _)
  · exact .error (.own rfl)

variable {a b : Item}

theorem multiplySequences_meets (ha : a.Tame true constant) (hb : b.Tame true constant) :
    Meets (Contained true) (multiplySequences a b) (Tame true constant) := by
  have hsequence : (if a.isSequence then (a, b) else (b, a)).1.Tame true constant := by
    split
    · exact ha
    · exact hb
  rw [multiplySequences]
  dsimp only
  split
  · refine (repetitions_meets _).bind fun n _ => .pure ?_
    cases hrepeated : (if a.isSequence then (a, b) else (b, a)).1.repeated? n with
    | none => exact .null
    | some repeated => exact repeated?_tame hsequence hrepeated
  · exact .error (.own rfl)

theorem addSequences_meets (ha : a.Tame true constant) (hb : b.Tame true constant) :
    Meets (Contained true) (addSequences a b) (Tame true constant) := by
  rw [addSequences.eq_def]
  dsimp only
  split
  case h_1 => exact .ok (.text _)
  case h_2 | h_9 =>
    split
    · exact .ok (.markup _)
    · exact .error (.own rfl)
  case h_3 => exact .ok (tame_list.2 (tameAll_append.2 ⟨tame_list.1 ha, tame_list.1 hb⟩))
  case h_5 =>
    exact .ok (tame_tuple.2 (tameAll_append.2 ⟨tame_tuple.1 ha, tame_tuple.1 hb⟩))
  case h_7 => exact .ok (.bytes _)
  all_goals exact .error (.own rfl)

end Item

/-! ## Formats -/

namespace Percent

/-- What a step of filling in a format fails with. -/
abbrev Fills {α : Type} (x : Filling α) : Prop := Stays (fun _ => True) (Contained true) x

theorem Fills.refuse {α : Type} (fault : FormatFault) :
    Fills (refuse fault : Filling α) :=
  .throw (.format fault)

theorem Fills.attempt {α : Type} {result : Except RenderError α}
    (h : Meets (Contained true) result fun _ => True) : Fills (attempt result) :=
  .lift h

theorem takeValue_fills : Fills takeValue := by
  refine Stays.get.bind fun supply => ?_
  split
  · exact Fills.refuse _
  · exact (Stays.set trivial).bind fun _ => .pure _

theorem readCount_meets (limit : Nat) (fault : FormatFault) (cs : List Char) :
    Meets (Contained true) (readCount limit fault cs) fun _ => True := by
  rw [readCount]
  exact .ite (.ok trivial) (.error (.format fault))

theorem takeCount_fills (limit : Int) (overflow : String) :
    Fills (takeCount limit overflow) := by
  refine takeValue_fills.bind fun item => ?_
  split
  · exact .pure _
  · exact .ite (.pure _) (Stays.throw (.arithmetic rfl))
  · exact Fills.refuse _

theorem readWidth_fills (marked : Bool) (flags : Flags) (cs : List Char) :
    Fills (readWidth marked flags cs) := by
  have hcount :=
    takeCount_fills (Nat.pow 2 63) "Python int too large to convert to C ssize_t"
  rw [readWidth.eq_def]
  split
  · refine .ite (takeValue_fills.bind fun _ => (Fills.refuse _).bind fun _ => ?_) ?_
    all_goals exact hcount.bind fun _ => .pure _
  · refine .ite ((Fills.attempt (readCount_meets _ _ _)).bind fun _ => .pure _) (.pure _)
  · exact .pure _

theorem readPrecision_fills (marked : Bool) (cs : List Char) :
    Fills (readPrecision marked cs) := by
  have hcount := takeCount_fills (Nat.pow 2 31) "Python int too large to convert to C int"
  rw [readPrecision.eq_def]
  split
  · refine .ite (takeValue_fills.bind fun _ => (Fills.refuse _).bind fun _ => ?_) ?_
    all_goals exact hcount.bind fun _ => .pure _
  · exact (Fills.attempt (readCount_meets _ _ _)).bind fun _ => .pure _
  · exact .pure _

theorem readPlace_fills (marked : Bool) (cs : List Char) :
    Fills (readPlace marked cs) := by
  refine (readWidth_fills _ _ _).bind fun ⟨flags, width, cs⟩ => ?_
  refine (readPrecision_fills _ _).bind fun ⟨precision, cs⟩ => ?_
  dsimp only
  split
  · exact .pure _
  · exact Fills.refuse _

/-! ## Values in formats -/

theorem wholeFault_contained (medium : Medium) (conversion : Char) (item : Item) :
    (wholeFault medium conversion item).Contained true := by
  rw [wholeFault, ← apply_ite RenderError.format]
  exact .format _

theorem wholeValue_meets (medium : Medium) (conversion : Char) (item : Item) :
    Meets (Contained true) (wholeValue medium conversion item) fun _ => True := by
  have hfault := wholeFault_contained medium conversion item
  rw [wholeValue.eq_def]
  refine .ite ?_ ?_
  · split
    · exact .error hfault
    · exact .ok trivial
    · exact .error hfault
  · split
    · refine (Item.whole_meets _).bind fun found _ => ?_
      cases found with
      | none => exact .error hfault
      | some n => exact .pure trivial
    · exact .error (.undefined _)
    · split
      · exact Item.Number.whole_meets _
      · exact .error hfault

theorem realValue_meets (medium : Medium) (item : Item) :
    Meets (Contained true) (realValue medium item) fun _ => True := by
  rw [realValue.eq_def]
  split
  · exact Item.real_meets _
  · split
    · exact .ok trivial
    · exact .error (.format _)
  · exact .error (.undefined _)
  · split
    · exact Item.Number.real_meets _
    · exact .error (.format _)

theorem wholeText_meets (p : Place) (n : Int) :
    Meets (Contained true) (wholeText p n) fun _ => True := by
  rw [wholeText]
  split
  exact .ite (.error (.own rfl)) (.ok trivial)

theorem charText_meets (item : Item) :
    Meets (Contained true) (charText item) fun _ => True := by
  rw [charText]
  rcases item.text?.map String.toList with _ | _ | ⟨c, _ | ⟨_, _⟩⟩
  · cases item.whole? with
    | none => exact .error (.format _)
    | some n => exact .ite (.ok trivial) (.error (.format _))
  · exact .error (.format _)
  · exact .ok trivial
  · exact .error (.format _)

theorem octetText_meets (item : Item) :
    Meets (Contained true) (octetText item) fun _ => True := by
  rw [octetText.eq_def]
  split
  · exact .ok trivial
  · exact .ite (.ok trivial) (.error (.format _))
  · exact .error (.format _)

theorem unknownConversion_contained (medium : Medium) (c : Char) (index : Nat) :
    (unknownConversion medium c index).Contained true := by
  rw [unknownConversion]
  split
  · exact .arithmetic rfl
  · exact .format _

theorem valueText_meets (medium : Medium) (p : Place) (index : Nat) (item : Item) :
    Meets (Contained true) (valueText medium p index item) fun _ => True := by
  have hunknown := unknownConversion_contained medium
  rw [valueText.eq_def]
  dsimp only
  split
  · split
    · exact (Item.display_meets _).bind fun _ _ => .pure trivial
    · exact (Item.display_meets _).bind fun _ _ => .pure trivial
    · exact .pure trivial
    · exact .error (.format _)
  · split
    · exact .pure trivial
    · exact .error (.format _)
    · exact .error (hunknown _ _)
  · exact (Item.quotedForm_meets _).bind fun _ _ => .pure trivial
  · exact (Item.quotedForm_meets _).bind fun _ _ => .pure trivial
  · split
    · exact (charText_meets _).bind fun _ _ => .pure trivial
    · exact .error (.format _)
    · exact (octetText_meets _).bind fun _ _ => .pure trivial
  · refine .ite ?_ (.ite ?_ (.error (hunknown _ _)))
    · exact (wholeValue_meets _ _ _).bind fun n _ =>
        (wholeText_meets _ n).bind fun _ _ => .pure trivial
    · exact (realValue_meets _ _).bind fun _ _ => .pure trivial

/-! ## The whole format -/

theorem valueOfKey_meets (medium : Medium) (mapping : Item) (key : List Char) :
    Meets (Contained true) (valueOfKey medium mapping key) fun _ => True := by
  rw [valueOfKey.eq_def]
  dsimp only
  split
  · exact .error (.undefined _)
  · refine (Item.lookUp_meets (fun _ => True) _ (by simp)).bind fun found _ => ?_
    cases found with
    | none => exact .error (.own rfl)
    | some item => exact .pure trivial
  all_goals exact .error (.own rfl)

/-- One place of a format, and what follows it. -/
theorem fillPlace_fills {medium : Medium} {total : Nat} {mapping : Option Item}
    {fuel : Nat}
    (hrest : ∀ cs, Fills (fillFrom medium total mapping fuel cs)) (cs : List Char) :
    Fills (do
      let (place, rest) ← readPlace (medium = .markup) cs
      let item ← takeValue
      let (shown, isNumber) ← attempt
        (valueText medium place (total - rest.length - 1) item)
      return fit place isNumber (clip place shown) ++
        (← fillFrom medium total mapping fuel rest)) :=
  (readPlace_fills _ _).bind fun place => takeValue_fills.bind fun _ =>
    (Fills.attempt (valueText_meets _ _ _ _)).bind fun _ =>
      (hrest place.2).bind fun _ => .pure _

theorem fillFrom_fills (medium : Medium) (total : Nat) (mapping : Option Item)
    (fuel : Nat)
    (cs : List Char) : Fills (fillFrom medium total mapping fuel cs) := by
  induction fuel generalizing cs with
  | zero => cases cs <;> exact .pure _
  | succ fuel hrest =>
      have hplace := fillPlace_fills hrest
      rw [fillFrom.eq_def]
      split
      · exact .pure _
      · exact .pure _
      · next heq =>
          cases heq
          exact (hrest _).bind fun _ => .pure _
      · next _ heq =>
          cases heq
          split
          · split
            · exact (Fills.refuse _).bind hplace
            · exact (Fills.refuse _).bind hplace
            · exact (Fills.attempt (valueOfKey_meets _ _ _)).bind fun _ =>
                (Stays.set trivial).bind fun _ => hplace _
          · exact hplace _
      · next _ heq =>
          cases heq
          exact (hrest _).bind fun _ => .pure _

theorem fill_meets (medium : Medium) (format : List Char) (item : Item) :
    Meets (Contained true) (fill medium format item) fun _ => True := by
  rw [fill.eq_def]
  dsimp only
  refine Meets.bind ((fillFrom_fills medium _ _ _ _) _ trivial) fun ⟨out, left⟩ _ => ?_
  exact .ite (.error (.format _)) (.pure trivial)

end Percent

/-! ## Operators -/

/-- Operators give tame items for tame ones, or fail as calculations do. -/
theorem Item.arithmetic_meets (op : ArithmeticOp) {a b : Item} (ha : a.Tame true constant)
    (hb : b.Tame true constant) :
    Meets (Contained true) (arithmetic op a b) (Tame true constant) := by
  have hformat (medium : Percent.Medium) (format : List Char) {make : List Char → Item}
      (hmake : ∀ cs, (make cs).Tame true constant) :
      Meets (Contained true) (formatted medium format b make) (Tame true constant) :=
    (Percent.fill_meets medium format b).map fun cs _ => hmake cs
  rw [arithmetic.eq_def]
  split
  case h_1 => exact hformat _ _ fun cs => .text _
  case h_2 => exact hformat _ _ fun cs => .markup _
  case h_3 => exact hformat _ _ fun cs => .bytes _
  case h_4 | h_6 => exact repeatMarkup_meets _ _
  case h_8 =>
    split
    · exact applyNumbers_meets _ _ _
    · split
      · exact addSequences_meets ha hb
      · exact .ite (multiplySequences_meets ha hb) (.error (.own rfl))
      · exact .error (.own rfl)
  all_goals exact .error (.undefined _)

end SchemaDocs.Template
