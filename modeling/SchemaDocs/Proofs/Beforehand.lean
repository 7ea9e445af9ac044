import SchemaDocs.Proofs.TameArithmetic
import SchemaDocs.Template.Compile

/-!
# What is worked out beforehand

A template that is compiled has its constants worked out and its filters and
tests looked up. Constants of a dialect are tame, so whatever goes wrong with
them is either left for later or a fault of the template; only a number that is
too long to be written escapes. What comes out is in the dialect again.

Numbers that cannot be read escape too. They are faults of the text, which is
read before any of this.
-/

namespace SchemaDocs.Template

open Item (Tame TameAll tame_list tame_tuple tameAll_nil tameAll_cons)
open RenderError (Contained)
open NoConstant (later atOnce)

variable {calculates constant : Bool} {d : Dialect}

/-- Reported as a fault of the template, apart from numbers that cannot be read or
written. -/
def SyntaxError.Contained (e : SyntaxError) : Prop :=
  e.foreign? = none ∨ (∃ fault, e = .number fault) ∨ e = .constant .tooManyDigits

namespace SyntaxError.Contained

theorem own {e : SyntaxError} (h : e.foreign? = none) : e.Contained := .inl h

theorem number (fault : NumberFault) : (SyntaxError.number fault).Contained :=
  .inr (.inl ⟨fault, rfl⟩)

theorem tooManyDigits : (SyntaxError.constant .tooManyDigits).Contained := .inr (.inr rfl)

end SyntaxError.Contained

/-! ## What can be written -/

namespace Item

mutual

theorem tame_of_isWritten : ∀ {item : Item}, item.isWritten calculates →
    item.Tame calculates constant
  | .null, _ => .null
  | .bool b, _ => .bool b
  | .int n, _ => .int n
  | .float _, h => .float fun _ => h
  | .text s, _ => .text s
  | .markup s, _ => .markup s
  | .list _ _, h => tame_list.2 (tameAll_of_areWritten h)
  | .tuple _, h => tame_tuple.2 (tameAll_of_areWritten h)
  | .bytes _, h | .dict _ _, h | .range _ _ _, h | .view _ _ _, h | .slice _ _ _, h
  | .undefined _ _, h | .macroAt _ _, h | .imported _ _ _ _, h | .loop _ _ _, h
  | .record _ _ _, h | .again _, h | .self, h | .method _ _, h | .type _, h
  | .function _, h => by simp [isWritten] at h

theorem tameAll_of_areWritten : ∀ {items : List Item}, areWritten calculates items →
    TameAll calculates constant items
  | [], _ => tameAll_nil
  | item :: rest, h => by
      have h := Bool.and_eq_true_iff.1 h
      exact tameAll_cons.2 ⟨tame_of_isWritten h.1, tameAll_of_areWritten h.2⟩

end

mutual

/-- There are neither ranges nor dictionaries among tame constants. -/
theorem isWritten_of_isPlain : ∀ {item : Item}, item.isPlain → item.Tame calculates true →
    item.isWritten calculates
  | .null, _, _ | .bool _, _, _ | .int _, _, _ | .text _, _, _ | .markup _, _, _ => rfl
  | .float _, _, .float h => h rfl
  | .list _ _, hplain, h => areWritten_of_arePlain hplain (tame_list.1 h)
  | .tuple _, hplain, h => areWritten_of_arePlain hplain (tame_tuple.1 h)
  | .dict _ _, _, h => by simp at h
  | .range _ _ _, _, h => nomatch h
  | .bytes _, hplain, _ | .view _ _ _, hplain, _ | .slice _ _ _, hplain, _
  | .undefined _ _, hplain, _ | .macroAt _ _, hplain, _ | .imported _ _ _ _, hplain, _
  | .loop _ _ _, hplain, _ | .record _ _ _, hplain, _ | .again _, hplain, _
  | .self, hplain, _
  | .method _ _, hplain, _ | .type _, hplain, _ | .function _, hplain, _ => by
      simp [isPlain] at hplain

theorem areWritten_of_arePlain : ∀ {items : List Item}, arePlain items →
    TameAll calculates true items → areWritten calculates items
  | [], _, _ => rfl
  | item :: rest, hplain, h => by
      have hplain := Bool.and_eq_true_iff.1 hplain
      have h := tameAll_cons.1 h
      exact Bool.and_eq_true_iff.2
        ⟨isWritten_of_isPlain hplain.1 h.1, areWritten_of_arePlain hplain.2 h.2⟩

end

/-- A constant can only be asked what holds of it if it is defined. -/
theorem truthy_of_tame {item : Item} (h : item.Tame calculates true) :
    Meets (fun e => ∃ why, e = .undefined why) item.truthy fun _ => True := by
  rw [truthy.eq_def]
  split
  case h_5 =>
    rw [Missing.orElse]
    exact .ite (.ok trivial) (.error ⟨_, rfl⟩)
  case h_7 =>
    split
    · next n hn =>
        suffices hlength :
            Meets (fun e => ∃ why, e = RenderError.undefined why) n fun _ => True by
          exact hlength.map fun _ _ => trivial
        rw [length?.eq_def] at hn
        split at hn <;> cases hn
        case h_7 | h_8 => cases h
        case h_9 =>
          rw [Missing.orElse]
          exact .ite (.ok trivial) (.error ⟨_, rfl⟩)
        case h_10 => exact absurd (tame_loop.1 h).1 (by decide)
        all_goals exact .ok trivial
    · exact .ok trivial
  all_goals exact .ok trivial

theorem display_of_any (item : Item) :
    Meets (fun e => (∃ why, e = .undefined why) ∨ e = .tooManyDigits) item.display
      fun _ => True := by
  rw [display.eq_def]
  split
  case h_3 =>
    rw [Missing.orElse]
    exact .ite (.ok trivial) (.error (.inl ⟨_, rfl⟩))
  case h_5 =>
    rw [quotedForm]
    exact .ite (.ok trivial) (.error (.inr rfl))
  all_goals exact .ok trivial

end Item

/-! ## Constants -/

/-- What is reported at once is undefined or too long to be written. -/
def NoConstant.Contained : NoConstant → Prop
  | .varying => True
  | .failing e => (∃ why, e = .undefined why) ∨ e = .tooManyDigits

theorem later_meets {α : Type} {allowed : RenderError → Prop} {x : Except RenderError α}
    {good : α → Prop} (h : Meets allowed x good) :
    Meets NoConstant.Contained (later x) good := by
  cases x with
  | ok a => exact .ok (h.ensures a rfl)
  | error e => exact .error trivial

theorem atOnce_meets {α : Type} {x : Except RenderError α} {good : α → Prop}
    (h : Meets (fun e => (∃ why, e = .undefined why) ∨ e = .tooManyDigits) x good) :
    Meets NoConstant.Contained (atOnce x) good := by
  cases x with
  | ok a => exact .ok (h.ensures a rfl)
  | error e => exact .error (h.of_error rfl)

theorem truthy_atOnce {item : Item} (h : item.Tame calculates true) :
    Meets NoConstant.Contained (atOnce item.truthy) fun _ => True := by
  have htruthy := Item.truthy_of_tame h
  refine atOnce_meets ?_
  cases heq : item.truthy with
  | ok holds => exact .ok trivial
  | error e => exact .error (.inl (htruthy.of_error heq))

/-- A template that calculates may do so beforehand. -/
theorem arithmetic_tame (hcalculates : calculates = true) (op : Item.ArithmeticOp)
    {a b : Item}
    (ha : a.Tame calculates constant) (hb : b.Tame calculates constant) :
    Meets (Contained calculates) (Item.arithmetic op a b) (Tame calculates constant) := by
  subst hcalculates
  exact Item.arithmetic_meets op ha hb

mutual

theorem Expr.constant_meets : ∀ {e : Expr}, e.isWithin calculates d →
    Meets NoConstant.Contained e.constant (Tame calculates true)
  | .const item, h => by
      rw [Expr.constant]
      exact .ok (Item.tame_of_isWritten h)
  | .name s, _ => by
      rw [Expr.constant]
      exact .error trivial
  | .list items, h => by
      have hitems := Expr.constants_meets h
      rw [Expr.constant]
      exact hitems.bind fun items hitems => .pure (tame_list.2 hitems)
  | .tuple items, h => by
      have hitems := Expr.constants_meets h
      rw [Expr.constant]
      exact hitems.bind fun items hitems => .pure (tame_tuple.2 hitems)
  | .dict _, h => by simp [Expr.isWithin] at h
  | .attr e label, h => by
      have he := Expr.constant_meets (e := e) h
      rw [Expr.constant]
      exact he.bind fun item hitem => later_meets (Item.attr_meets hitem label)
  | .element e key, h => by
      obtain ⟨he, hkey⟩ := Bool.and_eq_true_iff.1 h
      have he := Expr.constant_meets he
      have hkey := Expr.constant_meets hkey
      rw [Expr.constant]
      refine he.bind fun item hitem => hkey.bind fun key _ => ?_
      exact later_meets (Item.element_meets hitem key)
  | .cut e start stop step, h => by
      simp only [Expr.isWithin, Bool.and_eq_true] at h
      obtain ⟨⟨⟨he, hstart⟩, hstop⟩, hstep⟩ := h
      have he := Expr.constant_meets he
      have hstart := Expr.constant_meets hstart
      have hstop := Expr.constant_meets hstop
      have hstep := Expr.constant_meets hstep
      rw [Expr.constant]
      refine he.bind fun item hitem => hstart.bind fun start _ => ?_
      refine hstop.bind fun stop _ => hstep.bind fun step _ => ?_
      exact later_meets (Item.element_meets hitem _)
  | .call _ _, _ => by
      rw [Expr.constant]
      exact .error trivial
  | .filter e word args, h => by
      simp only [Expr.isWithin, Bool.and_eq_true] at h
      obtain ⟨⟨hword, he⟩, hargs⟩ := h
      have he := Expr.constant_meets he
      have hargs := Expr.constantArguments_meets (functionName filters word) hargs
      rw [Expr.constant]
      refine (hargs _ .none).bind fun args hargs => he.bind fun item hitem => ?_
      exact later_meets (applyFilter_meets hword (hargs.behind hitem))
  | .test e word args, h => by
      obtain ⟨he, hargs⟩ := Bool.and_eq_true_iff.1 h
      have he := Expr.constant_meets he
      have hargs := Expr.constantArguments_meets (functionName tests word) hargs
      rw [Expr.constant]
      refine (hargs _ .none).bind fun args hargs => he.bind fun item hitem => ?_
      exact later_meets (applyTest_meets word (hargs.behind hitem))
  | .not e, h => by
      have he := Expr.constant_meets (e := e) h
      rw [Expr.constant]
      refine he.bind fun item hitem => ?_
      exact (later_meets (Item.truthy_meets hitem)).bind fun holds _ => .pure (.bool _)
  | .negate e, h => by
      have he := Expr.constant_meets (e := e) h
      rw [Expr.constant]
      exact he.bind fun item hitem => later_meets (Item.negate_meets hitem)
  | .positive e, h => by
      have he := Expr.constant_meets (e := e) h
      rw [Expr.constant]
      exact he.bind fun item hitem => later_meets (Item.positive_meets hitem)
  | .and l r, h => by
      obtain ⟨hl, hr⟩ := Bool.and_eq_true_iff.1 h
      have hl := Expr.constant_meets hl
      have hr := Expr.constant_meets hr
      rw [Expr.constant]
      exact hl.bind fun item hitem => (truthy_atOnce hitem).bind fun holds _ =>
        .ite hr (.pure hitem)
  | .or l r, h => by
      obtain ⟨hl, hr⟩ := Bool.and_eq_true_iff.1 h
      have hl := Expr.constant_meets hl
      have hr := Expr.constant_meets hr
      rw [Expr.constant]
      exact hl.bind fun item hitem => (truthy_atOnce hitem).bind fun holds _ =>
        .ite (.pure hitem) hr
  | .arithmetic op l r, h => by
      simp only [Expr.isWithin, Bool.and_eq_true] at h
      obtain ⟨⟨hcalculates, hl⟩, hr⟩ := h
      have hl := Expr.constant_meets hl
      have hr := Expr.constant_meets hr
      rw [Expr.constant]
      refine hl.bind fun a ha => hr.bind fun b hb => ?_
      exact later_meets (arithmetic_tame hcalculates op ha hb)
  | .compare first links, h => by
      obtain ⟨hfirst, hlinks⟩ := Bool.and_eq_true_iff.1 h
      have hfirst := Expr.constant_meets hfirst
      have hlinks := Expr.constantLinks_meets hlinks
      rw [Expr.constant]
      exact hfirst.bind fun left _ => hlinks left
  | .concat parts, h => by
      have hparts := Expr.constantText_meets h
      rw [Expr.constant]
      exact hparts.bind fun s _ => .pure (.text s)
  | .choose condition yes no, h => by
      simp only [Expr.isWithin, Bool.and_eq_true] at h
      obtain ⟨⟨hcondition, hyes⟩, hno⟩ := h
      have hcondition := Expr.constant_meets hcondition
      have hyes := Expr.constant_meets hyes
      have hno := Expr.constant_meets hno
      rw [Expr.constant]
      exact hcondition.bind fun item hitem => (truthy_atOnce hitem).bind fun holds _ =>
        .ite hyes hno
  | .only condition yes _, h => by
      obtain ⟨hcondition, hyes⟩ := Bool.and_eq_true_iff.1 h
      have hcondition := Expr.constant_meets hcondition
      have hyes := Expr.constant_meets hyes
      rw [Expr.constant]
      exact hcondition.bind fun item hitem => (truthy_atOnce hitem).bind fun holds _ =>
        .ite hyes (.error trivial)

theorem Expr.constants_meets : ∀ {es : List Expr}, Expr.allWithin calculates d es →
    Meets NoConstant.Contained (Expr.constants es) (TameAll calculates true)
  | [], _ => .ok tameAll_nil
  | e :: rest, h => by
      obtain ⟨he, hrest⟩ := Bool.and_eq_true_iff.1 h
      have he := Expr.constant_meets he
      have hrest := Expr.constants_meets hrest
      rw [Expr.constants]
      exact he.bind fun item hitem => hrest.bind fun items hitems =>
        .pure (tameAll_cons.2 ⟨hitem, hitems⟩)

theorem Expr.constantText_meets : ∀ {es : List Expr}, Expr.allWithin calculates d es →
    Meets NoConstant.Contained (Expr.constantText es) fun _ => True
  | [], _ => .ok trivial
  | e :: rest, h => by
      obtain ⟨he, hrest⟩ := Bool.and_eq_true_iff.1 h
      have he := Expr.constant_meets he
      have hrest := Expr.constantText_meets hrest
      rw [Expr.constantText]
      refine he.bind fun item _ => (atOnce_meets item.display_of_any).bind fun s _ => ?_
      exact hrest.bind fun text _ => .pure trivial

theorem Expr.constantArguments_meets (function : String) :
    ∀ {es : List (ArgumentKind × Expr)}, Expr.argumentsWithin calculates d es →
      ∀ args : Arguments, args.Tame calculates true →
        Meets NoConstant.Contained (Expr.constantArguments function args es)
          (Arguments.Tame calculates true)
  | [], _, _, hargs => .ok hargs
  | (kind, e) :: rest, h, args, hargs => by
      obtain ⟨he, hrest⟩ := Bool.and_eq_true_iff.1 h
      have he := Expr.constant_meets he
      have hrest := Expr.constantArguments_meets function hrest
      rw [Expr.constantArguments]
      refine he.bind fun item hitem => ?_
      exact (later_meets (hargs.add kind hitem)).bind hrest

theorem Expr.constantLinks_meets : ∀ {links : List (Item.CompareOp × Expr)},
    Expr.linksWithin calculates d links → ∀ left : Item,
      Meets NoConstant.Contained (Expr.constantLinks left links) (Tame calculates true)
  | [], _, _ => .ok (.bool _)
  | (op, e) :: rest, h, left => by
      obtain ⟨he, hrest⟩ := Bool.and_eq_true_iff.1 h
      have he := Expr.constant_meets he
      have hrest := Expr.constantLinks_meets hrest
      have hcompare (right : Item) :
          Meets (Contained calculates) (left.compareWith op right)
        (Tame calculates true) := Item.compareWith_meets op left right
      rw [Expr.constantLinks]
      refine he.bind fun right _ =>
        (later_meets (hcompare right)).bind fun result hresult => ?_
      exact (later_meets (Item.truthy_meets hresult)).bind fun holds _ =>
        .ite (hrest right) (.pure (.bool _))

end

end SchemaDocs.Template
