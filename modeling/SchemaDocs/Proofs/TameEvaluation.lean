import SchemaDocs.Proofs.TameStore
import SchemaDocs.Template.Render

/-!
# How expressions fail

An expression of a dialect gives a tame item or fails in a contained way. The
proof goes along the syntax; what leads out of it is assumed to do the same
(`Outside.Works`). What is called is a macro or nothing that could be called, so
no function of a value is ever run.
-/

namespace SchemaDocs

/-- A template that others may use: it calls only what it has set itself, and
what it sets under the name of a macro of the built-in layout is one. -/
def Template.IsLayout (t : Template) : Prop :=
  ∃ d : Template.Dialect, Template.Stmt.allWithin true d t.body ∧
    (∀ name ∈ Template.layoutMacros, name ∈ d.macros) ∧
      ∀ name ∈ d.called ++ d.aliases, name ∈ t.unset

namespace Template

open Item (Tame TameAll tame_list tame_tuple tameAll_nil tameAll_cons)
open RenderError (Contained)

variable {calculates : Bool} {d : Dialect} {view : View} {item : Item} {args : Arguments}

/-- What a scope may hold that another template imports. -/
def Offers (calculates : Bool) (scope : Scope) : Prop :=
  ∀ e ∈ scope, ∀ item ∈ e.2, item.Tame calculates false ∧
    (e.1 ∈ layoutMacros → item.Inert)

/-- Macros and other templates give what is tame, in whatever world they are run. -/
structure Outside.Works (calculates : Bool) (outside : Outside) : Prop where
  call : ∀ (place : Nat) (args : Arguments), args.Tame calculates false →
    ∀ w, Steps calculates w (outside.call place args) (Tame calculates false)
  find : ∀ name, Meets (Contained calculates) (outside.find name) Template.IsLayout
  run : calculates = true → ∀ t : Template, t.IsLayout → ∀ page : List (String × Item),
    (∀ e ∈ page, e.2.Tame calculates false) →
      ∀ w, Steps calculates w (outside.run t page) fun result =>
        Offers calculates result.2

variable {outside : Outside}

/-! ## Calls -/

theorem callLoop_meets (h : args.Tame calculates false) :
    Meets (Contained calculates) (callLoop args) (Tame calculates false) := by
  have hargs : (args.behind .null).Tame calculates false := h.behind .null
  rw [callLoop]
  exact (Declared.bind_meets _ hargs).bind fun _ _ => .throw (.own rfl)

/-- Of what is inert only macros can be called. -/
theorem callItem_runs (hout : outside.Works calculates)
    (hitem : item.Tame calculates false)
    (hinert : item.Inert) (hargs : args.Tame calculates false) :
    Runs calculates d view (callItem outside item args) (Tame calculates false) := by
  have hnamed :
      Runs calculates d view (args.named.mapM fun e => do return (e.1, ← now e.2))
        fun named => ∀ e ∈ named, e.2.Tame calculates false :=
    .mapM fun e he => (now_runs e.2).bind fun item heq => .pure (heq ▸ hargs.named e he)
  rw [callItem]
  refine hnamed.bind fun named hnamed => ?_
  refine (allNow_runs hargs.positional).bind fun positional hpositional => ?_
  have hargs : Arguments.Tame calculates false ⟨positional, named⟩ :=
    ⟨hpositional, hnamed⟩
  refine (now_runs item).bind fun found heq => ?_
  subst heq
  split
  · exact .ofSteps (hout.call _ _ hargs)
  · exact hinert.elim
  · exact hinert.elim
  · exact nomatch hitem
  · exact .attempt (callLoop_meets hargs)
  · exact .throw (.undefined _)
  · exact .throw (.own rfl)

/-! ## Constants and names -/

mutual

theorem unwritable?_of_isWritten : ∀ {item : Item}, item.isWritten false →
    item.unwritable? = none
  | .null, _ | .bool _, _ | .int _, _ | .text _, _ | .markup _, _ => rfl
  | .float x, h => by simpa [Item.isWritten] using h
  | .list _ _, h => anyUnwritable?_of_areWritten h
  | .tuple _, h => anyUnwritable?_of_areWritten h
  | .bytes _, h | .dict _ _, h | .range _ _ _, h | .view _ _ _, h | .slice _ _ _, h
  | .undefined _ _, h | .macroAt _ _, h | .imported _ _ _ _, h | .loop _ _ _, h
  | .record _ _ _, h | .again _, h | .self, h | .method _ _, h | .type _, h
  | .function _, h => by simp [Item.isWritten] at h

theorem anyUnwritable?_of_areWritten :
    ∀ {items : List Item}, Item.areWritten false items →
    Item.anyUnwritable? items = none
  | [], _ => rfl
  | item :: rest, h => by
      have h := Bool.and_eq_true_iff.1 h
      rw [Item.anyUnwritable?, unwritable?_of_isWritten h.1,
        anyUnwritable?_of_areWritten h.2]
      rfl

end

/-- Only a template that calculates has numbers without digits in it. -/
theorem constantItem_meets (h : item.isWritten calculates) :
    Meets (Contained calculates) (constantItem item) (Tame calculates false) := by
  rw [constantItem]
  split
  · next name hname =>
      cases calculates with
      | true => exact .error (.arithmetic rfl)
      | false => cases (unwritable?_of_isWritten h).symm.trans hname
  · exact .ok (Item.tame_of_isWritten h)

theorem evaluateName_runs (name : String) :
    Runs calculates d view ((Expr.name name).evaluate outside view)
      (d.Gives calculates name) := by
  rw [Expr.evaluate]
  exact .get_bind fun w store hview hstore =>
    stamp_gives (View.find_gives hview hstore name)

theorem evaluateMacro_runs {f : Expr} (h : f.isMacro d) :
    Runs calculates d view (f.evaluate outside view) fun item =>
      item.Tame calculates false ∧ item.Inert := by
  unfold Expr.isMacro at h
  split at h
  · next name =>
      have hcalled : name ∈ d.called := List.contains_iff_mem.1 h
      exact (evaluateName_runs name).mono fun item hitem =>
        ⟨hitem.tame, hitem.inert hcalled⟩
  · next name label =>
      obtain ⟨halias, hlabel⟩ := Bool.and_eq_true_iff.1 h
      rw [Expr.evaluate]
      refine (evaluateName_runs name).bind fun item hitem => ?_
      have hplain (entries : List (Item × Item)) (place : Option Nat) :
          item ≠ .dict entries place := by
        rintro rfl
        exact hitem.plain (List.contains_iff_mem.1 halias) trivial
      have hattr := (Item.attr_meets hitem.tame label).and
        (Item.attr_inert (List.contains_iff_mem.1 hlabel) hitem.tame hplain)
      exact (Runs.attempt hattr).bind fun found hfound =>
        (stamp_runs hfound.1).mono fun _ hstamped => ⟨hstamped.1, hstamped.2.1 hfound.2⟩
  · cases h

/-! ## Expressions -/

theorem arithmetic_runs (hcalculates : calculates = true) {op : Item.ArithmeticOp}
    {l r : Expr}
    (hl : Runs calculates d view (l.evaluate outside view) (Tame calculates false))
    (hr : Runs calculates d view (r.evaluate outside view) (Tame calculates false))
    (hparts : ∀ {items}, r = .tuple items →
      Runs calculates d view (Expr.evaluateAll outside view items)
        (TameAll calculates false) ∧
        ∀ letters, Runs calculates d view (Expr.evaluateShown outside view letters items)
          (TameAll calculates false)) :
    Runs calculates d view ((Expr.arithmetic op l r).evaluate outside view)
      (Tame calculates false) := by
  by_cases hformat : ∃ format items, op = .mod ∧ l = .const (.text format) ∧
    r = .tuple items
  · obtain ⟨format, items, rfl, rfl, rfl⟩ := hformat
    obtain ⟨hall, hshown⟩ := hparts rfl
    have hput (items : List Item) (hitems : TameAll calculates false items) :
        Runs calculates d view
          (attempt (Item.arithmetic .mod (.text format) (.tuple items)))
          (Tame calculates false) :=
      .attempt (arithmetic_tame hcalculates .mod (.text format) (tame_tuple.2 hitems))
    have hfill := hall.bind fun items hitems => (allNow_runs hitems).bind hput
    rw [Expr.evaluate]
    split
    · exact .ite ((hshown _).bind hput) hfill
    · exact hfill
  · rw [Expr.evaluate]
    · refine hl.bind fun left hleft => hr.bind fun right hright => ?_
      refine (now_runs left).bind fun left' heq => give_tame ?_
      exact arithmetic_tame hcalculates op (heq ▸ hleft) hright
    · exact fun format items hop hl hr => hformat ⟨format, items, hop, hl, hr⟩

mutual

theorem Expr.evaluate_runs (hout : outside.Works calculates) :
    ∀ {e : Expr}, e.isWithin calculates d →
    Runs calculates d view (e.evaluate outside view) (Tame calculates false)
  | .const item, h => by
      rw [Expr.evaluate]
      exact give_tame (constantItem_meets h)
  | .name s, _ => (evaluateName_runs s).mono fun _ hitem => hitem.tame
  | .list items, h => by
      have hitems := Expr.evaluateAll_runs hout h
      rw [Expr.evaluate]
      exact hitems.bind fun items hitems => stamp_tame (tame_list.2 hitems)
  | .tuple items, h => by
      have hitems := Expr.evaluateAll_runs hout h
      rw [Expr.evaluate]
      exact hitems.bind fun items hitems => stamp_tame (tame_tuple.2 hitems)
  | .dict _, h => by simp [Expr.isWithin] at h
  | .attr e label, h => by
      have he := Expr.evaluate_runs hout (e := e) h
      rw [Expr.evaluate]
      exact he.bind fun item hitem => give_tame (Item.attr_meets hitem label)
  | .element e key, h => by
      obtain ⟨he, hkey⟩ := Bool.and_eq_true_iff.1 h
      have he := Expr.evaluate_runs hout he
      have hkey := Expr.evaluate_runs hout hkey
      rw [Expr.evaluate]
      refine he.bind fun item hitem => hkey.bind fun key _ => ?_
      refine (now_runs item).bind fun item' heq => ?_
      exact give_tame (Item.element_meets (heq ▸ hitem) key)
  | .cut e start stop step, h => by
      simp only [Expr.isWithin, Bool.and_eq_true] at h
      obtain ⟨⟨⟨he, hstart⟩, hstop⟩, hstep⟩ := h
      have he := Expr.evaluate_runs hout he
      have hstart := Expr.evaluate_runs hout hstart
      have hstop := Expr.evaluate_runs hout hstop
      have hstep := Expr.evaluate_runs hout hstep
      rw [Expr.evaluate]
      refine he.bind fun item hitem => hstart.bind fun start _ => ?_
      refine hstop.bind fun stop _ => hstep.bind fun step _ => ?_
      refine (now_runs item).bind fun item' heq => ?_
      exact give_tame (Item.cut_meets (heq ▸ hitem) start stop step)
  | .call f args, h => by
      obtain ⟨hf, hargs⟩ := Bool.and_eq_true_iff.1 h
      have hargs := Expr.evaluateArguments_runs hout callName hargs
      rw [Expr.evaluate]
      refine (evaluateMacro_runs hf).bind fun item hitem => ?_
      exact (hargs _ .none).bind fun args hargs =>
        callItem_runs hout hitem.1 hitem.2 hargs
  | .filter e word args, h => by
      simp only [Expr.isWithin, Bool.and_eq_true] at h
      obtain ⟨⟨hword, he⟩, hargs⟩ := h
      have he := Expr.evaluate_runs hout he
      have hargs := Expr.evaluateArguments_runs hout (functionName filters word) hargs
      rw [Expr.evaluate]
      refine he.bind fun item hitem => (hargs _ .none).bind fun args hargs => ?_
      refine (now_runs item).bind fun item' heq => ?_
      exact give_tame (applyFilter_meets hword (hargs.behind (heq ▸ hitem)))
  | .test e word args, h => by
      obtain ⟨he, hargs⟩ := Bool.and_eq_true_iff.1 h
      have he := Expr.evaluate_runs hout he
      have hargs := Expr.evaluateArguments_runs hout (functionName tests word) hargs
      rw [Expr.evaluate]
      refine he.bind fun item hitem => (hargs _ .none).bind fun args hargs => ?_
      refine (now_runs item).bind fun item' heq => ?_
      exact give_tame (applyTest_meets word (hargs.behind (heq ▸ hitem)))
  | .not e, h => by
      have he := Expr.evaluate_runs hout (e := e) h
      rw [Expr.evaluate]
      refine he.bind fun item hitem => ?_
      exact (Runs.attempt (Item.truthy_meets hitem)).bind fun holds _ => .pure (.bool _)
  | .negate e, h => by
      have he := Expr.evaluate_runs hout (e := e) h
      rw [Expr.evaluate]
      exact he.bind fun item hitem => .attempt (Item.negate_meets hitem)
  | .positive e, h => by
      have he := Expr.evaluate_runs hout (e := e) h
      rw [Expr.evaluate]
      exact he.bind fun item hitem => .attempt (Item.positive_meets hitem)
  | .and l r, h => by
      obtain ⟨hl, hr⟩ := Bool.and_eq_true_iff.1 h
      have hl := Expr.evaluate_runs hout hl
      have hr := Expr.evaluate_runs hout hr
      rw [Expr.evaluate]
      refine hl.bind fun item hitem => ?_
      exact (Runs.attempt (Item.truthy_meets hitem)).bind fun holds _ =>
        .ite hr (.pure hitem)
  | .or l r, h => by
      obtain ⟨hl, hr⟩ := Bool.and_eq_true_iff.1 h
      have hl := Expr.evaluate_runs hout hl
      have hr := Expr.evaluate_runs hout hr
      rw [Expr.evaluate]
      refine hl.bind fun item hitem => ?_
      exact (Runs.attempt (Item.truthy_meets hitem)).bind fun holds _ =>
        .ite (.pure hitem) hr
  | .arithmetic op l r, h => by
      simp only [Expr.isWithin, Bool.and_eq_true] at h
      obtain ⟨⟨hcalculates, hl⟩, hr⟩ := h
      exact arithmetic_runs hcalculates (Expr.evaluate_runs hout hl)
        (Expr.evaluate_runs hout hr)
        (Expr.evaluateParts_runs hout hr)
  | .compare first links, h => by
      obtain ⟨hfirst, hlinks⟩ := Bool.and_eq_true_iff.1 h
      have hfirst := Expr.evaluate_runs hout hfirst
      have hlinks := Expr.evaluateLinks_runs hout hlinks
      rw [Expr.evaluate]
      exact hfirst.bind fun left _ => hlinks left
  | .concat parts, h => by
      have hparts := Expr.evaluateAll_runs hout h
      rw [Expr.evaluate]
      refine hparts.bind fun items hitems => ?_
      exact (allNow_runs hitems).bind fun items _ => .attempt (Item.concat_meets items)
  | .choose condition yes no, h => by
      simp only [Expr.isWithin, Bool.and_eq_true] at h
      obtain ⟨⟨hcondition, hyes⟩, hno⟩ := h
      have hcondition := Expr.evaluate_runs hout hcondition
      have hyes := Expr.evaluate_runs hout hyes
      have hno := Expr.evaluate_runs hout hno
      rw [Expr.evaluate]
      refine hcondition.bind fun item hitem => ?_
      exact (Runs.attempt (Item.truthy_meets hitem)).bind fun holds _ => .ite hyes hno
  | .only condition yes line, h => by
      obtain ⟨hcondition, hyes⟩ := Bool.and_eq_true_iff.1 h
      have hcondition := Expr.evaluate_runs hout hcondition
      have hyes := Expr.evaluate_runs hout hyes
      rw [Expr.evaluate]
      refine hcondition.bind fun item hitem => ?_
      exact (Runs.attempt (Item.truthy_meets hitem)).bind fun holds _ =>
        .ite hyes (stamp_tame (.undefined _ _))

theorem Expr.evaluateAll_runs (hout : outside.Works calculates) :
    ∀ {es : List Expr}, Expr.allWithin calculates d es →
    Runs calculates d view (Expr.evaluateAll outside view es) (TameAll calculates false)
  | [], _ => .pure tameAll_nil
  | e :: rest, h => by
      obtain ⟨he, hrest⟩ := Bool.and_eq_true_iff.1 h
      have he := Expr.evaluate_runs hout he
      have hrest := Expr.evaluateAll_runs hout hrest
      rw [Expr.evaluateAll]
      exact he.bind fun item hitem => hrest.bind fun items hitems =>
        .pure (tameAll_cons.2 ⟨hitem, hitems⟩)

theorem Expr.evaluateShown_runs (hout : outside.Works calculates) :
    ∀ (letters : List Char) {es : List Expr},
    Expr.allWithin calculates d es →
      Runs calculates d view (Expr.evaluateShown outside view letters es)
        (TameAll calculates false)
  | letter :: letters, e :: rest, h => by
      obtain ⟨he, hrest⟩ := Bool.and_eq_true_iff.1 h
      have he := Expr.evaluate_runs hout he
      have hrest := Expr.evaluateShown_runs hout letters hrest
      rw [Expr.evaluateShown]
      refine he.bind fun item hitem => ?_
      have hshown : Meets (Contained calculates)
          (if letter = 's' then item.display else item.quotedForm) fun _ => True :=
        .ite (Item.display_meets item) (Item.quotedForm_meets item)
      exact (Runs.attempt hshown).bind fun _ _ => hrest.bind fun items hitems =>
        .pure (tameAll_cons.2 ⟨hitem, hitems⟩)
  | [], es, _ => by
      cases es <;> exact .pure tameAll_nil
  | _ :: _, [], _ => .pure tameAll_nil

/-- A constant format takes the items of a tuple without the tuple. -/
theorem Expr.evaluateParts_runs (hout : outside.Works calculates) :
    ∀ {e : Expr}, e.isWithin calculates d →
    ∀ {items : List Expr}, e = .tuple items →
      Runs calculates d view (Expr.evaluateAll outside view items)
        (TameAll calculates false) ∧
        ∀ letters, Runs calculates d view (Expr.evaluateShown outside view letters items)
          (TameAll calculates false)
  | .tuple _, h, _, rfl =>
      ⟨Expr.evaluateAll_runs hout h,
        fun letters => Expr.evaluateShown_runs hout letters h⟩

theorem Expr.evaluateArguments_runs (hout : outside.Works calculates)
    (function : String) :
    ∀ {es : List (ArgumentKind × Expr)}, Expr.argumentsWithin calculates d es →
      ∀ args : Arguments, args.Tame calculates false →
        Runs calculates d view (Expr.evaluateArguments outside view function args es)
          (Arguments.Tame calculates false)
  | [], _, _, hargs => .pure hargs
  | (kind, e) :: rest, h, args, hargs => by
      obtain ⟨he, hrest⟩ := Bool.and_eq_true_iff.1 h
      have he := Expr.evaluate_runs hout he
      have hrest := Expr.evaluateArguments_runs hout function hrest
      rw [Expr.evaluateArguments]
      refine he.bind fun item hitem => ?_
      exact (Runs.attempt (hargs.add kind hitem)).bind hrest

theorem Expr.evaluateLinks_runs (hout : outside.Works calculates) :
    ∀ {links : List (Item.CompareOp × Expr)},
    Expr.linksWithin calculates d links → ∀ left : Item,
      Runs calculates d view (Expr.evaluateLinks outside view left links)
        (Tame calculates false)
  | [], _, _ => .pure (.bool _)
  | (op, e) :: rest, h, left => by
      obtain ⟨he, hrest⟩ := Bool.and_eq_true_iff.1 h
      have he := Expr.evaluate_runs hout he
      have hrest := Expr.evaluateLinks_runs hout hrest
      rw [Expr.evaluateLinks]
      refine he.bind fun right _ => (now_runs left).bind fun left' _ => ?_
      have hcompare : Meets (Contained calculates) (left'.compareWith op right)
        (Tame calculates false) := Item.compareWith_meets op left' right
      have hholds :
          Meets (Contained calculates) (do (← left'.compareWith op right).truthy)
            fun _ => True :=
        hcompare.bind fun result hresult => Item.truthy_meets hresult
      exact (Runs.attempt hholds).bind fun holds _ => .ite (hrest right) (.pure (.bool _))

end

end Template

end SchemaDocs
