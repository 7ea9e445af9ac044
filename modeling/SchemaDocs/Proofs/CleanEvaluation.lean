import SchemaDocs.Proofs.CleanStore

/-!
# What expressions give

An expression that keeps markup apart gives an item that is clean at its level.
The proof goes along the syntax; what leads out of it, the call of a macro, is
assumed to give clean markup for clean arguments (`Outside.Keeps`).

Wherever the rule of an expression is weaker than that of its parts, the two
levels meet: what is unmarked counts as marked (`Clean.ofUnmarked`), and what
macros are given counts as marked once they give it back.
-/

namespace SchemaDocs.Template

open Item (CleanAll CleanEntries)

variable {k : Marking} {level : Bool} {item : Item} {args : Arguments}

/-- Macros give clean markup for clean arguments. -/
def Outside.Keeps (k : Marking) (outside : Outside) : Prop :=
  ∀ place args, args.Clean k.passes →
    Template.Keeps k (outside.call place args) (Item.Clean true)

variable {outside : Outside} {view : View}

theorem View.find_mayStand (hpage : PageApart k view.page) {store : Store}
    (hstore : store.Apart k) (name : String) :
    MayStand k name (view.find store name) := by
  rw [View.find, hstore.refresh]
  split
  · next found hfind =>
      cases found with
      | none => exact mayStand_undefined
      | some item => exact hstore.find? hfind
  · cases hlookup : view.page.lookup name with
    | none => exact mayStand_undefined
    | some item => exact hpage _ (mem_of_lookup hlookup)

/-! ## Calls -/

theorem newRecord_keeps (kind : RecordKind) (h : args.Clean level) :
    Keeps k (newRecord kind args) (Item.Clean level) := by
  rw [newRecord]
  refine (Keeps.attempt (recordMembers_clean kind h)).bind fun members hmembers => ?_
  have hhold :
      Keeps k (modifyGet (·.hold (.entries members)) : Rendering Nat) fun _ => True :=
    .modifyGet fun store hstore => ⟨hstore.hold _, trivial⟩
  exact hhold.bind fun place _ => .pure (Item.clean_record.2 hmembers)

/-- Of what is free only macros and types can be called, and macros are marked. -/
theorem callItem_keeps (hout : outside.Keeps k) (hitem : item.Clean level)
    (hfree : item.Free)
    (hargs : args.Clean (level && k.passes)) :
    Keeps k (callItem outside item args) (Item.Clean level) := by
  have hnamed : Keeps k (args.named.mapM fun e => do return (e.1, ← now e.2))
      fun named => ∀ e ∈ named, e.2.Clean (level && k.passes) :=
    .mapM fun e he => (now_keeps e.2).bind fun item heq => .pure (heq ▸ hargs.named e he)
  rw [callItem]
  refine hnamed.bind fun named hnamed => ?_
  refine (allNow_keeps hargs.positional).bind fun positional hpositional => ?_
  have hargs : Arguments.Clean (level && k.passes) ⟨positional, named⟩ :=
    ⟨hpositional, hnamed⟩
  have hgiven := hargs.mono fun h => (Bool.and_eq_true_iff.1 h).1
  refine (now_keeps item).bind fun found heq => ?_
  split
  · have hlevel := Item.clean_macroAt.1 (heq ▸ hitem)
    rw [hlevel] at hargs ⊢
    exact hout _ _ hargs
  · exact (heq ▸ hfree).elim
  · split
    · exact newRecord_keeps _ hgiven
    · exact give_keeps (makeOf_clean _ hgiven)
  · exact (heq ▸ hfree).elim
  · exact .attempt (.after _ (.error _))
  · exact .throw _
  · exact .throw _

/-! ## Expressions -/

theorem constantItem_clean (h : item.Clean level) :
    Ensures (constantItem item) (Item.Clean level) := by
  rw [constantItem]
  split
  · exact .error _
  · exact .ok h

/-- Operators that put texts together do so one level further down. -/
theorem arithmetic_level {op : Item.ArithmeticOp} {a b : Item}
    (ha : a.Clean (level && !op.joins)) (hb : b.Clean (level && !op.joins)) :
    Ensures (Item.arithmetic op a b) (Item.Clean level) := by
  have hjoins (h : op.joins) : (level && !op.joins) = false := by simp [h]
  exact fun item hitem => (Item.arithmetic_clean hjoins ha hb item hitem).mono fun h =>
    (Bool.and_eq_true_iff.1 h).1

theorem evaluateName_keeps (hpage : PageApart k view.page) (name : String) :
    Keeps k ((Expr.name name).evaluate outside view) (MayStand k name) := by
  rw [Expr.evaluate]
  exact Keeps.get.bind fun store hstore =>
    mayStand_stamp (View.find_mayStand hpage hstore name)

theorem arithmetic_keeps {op : Item.ArithmeticOp} {l r : Expr}
    (hl : Keeps k (l.evaluate outside view) (Item.Clean (level && !op.joins)))
    (hr : Keeps k (r.evaluate outside view) (Item.Clean (level && !op.joins)))
    (hparts : ∀ {items}, r = .tuple items →
      Keeps k (Expr.evaluateAll outside view items) (CleanAll (level && !op.joins)) ∧
        ∀ letters, Keeps k (Expr.evaluateShown outside view letters items)
          (CleanAll (level && !op.joins))) :
    Keeps k ((Expr.arithmetic op l r).evaluate outside view) (Item.Clean level) := by
  by_cases hformat : ∃ format items, op = .mod ∧ l = .const (.text format) ∧
    r = .tuple items
  · obtain ⟨format, items, rfl, rfl, rfl⟩ := hformat
    obtain ⟨hall, hshown⟩ := hparts rfl
    have hput (items : List Item) (hitems : CleanAll (level && !true) items) :
        Keeps k (attempt (Item.arithmetic .mod (.text format) (.tuple items)))
          (Item.Clean level) :=
      .attempt (arithmetic_level (.text format) (.tuple hitems))
    have hfill := hall.bind fun items hitems => (allNow_keeps hitems).bind hput
    rw [Expr.evaluate]
    split
    · exact .ite ((hshown _).bind hput) hfill
    · exact hfill
  · rw [Expr.evaluate]
    · refine hl.bind fun left hleft => hr.bind fun right hright => ?_
      refine (now_keeps left).bind fun left' heq => give_keeps ?_
      exact arithmetic_level (heq ▸ hleft) hright
    · exact fun format items hop hl hr => hformat ⟨format, items, hop, hl, hr⟩

mutual

theorem Expr.evaluate_keeps (hout : outside.Keeps k) (hpage : PageApart k view.page) :
    ∀ {e : Expr} {level : Bool}, e.Apart k level →
      Keeps k (e.evaluate outside view) (Item.Clean level)
  | .const item, _, h => by
      rw [Expr.evaluate]
      exact give_keeps (constantItem_clean h)
  | .name s, _, h => (evaluateName_keeps hpage s).mono fun _ hitem => hitem.1.mono h
  | .list items, _, h => by
      rw [Expr.evaluate]
      exact (Expr.evaluateAll_keeps hout hpage h).bind fun items hitems =>
        stamp_clean (.list hitems)
  | .tuple items, _, h => by
      rw [Expr.evaluate]
      exact (Expr.evaluateAll_keeps hout hpage h).bind fun items hitems =>
        stamp_clean (.tuple hitems)
  | .dict entries, _, h => by
      rw [Expr.evaluate]
      exact (Expr.evaluateEntries_keeps hout hpage h).bind fun entries hentries =>
        give_keeps (Item.ofPairs_clean hentries)
  | .attr e label, _, h => by
      rw [Expr.evaluate]
      exact (Expr.evaluate_keeps (e := e) hout hpage h).bind fun item hitem =>
        give_keeps (Item.attr_clean hitem label)
  | .element e key, _, ⟨he, hkey⟩ => by
      rw [Expr.evaluate]
      refine (Expr.evaluate_keeps hout hpage he).bind fun item hitem => ?_
      refine (Expr.evaluate_keeps hout hpage hkey).bind fun key _ => ?_
      refine (now_keeps item).bind fun item' heq => ?_
      exact give_keeps (Item.element_clean (heq ▸ hitem) key)
  | .cut e start stop step, _, ⟨he, hstart, hstop, hstep⟩ => by
      rw [Expr.evaluate]
      refine (Expr.evaluate_keeps hout hpage he).bind fun item hitem => ?_
      refine (Expr.evaluate_keeps hout hpage hstart).bind fun start _ => ?_
      refine (Expr.evaluate_keeps hout hpage hstop).bind fun stop _ => ?_
      refine (Expr.evaluate_keeps hout hpage hstep).bind fun step _ => ?_
      refine (now_keeps item).bind fun item' heq => ?_
      exact give_keeps (Item.cut_clean (heq ▸ hitem) start stop step)
  | .call (.name s) args, _, ⟨hcalled, hs, hargs⟩ => by
      rw [Expr.evaluate]
      refine (evaluateName_keeps hpage s).bind fun item hitem => ?_
      refine (Expr.evaluateArguments_keeps hout hpage hargs .none).bind
        fun args hargs => ?_
      exact callItem_keeps hout (hitem.1.mono hs) (hitem.2 hcalled) hargs
  | .filter e word args, _, ⟨hword, he, hargs⟩ => by
      rw [Expr.evaluate]
      refine (Expr.evaluate_keeps hout hpage he).bind fun item hitem => ?_
      refine (Expr.evaluateArguments_keeps hout hpage hargs .none).bind
        fun args hargs => ?_
      refine (now_keeps item).bind fun item' heq => ?_
      exact give_keeps (applyFilter_clean hword.1 hword.2 (hargs.behind (heq ▸ hitem)))
  | .test e word args, _, ⟨he, hargs⟩ => by
      rw [Expr.evaluate]
      refine (Expr.evaluate_keeps hout hpage he).bind fun item hitem => ?_
      refine (Expr.evaluateArguments_keeps hout hpage hargs .none).bind
        fun args hargs => ?_
      exact (now_keeps item).bind fun item' _ => give_keeps (applyTest_clean word _)
  | .not e, _, h => by
      rw [Expr.evaluate]
      refine (Expr.evaluate_keeps (e := e) hout hpage h).bind fun item _ => ?_
      exact (Keeps.check _).bind fun holds _ => .pure (.bool _)
  | .negate e, _, h => by
      rw [Expr.evaluate]
      exact (Expr.evaluate_keeps (e := e) hout hpage h).bind fun item _ =>
        .attempt item.negate_clean
  | .positive e, _, h => by
      rw [Expr.evaluate]
      exact (Expr.evaluate_keeps (e := e) hout hpage h).bind fun item _ =>
        .attempt item.positive_clean
  | .and l r, _, ⟨hl, hr⟩ => by
      rw [Expr.evaluate]
      refine (Expr.evaluate_keeps hout hpage hl).bind fun item hitem => ?_
      exact (Keeps.check _).bind fun holds _ =>
        .ite (Expr.evaluate_keeps hout hpage hr) (.pure hitem)
  | .or l r, _, ⟨hl, hr⟩ => by
      rw [Expr.evaluate]
      refine (Expr.evaluate_keeps hout hpage hl).bind fun item hitem => ?_
      exact (Keeps.check _).bind fun holds _ =>
        .ite (.pure hitem) (Expr.evaluate_keeps hout hpage hr)
  | .arithmetic op l r, level, ⟨hl, hr⟩ =>
      arithmetic_keeps (Expr.evaluate_keeps hout hpage hl)
        (Expr.evaluate_keeps hout hpage hr)
        (Expr.evaluateParts_keeps hout hpage hr)
  | .compare first links, _, ⟨hfirst, hlinks⟩ => by
      rw [Expr.evaluate]
      exact (Expr.evaluate_keeps hout hpage hfirst).bind fun left _ =>
        Expr.evaluateLinks_keeps hout hpage hlinks
  | .concat parts, _, h => by
      rw [Expr.evaluate]
      refine (Expr.evaluateAll_keeps hout hpage h).bind fun items hitems => ?_
      refine (allNow_keeps hitems).bind fun items hitems => .attempt ?_
      exact fun item hitem => (Item.concat_unmarked hitems item hitem).ofUnmarked
  | .choose condition yes no, _, ⟨hcondition, hyes, hno⟩ => by
      rw [Expr.evaluate]
      refine (Expr.evaluate_keeps hout hpage hcondition).bind fun item _ => ?_
      exact (Keeps.check _).bind fun holds _ =>
        .ite (Expr.evaluate_keeps hout hpage hyes) (Expr.evaluate_keeps hout hpage hno)
  | .only condition yes line, _, ⟨hcondition, hyes⟩ => by
      rw [Expr.evaluate]
      refine (Expr.evaluate_keeps hout hpage hcondition).bind fun item _ => ?_
      exact (Keeps.check _).bind fun holds _ =>
        .ite (Expr.evaluate_keeps hout hpage hyes) (stamp_clean (.undefined _ _))

theorem Expr.evaluateAll_keeps (hout : outside.Keeps k) (hpage : PageApart k view.page) :
    ∀ {es : List Expr} {level : Bool}, Expr.AllApart k level es →
      Keeps k (Expr.evaluateAll outside view es) (CleanAll level)
  | [], _, _ => by
      rw [Expr.evaluateAll]
      exact .pure Item.cleanAll_nil
  | e :: rest, _, ⟨he, hrest⟩ => by
      rw [Expr.evaluateAll]
      refine (Expr.evaluate_keeps hout hpage he).bind fun item hitem => ?_
      exact (Expr.evaluateAll_keeps hout hpage hrest).bind fun items hitems =>
        .pure (Item.cleanAll_cons.2 ⟨hitem, hitems⟩)

theorem Expr.evaluateShown_keeps (hout : outside.Keeps k)
    (hpage : PageApart k view.page) :
    ∀ {letters : List Char} {es : List Expr} {level : Bool}, Expr.AllApart k level es →
      Keeps k (Expr.evaluateShown outside view letters es) (CleanAll level)
  | letter :: letters, e :: rest, _, ⟨he, hrest⟩ => by
      rw [Expr.evaluateShown]
      refine (Expr.evaluate_keeps hout hpage he).bind fun item hitem => ?_
      refine (Keeps.check _).bind fun _ _ => ?_
      exact (Expr.evaluateShown_keeps hout hpage hrest).bind fun items hitems =>
        .pure (Item.cleanAll_cons.2 ⟨hitem, hitems⟩)
  | [], es, _, _ => by
      cases es <;> exact .pure Item.cleanAll_nil
  | _ :: _, [], _, _ => .pure Item.cleanAll_nil

/-- A constant format takes the items of a tuple without the tuple. -/
theorem Expr.evaluateParts_keeps (hout : outside.Keeps k)
    (hpage : PageApart k view.page) :
    ∀ {e : Expr} {level : Bool}, e.Apart k level →
    ∀ {items : List Expr}, e = .tuple items →
      Keeps k (Expr.evaluateAll outside view items) (CleanAll level) ∧
        ∀ letters, Keeps k (Expr.evaluateShown outside view letters items)
          (CleanAll level)
  | .tuple _, _, h, _, rfl =>
      ⟨Expr.evaluateAll_keeps hout hpage h,
        fun _ => Expr.evaluateShown_keeps hout hpage h⟩

theorem Expr.evaluateArguments_keeps (hout : outside.Keeps k)
    (hpage : PageApart k view.page)
    {function : String} :
    ∀ {es : List (ArgumentKind × Expr)} {level : Bool}, Expr.ArgumentsApart k level es →
      ∀ {args : Arguments}, args.Clean level →
        Keeps k (Expr.evaluateArguments outside view function args es)
          (Arguments.Clean level)
  | [], _, _, _, hargs => by
      rw [Expr.evaluateArguments]
      exact .pure hargs
  | (kind, e) :: rest, _, ⟨he, hrest⟩, _, hargs => by
      rw [Expr.evaluateArguments]
      refine (Expr.evaluate_keeps hout hpage he).bind fun item hitem => ?_
      exact (Keeps.attempt (hargs.add kind hitem)).bind fun args hargs =>
        Expr.evaluateArguments_keeps hout hpage hrest hargs

theorem Expr.evaluateLinks_keeps (hout : outside.Keeps k) (hpage : PageApart k view.page)
    {level : Bool} : ∀ {links : List (Item.CompareOp × Expr)}, Expr.LinksApart k links →
      ∀ {left : Item},
        Keeps k (Expr.evaluateLinks outside view left links) (Item.Clean level)
  | [], _, _ => by
      rw [Expr.evaluateLinks]
      exact .pure (.bool _)
  | (op, e) :: rest, ⟨he, hrest⟩, _ => by
      rw [Expr.evaluateLinks]
      refine (Expr.evaluate_keeps hout hpage he).bind fun right _ => ?_
      refine (now_keeps _).bind fun left _ => ?_
      exact (Keeps.check _).bind fun holds _ =>
        .ite (Expr.evaluateLinks_keeps hout hpage hrest) (.pure (.bool _))

theorem Expr.evaluateEntries_keeps (hout : outside.Keeps k)
    (hpage : PageApart k view.page) :
    ∀ {es : List (Expr × Expr)} {level : Bool}, Expr.EntriesApart k level es →
      Keeps k (Expr.evaluateEntries outside view es) (CleanEntries level)
  | [], _, _ => by
      rw [Expr.evaluateEntries]
      exact .pure Item.cleanEntries_nil
  | (key, e) :: rest, _, ⟨hkey, he, hrest⟩ => by
      rw [Expr.evaluateEntries]
      refine (Expr.evaluate_keeps hout hpage hkey).bind fun key hkey => ?_
      refine (Expr.evaluate_keeps hout hpage he).bind fun item hitem => ?_
      exact (Expr.evaluateEntries_keeps hout hpage hrest).bind fun entries hentries =>
        .pure (Item.cleanEntries_cons.2 ⟨⟨hkey, hitem⟩, hentries⟩)

end

end SchemaDocs.Template
