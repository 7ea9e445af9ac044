import SchemaDocs.Proofs.CleanEvaluation
import SchemaDocs.Template.Render

/-!
# What templates give

A template that keeps markup apart gives text without structure, and so do its
macros. Texts are put together from what is printed and from the texts of the
template itself; names get only what they may stand for, which is what the next
statement finds in the store.
-/

namespace SchemaDocs.Template

open Item (CleanAll)
open Text (Unstructured)

variable {k : Marking} {level : Bool} {outside : Outside} {view : View} {item : Item}

/-! ## Targets -/

theorem Marking.takes_append {names names' : List String} :
    k.Takes level (names ++ names') ↔ k.Takes level names ∧ k.Takes level names' :=
  List.forall_mem_append

theorem enter_keeps (hpage : PageApart k view.page) {scope : Scope}
    (hscope : ScopeApart k scope) :
    Keeps k (view.enter scope) fun inner => PageApart k inner.page :=
  fun _ hstore => .ok ⟨hstore.allocate hscope, hpage⟩

theorem unsetScope_apart (names : List String) : ScopeApart k (unsetScope names) := by
  intro e he item hitem
  obtain ⟨name, -, rfl⟩ := List.mem_map.1 he
  cases hitem

theorem assign_keeps (view : View) {name : String} (h : MayStand k name item) :
    Keeps k (view.assign name item) fun _ => True := by
  refine .modify fun store hstore => ?_
  split
  · exact hstore.assign h _
  · exact hstore

theorem unpack_clean (h : item.Clean level) (count : Nat) :
    Ensures (unpack count item) (CleanAll level) := by
  rw [unpack]
  split
  · exact .error _
  · refine (Item.elements_clean h).bind fun items hitems => ?_
    refine .ite (.after _ ?_) ?_
    all_goals exact .ite (.after _ (.pure hitems)) (.pure hitems)

mutual

theorem assignTarget_keeps (view : View) :
    ∀ {target : Target}, k.Takes level target.names →
    target.objects = [] → ∀ {item : Item}, item.Clean level →
      Keeps k (view.assignTarget target item) fun _ => True
  | .name s, h, _, _, hitem => by
      rw [View.assignTarget]
      exact assign_keeps view (h.mayStand List.mem_cons_self hitem)
  | .tuple targets, h, hobjects, item, hitem => by
      rw [View.assignTarget]
      refine (now_keeps item).bind fun item' heq => ?_
      refine (Keeps.attempt (unpack_clean (heq ▸ hitem) _)).bind fun items hitems => ?_
      exact assignTargets_keeps view h hobjects hitems

theorem assignTargets_keeps (view : View) : ∀ {targets : List Target},
    k.Takes level (Target.namesOfAll targets) → Target.objectsOfAll targets = [] →
      ∀ {items : List Item}, CleanAll level items →
        Keeps k (view.assignTargets targets items) fun _ => True
  | target :: targets, h, hobjects, item :: items, hitems => by
      obtain ⟨htarget, htargets⟩ := Marking.takes_append.1 h
      obtain ⟨hobject, hobjects⟩ := List.append_eq_nil_iff.1 hobjects
      obtain ⟨hitem, hitems⟩ := Item.cleanAll_cons.1 hitems
      rw [View.assignTargets]
      exact (assignTarget_keeps view htarget hobject hitem).bind fun _ _ =>
        assignTargets_keeps view htargets hobjects hitems
  | [], _, _, _, _ => .pure trivial
  | _ :: _, _, _, [], _ => .pure trivial

end

theorem checkObjects_keeps (view : View) (target : Target) :
    Keeps k (view.checkObjects target) fun _ => True :=
  Keeps.get.bind fun _ _ => .ite (.pure trivial) (.throw _)

/-! ## Loops -/

theorem passes_keeps (hout : outside.Keeps k) (hpage : PageApart k view.page)
    {target : Target}
    (htarget : k.Takes level target.names) (hobjects : target.objects = [])
    {condition : Option Expr} (hcondition : ∀ e ∈ condition, e.Apart k true)
    (hitem : item.Clean level) :
    Keeps k (passes outside view target condition item) fun _ => True := by
  rw [passes.eq_def]
  split
  · exact .pure trivial
  · next e =>
      refine (enter_keeps hpage scopeApart_nil).bind fun inner hinner => ?_
      refine (assignTarget_keeps inner htarget hobjects hitem).bind fun _ _ => ?_
      exact (Expr.evaluate_keeps hout hinner (hcondition e rfl)).bind fun item _ =>
        .check _

structure Progress.Clean (level : Bool) (progress : Progress) : Prop where
  previous : CleanAll level progress.previous
  out : Unstructured progress.out

section

variable {test : Item → Rendering Bool}
  (htest : ∀ item, item.Clean level → Keeps k (test item) fun _ => True)

include htest

theorem firstPassing_keeps {items : List Item} (h : CleanAll level items) :
    Keeps k (firstPassing test items) (CleanAll level) := by
  induction items with
  | nil => exact .pure Item.cleanAll_nil
  | cons item rest ih =>
      obtain ⟨hitem, hrest⟩ := Item.cleanAll_cons.1 h
      rw [firstPassing]
      exact (htest item hitem).bind fun _ _ =>
        .ite (.pure (by simpa using hitem)) (ih hrest)

theorem loopItem_clean (place done : Nat) {previous rest : List Item}
    (hprevious : CleanAll level previous) (hrest : CleanAll level rest) {store : Store}
    (hstore : store.Apart k) :
    (loopItem test place done previous rest store).Clean level :=
  Item.clean_loop.2 ⟨hprevious, (firstPassing_keeps htest hrest).run' hstore⟩

theorem runRounds_keeps {round : Item → Item → Rendering String}
    (hround : ∀ item state, item.Clean level → state.Clean level →
      Keeps k (round item state) Unstructured) (place : Nat) (source : Item) :
    ∀ {fuel : Nat} {progress : Progress} {rest : List Item}, progress.Clean level →
      CleanAll level rest →
        Keeps k (runRounds test round place source fuel progress rest)
          (Progress.Clean level)
  | 0, _, _, _, _ => .throw _
  | fuel + 1, progress, rest, hprogress, hrest => by
      rw [runRounds]
      refine Keeps.get.bind fun store hstore => ?_
      rw [hstore.unchanged, if_neg Bool.false_ne_true, pure_bind]
      cases rest with
      | nil => exact .pure hprogress
      | cons item rest =>
          obtain ⟨hitem, hrest⟩ := Item.cleanAll_cons.1 hrest
          refine (now_keeps item).bind fun item' heq => ?_
          rw [heq]
          refine (htest item hitem).bind fun passed _ => ?_
          split
          · refine Keeps.get.bind fun store hstore => ?_
            have hstate :=
              loopItem_clean htest place progress.done hprogress.previous hrest hstore
            refine (hround item _ hitem hstate).bind fun out hout => ?_
            refine runRounds_keeps hround place source
              ⟨?_, hprogress.out.append hout⟩ hrest
            simpa using hitem
          · exact runRounds_keeps hround place source
              ⟨hprogress.previous, hprogress.out⟩ hrest

end

/-! ## Statements -/

mutual

theorem Stmt.run_keeps (hout : outside.Keeps k) {view : View}
    (hpage : PageApart k view.page) :
    ∀ {s : Stmt}, s.Apart k → Keeps k (s.run outside view) Unstructured
  | .text s, h => .pure h
  | .print e, h => by
      rw [Stmt.run]
      exact (Expr.evaluate_keeps (e := e) hout hpage h).bind fun item hitem =>
        .attempt (Item.printed_unstructured hitem)
  | .branch condition body otherwise, ⟨hcondition, hbody, hotherwise⟩ => by
      rw [Stmt.run]
      refine (Expr.evaluate_keeps hout hpage hcondition).bind fun item _ => ?_
      exact (Keeps.check _).bind fun holds _ =>
        .ite (Stmt.runAll_keeps hout hpage hbody)
          (Stmt.runAll_keeps hout hpage hotherwise)
  | .loop target items condition body otherwise info,
      ⟨⟨level, hitems, htakes⟩, hcondition, hobjects, hbody, hotherwise⟩ => by
      obtain ⟨htarget, hstate⟩ := Marking.takes_append.1 htakes
      rw [Stmt.run]
      refine (Expr.evaluate_keeps hout hpage hitems).bind fun source hsource => ?_
      refine (Keeps.attempt (Item.elements_clean hsource)).bind fun items hitems => ?_
      have hhold :
          Keeps k (modifyGet (·.hold (.items [])) : Rendering Nat) fun _ => True :=
        .modifyGet fun store hstore => ⟨hstore.hold _, trivial⟩
      refine hhold.bind fun place _ => ?_
      refine Keeps.bind (runRounds_keeps
        (fun item hitem => passes_keeps hout hpage htarget hobjects hcondition hitem)
        ?_ place source ⟨Item.cleanAll_nil, .empty⟩ hitems) fun progress hprogress => ?_
      · intro item state hitem hloop
        have hown :
            ScopeApart k (if info.namesState then [("loop", some state)] else []) := by
          split
          · next hnames =>
              rw [if_pos hnames] at hstate
              exact scopeApart_singleton (hstate.mayStand List.mem_cons_self hloop)
          · exact scopeApart_nil
        refine (enter_keeps hpage (hown.append (unsetScope_apart _))).bind
          fun inner hinner => ?_
        exact (assignTarget_keeps inner htarget hobjects hitem).bind fun _ _ =>
          Stmt.runAll_keeps hout hinner hbody
      · refine .ite (.pure hprogress.out) ?_
        exact (enter_keeps hpage (unsetScope_apart _)).bind fun inner hinner =>
          Stmt.runAll_keeps hout hinner hotherwise
  | .assign target e, ⟨⟨level, he, htarget⟩, hobjects⟩ => by
      rw [Stmt.run]
      refine (checkObjects_keeps view target).bind fun _ _ => ?_
      refine (Expr.evaluate_keeps hout hpage he).bind fun item hitem => ?_
      exact (assignTarget_keeps view htarget hobjects hitem).bind fun _ _ => .pure .empty
  | .capture target _ body unset, ⟨rfl, htarget, hobjects, hbody⟩ => by
      rw [Stmt.run]
      refine (enter_keeps hpage (unsetScope_apart unset)).bind fun inner hinner => ?_
      refine (Stmt.runAll_keeps hout hinner hbody).bind fun out hout => ?_
      exact (assignTarget_keeps view htarget hobjects (.markup rfl hout)).bind fun _ _ =>
        .pure .empty
  | .define info params body unset, ⟨hname, htakes, hparams, hbody⟩ => by
      rw [Stmt.run]
      refine Keeps.get.bind fun store hstore => ?_
      have hclosure :
          Closure.Apart k ⟨info, params, body, unset, view.page, view.scopes⟩ :=
        ⟨htakes, hparams, hbody, hpage⟩
      refine (Keeps.set (hstore.define hclosure)).bind fun _ _ => ?_
      have hmacro : MayStand k info.name (.macroAt info store.closures.size) :=
        ⟨.macroAt hname _ _, fun _ => trivial⟩
      exact (assign_keeps view hmacro).bind fun _ _ => .pure .empty
  | .load _ _ _, h => h.elim
  | .embed _ _, h => h.elim

theorem Stmt.runAll_keeps (hout : outside.Keeps k) {view : View}
    (hpage : PageApart k view.page) :
    ∀ {body : List Stmt}, Stmt.AllApart k body →
      Keeps k (Stmt.runAll outside view body) Unstructured
  | [], _ => .pure .empty
  | s :: rest, ⟨hs, hrest⟩ => by
      rw [Stmt.runAll]
      refine (Stmt.run_keeps hout hpage hs).bind fun first hfirst => ?_
      exact (Stmt.runAll_keeps hout hpage hrest).bind fun text htext =>
        .pure (hfirst.append htext)

end

theorem run_keeps (hout : outside.Keeps k) {t : Template} (h : Stmt.AllApart k t.body)
    {page : List (String × Item)} (hpage : PageApart k page) :
    Keeps k (t.run outside page) fun result => Unstructured result.1 := by
  have hown : ScopeApart k (if t.mentionsSelf then [("self", some .self)] else []) := by
    split
    · exact scopeApart_singleton ⟨.self, fun _ => trivial⟩
    · exact scopeApart_nil
  rw [Template.run]
  refine (enter_keeps hpage (hown.append (unsetScope_apart t.unset))).bind
    fun inner hinner => ?_
  refine (Stmt.runAll_keeps hout hinner h).bind fun out hout => ?_
  split
  · exact Keeps.get.bind fun store _ => .pure hout
  · exact .pure hout

/-! ## Macros -/

theorem bindArguments_apart : ∀ {params : List String} {args : List Item}
    {named : List (String × Item)}, k.Takes level params → CleanAll level args →
      (∀ e ∈ named, e.2.Clean level) →
        ScopeApart k (bindArguments named params args).1 ∧
          Arguments.Clean level ⟨(bindArguments named params args).2.1,
            (bindArguments named params args).2.2⟩
  | [], args, named, _, hargs, hnamed => ⟨scopeApart_nil, hargs, hnamed⟩
  | name :: params, arg :: args, named, h, hargs, hnamed => by
      obtain ⟨harg, hargs⟩ := Item.cleanAll_cons.1 hargs
      have hparams : k.Takes level params := (List.forall_mem_cons.1 h).2
      obtain ⟨hscope, hrest⟩ := bindArguments_apart hparams hargs hnamed
      rw [bindArguments]
      refine ⟨scopeApart_cons.2 ⟨?_, hscope⟩, hrest⟩
      rintro _ ⟨⟩
      exact h.mayStand List.mem_cons_self harg
  | name :: params, [], named, h, hargs, hnamed => by
      have hparams : k.Takes level params := (List.forall_mem_cons.1 h).2
      have hothers : ∀ e ∈ named.filter (·.1 != name), e.2.Clean level :=
        fun e he => hnamed e (List.mem_filter.1 he).1
      obtain ⟨hscope, hrest⟩ := bindArguments_apart hparams hargs hothers
      rw [bindArguments]
      refine ⟨scopeApart_cons.2 ⟨fun item hitem => ?_, hscope⟩, hrest⟩
      exact h.mayStand List.mem_cons_self (hnamed _ (mem_of_lookup hitem))

theorem bindCaller_keeps {info : MacroInfo}
    (h : k.Takes level (if info.takesCaller then ["caller"] else []))
    {named : List (String × Item)} (hnamed : ∀ e ∈ named, e.2.Clean level) :
    Keeps k (bindCaller info named) fun result =>
      ScopeApart k result.1 ∧ ∀ e ∈ result.2, e.2.Clean level := by
  rw [bindCaller]
  split
  · next htakes =>
      rw [if_pos (Bool.and_eq_true_iff.1 htakes).1] at h
      have hgive (caller : Item) (hcaller : caller.Clean level) :
          Keeps k (pure ([("caller", some caller)], named.filter (·.1 != "caller")) :
            Rendering (Scope × List (String × Item))) fun result =>
              ScopeApart k result.1 ∧ ∀ e ∈ result.2, e.2.Clean level :=
        .pure ⟨scopeApart_singleton (h.mayStand List.mem_cons_self hcaller),
          fun e he => hnamed e (List.mem_filter.1 he).1⟩
      split
      · exact (stamp_clean (.undefined _ _)).bind hgive
      · exact (stamp_clean (.undefined _ _)).bind hgive
      · next item _ hlookup => exact hgive item (hnamed _ (mem_of_lookup hlookup))
  · exact .pure ⟨scopeApart_nil, hnamed⟩

theorem bindNamed_apart {info : MacroInfo}
    (h : k.Takes level (if info.takesNamed then ["kwargs"] else []))
    {named : List (String × Item)} (hnamed : ∀ e ∈ named, e.2.Clean level) :
    Ensures (bindNamed info named) (ScopeApart k) := by
  unfold bindNamed
  split
  · next htakes =>
      rw [if_pos htakes] at h
      refine .ok (scopeApart_singleton (h.mayStand List.mem_cons_self ?_))
      refine Item.clean_dict.2 fun e he => ?_
      obtain ⟨e, hmem, rfl⟩ := List.mem_map.1 he
      exact ⟨.text _, hnamed e hmem⟩
  · split
    · exact .ok scopeApart_nil
    · exact .ite (.error _) (.error _)

theorem bindSurplus_apart {info : MacroInfo}
    (h : k.Takes level (if info.takesSurplus then ["varargs"] else []))
    {surplus : List Item} (hsurplus : CleanAll level surplus) :
    Ensures (bindSurplus info surplus) (ScopeApart k) := by
  rw [bindSurplus]
  split
  · next htakes =>
      rw [if_pos htakes] at h
      exact .ok (scopeApart_singleton (h.mayStand List.mem_cons_self (.tuple hsurplus)))
  · exact .ite (.ok scopeApart_nil) (.error _)

theorem stampScope_keeps {scope : Scope} (h : ScopeApart k scope) :
    Keeps k (scope.mapM fun (name, item) => do return (name, ← item.mapM stamp))
      (ScopeApart k) := by
  refine .mapM fun e he => ?_
  obtain ⟨name, item⟩ := e
  cases item with
  | none => exact .pure fun _ hitem => nomatch hitem
  | some item =>
      have hstamp : Keeps k (some <$> stamp item) fun stamped =>
          ∀ item ∈ stamped, MayStand k name item := by
        refine (mayStand_stamp (h _ he item rfl)).map fun stamped hstamped => ?_
        rintro _ ⟨⟩
        exact hstamped
      exact hstamp.bind fun stamped hstamped => .pure hstamped

theorem fillDefaults_keeps (hout : outside.Keeps k) (hpage : PageApart k view.page)
    (scope : Scope) : ∀ {params : List (String × Option Expr)}, ParamsApart k params →
      Keeps k (fillDefaults outside view scope params) fun _ => True
  | [], _ => .pure trivial
  | (name, default) :: rest, h => by
      obtain ⟨⟨hname, hdefault⟩, hrest⟩ := List.forall_mem_cons.1 h
      have hfill := fillDefaults_keeps hout hpage scope hrest
      have hassign {item : Item} (hitem : item.Clean k.passes) :
          Keeps k (view.assign name item) fun _ => True :=
        assign_keeps view (hname.mayStand List.mem_cons_self hitem)
      rw [fillDefaults.eq_def]
      dsimp only
      split
      · next e _ =>
          exact (Expr.evaluate_keeps hout hpage (hdefault e rfl)).bind fun item hitem =>
            (hassign hitem).bind fun _ _ => hfill
      · exact (stamp_clean (.undefined _ _)).bind fun item hitem =>
          (hassign hitem).bind fun _ _ => hfill
      · exact hfill

theorem apply_keeps (hout : outside.Keeps k) {closure : Closure} (h : closure.Apart k)
    {args : Arguments} (hargs : args.Clean k.passes) :
    Keeps k (closure.apply outside args) (Item.Clean true) := by
  obtain ⟨htakes, hcaller⟩ := Marking.takes_append.1 h.takes
  obtain ⟨htakes, hsurplus⟩ := Marking.takes_append.1 htakes
  obtain ⟨hparams, hnamed⟩ := Marking.takes_append.1 htakes
  obtain ⟨hscope, hrest⟩ := bindArguments_apart hparams hargs.positional hargs.named
  rw [Closure.apply]
  refine (bindCaller_keeps hcaller hrest.named).bind fun caller hcaller => ?_
  refine (Keeps.attempt (bindNamed_apart hnamed hcaller.2)).bind fun kwargs hkwargs => ?_
  refine (Keeps.attempt (bindSurplus_apart hsurplus hrest.positional)).bind
    fun varargs hvarargs => ?_
  refine (stampScope_keeps (hkwargs.append hvarargs)).bind fun rest hrest => ?_
  have hown :=
    ((hscope.append hcaller.1).append hrest).append (unsetScope_apart closure.unset)
  have hpage : PageApart k (View.mk closure.page closure.scopes).page := h.page
  refine (enter_keeps hpage hown).bind fun inner hinner => ?_
  refine (fillDefaults_keeps hout hinner _ h.params).bind fun _ _ => ?_
  exact (Stmt.runAll_keeps hout hinner h.body).bind fun out hout =>
    .pure (.markup rfl hout)

end SchemaDocs.Template
