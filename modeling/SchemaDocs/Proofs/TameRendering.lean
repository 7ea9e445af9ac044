import SchemaDocs.Proofs.TameEvaluation

/-!
# How templates fail

The statements of a dialect fail in contained ways only, and so do its macros.
Names are given only what they may stand for, which is what the next statement
relies on when it calls one of them. A template that uses another one learns
nothing of its scopes: it gets the items that the other offers, or its text.
-/

namespace SchemaDocs.Template

open Item (Tame TameAll tame_dict tame_tuple tameAll_nil tameAll_cons)
open RenderError (Contained)

variable {calculates : Bool} {d : Dialect} {outside : Outside} {view : View} {item : Item}
  {w : World}

/-! ## Targets -/

theorem Dialect.takes_iff {target : Target} :
    d.takes target ↔ target.objects = [] ∧ ∀ name ∈ target.names, d.leaves name := by
  rw [Dialect.takes, Bool.and_eq_true, List.isEmpty_iff, List.all_eq_true]

theorem unpack_meets (h : item.Tame calculates false) (count : Nat) :
    Meets (Contained calculates) (unpack count item) (TameAll calculates false) := by
  have helements := Item.elements_meets h
  rw [unpack]
  split
  · exact .error (.own rfl)
  · refine helements.bind fun items hitems => ?_
    exact .ite (.error (.own rfl)) (.ite (.error (.own rfl)) (.pure hitems))

mutual

theorem assignTarget_runs : ∀ {target : Target}, target.objects = [] →
    (∀ name ∈ target.names, d.leaves name) → ∀ {item : Item}, item.Tame calculates false →
      Runs calculates d view (view.assignTarget target item) fun _ => True
  | .name s, _, hnames, _, hitem => by
      rw [View.assignTarget]
      exact assign_runs (.ofLeaves (hnames s List.mem_cons_self) hitem)
  | .member _ _, hobjects, _, _, _ => nomatch hobjects
  | .tuple targets, hobjects, hnames, item, hitem => by
      rw [View.assignTarget]
      refine (now_runs item).bind fun item' heq => ?_
      refine (Runs.attempt (unpack_meets (heq ▸ hitem) _)).bind fun items hitems => ?_
      exact assignTargets_runs hobjects hnames hitems

theorem assignTargets_runs : ∀ {targets : List Target}, Target.objectsOfAll targets = [] →
    (∀ name ∈ Target.namesOfAll targets, d.leaves name) →
      ∀ {items : List Item}, TameAll calculates false items →
        Runs calculates d view (view.assignTargets targets items) fun _ => True
  | target :: targets, hobjects, hnames, item :: items, hitems => by
      obtain ⟨hobject, hobjects⟩ := List.append_eq_nil_iff.1 hobjects
      obtain ⟨hname, hnames⟩ := List.forall_mem_append.1 hnames
      obtain ⟨hitem, hitems⟩ := tameAll_cons.1 hitems
      rw [View.assignTargets]
      exact (assignTarget_runs hobject hname hitem).bind fun _ _ =>
        assignTargets_runs hobjects hnames hitems
  | [], _, _, _, _ => .pure trivial
  | _ :: _, _, _, [], _ => .pure trivial

end

theorem takes_runs {target : Target} (h : d.takes target)
    (hitem : item.Tame calculates false) :
    Runs calculates d view (view.assignTarget target item) fun _ => True :=
  assignTarget_runs (Dialect.takes_iff.1 h).1 (Dialect.takes_iff.1 h).2 hitem

theorem checkObjects_runs (target : Target) :
    Runs calculates d view (view.checkObjects target) fun _ => True :=
  .get_bind fun _ _ _ _ => .ite (.pure trivial) (.throw (.own rfl))

/-! ## Loops -/

theorem passes_runs (hout : outside.Works calculates) {target : Target}
    (htarget : d.takes target)
    {condition : Option Expr} (hcondition : condition.all (Expr.isWithin calculates d))
    (hitem : item.Tame calculates false) :
    Runs calculates d view (passes outside view target condition item) fun _ => True := by
  rw [passes.eq_def]
  split
  · exact .pure trivial
  · next e =>
      refine .enter .nil fun inner => (takes_runs htarget hitem).bind fun _ _ => ?_
      refine (Expr.evaluate_runs (e := e) hout hcondition).bind fun item hitem => ?_
      exact .attempt (Item.truthy_meets hitem)

section

variable {test : Item → Rendering Bool}
  (htest : ∀ item, item.Tame calculates false →
    Runs calculates d view (test item) fun _ => True)

include htest

theorem firstPassing_runs {items : List Item} (h : TameAll calculates false items) :
    Runs calculates d view (firstPassing test items) (TameAll calculates false) := by
  induction items with
  | nil => exact .pure tameAll_nil
  | cons item rest ih =>
      obtain ⟨hitem, hrest⟩ := tameAll_cons.1 h
      rw [firstPassing]
      refine (htest item hitem).bind fun passed _ => .ite (.pure ?_) (ih hrest)
      exact tameAll_cons.2 ⟨hitem, tameAll_nil⟩

theorem countPassing_runs {items : List Item} (h : TameAll calculates false items) :
    Runs calculates d view (countPassing test items) fun _ => True := by
  induction items with
  | nil => exact .pure trivial
  | cons item rest ih =>
      obtain ⟨hitem, hrest⟩ := tameAll_cons.1 h
      rw [countPassing]
      exact (htest item hitem).bind fun passed _ =>
        (ih hrest).bind fun n _ => .pure trivial

/-- The state of a loop holds what its condition comes to for the rounds ahead. -/
theorem loopItem_tame (place done : Nat) {previous rest : List Item}
    (hprevious : TameAll calculates false previous)
    (hrest : TameAll calculates false rest)
    {store : Store} (hview : view.Sees calculates d [] w)
    (hstore : store.Of calculates w) :
    (loopItem test place done previous rest store).Tame calculates false := by
  have hnext := (firstPassing_runs htest hrest).run' hview hstore
  have hleft := (countPassing_runs htest hrest).run' hview hstore
  refine Item.tame_loop.2 ⟨rfl, ?_, ?_, hprevious, hnext⟩
  · exact hnext.map fun _ _ => trivial
  · exact hleft.map fun _ _ => trivial

theorem runRounds_runs {round : Item → Item → Rendering String}
    (hround : ∀ item state, item.Tame calculates false → state.Tame calculates false →
      state.Inert → ¬state.IsDict → Runs calculates d view (round item state) fun _ =>
        True)
    (place : Nat) (source : Item) :
    ∀ {fuel : Nat} {progress : Progress} {rest : List Item},
      TameAll calculates false progress.previous → TameAll calculates false rest →
        Runs calculates d view (runRounds test round place source fuel progress rest)
          fun _ => True
  | 0, _, _, _, _ => .throw .tooDeep
  | fuel + 1, progress, rest, hprevious, hrest => by
      rw [runRounds]
      refine .get_bind fun _ store _ hstore => ?_
      rw [hstore.unchanged, if_neg Bool.false_ne_true, pure_bind]
      cases rest with
      | nil => exact .pure trivial
      | cons item rest =>
          obtain ⟨hitem, hrest⟩ := tameAll_cons.1 hrest
          refine (now_runs item).bind fun item' heq => ?_
          rw [heq]
          refine (htest item hitem).bind fun passed _ => ?_
          split
          · refine .get_bind fun w store hview hstore => ?_
            have hstate :=
              loopItem_tame htest place progress.done hprevious hrest hview hstore
            refine (hround item _ hitem hstate trivial id).bind fun out _ => ?_
            refine runRounds_runs hround place source ?_ hrest
            exact tameAll_cons.2 ⟨hitem, tameAll_nil⟩
          · exact runRounds_runs hround place source hprevious hrest

end

/-! ## Other templates -/

theorem View.flatten_tame {store : Store} (hview : view.Sees calculates d [] w)
    (hstore : store.Of calculates w) :
    ∀ e ∈ view.flatten store, e.2.Tame calculates false := by
  intro e he
  rcases List.mem_append.1 he with he | he
  · obtain ⟨place, hplace, he⟩ := List.mem_flatMap.1 he
    obtain ⟨⟨name, found⟩, hfound, he⟩ := List.mem_filterMap.1 he
    obtain ⟨item, rfl, rfl⟩ := Option.map_eq_some_iff.1 he
    obtain ⟨f, hf, -⟩ := hview.frames place hplace
    exact ((hstore.scopes place f hf).admits _ hfound item rfl).tame
  · exact hview.page e he

theorem exports_of_offers {t : Template} {scope : Scope} (h : Offers calculates scope) :
    ∀ e ∈ exports t scope, e.2.Tame calculates false ∧
    (e.1 ∈ layoutMacros → e.2.Inert) := by
  intro e he
  obtain ⟨⟨name, found⟩, hfound, he⟩ := List.mem_filterMap.1 he
  obtain ⟨-, he⟩ := Option.ite_none_left_eq_some.1 he
  obtain ⟨item, rfl, rfl⟩ := Option.map_eq_some_iff.1 he
  exact h _ hfound item rfl

/-- An imported template may have any name. -/
theorem importedItem_runs (hout : outside.Works calculates)
    (hcalculates : calculates = true)
    {t : Template} (ht : t.IsLayout) {page : List (String × Item)}
    (hpage : ∀ e ∈ page, e.2.Tame calculates false) (name : String) :
    Runs calculates d view (importedItem outside page name t)
      (Item.Ordinary calculates) := by
  rw [importedItem]
  refine (Runs.ofSteps (hout.run hcalculates t ht page hpage)).bind
    fun ⟨body, scope⟩ hscope => ?_
  refine freshSerial_runs.bind fun serial _ => .pure ⟨?_, trivial, id⟩
  have hexports := exports_of_offers (t := t) hscope
  exact Item.tame_imported.2 ⟨rfl, fun e he => (hexports e he).1,
    fun e he => (hexports e he).2⟩

theorem builtins_tame : ∀ e ∈ builtins, e.2.Tame calculates false := by
  simp [builtins]

theorem sharedItem_runs (hout : outside.Works calculates)
    (hcalculates : calculates = true)
    {t : Template} (ht : t.IsLayout) (name : String) :
    Runs calculates d view (sharedItem outside name t) (Item.Ordinary calculates) := by
  rw [sharedItem]
  refine .get_bind fun w store _ hstore => ?_
  split
  · next item hlookup => exact .pure (hstore.modules _ (mem_of_lookup hlookup))
  · refine (importedItem_runs hout hcalculates ht builtins_tame name).bind
      fun item hitem => ?_
    have hshare : Runs calculates d view
        (modify fun store => { store with modules := (name, item) :: store.modules } :
          Rendering PUnit) fun _ => True :=
      .modify fun _ _ _ hstore => hstore.share hitem
    exact hshare.bind fun _ _ => .pure hitem

/-- What can be no name of a template is refused as a misuse. -/
theorem templateName_meets (item : Item) :
    Meets (Contained calculates) (templateName item) fun _ => True := by
  rw [templateName]
  split
  · exact .ok trivial
  · rw [nameFault.eq_def]
    split
    · next fault hfault => exact .error (.own (Item.keyFault?_own item fault hfault))
    · split
      · exact .error (.undefined _)
      · exact .error (.own rfl)
      · exact .error (.own rfl)

theorem findFirst_meets (hout : outside.Works calculates) : ∀ (tried : List String)
    (items : List Item), Meets (Contained calculates) (findFirst outside.find tried items)
      fun found => found.2.IsLayout
  | _, [] => .error (.own rfl)
  | tried, item :: rest => by
      have hnext := findFirst_meets hout (triedName item :: tried) rest
      have hname : Meets (Contained calculates) (templateName item) fun _ => True :=
        templateName_meets item
      rw [findFirst]
      split
      · exact hnext
      · next heq => exact .error (hname.of_error heq)
      · next name _ =>
          have hfind := hout.find name
          split
          · next t heq => exact .ok (hfind.ensures t heq)
          · next heq => exact .ite hnext (.error (hfind.of_error heq))

theorem selectTemplate_meets (hout : outside.Works calculates)
    (h : item.Tame calculates false) :
    Meets (Contained calculates) (selectTemplate outside.find item)
      fun found => found.2.IsLayout := by
  rw [selectTemplate.eq_def]
  split
  · exact .error (.undefined _)
  · split
    · next name _ => exact (hout.find name).map fun t ht => ht
    · refine (Item.truthy_meets h).bind fun holds _ => .ite ?_ (.throw (.own rfl))
      exact (Item.elements_meets h).bind fun items _ => findFirst_meets hout [] items

theorem loadItem_runs (hout : outside.Works calculates) (hcalculates : calculates = true)
    (use : Inclusion) (source : Item) :
    Runs calculates d view (loadItem outside view use source)
      (Item.Ordinary calculates) := by
  rw [loadItem]
  refine (Runs.attempt (templateName_meets source)).bind fun name _ => ?_
  refine (Runs.attempt (hout.find name)).bind fun t ht => .ite ?_ ?_
  · refine .get_bind fun w store hview hstore => ?_
    exact importedItem_runs hout hcalculates ht (View.flatten_tame hview hstore) name
  · exact sharedItem_runs hout hcalculates ht name

theorem embedText_runs (hout : outside.Works calculates) (hcalculates : calculates = true)
    (use : Inclusion) {source : Item} (hsource : source.Tame calculates false) :
    Runs calculates d view (embedText outside view use source) fun _ => True := by
  have hselect := selectTemplate_meets hout hsource
  rw [embedText]
  split
  · next heq => exact .ite (.pure trivial) (.throw (hselect.of_error heq))
  · next name t heq =>
      have ht : t.IsLayout := hselect.ensures _ heq
      refine .ite (.get_bind fun w store hview hstore => ?_) ?_
      · have hpage := View.flatten_tame hview hstore
        exact (Runs.ofSteps (hout.run hcalculates t ht _ hpage)).bind fun _ _ =>
          .pure trivial
      · exact (sharedItem_runs hout hcalculates ht name).bind fun item _ =>
          .attempt (Item.display_meets item)

/-! ## Statements -/

/-- A macro sees what is seen where it is defined. -/
theorem define_runs {info : MacroInfo} {params : List (String × Option Expr)}
    {body : List Stmt}
    {unset : List String} (htakes : info.params.all d.leaves)
    (hparams : paramsWithin calculates d params)
    (hbody : Stmt.allWithin calculates d body) :
    Runs calculates d view ((Stmt.define info params body unset).run outside view)
      fun _ => True := by
  intro w hview store hstore
  have hclosure :
      Closure.Of calculates d w ⟨info, params, body, unset, view.page, view.scopes⟩ :=
    ⟨hview, htakes, hparams, hbody⟩
  have hmacro : d.Admits calculates info.name (.macroAt info store.closures.size) :=
    ⟨.macroAt _ _, fun _ => trivial, fun _ => id⟩
  have hassign : Runs calculates d view (do
      view.assign info.name (.macroAt info store.closures.size)
      return "") fun _ => True :=
    (assign_runs hmacro).bind fun _ _ => .pure trivial
  rw [Stmt.run]
  exact hassign w hview _ (hstore.define hclosure)

theorem admitsScope_loop (namesState : Bool) {state : Item}
    (htame : state.Tame calculates false)
    (hinert : state.Inert) (hplain : ¬state.IsDict) :
    d.AdmitsScope calculates (if namesState then [("loop", some state)] else []) := by
  split
  · exact .one ⟨htame, fun _ => hinert, fun _ => hplain⟩
  · exact .nil

mutual

theorem Stmt.run_runs (hout : outside.Works calculates) (view : View) :
    ∀ {s : Stmt}, s.isWithin calculates d →
      Runs calculates d view (s.run outside view) fun _ => True
  | .text _, _ => .pure trivial
  | .print e, h => by
      rw [Stmt.run]
      exact (Expr.evaluate_runs (e := e) hout h).bind fun item _ =>
        .attempt (Item.printed_meets item)
  | .branch condition body otherwise, h => by
      simp only [Stmt.isWithin, Bool.and_eq_true] at h
      obtain ⟨⟨hcondition, hbody⟩, hotherwise⟩ := h
      have hbody := Stmt.runAll_runs hout view hbody
      have hotherwise := Stmt.runAll_runs hout view hotherwise
      rw [Stmt.run]
      refine (Expr.evaluate_runs hout hcondition).bind fun item hitem => ?_
      exact (Runs.attempt (Item.truthy_meets hitem)).bind fun holds _ =>
        .ite hbody hotherwise
  | .loop target items condition body otherwise info, h => by
      simp only [Stmt.isWithin, Bool.and_eq_true] at h
      obtain ⟨⟨⟨⟨htarget, hitems⟩, hcondition⟩, hbody⟩, hotherwise⟩ := h
      have hbody (inner : View) := Stmt.runAll_runs hout inner hbody
      have hotherwise (inner : View) := Stmt.runAll_runs hout inner hotherwise
      rw [Stmt.run]
      refine (Expr.evaluate_runs hout hitems).bind fun source hsource => ?_
      refine (Runs.attempt (Item.elements_meets hsource)).bind fun items hitems => ?_
      refine (Runs.hold _).bind fun place _ => ?_
      refine Runs.bind
        (runRounds_runs (fun item hitem => passes_runs hout htarget hcondition hitem)
        (fun item state hitem hstate hinert hplain => ?_) place source tameAll_nil hitems)
        fun progress _ => ?_
      · have hown := admitsScope_loop (d := d) info.namesState hstate hinert hplain
        refine .enter (hown.append (.unset _)) fun inner => ?_
        exact (takes_runs htarget hitem).bind fun _ _ => hbody inner
      · exact .ite (.pure trivial) (.enter (.unset _) hotherwise)
  | .assign target e, h => by
      obtain ⟨htarget, he⟩ := Bool.and_eq_true_iff.1 h
      rw [Stmt.run]
      refine (checkObjects_runs target).bind fun _ _ => ?_
      refine (Expr.evaluate_runs hout he).bind fun item hitem => ?_
      exact (takes_runs htarget hitem).bind fun _ _ => .pure trivial
  | .capture target filters body unset, h => by
      simp only [Stmt.isWithin, Bool.and_eq_true, List.isEmpty_iff] at h
      obtain ⟨⟨htarget, rfl⟩, hbody⟩ := h
      have hbody (inner : View) := Stmt.runAll_runs hout inner hbody
      -- The name gets the text in the view outside of the body.
      have htext : Runs calculates d view (do
          let inner ← view.enter (unsetScope unset)
          let out ← Stmt.runAll outside inner body
          applyFilters outside inner (.markup out) []) fun _ => True :=
        .enter (.unset unset) fun inner => (hbody inner).bind fun _ _ => .pure trivial
      have hassign (item : Item) : Runs calculates d view (do
          view.assignTarget target (.markup (← attempt item.display))
          return "") fun _ => True :=
        (Runs.attempt (Item.display_meets item)).bind fun s _ =>
          (takes_runs htarget (.markup s)).bind fun _ _ => .pure trivial
      have hrun := htext.bind fun item _ => hassign item
      rw [Stmt.run]
      simpa only [bind_assoc] using hrun
  | .define info params body unset, h => by
      simp only [Stmt.isWithin, Bool.and_eq_true] at h
      obtain ⟨⟨htakes, hparams⟩, hbody⟩ := h
      exact define_runs htakes hparams hbody
  | .load source name use, h => by
      obtain ⟨hcalculates, hsource⟩ := Bool.and_eq_true_iff.1 h
      rw [Stmt.run]
      refine (Expr.evaluate_runs hout hsource).bind fun source _ => ?_
      refine (loadItem_runs hout hcalculates use source).bind fun item hitem => ?_
      exact (assign_runs (hitem.admits d name)).bind fun _ _ => .pure trivial
  | .embed source use, h => by
      obtain ⟨hcalculates, hsource⟩ := Bool.and_eq_true_iff.1 h
      rw [Stmt.run]
      exact (Expr.evaluate_runs hout hsource).bind fun source hsource =>
        embedText_runs hout hcalculates use hsource

theorem Stmt.runAll_runs (hout : outside.Works calculates) (view : View) :
    ∀ {body : List Stmt}, Stmt.allWithin calculates d body →
      Runs calculates d view (Stmt.runAll outside view body) fun _ => True
  | [], _ => .pure trivial
  | s :: rest, h => by
      obtain ⟨hs, hrest⟩ := Bool.and_eq_true_iff.1 h
      have hs := Stmt.run_runs hout view hs
      have hrest := Stmt.runAll_runs hout view hrest
      rw [Stmt.runAll]
      exact hs.bind fun _ _ => hrest.bind fun _ _ => .pure trivial

end

end SchemaDocs.Template
