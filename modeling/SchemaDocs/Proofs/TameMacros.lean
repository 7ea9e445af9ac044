import SchemaDocs.Proofs.TameRendering

/-!
# How macros and whole templates fail

A call of a macro begins a scope with its arguments, and a template begins one
for what it sets. Both are begun with nothing that the dialect does not admit:
parameters may stand for anything, what is left over of the arguments is a
dictionary or a tuple, and the block that a macro is called with may be called.
-/

namespace SchemaDocs.Template

open Item (Tame TameAll tame_dict tame_tuple tameAll_cons)
open RenderError (Contained)

variable {calculates : Bool} {d : Dialect} {outside : Outside} {view : View} {item : Item}
  {w : World}

/-! ## Templates -/

/-- A template that is begun on a page fails in contained ways if each name that it
calls is unset at first, or stands for nothing else on the page. -/
theorem run_steps (hout : outside.Works calculates) {t : Template}
    (ht : Stmt.allWithin calculates d t.body) {page : List (String × Item)}
    (hpage : ∀ e ∈ page, e.2.Tame calculates false)
    (hnamed : ∀ name ∈ d.called ++ d.aliases,
      name ∈ t.unset ∨ ∀ item ∈ page.lookup name, d.Gives calculates name item) :
    Steps calculates w (t.run outside page) fun result =>
      d.AdmitsScope calculates result.2 := by
  have hown : d.AdmitsScope calculates
      (if t.mentionsSelf then [("self", some .self)] else []) := by
    split
    · exact .one ⟨.self, fun _ => trivial, fun _ => id⟩
    · exact .nil
  have hview (own : Scope) :
      View.Sees calculates d ((own ++ unsetScope t.unset).map Prod.fst) w ⟨page, []⟩ := by
    refine ⟨fun _ hplace => (List.not_mem_nil hplace).elim, hpage, fun name hname => ?_⟩
    refine (hnamed name hname).imp (fun hunset => ?_) .inr
    simp [unsetScope, hunset]
  refine .enter (hview _) (hown.append (.unset t.unset)) fun inner => ?_
  refine (Stmt.runAll_runs hout inner ht).bind fun out _ => ?_
  split
  · next place _ hscopes =>
      refine .get_bind fun w store hinner hstore => .pure ?_
      obtain ⟨f, hf, rfl⟩ := hinner.frames place (hscopes ▸ List.mem_cons_self)
      exact (hstore.scopes place f hf).admits
  · exact .pure .nil

/-- What a template leaves under the names of the macros of the built-in layout are
macros if it uses these names for nothing else. -/
theorem Dialect.AdmitsScope.offers {scope : Scope} (h : d.AdmitsScope calculates scope)
    (hmacros : ∀ name ∈ layoutMacros, name ∈ d.macros) : Offers calculates scope :=
  fun e he item hitem =>
    ⟨(h e he item hitem).tame, fun hname => (h e he item hitem).inert (hmacros _ hname)⟩

/-! ## Arguments -/

theorem bindArguments_admits : ∀ {params : List String} {args : List Item}
    {named : List (String × Item)}, (∀ name ∈ params, d.leaves name) →
      TameAll calculates false args → (∀ e ∈ named, e.2.Tame calculates false) →
        d.AdmitsScope calculates (bindArguments named params args).1 ∧
          Arguments.Tame calculates false ⟨(bindArguments named params args).2.1,
            (bindArguments named params args).2.2⟩
  | [], args, named, _, hargs, hnamed => ⟨.nil, hargs, hnamed⟩
  | name :: params, arg :: args, named, h, hargs, hnamed => by
      obtain ⟨hname, hparams⟩ := List.forall_mem_cons.1 h
      obtain ⟨harg, hargs⟩ := tameAll_cons.1 hargs
      obtain ⟨hscope, hrest⟩ := bindArguments_admits hparams hargs hnamed
      rw [bindArguments]
      refine ⟨.cons ?_ hscope, hrest⟩
      rintro _ ⟨⟩
      exact .ofLeaves hname harg
  | name :: params, [], named, h, hargs, hnamed => by
      obtain ⟨hname, hparams⟩ := List.forall_mem_cons.1 h
      have hothers : ∀ e ∈ named.filter (·.1 != name), e.2.Tame calculates false :=
        fun e he => hnamed e (List.mem_filter.1 he).1
      obtain ⟨hscope, hrest⟩ := bindArguments_admits hparams hargs hothers
      rw [bindArguments]
      refine ⟨.cons (fun item hitem => ?_) hscope, hrest⟩
      exact .ofLeaves hname (hnamed _ (mem_of_lookup hitem))

/-- The block that a macro is called with may be anything in every dialect. -/
theorem Dialect.Admits.caller (h : item.Tame calculates false) :
    d.Admits calculates "caller" item :=
  ⟨h, fun hmacro => absurd hmacro (d.macros_free _ List.mem_cons_self),
    fun halias => absurd halias (d.aliases_free _ List.mem_cons_self)⟩

theorem bindCaller_runs (info : MacroInfo) {named : List (String × Item)}
    (hnamed : ∀ e ∈ named, e.2.Tame calculates false) :
    Runs calculates d view (bindCaller info named) fun result =>
      d.AdmitsScope calculates result.1 ∧ ∀ e ∈ result.2, e.2.Tame calculates false := by
  have hgive (caller : Item) (hcaller : caller.Tame calculates false) :
      Runs calculates d view
        (pure ([("caller", some caller)], named.filter (·.1 != "caller")) :
        Rendering (Scope × List (String × Item))) fun result =>
          d.AdmitsScope calculates result.1 ∧ ∀ e ∈ result.2, e.2.Tame calculates false :=
    .pure ⟨.one (.caller hcaller), fun e he => hnamed e (List.mem_filter.1 he).1⟩
  rw [bindCaller]
  split
  · split
    · exact (stamp_tame (.undefined _ _)).bind hgive
    · exact (stamp_tame (.undefined _ _)).bind hgive
    · next item _ hlookup => exact hgive item (hnamed _ (mem_of_lookup hlookup))
  · exact .pure ⟨.nil, hnamed⟩

theorem bindNamed_meets (info : MacroInfo) {named : List (String × Item)}
    (hnamed : ∀ e ∈ named, e.2.Tame calculates false) :
    Meets (Contained calculates) (bindNamed info named) (d.AdmitsScope calculates) := by
  have hkwargs : "kwargs" ∉ d.aliases := d.aliases_free _ (by decide)
  unfold bindNamed
  split
  · refine .ok (.one ⟨?_, fun _ => trivial, fun halias => absurd halias hkwargs⟩)
    refine tame_dict.2 ⟨rfl, fun e he => ?_⟩
    obtain ⟨e, hmem, rfl⟩ := List.mem_map.1 he
    exact ⟨.text _, hnamed e hmem⟩
  · split
    · exact .ok .nil
    · exact .ite (.error (.call _)) (.error (.call _))

theorem bindSurplus_meets (info : MacroInfo) {surplus : List Item}
    (hsurplus : TameAll calculates false surplus) :
    Meets (Contained calculates) (bindSurplus info surplus)
      (d.AdmitsScope calculates) := by
  rw [bindSurplus]
  split
  · exact .ok (.one ⟨tame_tuple.2 hsurplus, fun _ => trivial, fun _ => id⟩)
  · exact .ite (.ok .nil) (.error (.call _))

theorem stampScope_runs {scope : Scope} (h : d.AdmitsScope calculates scope) :
    Runs calculates d view (scope.mapM fun (name, item) => do
      return (name, ← item.mapM stamp))
      (d.AdmitsScope calculates) := by
  refine .mapM fun e he => ?_
  obtain ⟨name, item⟩ := e
  cases item with
  | none => exact .pure fun _ hitem => nomatch hitem
  | some item =>
      have hstamp : Runs calculates d view (some <$> stamp item) fun stamped =>
          ∀ item ∈ stamped, d.Admits calculates name item := by
        refine (stamp_admits (h _ he item rfl)).map fun stamped hstamped => ?_
        rintro _ ⟨⟩
        exact hstamped
      exact hstamp.bind fun stamped hstamped => .pure hstamped

/-! ## Calls of macros -/

theorem fillDefaults_runs (hout : outside.Works calculates) (scope : Scope) :
    ∀ {params : List (String × Option Expr)}, paramsWithin calculates d params →
      Runs calculates d view (fillDefaults outside view scope params) fun _ => True
  | [], _ => .pure trivial
  | (name, default) :: rest, h => by
      rw [paramsWithin, List.all_cons, Bool.and_eq_true, Bool.and_eq_true] at h
      obtain ⟨⟨hname, hdefault⟩, hrest⟩ := h
      have hfill := fillDefaults_runs hout scope hrest
      have hassign {item : Item} (hitem : item.Tame calculates false) :
          Runs calculates d view (view.assign name item) fun _ => True :=
        assign_runs (.ofLeaves hname hitem)
      rw [fillDefaults.eq_def]
      dsimp only
      split
      · next e _ =>
          exact (Expr.evaluate_runs hout hdefault).bind fun item hitem =>
            (hassign hitem).bind fun _ _ => hfill
      · exact (stamp_tame (.undefined _ _)).bind fun item hitem =>
          (hassign hitem).bind fun _ _ => hfill
      · exact hfill

/-- A macro is run in the world it was defined in, or in what has grown from it. -/
theorem apply_steps (hout : outside.Works calculates) {closure : Closure}
    (h : closure.Of calculates d w) {args : Arguments}
    (hargs : args.Tame calculates false) :
    Steps calculates w (closure.apply outside args) (Tame calculates false) := by
  have hparams := List.all_eq_true.1 h.takes
  obtain ⟨hscope, hrest⟩ := bindArguments_admits hparams hargs.positional hargs.named
  have hrun : Runs calculates d ⟨closure.page, closure.scopes⟩
      (closure.apply outside args) (Tame calculates false) := by
    rw [Closure.apply]
    refine (bindCaller_runs closure.info hrest.named).bind fun caller hcaller => ?_
    refine (Runs.attempt (bindNamed_meets (d := d) closure.info hcaller.2)).bind
      fun kwargs hkwargs => ?_
    refine (Runs.attempt (bindSurplus_meets (d := d) closure.info hrest.positional)).bind
      fun varargs hvarargs => ?_
    refine (stampScope_runs (hkwargs.append hvarargs)).bind fun rest hrest => ?_
    refine .enter (((hscope.append hcaller.1).append hrest).append (.unset _))
      fun inner => ?_
    refine (fillDefaults_runs hout _ h.params).bind fun _ _ => ?_
    exact (Stmt.runAll_runs hout inner h.body).bind fun out _ => .pure (.markup out)
  exact hrun w h.sees

end SchemaDocs.Template
