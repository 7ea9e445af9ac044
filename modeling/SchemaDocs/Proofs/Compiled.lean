import SchemaDocs.Proofs.Parsing

/-!
# What compiling keeps

A template of a dialect is compiled to a template of the dialect, and what is
refused on the way is refused as a fault of the template. Constants take the
place of expressions, and each frame is told which names start out unset in it;
neither calls anything, and neither gives a name something else.
-/

namespace SchemaDocs.Template

open Item (Tame)

variable {calculates : Bool} {d : Dialect}

/-! ## Simplifying -/

theorem Expr.settle_meets {e : Expr} (h : e.isWithin calculates d) :
    Meets SyntaxError.Contained e.settle fun e => e.isWithin calculates d := by
  have hconstant := Expr.constant_meets h
  rw [Expr.settle]
  split
  · next item heq =>
      have hitem := hconstant.ensures item heq
      by_cases hplain : item.isPlain
      · rw [if_pos hplain]
        exact .ok (Item.isWritten_of_isPlain hplain hitem)
      · rw [if_neg hplain]
        exact .ok h
  · exact .ok h
  · next why heq =>
      rcases hconstant.of_error heq with ⟨missing, rfl⟩ | rfl
      · exact .error (.own rfl)
      · exact .error .tooManyDigits

/-- Macros are called by names, which depend on the page. -/
theorem Expr.simplify_of_isMacro {f : Expr} (h : f.isMacro d) : f.simplify = .ok f := by
  unfold Expr.isMacro at h
  split at h
  · rfl
  · rfl
  · cases h

mutual

theorem Expr.simplify_meets : ∀ {e : Expr}, e.isWithin calculates d →
    Meets SyntaxError.Contained e.simplify fun e => e.isWithin calculates d
  | .const _, h => .ok h
  | .name _, h => .ok h
  | .list items, h => by
      have hitems := Expr.simplifyAll_meets h
      rw [Expr.simplify]
      exact hitems.bind fun items hitems => Expr.settle_meets hitems
  | .tuple items, h => by
      have hitems := Expr.simplifyAll_meets h
      rw [Expr.simplify]
      exact hitems.bind fun items hitems => Expr.settle_meets hitems
  | .dict _, h => by simp [Expr.isWithin] at h
  | .attr e label, h => by
      have he := Expr.simplify_meets (e := e) h
      rw [Expr.simplify]
      exact he.bind fun e he => Expr.settle_meets he
  | .element e key, h => by
      obtain ⟨he, hkey⟩ := Bool.and_eq_true_iff.1 h
      have he := Expr.simplify_meets he
      have hkey := Expr.simplify_meets hkey
      rw [Expr.simplify]
      refine he.bind fun e he => hkey.bind fun key hkey => ?_
      exact Expr.settle_meets (Bool.and_eq_true_iff.2 ⟨he, hkey⟩)
  | .cut e start stop step, h => by
      simp only [Expr.isWithin, Bool.and_eq_true] at h
      obtain ⟨⟨⟨he, hstart⟩, hstop⟩, hstep⟩ := h
      have he := Expr.simplify_meets he
      have hstart := Expr.simplify_meets hstart
      have hstop := Expr.simplify_meets hstop
      have hstep := Expr.simplify_meets hstep
      rw [Expr.simplify]
      refine he.bind fun e he => hstart.bind fun start hstart => ?_
      refine hstop.bind fun stop hstop => hstep.bind fun step hstep =>
        Expr.settle_meets ?_
      simp only [Expr.isWithin, he, hstart, hstop, hstep, Bool.and_self]
  | .call f args, h => by
      obtain ⟨hf, hargs⟩ := Bool.and_eq_true_iff.1 h
      have hargs := Expr.simplifyArguments_meets hargs
      rw [Expr.simplify, Expr.simplify_of_isMacro hf]
      refine hargs.bind fun args hargs => .pure ?_
      exact Bool.and_eq_true_iff.2 ⟨hf, hargs⟩
  | .filter e word args, h => by
      simp only [Expr.isWithin, Bool.and_eq_true] at h
      obtain ⟨⟨hword, he⟩, hargs⟩ := h
      have he := Expr.simplify_meets he
      have hargs := Expr.simplifyArguments_meets hargs
      rw [Expr.simplify]
      refine he.bind fun e he => hargs.bind fun args hargs => Expr.settle_meets ?_
      simp only [Expr.isWithin, hword, he, hargs, Bool.and_self]
  | .test e word args, h => by
      obtain ⟨he, hargs⟩ := Bool.and_eq_true_iff.1 h
      have he := Expr.simplify_meets he
      have hargs := Expr.simplifyArguments_meets hargs
      rw [Expr.simplify]
      refine he.bind fun e he => hargs.bind fun args hargs => ?_
      exact Expr.settle_meets (Bool.and_eq_true_iff.2 ⟨he, hargs⟩)
  | .not e, h => by
      have he := Expr.simplify_meets (e := e) h
      rw [Expr.simplify]
      exact he.bind fun e he => Expr.settle_meets he
  | .negate e, h => by
      have he := Expr.simplify_meets (e := e) h
      rw [Expr.simplify]
      exact he.bind fun e he => Expr.settle_meets he
  | .positive e, h => by
      have he := Expr.simplify_meets (e := e) h
      rw [Expr.simplify]
      exact he.bind fun e he => Expr.settle_meets he
  | .and l r, h => by
      obtain ⟨hl, hr⟩ := Bool.and_eq_true_iff.1 h
      have hl := Expr.simplify_meets hl
      have hr := Expr.simplify_meets hr
      rw [Expr.simplify]
      refine hl.bind fun l hl => hr.bind fun r hr => ?_
      exact Expr.settle_meets (Bool.and_eq_true_iff.2 ⟨hl, hr⟩)
  | .or l r, h => by
      obtain ⟨hl, hr⟩ := Bool.and_eq_true_iff.1 h
      have hl := Expr.simplify_meets hl
      have hr := Expr.simplify_meets hr
      rw [Expr.simplify]
      refine hl.bind fun l hl => hr.bind fun r hr => ?_
      exact Expr.settle_meets (Bool.and_eq_true_iff.2 ⟨hl, hr⟩)
  | .arithmetic op l r, h => by
      simp only [Expr.isWithin, Bool.and_eq_true] at h
      obtain ⟨⟨hcalculates, hl⟩, hr⟩ := h
      have hl := Expr.simplify_meets hl
      have hr := Expr.simplify_meets hr
      rw [Expr.simplify]
      refine hl.bind fun l hl => hr.bind fun r hr => Expr.settle_meets ?_
      exact Bool.and_eq_true_iff.2 ⟨Bool.and_eq_true_iff.2 ⟨hcalculates, hl⟩, hr⟩
  | .compare first links, h => by
      obtain ⟨hfirst, hlinks⟩ := Bool.and_eq_true_iff.1 h
      have hfirst := Expr.simplify_meets hfirst
      have hlinks := Expr.simplifyLinks_meets hlinks
      rw [Expr.simplify]
      refine hfirst.bind fun first hfirst => hlinks.bind fun links hlinks => ?_
      exact Expr.settle_meets (Bool.and_eq_true_iff.2 ⟨hfirst, hlinks⟩)
  | .concat parts, h => by
      have hparts := Expr.simplifyAll_meets h
      rw [Expr.simplify]
      exact hparts.bind fun parts hparts => Expr.settle_meets hparts
  | .choose condition yes no, h => by
      simp only [Expr.isWithin, Bool.and_eq_true] at h
      obtain ⟨⟨hcondition, hyes⟩, hno⟩ := h
      have hcondition := Expr.simplify_meets hcondition
      have hyes := Expr.simplify_meets hyes
      have hno := Expr.simplify_meets hno
      rw [Expr.simplify]
      refine hcondition.bind fun condition hcondition => hyes.bind fun yes hyes => ?_
      refine hno.bind fun no hno => Expr.settle_meets ?_
      simp only [Expr.isWithin, hcondition, hyes, hno, Bool.and_self]
  | .only condition yes _, h => by
      obtain ⟨hcondition, hyes⟩ := Bool.and_eq_true_iff.1 h
      have hcondition := Expr.simplify_meets hcondition
      have hyes := Expr.simplify_meets hyes
      rw [Expr.simplify]
      refine hcondition.bind fun condition hcondition => hyes.bind fun yes hyes => ?_
      exact Expr.settle_meets (Bool.and_eq_true_iff.2 ⟨hcondition, hyes⟩)

theorem Expr.simplifyAll_meets : ∀ {es : List Expr}, Expr.allWithin calculates d es →
    Meets SyntaxError.Contained (Expr.simplifyAll es) fun es =>
      Expr.allWithin calculates d es
  | [], h => .ok h
  | e :: rest, h => by
      obtain ⟨he, hrest⟩ := Bool.and_eq_true_iff.1 h
      have he := Expr.simplify_meets he
      have hrest := Expr.simplifyAll_meets hrest
      rw [Expr.simplifyAll]
      refine he.bind fun e he => hrest.bind fun rest hrest => .pure ?_
      exact Bool.and_eq_true_iff.2 ⟨he, hrest⟩

theorem Expr.simplifyArguments_meets : ∀ {es : List (ArgumentKind × Expr)},
    Expr.argumentsWithin calculates d es →
      Meets SyntaxError.Contained (Expr.simplifyArguments es)
        fun es => Expr.argumentsWithin calculates d es
  | [], h => .ok h
  | (kind, e) :: rest, h => by
      obtain ⟨he, hrest⟩ := Bool.and_eq_true_iff.1 h
      have he := Expr.simplify_meets he
      have hrest := Expr.simplifyArguments_meets hrest
      rw [Expr.simplifyArguments]
      refine he.bind fun e he => hrest.bind fun rest hrest => .pure ?_
      exact Bool.and_eq_true_iff.2 ⟨he, hrest⟩

theorem Expr.simplifyLinks_meets : ∀ {links : List (Item.CompareOp × Expr)},
    Expr.linksWithin calculates d links →
      Meets SyntaxError.Contained (Expr.simplifyLinks links)
        fun links => Expr.linksWithin calculates d links
  | [], h => .ok h
  | (op, e) :: rest, h => by
      obtain ⟨he, hrest⟩ := Bool.and_eq_true_iff.1 h
      have he := Expr.simplify_meets he
      have hrest := Expr.simplifyLinks_meets hrest
      rw [Expr.simplifyLinks]
      refine he.bind fun e he => hrest.bind fun rest hrest => .pure ?_
      exact Bool.and_eq_true_iff.2 ⟨he, hrest⟩

end

/-! ## Checking -/

theorem checkFunction_meets (inBranch : Bool) (table : List (String × NamedFunction))
    (name : String) {fault : SyntaxError} (h : fault.foreign? = none) :
    Meets SyntaxError.Contained (checkFunction inBranch table name fault) fun _ =>
      True := by
  rw [checkFunction]
  exact .ite (.error (.own h)) (.ok trivial)

mutual

/-- A missing filter or test is a fault of the template. -/
theorem Expr.check_meets (inBranch : Bool) : ∀ e : Expr,
    Meets SyntaxError.Contained (e.check inBranch) fun _ => True
  | .const item => by
      rw [Expr.check]
      exact .ite (.ok trivial) (.error .tooManyDigits)
  | .name _ => .ok trivial
  | .list items | .tuple items | .concat items => Expr.checkAll_meets inBranch items
  | .dict entries => Expr.checkEntries_meets inBranch entries
  | .attr e _ | .not e | .negate e | .positive e => Expr.check_meets inBranch e
  | .element l r | .and l r | .or l r | .arithmetic _ l r => by
      have hl := Expr.check_meets inBranch l
      have hr := Expr.check_meets inBranch r
      rw [Expr.check]
      exact hl.bind fun _ _ => hr
  | .cut e start stop step => by
      have he := Expr.check_meets inBranch e
      have hstart := Expr.check_meets inBranch start
      have hstop := Expr.check_meets inBranch stop
      have hstep := Expr.check_meets inBranch step
      rw [Expr.check]
      exact he.bind fun _ _ => hstart.bind fun _ _ => hstop.bind fun _ _ => hstep
  | .call f args => by
      have hf := Expr.check_meets inBranch f
      have hargs := Expr.checkArguments_meets inBranch args
      rw [Expr.check]
      exact hf.bind fun _ _ => hargs
  | .filter e word args => by
      have he := Expr.check_meets inBranch e
      have hargs := Expr.checkArguments_meets inBranch args
      rw [Expr.check]
      exact (checkFunction_meets inBranch _ word rfl).bind fun _ _ =>
        he.bind fun _ _ => hargs
  | .test e word args => by
      have he := Expr.check_meets inBranch e
      have hargs := Expr.checkArguments_meets inBranch args
      rw [Expr.check]
      exact (checkFunction_meets inBranch _ word rfl).bind fun _ _ =>
        he.bind fun _ _ => hargs
  | .compare first links => by
      have hfirst := Expr.check_meets inBranch first
      have hlinks := Expr.checkLinks_meets inBranch links
      rw [Expr.check]
      exact hfirst.bind fun _ _ => hlinks
  | .choose condition yes no => by
      have hcondition := Expr.check_meets true condition
      have hyes := Expr.check_meets true yes
      have hno := Expr.check_meets true no
      rw [Expr.check]
      exact hyes.bind fun _ _ => hcondition.bind fun _ _ => hno
  | .only condition yes _ => by
      have hcondition := Expr.check_meets true condition
      have hyes := Expr.check_meets true yes
      rw [Expr.check]
      exact hyes.bind fun _ _ => hcondition

theorem Expr.checkAll_meets (inBranch : Bool) : ∀ es : List Expr,
    Meets SyntaxError.Contained (Expr.checkAll inBranch es) fun _ => True
  | [] => .ok trivial
  | e :: rest => by
      have he := Expr.check_meets inBranch e
      have hrest := Expr.checkAll_meets inBranch rest
      rw [Expr.checkAll]
      exact he.bind fun _ _ => hrest

theorem Expr.checkArguments_meets (inBranch : Bool) : ∀ es : List (ArgumentKind × Expr),
    Meets SyntaxError.Contained (Expr.checkArguments inBranch es) fun _ => True
  | [] => .ok trivial
  | (_, e) :: rest => by
      have he := Expr.check_meets inBranch e
      have hrest := Expr.checkArguments_meets inBranch rest
      rw [Expr.checkArguments]
      exact he.bind fun _ _ => hrest

theorem Expr.checkLinks_meets (inBranch : Bool) : ∀ links : List (Item.CompareOp × Expr),
    Meets SyntaxError.Contained (Expr.checkLinks inBranch links) fun _ => True
  | [] => .ok trivial
  | (_, e) :: rest => by
      have he := Expr.check_meets inBranch e
      have hrest := Expr.checkLinks_meets inBranch rest
      rw [Expr.checkLinks]
      exact he.bind fun _ _ => hrest

theorem Expr.checkEntries_meets (inBranch : Bool) : ∀ entries : List (Expr × Expr),
    Meets SyntaxError.Contained (Expr.checkEntries inBranch entries) fun _ => True
  | [] => .ok trivial
  | (key, e) :: rest => by
      have hkey := Expr.check_meets inBranch key
      have he := Expr.check_meets inBranch e
      have hrest := Expr.checkEntries_meets inBranch rest
      rw [Expr.checkEntries]
      exact hkey.bind fun _ _ => he.bind fun _ _ => hrest

end

/-! ## Preparing -/

theorem simplify_check_meets (inBranch : Bool) {e : Expr} (h : e.isWithin calculates d) :
    Meets SyntaxError.Contained (do
      let e ← e.simplify
      e.check inBranch
      return e) fun e => e.isWithin calculates d :=
  (Expr.simplify_meets h).bind fun e he => (Expr.check_meets inBranch e).bind fun _ _ =>
    .pure he

mutual

theorem Expr.prepare_meets (inBranch : Bool) : ∀ {e : Expr}, e.isWithin calculates d →
    Meets SyntaxError.Contained (e.prepare inBranch) fun e => e.isWithin calculates d
  | .list items, h => by
      have hitems := Expr.prepareAll_meets inBranch h
      rw [Expr.prepare]
      exact hitems.bind fun items hitems => .pure hitems
  | .tuple items, h => by
      have hitems := Expr.prepareAll_meets inBranch h
      rw [Expr.prepare]
      exact hitems.bind fun items hitems => .pure hitems
  | .dict _, h => by simp [Expr.isWithin] at h
  | .const _, h | .name _, h | .attr _ _, h | .element _ _, h
  | .cut _ _ _ _, h | .call _ _, h
  | .filter _ _ _, h | .test _ _ _, h | .not _, h | .negate _, h
  | .positive _, h | .and _ _, h
  | .or _ _, h | .arithmetic _ _ _, h | .compare _ _, h | .concat _, h | .choose _ _ _, h
  | .only _ _ _, h => simplify_check_meets inBranch h

theorem Expr.prepareAll_meets (inBranch : Bool) : ∀ {es : List Expr},
    Expr.allWithin calculates d es →
      Meets SyntaxError.Contained (Expr.prepareAll inBranch es)
        fun es => Expr.allWithin calculates d es
  | [], h => .ok h
  | e :: rest, h => by
      obtain ⟨he, hrest⟩ := Bool.and_eq_true_iff.1 h
      have he := Expr.prepare_meets inBranch he
      have hrest := Expr.prepareAll_meets inBranch hrest
      rw [Expr.prepareAll]
      refine he.bind fun e he => hrest.bind fun rest hrest => .pure ?_
      exact Bool.and_eq_true_iff.2 ⟨he, hrest⟩

end

theorem prepareOptional_meets (inBranch : Bool) {e : Option Expr}
    (h : e.all (Expr.isWithin calculates d)) :
    Meets SyntaxError.Contained (prepareOptional inBranch e)
      fun e => e.all (Expr.isWithin calculates d) := by
  cases e with
  | none => exact .ok rfl
  | some e => exact (Expr.prepare_meets inBranch h).bind fun e he => .pure he

theorem prepareParameters_meets : ∀ {params : List (String × Option Expr)},
    paramsWithin calculates d params →
      Meets SyntaxError.Contained (prepareParameters params)
        fun params => paramsWithin calculates d params
  | [], h => .ok h
  | (name, default) :: rest, h => by
      rw [paramsWithin, List.all_cons] at h
      obtain ⟨hparam, hrest⟩ := Bool.and_eq_true_iff.1 h
      obtain ⟨hname, hdefault⟩ := Bool.and_eq_true_iff.1 hparam
      rw [prepareParameters]
      refine (prepareOptional_meets false hdefault).bind fun default hdefault => ?_
      refine (prepareParameters_meets hrest).bind fun rest hrest => .pure ?_
      rw [paramsWithin, List.all_cons]
      exact Bool.and_eq_true_iff.2 ⟨Bool.and_eq_true_iff.2 ⟨hname, hdefault⟩, hrest⟩

theorem checkCaller_meets (info : MacroInfo) (params : List (String × Option Expr)) :
    Meets SyntaxError.Contained (checkCaller info params) fun _ => True := by
  rw [checkCaller]
  exact .ite (.error (.own rfl)) (.ok trivial)

mutual

theorem Stmt.prepare_meets : ∀ (inBranch : Bool) {s : Stmt}, s.isWithin calculates d →
    Meets SyntaxError.Contained (s.prepare inBranch) fun s => s.isWithin calculates d
  | _, .text _, h => .ok h
  | inBranch, .print e, h => by
      rw [Stmt.prepare]
      split
      · exact .ok rfl
      · exact (Expr.prepare_meets (e := e) inBranch h).bind fun e he => .pure he
  | inBranch, .branch condition body otherwise, h => by
      simp only [Stmt.isWithin, Bool.and_eq_true] at h
      obtain ⟨⟨hcondition, hbody⟩, hotherwise⟩ := h
      have hbody := Stmt.prepareAll_meets true hbody
      have hotherwise := Stmt.prepareAll_meets true hotherwise
      rw [Stmt.prepare]
      refine (Expr.prepare_meets true hcondition).bind fun condition hcondition => ?_
      refine hbody.bind fun body hbody => hotherwise.bind fun otherwise hotherwise =>
        .pure ?_
      simp only [Stmt.isWithin, hcondition, hbody, hotherwise, Bool.and_self]
  | inBranch, .loop target items condition body otherwise info, h => by
      simp only [Stmt.isWithin, Bool.and_eq_true] at h
      obtain ⟨⟨⟨⟨htarget, hitems⟩, hcondition⟩, hbody⟩, hotherwise⟩ := h
      have hbody := Stmt.prepareAll_meets false hbody
      have hotherwise := Stmt.prepareAll_meets false hotherwise
      rw [Stmt.prepare]
      refine (prepareOptional_meets false hcondition).bind fun condition hcondition => ?_
      refine .ite (.error (.own rfl)) ?_
      refine (Expr.prepare_meets inBranch hitems).bind fun items hitems => ?_
      refine hbody.bind fun body hbody => hotherwise.bind fun otherwise hotherwise =>
        .pure ?_
      simp only [Stmt.isWithin, htarget, hitems, hcondition,
        hbody, hotherwise, Bool.and_self]
  | inBranch, .assign target e, h => by
      obtain ⟨htarget, he⟩ := Bool.and_eq_true_iff.1 h
      rw [Stmt.prepare]
      refine (Expr.prepare_meets inBranch he).bind fun e he => .pure ?_
      exact Bool.and_eq_true_iff.2 ⟨htarget, he⟩
  | inBranch, .capture target filters body unset, h => by
      simp only [Stmt.isWithin, Bool.and_eq_true, List.isEmpty_iff] at h
      obtain ⟨⟨htarget, rfl⟩, hbody⟩ := h
      have hbody := Stmt.prepareAll_meets false hbody
      rw [Stmt.prepare]
      refine hbody.bind fun body hbody => .ok ?_
      show Stmt.isWithin calculates d (.capture target [] body unset)
      simp only [Stmt.isWithin, htarget, hbody, List.isEmpty_nil, Bool.and_self]
  | inBranch, .define info params body unset, h => by
      simp only [Stmt.isWithin, Bool.and_eq_true] at h
      obtain ⟨⟨hinfo, hparams⟩, hbody⟩ := h
      have hbody := Stmt.prepareAll_meets false hbody
      rw [Stmt.prepare]
      refine (checkCaller_meets info params).bind fun _ _ => ?_
      refine (prepareParameters_meets hparams).bind fun params hparams => ?_
      refine hbody.bind fun body hbody => .pure ?_
      simp only [Stmt.isWithin, hinfo, hparams, hbody, Bool.and_self]
  | inBranch, .load source name use, h => by
      obtain ⟨hcalculates, hsource⟩ := Bool.and_eq_true_iff.1 h
      rw [Stmt.prepare]
      refine (Expr.prepare_meets inBranch hsource).bind fun source hsource => .pure ?_
      exact Bool.and_eq_true_iff.2 ⟨hcalculates, hsource⟩
  | inBranch, .embed source use, h => by
      obtain ⟨hcalculates, hsource⟩ := Bool.and_eq_true_iff.1 h
      rw [Stmt.prepare]
      refine (Expr.prepare_meets inBranch hsource).bind fun source hsource => .pure ?_
      exact Bool.and_eq_true_iff.2 ⟨hcalculates, hsource⟩

theorem Stmt.prepareAll_meets : ∀ (inBranch : Bool) {body : List Stmt},
    Stmt.allWithin calculates d body →
      Meets SyntaxError.Contained (Stmt.prepareAll inBranch body)
        fun body => Stmt.allWithin calculates d body
  | _, [], h => .ok h
  | inBranch, s :: rest, h => by
      obtain ⟨hs, hrest⟩ := Bool.and_eq_true_iff.1 h
      have hs := Stmt.prepare_meets inBranch hs
      have hrest := Stmt.prepareAll_meets inBranch hrest
      rw [Stmt.prepareAll]
      refine hs.bind fun s hs => hrest.bind fun rest hrest => .pure ?_
      exact Bool.and_eq_true_iff.2 ⟨hs, hrest⟩

end

/-! ## Naming what is unset -/

mutual

theorem Stmt.annotate_isWithin : ∀ (outer : List String) (s : Stmt),
    (s.annotate outer).isWithin calculates d = s.isWithin calculates d
  | outer, .branch condition body otherwise => by
      rw [Stmt.annotate, Stmt.isWithin, Stmt.isWithin,
        Stmt.annotateAll_allWithin outer body, Stmt.annotateAll_allWithin outer otherwise]
  | outer, .loop target items condition body otherwise info => by
      rw [Stmt.annotate, Stmt.isWithin, Stmt.isWithin, Stmt.annotateAll_allWithin _ body,
        Stmt.annotateAll_allWithin _ otherwise]
  | outer, .capture target filters body unset => by
      rw [Stmt.annotate, Stmt.isWithin, Stmt.isWithin, Stmt.annotateAll_allWithin _ body,
        List.isEmpty_map]
  | outer, .define info params body unset => by
      rw [Stmt.annotate, Stmt.isWithin, Stmt.isWithin, Stmt.annotateAll_allWithin _ body]
      rfl
  | _, .text _ | _, .print _ | _, .assign _ _ | _, .load _ _ _ | _, .embed _ _ => rfl

theorem Stmt.annotateAll_allWithin : ∀ (outer : List String) (body : List Stmt),
    Stmt.allWithin calculates d (Stmt.annotateAll outer body) =
      Stmt.allWithin calculates d body
  | _, [] => rfl
  | outer, s :: rest => by
      rw [Stmt.annotateAll, Stmt.allWithin, Stmt.allWithin,
        Stmt.annotate_isWithin outer s, Stmt.annotateAll_allWithin outer rest]

end

/-! ## Templates -/

theorem ofStatements_allWithin (body : List Stmt) :
    Stmt.allWithin calculates d (ofStatements body).body =
      Stmt.allWithin calculates d body := by
  rw [ofStatements, Stmt.annotateAll_allWithin]

theorem compile_meets {source : String}
    (h : ∀ body, parse (tokens source) = .ok body → Stmt.allWithin calculates d body) :
    Meets SyntaxError.Contained (compile source)
      fun t => Stmt.allWithin calculates d t.body := by
  have hparse : Meets SyntaxError.Contained (parse (tokens source))
      fun body => Stmt.allWithin calculates d body := by
    cases hresult : parse (tokens source) with
    | ok body => exact .ok (h body hresult)
    | error e => exact .error ((parse_tokens_meets source).of_error hresult)
  rw [compile]
  refine hparse.bind fun body hbody => ?_
  rw [← ofStatements_allWithin] at hbody
  exact (Stmt.prepareAll_meets false hbody).bind fun body hbody => .pure hbody

end SchemaDocs.Template
