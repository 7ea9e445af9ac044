import SchemaDocs.Proofs.Lexing
import SchemaDocs.Template.Parser.Stmt

/-!
# Refusing a text

Readers refuse a text only by faults of the template. A fault among the tokens is
noticed when a reader would step onto it, so what is kept along the reading is
that all faults ahead are contained.
-/

namespace SchemaDocs.Template

/-- A reader that refuses a text for contained faults only. -/
abbrev Refuses {α : Type} (x : Parser α) : Prop :=
  Stays (fun s => FaultsContained s.rest) SyntaxError.Contained x

namespace Parser

variable {α : Type} {expr : Parser Expr}

theorem throw_refuses {e : SyntaxError} (h : e.foreign? = none) :
    Refuses (throw e : Parser α) :=
  .throw (.own h)

theorem current_refuses : Refuses current := Stays.get.bind fun _ => .pure _

theorem fuel_refuses : Refuses fuel := Stays.get.bind fun _ => .pure _

theorem advance_refuses : Refuses advance := by
  refine Stays.get_bind fun s hs => ?_
  split
  · exact .pure _
  · next heq _ => exact .throw (hs _ (heq ▸ List.mem_cons_self))
  · next rest heq _ =>
      have hrest : FaultsContained rest :=
        fun e he => hs e (heq ▸ List.mem_cons_of_mem _ he)
      refine Stays.bind (.set ?_) fun _ => .pure _
      exact hrest
  · refine Stays.bind (.set ?_) fun _ => .pure _
    exact faultsContained_nil

theorem lookAhead_refuses : Refuses lookAhead := by
  refine Stays.get_bind fun s hs => ?_
  split
  · exact .pure _
  · next heq => exact .throw (hs _ (heq ▸ List.mem_cons_self))
  · exact .pure _

theorem accept_refuses (t : Token) : Refuses (accept t) :=
  current_refuses.bind fun _ => .ite (advance_refuses.bind fun _ => .pure _) (.pure _)

theorem fault_refuses (what : String) : Refuses (fault what : Parser α) := by
  refine current_refuses.bind fun t => ?_
  split
  · exact throw_refuses rfl
  · exact throw_refuses rfl

theorem expect_refuses (t : Token) : Refuses (expect t) :=
  (accept_refuses t).bind fun _ => .ite (.pure _) (fault_refuses _)

theorem expectName_refuses : Refuses expectName := by
  refine current_refuses.bind fun t => ?_
  split
  · exact advance_refuses.bind fun _ => .pure _
  · exact fault_refuses _

theorem iterate_refuses {step : α → Parser (Option α)} (hstep : ∀ a, Refuses (step a)) :
    ∀ (fuel : Nat) (a : α), Refuses (iterate step fuel a)
  | 0, a => .pure a
  | fuel + 1, a => by
      rw [iterate]
      refine (hstep a).bind fun next => ?_
      cases next with
      | none => exact .pure a
      | some next => exact iterate_refuses hstep fuel next

theorem chain_refuses {operator? : Token → Option (Expr → Expr → Expr)}
    {operand : Parser Expr}
    (h : Refuses operand) : Refuses (chain operator? operand) := by
  refine h.bind fun first => fuel_refuses.bind fun fuel =>
    iterate_refuses (fun left => ?_) _ _
  refine current_refuses.bind fun t => ?_
  split
  · exact advance_refuses.bind fun _ => h.bind fun _ => .pure _
  · exact .pure _

theorem separated_refuses (closer : Token) {item : Parser α} (h : Refuses item) :
    Refuses (separated closer item) := by
  refine fuel_refuses.bind fun fuel =>
    (iterate_refuses (fun items => ?_) _ _).bind fun items =>
    (expect_refuses closer).bind fun _ => .pure _
  refine current_refuses.bind fun t => .ite (.pure _) ?_
  have hitem : Refuses (do
      if (← current) = closer then return none
      return some ((← item) :: items)) :=
    current_refuses.bind fun t => .ite (.pure _) (h.bind fun _ => .pure _)
  exact .ite hitem ((expect_refuses _).bind fun _ => hitem)

/-! ## Expressions -/

theorem strings_refuses (first : String) : Refuses (strings first) := by
  refine fuel_refuses.bind fun fuel => (iterate_refuses (fun s => ?_) _ _).bind fun s =>
    .pure _
  refine current_refuses.bind fun t => ?_
  split
  · exact advance_refuses.bind fun _ => .pure _
  · exact .pure _

theorem row_refuses {make : List α → α} {stop : List String} {inParentheses : Bool}
    {item : Parser α} (h : Refuses item) :
    Refuses (row make stop inParentheses item) := by
  refine fuel_refuses.bind fun fuel =>
    (iterate_refuses (fun state => ?_) _ _).bind fun found => ?_
  · refine .ite (.pure _) (current_refuses.bind fun t =>
      .ite (.pure _) (h.bind fun item => ?_))
    exact (accept_refuses _).bind fun comma => .ite (.pure _) (.pure _)
  · dsimp only
    split
    · exact .pure _
    · exact .ite (.pure _) (current_refuses.bind fun t => throw_refuses rfl)
    · exact .pure _

section

variable (hexpr : Refuses expr)

include hexpr

theorem entry_refuses : Refuses (entry expr) :=
  hexpr.bind fun _ => (expect_refuses _).bind fun _ => hexpr.bind fun _ => .pure _

theorem primary_refuses : Refuses (primary expr) := by
  refine current_refuses.bind fun t => ?_
  split
  · exact advance_refuses.bind fun _ => .pure _
  · exact advance_refuses.bind fun _ => strings_refuses _
  · exact advance_refuses.bind fun _ => .pure _
  · exact advance_refuses.bind fun _ => .pure _
  · exact advance_refuses.bind fun _ => (row_refuses hexpr).bind fun _ =>
      (expect_refuses _).bind fun _ => .pure _
  · exact advance_refuses.bind fun _ => (separated_refuses _ hexpr).bind fun _ => .pure _
  · exact advance_refuses.bind fun _ =>
      (separated_refuses _ (entry_refuses hexpr)).bind fun _ => .pure _
  · exact throw_refuses rfl

end

theorem argumentKind_refuses (before : List ArgumentKind) :
    Refuses (argumentKind before) := by
  have hcheck (kind : ArgumentKind) :
      Refuses (unless mayFollow before kind do throw .badCall : Parser Unit) :=
    .ite (.pure _) (throw_refuses rfl)
  refine current_refuses.bind fun t => ?_
  split
  · exact (hcheck _).bind fun _ => advance_refuses.bind fun _ => .pure _
  · exact (hcheck _).bind fun _ => advance_refuses.bind fun _ => .pure _
  · refine lookAhead_refuses.bind fun next => .ite ?_ ((hcheck _).bind fun _ => .pure _)
    refine (hcheck _).bind fun _ => advance_refuses.bind fun _ => ?_
    exact advance_refuses.bind fun _ => .pure _
  · exact (hcheck _).bind fun _ => .pure _

section

variable (hexpr : Refuses expr)

include hexpr

theorem arguments_refuses : Refuses (arguments expr) := by
  refine (expect_refuses _).bind fun _ => fuel_refuses.bind fun fuel => ?_
  refine (iterate_refuses (fun args => ?_) _ _).bind fun args =>
    (expect_refuses _).bind fun _ => .pure _
  have hargument : Refuses (do
      let kind ← argumentKind (args.map (·.1))
      return some ((kind, ← expr) :: args)) :=
    (argumentKind_refuses _).bind fun kind => hexpr.bind fun _ => .pure _
  refine current_refuses.bind fun t => .ite (.pure _) (.ite hargument ?_)
  exact (expect_refuses _).bind fun _ => current_refuses.bind fun t =>
    .ite (.pure _) hargument

omit hexpr in
theorem member_refuses (e : Expr) : Refuses (member e) := by
  refine advance_refuses.bind fun _ => advance_refuses.bind fun t => ?_
  split
  · exact .pure _
  · exact .pure _
  · exact throw_refuses rfl

theorem bound_refuses : Refuses (bound expr) := by
  refine current_refuses.bind fun t => ?_
  split
  · exact .pure _
  · exact .pure _
  · exact .pure _
  · exact hexpr

theorem subscript_refuses : Refuses (subscript expr) := by
  have hbound := bound_refuses hexpr
  refine current_refuses.bind fun t => .iteBind (.pure _) hexpr fun start => ?_
  refine (accept_refuses _).bind fun cut => .ite (hbound.bind fun stop => ?_) (.pure _)
  exact (accept_refuses _).bind fun step => .iteBind hbound (.pure _) fun step => .pure _

theorem subscripts_refuses (e : Expr) : Refuses (subscripts expr e) := by
  have hkey (keys : List Subscript) :
      Refuses (do return some ((← subscript expr) :: keys)) :=
    (subscript_refuses hexpr).bind fun _ => .pure _
  refine advance_refuses.bind fun _ => fuel_refuses.bind fun fuel => ?_
  refine (iterate_refuses (fun keys => ?_) _ _).bind fun keys =>
    (expect_refuses _).bind fun _ => ?_
  · refine current_refuses.bind fun t => .ite (.pure _) (.ite (hkey _) ?_)
    exact (expect_refuses _).bind fun _ => hkey _
  · split
    · exact .pure _
    · exact .pure _
    · refine Stays.bind (Stays.mapM fun key => ?_) fun keys => .pure _
      cases key with
      | key key => exact .pure _
      | cut => exact throw_refuses rfl

theorem postfixes_refuses (operand : Expr) : Refuses (postfixes expr operand) := by
  refine fuel_refuses.bind fun fuel => iterate_refuses (fun e => ?_) _ _
  refine current_refuses.bind fun t => ?_
  split
  · exact (member_refuses e).bind fun _ => .pure _
  · exact (subscripts_refuses hexpr e).bind fun _ => .pure _
  · exact (arguments_refuses hexpr).bind fun _ => .pure _
  · exact .pure _

omit hexpr in
theorem dottedName_refuses : Refuses dottedName := by
  refine expectName_refuses.bind fun first => fuel_refuses.bind fun fuel =>
    iterate_refuses (fun s => ?_) _ _
  refine (accept_refuses _).bind fun point => .ite ?_ (.pure _)
  exact expectName_refuses.bind fun _ => .pure _

theorem filterUse_refuses : Refuses (filterUse expr) := by
  refine advance_refuses.bind fun _ => dottedName_refuses.bind fun name => ?_
  refine current_refuses.bind fun t => .ite ?_ (.pure _)
  exact (arguments_refuses hexpr).bind fun _ => .pure _

theorem testBehind_refuses (e : Expr) : Refuses (testBehind expr e) := by
  refine advance_refuses.bind fun _ => (accept_refuses _).bind fun negated => ?_
  refine dottedName_refuses.bind fun name => current_refuses.bind fun t => ?_
  have hgive (args : List (ArgumentKind × Expr)) : Refuses (pure (if negated then
      .not (.test e name args) else .test e name args) : Parser Expr) := .pure _
  have hargument {f : List (ArgumentKind × Expr) → Parser Expr}
    (hf : ∀ args, Refuses (f args)) :
      Refuses (do
        let argument ← postfixes expr (← primary expr)
        let args ← pure [(.positional, argument)]
        f args) :=
    (primary_refuses hexpr).bind fun e => (postfixes_refuses hexpr e).bind fun _ => hf _
  refine .ite ((arguments_refuses hexpr).bind hgive) (.ite ?_ (.pure _))
  refine .ite ((throw_refuses rfl).bind fun _ => ?_) ?_
  · exact hargument hgive
  · exact hargument hgive

theorem filters_refuses (operand : Expr) : Refuses (filters expr operand) := by
  refine fuel_refuses.bind fun fuel => iterate_refuses (fun e => ?_) _ _
  refine current_refuses.bind fun t => ?_
  split
  · exact (filterUse_refuses hexpr).bind fun _ => .pure _
  · exact (testBehind_refuses hexpr e).bind fun _ => .pure _
  · exact (arguments_refuses hexpr).bind fun _ => .pure _
  · exact .pure _

/-! ### Levels of operators -/

theorem signed_refuses : ∀ fuel : Nat, Refuses (signed expr fuel)
  | 0 => primary_refuses hexpr
  | fuel + 1 => by
      have hsigned := signed_refuses fuel
      rw [signed]
      refine current_refuses.bind fun t => ?_
      split
      · exact advance_refuses.bind fun _ => hsigned.bind fun e =>
          postfixes_refuses hexpr _
      · exact advance_refuses.bind fun _ => hsigned.bind fun e =>
          postfixes_refuses hexpr _
      · exact (primary_refuses hexpr).bind fun e => postfixes_refuses hexpr e

theorem operand_refuses : Refuses (operand expr) :=
  fuel_refuses.bind fun fuel => (signed_refuses hexpr fuel).bind fun e =>
    filters_refuses hexpr e

theorem product_refuses : Refuses (product expr) :=
  chain_refuses (chain_refuses (operand_refuses hexpr))

theorem joined_refuses : Refuses (joined expr) := by
  have hproduct := product_refuses hexpr
  refine hproduct.bind fun first => fuel_refuses.bind fun fuel => ?_
  refine (iterate_refuses (fun parts => ?_) _ _).bind fun parts => ?_
  · exact (accept_refuses _).bind fun more =>
      .ite (hproduct.bind fun _ => .pure _) (.pure _)
  · split <;> exact .pure _

omit hexpr in
theorem comparison?_refuses : Refuses comparison? := by
  refine current_refuses.bind fun t => ?_
  split
  · exact advance_refuses.bind fun _ => .pure _
  · refine current_refuses.bind fun t => .ite ?_ (.pure _)
    refine lookAhead_refuses.bind fun next => .ite ?_ (.pure _)
    exact advance_refuses.bind fun _ => advance_refuses.bind fun _ => .pure _

theorem compared_refuses : Refuses (compared expr) := by
  have hsum : Refuses (sum expr) := chain_refuses (joined_refuses hexpr)
  refine hsum.bind fun first => fuel_refuses.bind fun fuel => ?_
  refine (iterate_refuses (fun links => ?_) _ _).bind fun links => .pure _
  refine comparison?_refuses.bind fun op => ?_
  cases op with
  | none => exact .pure _
  | some op => exact hsum.bind fun _ => .pure _

theorem negated_refuses : ∀ fuel : Nat, Refuses (negated expr fuel)
  | 0 => compared_refuses hexpr
  | fuel + 1 => by
      rw [negated]
      refine (accept_refuses _).bind fun negates => .ite ?_ (compared_refuses hexpr)
      exact (negated_refuses fuel).bind fun _ => .pure _

theorem disjunction_refuses : Refuses (disjunction expr) :=
  chain_refuses (chain_refuses (fuel_refuses.bind fun fuel => negated_refuses hexpr fuel))

theorem choice_refuses : ∀ fuel : Nat, Refuses (choice expr fuel)
  | 0 => disjunction_refuses hexpr
  | fuel + 1 => by
      have hchoice := choice_refuses fuel
      have hdisjunction := disjunction_refuses hexpr
      rw [choice]
      refine Stays.get.bind fun s => hdisjunction.bind fun first =>
        fuel_refuses.bind fun fuel => ?_
      refine (iterate_refuses (fun state => ?_) _ _).bind fun found => .pure _
      refine (accept_refuses _).bind fun chooses => .ite ?_ (.pure _)
      refine hdisjunction.bind fun condition => (accept_refuses _).bind fun more => ?_
      have hline (e : Expr) : Refuses (do return some (e, (← get).line)) :=
        Stays.get.bind fun _ => .pure _
      exact .ite (hchoice.bind fun _ => hline _) (hline _)

end

theorem expression_refuses : ∀ fuel : Nat, Refuses (expression fuel)
  | 0 => current_refuses.bind fun _ => throw_refuses rfl
  | fuel + 1 => fuel_refuses.bind fun _ => choice_refuses (expression_refuses fuel) _

theorem anyExpression_refuses : Refuses anyExpression :=
  fuel_refuses.bind fun fuel => expression_refuses fuel

theorem anyRow_refuses : Refuses anyRow := row_refuses anyExpression_refuses

theorem plainRow_refuses (stop : List String) : Refuses (plainRow stop) :=
  row_refuses (fuel_refuses.bind fun fuel =>
    disjunction_refuses (expression_refuses fuel))

/-! ## Statements -/

theorem candidate_refuses (takesMembers : Bool) : Refuses (candidate takesMembers) := by
  have hprimary : Refuses (do return Candidate.expr (← primary anyExpression)) :=
    (primary_refuses anyExpression_refuses).bind fun _ => .pure _
  refine current_refuses.bind fun t => ?_
  split
  · refine .ite hprimary (advance_refuses.bind fun _ => .ite ?_ (.pure _))
    refine (accept_refuses _).bind fun point => .ite ?_ (.pure _)
    exact expectName_refuses.bind fun _ => .pure _
  · exact hprimary

theorem target_refuses (takesMembers : Bool) (stop : List String) :
    Refuses (target takesMembers stop) := by
  refine (row_refuses (candidate_refuses takesMembers)).bind fun c => ?_
  split
  · exact .pure _
  · exact throw_refuses rfl

theorem declaredName_refuses : Refuses declaredName :=
  expectName_refuses.bind fun _ => .ite (throw_refuses rfl) (.pure _)

theorem captureFilters_refuses : Refuses captureFilters := by
  refine fuel_refuses.bind fun fuel => ?_
  refine (iterate_refuses (fun filters => ?_) _ _).bind fun _ => .pure _
  refine current_refuses.bind fun t => .ite ?_ (.pure _)
  exact (filterUse_refuses anyExpression_refuses).bind fun _ => .pure _

theorem parameters_refuses : Refuses parameters := by
  have hparameter (params : List (String × Option Expr)) : Refuses (do
      let name ← declaredName
      if ← accept (.operator "=") then
        return some ((name, some (← anyExpression)) :: params)
      if params.any (·.2.isSome) then throw .requiredAfterDefault
      return some ((name, none) :: params)) := by
    refine declaredName_refuses.bind fun name => (accept_refuses _).bind fun default => ?_
    refine .ite (anyExpression_refuses.bind fun _ => .pure _) (.ite ?_ (.pure _))
    exact (throw_refuses rfl).bind fun _ => .pure _
  refine (expect_refuses _).bind fun _ => fuel_refuses.bind fun fuel => ?_
  refine (iterate_refuses (fun params => ?_) _ _).bind fun params =>
    (expect_refuses _).bind fun _ => .pure _
  refine current_refuses.bind fun t => .ite (.pure _) (.ite (hparameter _) ?_)
  exact (expect_refuses _).bind fun _ => hparameter _

theorem contextWords_refuses (default : Bool) : Refuses (contextWords default) := by
  refine current_refuses.bind fun t => ?_
  split
  · refine .ite (lookAhead_refuses.bind fun next => .ite ?_ (.pure _)) (.pure _)
    exact advance_refuses.bind fun _ => advance_refuses.bind fun _ => .pure _
  · exact .pure _

theorem importing_refuses : Refuses importing :=
  anyExpression_refuses.bind fun _ => (expect_refuses _).bind fun _ =>
    declaredName_refuses.bind fun _ => (contextWords_refuses _).bind fun _ => .pure _

theorem including_refuses : Refuses including := by
  have hwords (source : Expr) (mayBeMissing : Bool) : Refuses (do
      return Stmt.embed source ⟨← contextWords true, mayBeMissing⟩) :=
    (contextWords_refuses _).bind fun _ => .pure _
  refine anyExpression_refuses.bind fun source => current_refuses.bind fun t => ?_
  refine .ite (lookAhead_refuses.bind fun next => .ite ?_ (hwords _ _)) (hwords _ _)
  exact advance_refuses.bind fun _ => advance_refuses.bind fun _ => hwords _ _

section

variable {body : BodyParser} (hbody : ∀ around endings, Refuses (body around endings))

include hbody

theorem block_refuses (around : Surroundings) (endings : List String) :
    Refuses (block body around endings) := by
  refine (accept_refuses _).bind fun _ => (expect_refuses _).bind fun _ => ?_
  refine (hbody _ _).bind fun statements => current_refuses.bind fun t =>
    .ite ?_ (.pure _)
  exact (throw_refuses rfl).bind fun _ => .pure _

theorem lastBlock_refuses (around : Surroundings) (ending : String) :
    Refuses (lastBlock body around ending) :=
  (block_refuses hbody around _).bind fun _ => advance_refuses.bind fun _ => .pure _

theorem branch_refuses (around : Surroundings) :
    ∀ fuel : Nat, Refuses (branch body around fuel)
  | 0 => throw_refuses rfl
  | fuel + 1 => by
      have hbranch := branch_refuses around fuel
      rw [branch]
      refine (plainRow_refuses _).bind fun condition => ?_
      refine (block_refuses hbody around _).bind fun statements =>
        advance_refuses.bind fun t => ?_
      split
      · exact hbranch.bind fun _ => .pure _
      · exact (lastBlock_refuses hbody around _).bind fun _ => .pure _
      · exact .pure _

theorem loopBlocks_refuses (around : Surroundings) (target : Target) (items : Expr)
    (condition : Option Expr) : Refuses (do
      let statements ← block body around ["endfor", "else"]
      match ← advance with
      | .name "else" =>
        return Stmt.loop target items condition statements
          (← lastBlock body around "endfor") {}
      | _ => return .loop target items condition statements [] {}) := by
  refine (block_refuses hbody around _).bind fun statements =>
    advance_refuses.bind fun t => ?_
  split
  · exact (lastBlock_refuses hbody around _).bind fun _ => .pure _
  · exact .pure _

theorem loop_refuses (around : Surroundings) : Refuses (loop body around) := by
  refine (target_refuses _ _).bind fun target => (expect_refuses _).bind fun _ => ?_
  refine (plainRow_refuses _).bind fun items => (accept_refuses _).bind fun filtered => ?_
  exact .ite (anyExpression_refuses.bind fun _ => loopBlocks_refuses hbody _ _ _ _)
    (loopBlocks_refuses hbody _ _ _ _)

theorem assignment_refuses (around : Surroundings) :
    Refuses (assignment body around) := by
  refine (target_refuses _ _).bind fun target => (accept_refuses _).bind fun gives => ?_
  refine .ite (anyRow_refuses.bind fun _ => .pure _) ?_
  refine captureFilters_refuses.bind fun _ => ?_
  exact (lastBlock_refuses hbody around _).bind fun _ => .pure _

theorem definition_refuses (around : Surroundings) : Refuses (definition body around) :=
  declaredName_refuses.bind fun _ => parameters_refuses.bind fun _ =>
    (lastBlock_refuses hbody around _).bind fun _ => .pure _

theorem statement_refuses (around : Surroundings) : Refuses (statement body around) := by
  refine current_refuses.bind fun t => ?_
  split
  · refine .ite (advance_refuses.bind fun _ => ?_) (throw_refuses rfl)
    split
    · exact fuel_refuses.bind fun fuel => branch_refuses hbody _ fuel
    · exact loop_refuses hbody _
    · exact assignment_refuses hbody _
    · exact definition_refuses hbody _
    · exact importing_refuses
    · exact including_refuses
  · exact throw_refuses rfl

end

theorem statements_refuses :
    ∀ (fuel : Nat) (around : Surroundings) (endings : List String),
    Refuses (statements fuel around endings)
  | 0, _, _ => .pure _
  | fuel + 1, around, endings => by
      have hrest := statements_refuses fuel
      rw [statements]
      refine current_refuses.bind fun t => ?_
      split
      · exact advance_refuses.bind fun _ => (hrest _ _).bind fun _ => .pure _
      · exact advance_refuses.bind fun _ => anyRow_refuses.bind fun _ =>
          (expect_refuses _).bind fun _ => (hrest _ _).bind fun _ => .pure _
      · refine advance_refuses.bind fun _ => current_refuses.bind fun t => ?_
        split
        · refine .ite (.pure _) ((statement_refuses hrest around).bind fun first => ?_)
          exact (expect_refuses _).bind fun _ => (hrest _ _).bind fun _ => .pure _
        · exact throw_refuses rfl
      · exact .pure _

end Parser

theorem parse_meets {lexemes : List Lexeme} (h : FaultsContained lexemes) :
    Meets SyntaxError.Contained (parse lexemes) fun _ => True := by
  rw [parse.eq_def]
  split
  · exact .ok trivial
  · exact .error (h _ List.mem_cons_self)
  · exact (Parser.statements_refuses _ _ _).run' (faultsContained_token.1 h)

/-- A text is a template, or it is refused as none. -/
theorem parse_tokens_meets (source : String) :
    Meets SyntaxError.Contained (parse (tokens source)) fun _ => True :=
  parse_meets (tokens_faultsContained source)

end SchemaDocs.Template
