import SchemaDocs.Generation
import SchemaDocs.Proofs.BuiltInLayout
import SchemaDocs.Proofs.TameMacros

/-!
# What comes of a template that fails

A template of a dialect is refused, or it fails on a page, in words of this
program: the words say that the template could not be compiled, or they begin
with the path of the file that the page is for. The exceptions are known: a
number in the text that cannot be read or written, calculations without a
result if the template calculates, and calls that nest too deep.
-/

namespace SchemaDocs

open Template (Stmt Dialect Item SyntaxError RenderError Steps Runs View parse tokens)
open Template.RenderError (Contained)

variable {calculates : Bool} {d : Dialect}

namespace Layout

/-- What leads out of a template works, however deep calls may nest. -/
theorem outside_works : ∀ depth, (outside depth).Works calculates
  | 0 =>
      { call := fun _ _ _ _ => .throw .tooDeep
        find := findBuiltIn_meets
        run := fun _ _ _ _ _ _ => .throw .tooDeep }
  | depth + 1 =>
      { call := fun place args hargs w => by
          refine .get_bind fun store hstore => ?_
          split
          · next closure hclosure =>
              obtain ⟨d, hd⟩ := hstore.closures closure (Array.mem_of_getElem? hclosure)
              exact Template.apply_steps (outside_works depth) hd hargs
          · exact .throw .tooDeep
        find := findBuiltIn_meets
        run := fun hcalculates t ⟨d, hwithin, hmacros, hunset⟩ page hpage w =>
          (Template.run_steps (outside_works depth) (hcalculates ▸ hwithin) hpage
            fun name hname => .inl (hunset name hname)).mono fun _ hscope =>
              hscope.offers hmacros }

/-! ## What a page brings along -/

variable {view : View}

theorem bring_runs {v : Value} (h : ¬(Item.ofValue v).IsDict) :
    Runs calculates d view (bring v) (Item.Ordinary calculates) := by
  refine Template.stamp_ordinary ⟨Item.ofValue_tame v, ?_, h⟩
  cases v <;> trivial

/-- No entry of what is brought is a dictionary. -/
theorem bringEntries_runs {given : List (String × Item)}
    (hgiven : ∀ e ∈ given, e.2.Ordinary calculates) {entries : List (String × Value)}
    (h : ∀ e ∈ entries, ¬(Item.ofValue e.2).IsDict) :
    Runs calculates d view (bringEntries given entries)
      fun entries => ∀ e ∈ entries, e.2.Ordinary calculates := by
  refine .mapM fun e he => ?_
  obtain ⟨name, v⟩ := e
  dsimp only
  cases hlookup : given.lookup name with
  | none => exact (bring_runs (h _ he)).bind fun item hitem => .pure hitem
  | some item => exact .pure (hgiven _ (mem_of_lookup hlookup))

theorem textKeys_tame {entries : List (String × Item)}
    (h : ∀ e ∈ entries, e.2.Ordinary calculates) :
    (Item.dict (textKeys entries)).Tame calculates false := by
  refine Item.tame_dict.2 ⟨rfl, fun e he => ?_⟩
  obtain ⟨e, hmem, rfl⟩ := List.mem_map.1 he
  exact ⟨.text _, (h e hmem).tame⟩

theorem bringSection_runs {entities : Item} (hentities : entities.Ordinary calculates)
    {entries : List (String × Value)} (h : ∀ e ∈ entries, ¬(Item.ofValue e.2).IsDict) :
    Runs calculates d view (bringSection entities (.object entries))
      (Item.Tame calculates false) :=
  (bringEntries_runs (by simpa using hentities) h).bind fun _ hentries =>
    .pure (textKeys_tame hentries)

/-- A name that is called is not one that every template knows, and a name for an
imported template is not the one for the page. -/
theorem pageItems_runs (p : PageBindings) :
    Runs calculates d view (pageItems p)
      fun page => ∀ e ∈ page, d.Gives calculates e.1 e.2 := by
  have hlist {vs : List Value} : ¬(Item.ofValue (.list vs)).IsDict := id
  rw [pageItems]
  refine (bring_runs hlist).bind fun messages hmessages => ?_
  refine (bring_runs hlist).bind fun enums henums => ?_
  refine (bring_runs hlist).bind fun services hservices => ?_
  have hsections :
      Runs calculates d view ((p.sectionValues.zip [messages, enums, services]).mapM
        fun e => bringSection e.2 e.1) (Item.TameAll calculates false) := by
    refine .mapM fun e he => ?_
    simp only [PageBindings.sectionValues, List.zip_cons_cons,
      List.zip_nil_left, List.mem_cons, List.not_mem_nil, or_false] at he
    rcases he with rfl | rfl | rfl
    · exact bringSection_runs hmessages (by simp [Item.ofValue, Item.IsDict])
    · exact bringSection_runs henums (by simp [Item.ofValue, Item.IsDict])
    · exact bringSection_runs hservices (by simp [Item.ofValue, Item.IsDict])
  refine hsections.bind fun sections hsections => ?_
  have hlist : (Item.list sections).Ordinary calculates :=
    ⟨Item.tame_list.2 hsections, trivial, id⟩
  refine (Template.stamp_ordinary hlist).bind fun sections hsections => ?_
  have hgiven : ∀ e ∈ [("sections", sections), ("messages", messages), ("enums", enums),
      ("services", services)], e.2.Ordinary calculates := by
    simp [hsections, hmessages, henums, hservices]
  have hentries : ∀ e ∈ p.entries, ¬(Item.ofValue e.2).IsDict := by
    simp [PageBindings.entries, Item.ofValue, Item.IsDict]
  refine (bringEntries_runs hgiven hentries).bind fun entries hentries => ?_
  refine (Template.stamp_runs (textKeys_tame hentries)).bind fun page hpage =>
    .pure fun e he => ?_
  rw [List.cons_append] at he
  rcases List.mem_cons.1 he with rfl | he
  · exact ⟨hpage.1, fun _ => hpage.2.1 trivial,
      fun halias => absurd halias (d.aliases_free "page" (by decide))⟩
  rcases List.mem_append.1 he with he | he
  · exact ((hentries e he).admits d e.1).gives
  · have hname : e.1 ∈ "caller" :: Template.builtins.map (·.1) :=
      List.mem_cons_of_mem _ (List.mem_map_of_mem he)
    refine ⟨Template.builtins_tame e he, fun hcalled => ?_, fun _ => ?_⟩
    · exact absurd (d.called_macros _ hcalled) (d.macros_free _ hname)
    · simp only [Template.builtins, List.mem_cons, List.not_mem_nil, or_false] at he
      rcases he with rfl | rfl | rfl | rfl | rfl | rfl <;> exact id

theorem fill_meets {t : Template} (h : Stmt.allWithin calculates d t.body)
    (p : PageBindings) :
    Meets (Contained calculates) (fill t p) fun _ => True := by
  have hview : View.Sees calculates d [] [] ⟨[], []⟩ :=
    ⟨fun _ hplace => (List.not_mem_nil hplace).elim,
      fun _ he => (List.not_mem_nil he).elim,
      fun _ _ => .inr (.inr fun _ hitem => nomatch hitem)⟩
  have hrun : Steps calculates [] (do t.run (outside callDepth) (← pageItems p))
      fun result => d.AdmitsScope calculates result.2 :=
    (pageItems_runs p [] hview).bind fun w _ page hpage =>
      Template.run_steps (outside_works callDepth) h (fun e he => (hpage e he).tame)
        fun name _ => .inr fun item hitem => hpage _ (mem_of_lookup hitem)
  rw [fill]
  exact (hrun.run' .empty).map fun _ _ => trivial

end Layout

/-! ## Reports -/

/-- A number in the text of a template that cannot be read, or that cannot be written. -/
def Template.SyntaxError.isNumeral : SyntaxError → Bool
  | .number _ => true
  | .constant .tooManyDigits => true
  | _ => false

theorem Template.SyntaxError.Contained.cases {e : SyntaxError} (h : e.Contained) :
    e.isNumeral = true ∨ e.foreign? = none := by
  rcases h with hown | ⟨fault, rfl⟩ | rfl
  · exact .inr hown
  · exact .inl rfl
  · exact .inl rfl

theorem templateMessage_eq {e : SyntaxError} (h : e.foreign? = none) :
    templateMessage e = "Custom template could not be compiled: " ++ e.message := by
  rw [templateMessage, h]

theorem renderMessage_eq {e : RenderError} (h : e.origin.foreign? = none)
    (path : String) :
    ∃ words, renderMessage path e = path ++ ": " ++ words := by
  rw [renderMessage]
  cases horigin : e.origin with
  | engine =>
      refine ⟨"failed to render page: " ++ e.message, ?_⟩
      simp only [String.append_assoc]
      rfl
  | misuse kind =>
      refine ⟨"template does not match the page model: " ++ kind.name ++
        ": " ++ e.message, ?_⟩
      simp only [String.append_assoc]
      rfl
  | foreign kind =>
      rw [horigin] at h
      cases h

/-- Of this program, or what is known to come of a template of a dialect. -/
def GenerateError.Contained (calculates : Bool) : GenerateError → Prop
  | .template fault => fault.Contained
  | .render _ fault => fault.Contained calculates
  | _ => True

theorem layOutPage_meets {t : Template} (ht : Stmt.allWithin calculates d t.body)
    (links : LinkTable) (p : Page) :
    Meets (fun e => ∃ fault : RenderError, e = .render p.file.path fault ∧
        fault.Contained calculates)
      (layOutPage (.custom t) links p) fun _ => True := by
  have hfill := Layout.fill_meets ht (p.bind links)
  refine (hfill.mapError fun fault hfault => ?_).bind fun _ _ => .pure trivial
  exact ⟨fault, rfl, hfault⟩

section

variable {source : String}
  (hsource : ∀ body, parse (tokens source) = .ok body → Stmt.allWithin calculates d body)

include hsource

theorem ofSource_meets : Meets SyntaxError.Contained (Layout.Style.ofSource (some source))
    fun style => ∃ t, style = .custom t ∧ Stmt.allWithin calculates d t.body :=
  (Template.compile_meets hsource).map fun t ht => ⟨t, rfl, ht⟩

theorem generate_meets (raw routeBase : Value) :
    Meets (GenerateError.Contained calculates) (generate raw routeBase (some source))
      fun _ => True := by
  have hown {ε α : Type} (f : ε → GenerateError) (x : Except ε α)
      (hf : ∀ e, (f e).Contained calculates) :
      Meets (GenerateError.Contained calculates) (x.mapError f) fun _ => True :=
    (Meets.trivial x).mapError fun e _ => hf e
  rw [generate]
  refine (hown .load _ fun _ => trivial).bind fun schema _ => ?_
  refine (hown .resolve _ fun _ => trivial).bind fun resolution _ => ?_
  refine (hown .route _ fun _ => trivial).bind fun site _ => ?_
  have hstyle : Meets (GenerateError.Contained calculates)
      ((Layout.Style.ofSource (some source)).mapError .template)
      fun style => ∃ t, style = .custom t ∧ Stmt.allWithin calculates d t.body :=
    (ofSource_meets hsource).mapError fun _ => id
  refine hstyle.bind fun style ⟨t, hcustom, ht⟩ => ?_
  subst hcustom
  have hpage (p : Page) : Meets (GenerateError.Contained calculates)
      (layOutPage (.custom t) site.links p) fun _ => True := by
    refine (layOutPage_meets ht site.links p).allow ?_
    rintro _ ⟨fault, rfl, hfault⟩
    exact hfault
  rw [layOutSite]
  refine (Meets.mapM fun p _ => hpage p).bind fun documents _ => ?_
  exact (hown .navigation _ fun _ => trivial).bind fun _ _ => .pure trivial

/-- A template of a dialect is refused in words that say so, unless it holds a number
that cannot be read or written. On a page it gives a text or fails in words that
begin with the path of the file, unless it calculates without a result or its calls
nest too deep. So with it a generation has no other failure that is not of this
program. -/
theorem template_failures_reported :
    (∀ e, Layout.Style.ofSource (some source) = .error e →
      e.isNumeral = true ∨ e.foreign? = none ∧
        templateMessage e = "Custom template could not be compiled: " ++ e.message) ∧
    (∀ style, Layout.Style.ofSource (some source) = .ok style →
      ∀ links p e, layOutPage style links p = .error e →
        (∃ fault, e = .render p.file.path fault ∧
          (fault = .tooDeep ∨ calculates = true ∧ fault.isArithmetic = true)) ∨
        e.foreignKind? = none ∧ ∃ words, e.message = p.file.path ++ ": " ++ words) ∧
    ∀ raw routeBase e, generate raw routeBase (some source) = .error e →
      (∃ fault, e = .template fault ∧ fault.isNumeral = true) ∨
      (∃ path fault, e = .render path fault ∧
        (fault = .tooDeep ∨ calculates = true ∧ fault.isArithmetic = true)) ∨
      e.foreignKind? = none := by
  refine ⟨fun e he => ?_, fun style hstyle links p e he => ?_,
    fun raw routeBase e he => ?_⟩
  · have hfault : e.Contained := (ofSource_meets hsource).of_error he
    exact hfault.cases.imp_right fun hown => ⟨hown, templateMessage_eq hown⟩
  · obtain ⟨t, rfl, ht⟩ := (ofSource_meets hsource).ensures style hstyle
    obtain ⟨fault, rfl, hfault⟩ := (layOutPage_meets ht links p).of_error he
    rcases hfault with hown | hexcepted
    · exact .inr ⟨hown, renderMessage_eq hown p.file.path⟩
    · exact .inl ⟨fault, rfl, hexcepted⟩
  · have hcontained : e.Contained calculates :=
      (generate_meets hsource raw routeBase).of_error he
    cases e with
    | template fault =>
        rcases SyntaxError.Contained.cases hcontained with hnumeral | hown
        · exact .inl ⟨fault, rfl, hnumeral⟩
        · exact .inr (.inr hown)
    | render path fault =>
        rcases hcontained with hown | hexcepted
        · exact .inr (.inr hown)
        · exact .inr (.inl ⟨path, fault, rfl, hexcepted⟩)
    | load | resolve | route | navigation => exact .inr (.inr rfl)

end

/-! ## Two templates that fail -/

/-- A description of one file without declarations. -/
def blankFile : Value :=
  .object [("files", .list [.object [("path", .text "a.proto"), ("package", .text "p")]])]

/-- What is seen of a generation that fails: the name of what escapes, if anything
does, and the words. -/
def seen? : Except GenerateError Generation → Option (Option String × String)
  | .ok _ => none
  | .error e => some (e.foreignKind?, e.message)

theorem seen?_eq_some {x : Except GenerateError Generation} {kind : Option String}
    {message : String} (h : seen? x = some (kind, message)) :
    ∃ e, x = .error e ∧ e.foreignKind? = kind ∧ e.message = message := by
  cases x with
  | ok g => cases h
  | error e =>
      obtain ⟨hkind, hmessage⟩ := Prod.mk.inj (Option.some.inj h)
      exact ⟨e, rfl, hkind, hmessage⟩

/-- A macro is called, and then a text is asked for a part. -/
def askingSource : String :=
  "\x7b% macro m(t) %\x7d[\x7b\x7b t \x7d\x7d]\x7b% endmacro %\x7d" ++
    "\x7b\x7b m(title) \x7d\x7d\x7b\x7b package.unit.size \x7d\x7d"

def askingDialect : Dialect where
  called := ["m"]
  macros := ["m"]
  aliases := []
  aliases_free := Layout.macrosDialect.aliases_free

theorem template_failures_reported_asking :
    (∀ body, parse (tokens askingSource) = .ok body →
      Stmt.allWithin false askingDialect body = true) ∧
    ∃ e, generate blankFile (.text "") (some askingSource) = .error e ∧
      e.foreignKind? = none ∧
      e.message = "a.proto: failed to render page: 'str object' has no attribute 'unit'" ∧
      ((∃ fault, e = .template fault ∧ fault.isNumeral = true) ∨
        (∃ path fault, e = .render path fault ∧
          (fault = .tooDeep ∨ false = true ∧ fault.isArithmetic = true)) ∨
        e.foreignKind? = none) := by
  have hwithin : ∀ body, parse (tokens askingSource) = .ok body →
      Stmt.allWithin false askingDialect body = true :=
    Ensures.of_toOption (by decide +kernel)
  have hseen : seen? (generate blankFile (.text "") (some askingSource)) =
      some (none,
        "a.proto: failed to render page: 'str object' has no attribute 'unit'") := by
    decide +kernel
  obtain ⟨e, he, hkind, hmessage⟩ := seen?_eq_some hseen
  obtain ⟨-, -, hgenerate⟩ := template_failures_reported hwithin
  exact ⟨hwithin, e, he, hkind, hmessage, hgenerate blankFile (.text "") e he⟩

/-- A division by zero escapes under its own name, and without the path. -/
theorem division_escapes : ∃ e,
    generate blankFile (.text "") (some "\x7b\x7b 1 // 0 \x7d\x7d") = .error e ∧
      e.foreignKind? = some "ZeroDivisionError" ∧
      e.message = "integer division or modulo by zero" :=
  seen?_eq_some (by decide +kernel)

end SchemaDocs
