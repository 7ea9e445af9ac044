import SchemaDocs.Proofs.MacroImport

/-!
# What the built-in page writes

The template of the page is shown to write what the built-in layout puts together.
The page is taken up as items first, and these stand for its data. Then the macros
are imported, and from there on the store only grows, so the parts of the page are
looked at one by one: the front matter, the package, the description, the imported
files, and a section for each kind of declaration.
-/

namespace SchemaDocs

open Template
  (Expr Stmt Item Store View PlainMacro Stands StandAll Adopts AdoptsEntry isCarried
  builtins roundLimit)

/-- The page can be written when calls may nest a little deeper than its messages do. -/
structure PageBindings.Presentable (depth : Nat) (p : PageBindings) : Prop where
  dependencyCount : p.dependencies.length < roundLimit
  dependencies : ∀ d ∈ p.dependencies, d.href ≠ some ""
  messageCount : p.messages.length < roundLimit
  messages : ∀ m ∈ p.messages, m.Presentable depth
  enumCount : p.enums.length < roundLimit
  enums : ∀ e ∈ p.enums, e.Presentable
  serviceCount : p.services.length < roundLimit
  services : ∀ svc ∈ p.services, svc.Presentable

namespace Layout

variable {s s' : Store} {home : Nat} {view : View} {item docs : Item}

/-! ## The items of a page -/

theorem gives_bring (v : Value) : s.Gives (bring v) (Stands v) :=
  Template.gives_adopt (Template.adopts_ofValue v)

/-- An entry under the same name. -/
def StandsEntry (e : String × Value) (e' : String × Item) : Prop :=
  e'.1 = e.1 ∧ Stands e.2 e'.2

theorem gives_bringEntries {given : List (String × Item)}
    {entries : List (String × Value)}
    (h : ∀ e ∈ entries, ∀ item ∈ given.lookup e.1, Stands e.2 item) :
    s.Gives (bringEntries given entries) (List.Forall₂ StandsEntry entries) := by
  refine Store.Gives.mapM fun e he => ?_
  have hitem : s.Gives ((given.lookup e.1).getDM (bring e.2)) (Stands e.2) := by
    cases hgiven : given.lookup e.1 with
    | none => exact gives_bring e.2
    | some item => exact .pure (h e he item hgiven)
  exact hitem.bind fun item hitem => .pure ⟨rfl, hitem⟩

theorem lookup_stands {name : String} {v : Value} : ∀ {entries : List (String × Value)}
    {items : List (String × Item)}, List.Forall₂ StandsEntry entries items →
    entries.lookup name = some v → ∃ item, items.lookup name = some item ∧ Stands v item
  | (key, _) :: _, (_, item) :: _, .cons ⟨rfl, h⟩ hrest, hv => by
      rw [List.lookup_cons] at hv ⊢
      cases hname : name == key with
      | true =>
          rw [hname] at hv
          cases hv
          exact ⟨item, rfl, h⟩
      | false =>
          rw [hname] at hv
          exact lookup_stands hrest hv

theorem adopts_textKeys :
    ∀ {entries : List (String × Value)} {items : List (String × Item)},
    List.Forall₂ StandsEntry entries items →
    List.Forall₂ AdoptsEntry entries (textKeys items)
  | _, _, .nil => .nil
  | _, _, .cons ⟨hkey, h⟩ hrest =>
    .cons ⟨congrArg Item.text hkey, h.adopts⟩ (adopts_textKeys hrest)

/-- The title of the section for a kind. -/
def kindTitle : EntityKind → String
  | .message => "Messages"
  | .enum => "Enums"
  | .service => "Services"

/-- The entities of a kind on a page. -/
def kindValues (p : PageBindings) : EntityKind → List Value
  | .message => messageValues p.messages
  | .enum => p.enums.map EnumBinding.toValue
  | .service => p.services.map ServiceBinding.toValue

def sectionValue (kind : EntityKind) (entities : List Value) : Value :=
  .object [
    ("kind", .text kind.text), ("title", .text (kindTitle kind)),
    ("entities", .list entities)]

theorem sectionValues_eq (p : PageBindings) : p.sectionValues =
    [EntityKind.message, .enum, .service].map fun kind =>
      sectionValue kind (kindValues p kind) :=
  rfl

theorem gives_bringSection (kind : EntityKind) {vs : List Value} {entities : Item}
    (h : Stands (.list vs) entities) :
    s.Gives (bringSection entities (sectionValue kind vs))
      (Adopts (sectionValue kind vs)) := by
  rw [sectionValue, bringSection]
  refine (gives_bringEntries ?_).bind fun items hitems =>
    .pure (.dict (adopts_textKeys hitems))
  intro e he item hitem
  simp only [List.mem_cons, List.not_mem_nil, or_false] at he
  rcases he with rfl | rfl | rfl
  · cases hitem
  · cases hitem
  · cases hitem
    exact h

theorem gives_pageItems (p : PageBindings) : s.Gives (pageItems p) fun items =>
    ∀ name v, p.entries.lookup name = some v →
      ∃ item, items.lookup name = some item ∧ Stands v item := by
  rw [pageItems]
  refine (gives_bring _).bind fun messages hmessages => ?_
  refine (gives_bring _).bind fun enums henums => ?_
  refine (gives_bring _).bind fun services hservices => ?_
  refine (Store.Gives.mapM (R := fun e => Adopts e.1) ?_).bind
    fun sections hsections => ?_
  · rw [sectionValues_eq]
    simp only [List.map_cons, List.map_nil, List.zip_cons_cons, List.zip_nil_left,
      List.forall_mem_cons, List.not_mem_nil, false_implies, implies_true, and_true]
    exact ⟨gives_bringSection .message hmessages, gives_bringSection .enum henums,
      gives_bringSection .service hservices⟩
  have hsections : List.Forall₂ Adopts p.sectionValues sections :=
    List.forall₂_map_left_iff.2 hsections
  refine (Template.gives_adopt (.list hsections)).bind fun sections hsections => ?_
  have hentries : s.Gives (bringEntries [("sections", sections), ("messages", messages),
      ("enums", enums), ("services", services)] p.entries)
      (List.Forall₂ StandsEntry p.entries) := by
    refine gives_bringEntries ?_
    simp [PageBindings.entries, List.lookup_cons, hmessages, henums, hservices, hsections]
  refine hentries.bind fun items hitems => ?_
  refine (Template.gives_adopt (.dict (adopts_textKeys hitems))).bind fun page _ =>
    .pure ?_
  intro name v hv
  have hname : name ≠ "page" := by
    rintro rfl
    cases hv
  obtain ⟨item, hitem, hstands⟩ := lookup_stands hitems hv
  refine ⟨item, ?_, hstands⟩
  rw [List.cons_append, List.lookup_cons, beq_false_of_ne hname,
    List.lookup_append, hitem]
  rfl

/-! ## Entities -/

/-- The macro that writes the entities of a kind. -/
def kindTree : EntityKind → PlainMacro
  | .message => messageTree
  | .enum => enumTree
  | .service => serviceTree

theorem kindTree_mem (kind : EntityKind) : kindTree kind ∈ macroTrees := by
  cases kind <;> simp [kindTree, macroTrees]

theorem kindTree_params (kind : EntityKind) : (kindTree kind).params.length = 2 := by
  cases kind <;> rfl

theorem entity_writes (kind : EntityKind) {depth : Nat} {text : String}
    (hdocs : view.Finds s "docs" docs) (hsettled : docs.Settled)
    (hoffers : OffersMacros docs s home) (hname : view.Finds s "entity" item)
    (hitem : item.Settled)
    (htext : Fills (kindTree kind) s depth home [item, .int (3 : Nat)] text) :
    s.Writes (outside (depth + 1)) view (entityTree (kindTree kind).name)
      (text ++ "\n") := by
  obtain ⟨address, hattr, hclosure⟩ := hoffers _ (kindTree_mem kind)
  have hmacro :
      s.Evaluates (outside (depth + 1)) view (.attr (.name "docs") (kindTree kind).name)
        (.macroAt (kindTree kind).info address) :=
    (Store.Evaluates.name hdocs hsettled).attr hattr (Item.settled_macroAt _ _)
  have hcall : s.Evaluates (outside (depth + 1)) view
      (plainCall (.attr (.name "docs") (kindTree kind).name)
        [.name "entity", .const (.int 3)])
      (.markup text) :=
    hmacro.call hclosure
      (.cons (.name hname hitem) (.cons (.const rfl (Item.settled_int 3)) .nil))
      (kindTree_params kind).symm htext
  exact .print_text hcall rfl "\n"

theorem isKind_evaluates {outside : Template.Outside} {kind : String} (other : String)
    (h : s.Evaluates outside view (part "section" "kind") (.text kind)) :
    s.Evaluates outside view (isKind other) (.bool (kind == other)) := by
  refine h.compare (.const rfl (Item.settled_text other)) ?_
  simp [Item.compareWith, Item.same, Item.equals, Item.nestingLimit,
    Item.number?, Item.text?, Except.map]

/-- The kind of the section decides which macro writes its entities. -/
theorem kind_writes (kind : EntityKind) {outside : Template.Outside} {text : String}
    (hkind : s.Evaluates outside view (part "section" "kind") (.text kind.text))
    (h : s.Writes outside view (entityTree (kindTree kind).name) text) :
    s.Writes outside view [.branch (isKind "message") (entityTree "message")
      [.branch (isKind "enum") (entityTree "enum") (entityTree "service")]] text := by
  have hmessage := isKind_evaluates "message" hkind
  have henum := isKind_evaluates "enum" hkind
  cases kind with
  | message => exact .branch hmessage rfl (fun _ => h) nofun
  | enum => exact .branch hmessage rfl nofun fun _ => .branch henum rfl (fun _ => h) nofun
  | service =>
    exact .branch hmessage rfl nofun fun _ => .branch henum rfl nofun fun _ => h

/-! ## Sections -/

theorem section_writes {α : Type} {f : α → Value} {render : α → String} {as : List α}
    (kind : EntityKind) {depth : Nat} (hname : view.Finds s "section" item)
    (hitem : Stands (sectionValue kind (as.map f)) item)
    (hdocs : view.Finds s "docs" docs)
    (hsettled : docs.Settled) (hoffers : OffersMacros docs s home)
    (hcount : as.length < roundLimit)
    (hfills : ∀ a ∈ as, ∀ item, Stands (f a) item →
      Fills (kindTree kind) s depth home [item, .int (3 : Nat)] (render a)) :
    s.Writes (outside (depth + 1)) view sectionTree
      (titled ("## " ++ Text.escapeMdx (kindTitle kind) ++ "\n\n") as.isEmpty
        (each (fun a => render a ++ "\n") as)) := by
  obtain ⟨entities, hentities, hstands⟩ :=
    part_evaluates (outside (depth + 1)) hname hitem
      (by decide : isCarried "entities" = false) rfl
  have htitle : s.Evaluates (outside (depth + 1)) view (part "section" "title")
      (.text (kindTitle kind)) :=
    part_text hname hitem (by decide) rfl
  refine list_branch hentities hstands ((Store.Writes.text_cons _ (.print_cons htitle rfl
    (.text_cons _ (.each_cons (fun a => render a ++ "\n") hentities hstands hcount
      (fun a ha row hrow s' inner hs hinner => ?_) .nil)))).of_eq ?_)
  · have hsection : View.Finds ⟨view.page, inner :: view.scopes⟩ s' "section" item :=
      .around hinner rfl (hname.later hs)
    refine kind_writes kind (part_text hsection hitem (by decide) rfl) ?_
    exact entity_writes kind (.around hinner rfl (hdocs.later hs)) hsettled
      (hoffers.later hs)
      (.inside hinner rfl) hrow.settled ((hfills a ha row hrow).later hs)
  · simp only [String.append_empty, String.append_assoc]

/-- The part of a page that is for a kind. -/
def sectionText (p : PageBindings) : EntityKind → String
  | .message => titled "## Messages\n\n" p.messages.isEmpty (nested 3 p.messages)
  | .enum =>
    titled "## Enums\n\n" p.enums.isEmpty (each (fun e => enum 3 e ++ "\n") p.enums)
  | .service =>
    titled "## Services\n\n" p.services.isEmpty
      (each (fun svc => service 3 svc ++ "\n") p.services)

theorem each_sectionText (p : PageBindings) :
    each (sectionText p) [.message, .enum, .service] = sections p := by
  simp only [each, sections, sectionText, List.foldr_cons, List.foldr_nil,
    String.append_empty, String.append_assoc]

theorem kind_section_writes {p : PageBindings} {depth : Nat} (hp : p.Presentable depth)
    (kind : EntityKind) (hname : view.Finds s "section" item)
    (hitem : Stands (sectionValue kind (kindValues p kind)) item)
    (hdocs : view.Finds s "docs" docs) (hsettled : docs.Settled)
    (hmacros : HasMacros s home) (hoffers : OffersMacros docs s home) :
    s.Writes (outside (depth + 2)) view sectionTree (sectionText p kind) := by
  cases kind with
  | message =>
      rw [kindValues, messageValues_eq_map] at hitem
      rw [sectionText, nested_eq_each]
      exact section_writes .message hname hitem hdocs hsettled hoffers hp.messageCount
        fun m hm row hrow => message_fills hmacros (hp.messages m hm) hrow 3
  | enum =>
      exact section_writes .enum hname hitem hdocs hsettled hoffers hp.enumCount
        fun e he row hrow => enum_fills (hp.enums e he) hmacros hrow 3 depth
  | service =>
      exact section_writes .service hname hitem hdocs hsettled hoffers hp.serviceCount
        fun svc hsvc row hrow => service_fills (hp.services svc hsvc) hmacros hrow 3 depth

/-! ## The page -/

/-- What the page holds is found in the view. -/
def Shows (view : View) (s : Store) (p : PageBindings) : Prop :=
  ∀ name v, p.entries.lookup name = some v →
    ∃ item, view.Finds s name item ∧ Stands v item

section Page

variable {p : PageBindings} {outside : Template.Outside}

theorem Shows.text (h : Shows view s p) {name t : String}
    (ht : p.entries.lookup name = some (.text t)) :
    s.Evaluates outside view (.name name) (.text t) := by
  obtain ⟨item, hitem, hstands⟩ := h _ _ ht
  cases hstands
  exact .name hitem (Item.settled_text t)

theorem frontMatter_writes (h : Shows view s p) :
    s.Writes outside view frontMatterTree
      (frontMatter p.title ++ "\n# " ++ Text.escapeMdx p.title ++ "\n\n") := by
  have htitle : s.Evaluates outside view (.name "title") (.text p.title) := h.text rfl
  have hquoted : s.Evaluates outside view (.filter (.name "title") "yaml_str" [])
      (.markup (Json.quote p.title)) :=
    htitle.filter rfl (Item.settled_markup _)
  refine (Store.Writes.text_cons _ (.print_cons hquoted rfl (.text_cons _
    (.print_cons htitle rfl (.text_cons _ .nil))))).of_eq ?_
  have hend : "\nhide_title: true\n---\n\n# " = "\nhide_title: true\n---\n" ++ "\n# " :=
    rfl
  rw [hend, frontMatter]
  simp only [String.append_empty, String.append_assoc]

theorem package_writes (h : Shows view s p) :
    s.Writes outside view
      [.branch (.name "package")
        [.text "Package: **", .print (.name "package"), .text "**\n\n"] []]
      (if p.package = "" then ""
        else "Package: **" ++ Text.escapeMdx p.package ++ "**\n\n") := by
  have hpackage : s.Evaluates outside view (.name "package") (.text p.package) :=
    h.text rfl
  refine text_branch hpackage ((Store.Writes.text_cons _ (.print_cons hpackage rfl
    (.text_cons _ .nil))).of_eq ?_)
  simp only [String.append_empty, String.append_assoc]

theorem dependencies_writes (h : Shows view s p)
    (hcount : p.dependencies.length < roundLimit)
    (hlinks : ∀ d ∈ p.dependencies, d.href ≠ some "") :
    s.Writes outside view
      [.branch (.name "dependencies") [
        .text "Imports:\n\n", loopOver "dep" (.name "dependencies") dependencyTree,
        .text "\n"] []]
      (titled "Imports:\n\n" p.dependencies.isEmpty
        (each dependency p.dependencies ++ "\n")) := by
  obtain ⟨item, hname, hstands⟩ := h "dependencies" _ rfl
  have hitem : s.Evaluates outside view (.name "dependencies") item :=
    .name hname hstands.settled
  refine list_branch hitem hstands
    ((Store.Writes.text_cons _ (.each_cons dependency hitem hstands
    hcount (fun d hd row hrow s' inner hs hinner => ?_) (.text_cons _ .nil))).of_eq ?_)
  · have hlink : s'.Writes outside ⟨view.page, inner :: view.scopes⟩
      [linkTree "dep" "path"]
        (link d.path d.href) :=
      link_writes (.inside hinner rfl) hrow (hlinks d hd) (by decide) rfl rfl
    refine (Store.Writes.text_cons _ (hlink.append (.text_cons _ .nil))).of_eq ?_
    simp only [dependency, String.append_empty, String.append_assoc]
  · rw [String.append_empty]

end Page

theorem sections_writes {p : PageBindings} {depth : Nat} (hp : p.Presentable depth)
    (h : Shows view s p) (hdocs : view.Finds s "docs" docs) (hsettled : docs.Settled)
    (hmacros : HasMacros s home) (hoffers : OffersMacros docs s home) :
    s.Writes (outside (depth + 2)) view
      [loopOver "section" (.name "sections") sectionTree]
      (sections p) := by
  obtain ⟨item, hname, hstands⟩ := h "sections" _ rfl
  rw [sectionValues_eq] at hstands
  rw [← each_sectionText]
  refine (Store.Writes.each_cons (sectionText p) (.name hname hstands.settled)
    hstands (by decide)
    (fun kind _ row hrow s' inner hs hinner => ?_) .nil).of_eq String.append_empty
  exact kind_section_writes hp kind (.inside hinner rfl) hrow
    (.around hinner rfl (hdocs.later hs))
    hsettled (hmacros.later hs) (hoffers.later hs)

theorem page_writes {p : PageBindings} {depth : Nat} (hp : p.Presentable depth)
    (h : Shows view s p) (hdocs : view.Finds s "docs" docs) (hsettled : docs.Settled)
    (hmacros : HasMacros s home) (hoffers : OffersMacros docs s home) :
    s.Writes (outside (depth + 2)) view pageTree (page p) := by
  refine ((frontMatter_writes h).append ((package_writes h).append ((description_writes
    (h.text rfl)).append
      ((dependencies_writes h hp.dependencyCount hp.dependencies).append
      (sections_writes hp h hdocs hsettled hmacros hoffers))))).of_eq ?_
  simp only [page, body, String.append_assoc]

/-! ## Filling the template of the page -/

theorem Shows.around {p : PageBindings} {items : List (String × Item)} {place : Nat}
    (hentries : ∀ name v, p.entries.lookup name = some v →
      ∃ item, items.lookup name = some item ∧ Stands v item)
    (hscope : s.scopes[place]? = some [("docs", some docs), ("docs", none)]) :
    Shows ⟨items, [place]⟩ s p := by
  intro name v hv
  have hname : name ≠ "docs" := by
    rintro rfl
    cases hv
  obtain ⟨item, hitem, hstands⟩ := hentries name v hv
  refine ⟨item, .around hscope ?_ (.onPage hitem), hstands⟩
  simp [List.lookup_cons, beq_false_of_ne hname]

theorem page_run {p : PageBindings} {depth : Nat} {items : List (String × Item)}
    (hp : p.Presentable depth) (hentries : ∀ name v, p.entries.lookup name = some v →
      ∃ item, items.lookup name = some item ∧ Stands v item)
    (hs : s.changed = false) (hmodules : s.modules = []) :
    ∃ s' scope, pageTemplate.run (outside (depth + 2)) items s =
      .ok ((page p, scope), s') := by
  have hscope :
      (s.allocate [("docs", none)]).2.scopes[s.scopes.size]? = some [("docs", none)] :=
    Array.getElem?_push_size
  obtain ⟨s₁, docs, home, himport, hs₁, hscope, hsettled, hmacros, hoffers⟩ :=
    import_run (Store.Grows.allocate hs _).unchanged hmodules hscope
  -- The import is the last to change a scope. From here on the store only grows.
  obtain ⟨text, s₂, hpage, rfl, -⟩ :=
    page_writes hp (.around hentries hscope) (.inside hscope rfl)
      hsettled hmacros hoffers s₁ (Store.Grows.refl hs₁)
  have hbody :
      Stmt.runAll (outside (depth + 2)) ⟨items, [s.scopes.size]⟩ pageTemplate.body
        (s.allocate [("docs", none)]).2 = .ok ("" ++ page p, s₂) := by
    change Stmt.runAll (outside (depth + 2)) _ (importTree :: pageTree) _ = _
    rw [Stmt.runAll, Template.Rendering.bind_eq himport, Template.Rendering.bind_eq hpage]
    rfl
  rw [String.empty_append] at hbody
  exact ⟨s₂, _, Template.run_eq rfl hbody⟩

/-- How deep messages may nest. Each takes a call, and below the last one there
is a call for a field and one for its type. -/
def messageDepth : Nat := callDepth - 2

/-- The built-in layout writes what its template gives. -/
theorem fill_pageTemplate {p : PageBindings} (hp : p.Presentable messageDepth) :
    fill pageTemplate p = .ok (page p) := by
  obtain ⟨items, s, hitems, hentries, hs⟩ :=
    gives_pageItems p .empty (Store.Grows.refl rfl)
  obtain ⟨s', scope, hrun⟩ := page_run hp hentries hs.unchanged hs.modules
  have hfill :
      (do pageTemplate.run (outside callDepth) (← pageItems p) : Template.Rendering _)
        .empty = .ok ((page p, scope), s') := by
    rw [Template.Rendering.bind_eq hitems]
    exact hrun
  rw [fill, StateT.run', hfill]
  rfl

end Layout

end SchemaDocs
