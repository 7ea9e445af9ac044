import SchemaDocs.Proofs.MacroTexts

/-!
# The imported macros

A template that imports the built-in macros runs their template on a page of its
own. The macros are then in the scope of that run, where they find each other, and
what was imported offers them by their names.
-/

namespace SchemaDocs

open Template (Stmt Item Store View PlainMacro Rendering Closure builtins)

namespace Template

variable {α β : Type}

/-- A step that goes through is followed by the next one. -/
theorem Rendering.bind_eq {x : Rendering α} {f : α → Rendering β} {s s' : Store} {a : α}
    (h : x s = .ok (a, s')) : (x >>= f) s = f a s' := by
  change (x s >>= fun result => f result.1 result.2) = _
  rw [h]
  rfl

theorem lookup_filterMap {γ δ : Type} {f : String × γ → Option (String × δ)}
    {name : String} {c : γ}
    {d : δ} (hkeep : f (name, c) = some (name, d))
    (hkeys : ∀ e e', f e = some e' → e'.1 = e.1) :
    ∀ {entries : List (String × γ)}, entries.lookup name = some c →
      (entries.filterMap f).lookup name = some d
  | (other, found) :: rest, h => by
      rw [List.lookup_cons] at h
      rw [List.filterMap_cons]
      cases hname : name == other with
      | true =>
          rw [hname] at h
          cases h
          cases eq_of_beq hname
          rw [hkeep, List.lookup_cons, beq_self_eq_true]
      | false =>
          rw [hname] at h
          have hrest := lookup_filterMap hkeep hkeys h
          split
          · exact hrest
          · next kept hkept =>
              have hkey : (name == kept.1) = false := by rw [hkeys _ _ hkept, hname]
              rw [List.lookup_cons, hkey]
              exact hrest

/-- What a template sets is exported, unless its name says otherwise. -/
theorem lookup_exports {t : Template} {name : String} {item : Item} {scope : Scope}
    (hshown : ("_".toList.isPrefixOf name.toList ||
      ("self" :: Stmt.allLoadedNames t.body).contains name) = false)
    (h : scope.lookup name = some (some item)) :
    (exports t scope).lookup name = some item := by
  refine lookup_filterMap ?_ (fun e e' he => ?_) h
  · simp only [hshown, Bool.false_eq_true, if_false, Option.map_some]
  · dsimp only at he
    split at he
    · cases he
    · obtain ⟨item, -, rfl⟩ := Option.map_eq_some_iff.1 he
      rfl

/-- A template that does not speak of itself runs in a scope for the names it sets. -/
theorem run_eq {outside : Outside} {t : Template} {page : List (String × Item)}
    {s s' : Store}
    {text : String} (hself : t.mentionsSelf = false)
    (h : Stmt.runAll outside ⟨page, [s.scopes.size]⟩ t.body
      (s.allocate (unsetScope t.unset)).2 = .ok (text, s')) :
    t.run outside page s = .ok ((text, s'.scope s.scopes.size), s') := by
  have henter : (View.mk page []).enter ([] ++ unsetScope t.unset) s =
      .ok (⟨page, [s.scopes.size]⟩, (s.allocate (unsetScope t.unset)).2) := rfl
  rw [Template.run, hself]
  simp only [Bool.false_eq_true, if_false]
  rw [Rendering.bind_eq henter, Rendering.bind_eq h]
  rfl

end Template

namespace Layout

variable {s s' : Store} {home : Nat} {docs : Item}

/-! ## Defining macros -/

/-- Macros were defined in the scope at a place, which held `scope` before and holds
`scope'` now. -/
structure Defines (macros : List PlainMacro) (home : Nat) (scope scope' : Template.Scope)
    (s s' : Store) : Prop where
  unchanged : s'.changed = false
  modules : s'.modules = s.modules
  scopes : ∀ place ≠ home, s'.scopes[place]? = s.scopes[place]?
  closures : ∀ (place : Nat) (closure : Closure), s.closures[place]? = some closure →
    s'.closures[place]? = some closure
  own : s'.scopes[home]? = some scope'
  others : ∀ name ∉ macros.map PlainMacro.name, scope'.lookup name = scope.lookup name
  macros : ∀ m ∈ macros, ∃ address,
    scope'.lookup m.name = some (some (.macroAt m.info address)) ∧
      s'.closures[address]? = some (m.closure builtins [home])

theorem definition_run (outside : Template.Outside) (m : PlainMacro)
    {scope : Template.Scope}
    (hs : s.changed = false) (hscope : s.scopes[home]? = some scope) :
    ∃ s' scope', m.definition.run outside ⟨builtins, [home]⟩ s = .ok ("", s') ∧
      Defines [m] home scope scope' s s' := by
  let item : Item := .macroAt m.info s.closures.size
  refine ⟨(s.define (m.closure builtins [home])).2.assign home m.name item,
    (m.name, some item) :: scope, ?_, ?_⟩
  · rw [PlainMacro.definition, Stmt.run]
    rfl
  constructor
  case unchanged => exact hs
  case modules => rfl
  case scopes =>
      intro place hplace
      rw [Store.assign, Store.define, Array.getElem?_modify, if_neg (Ne.symm hplace)]
  case closures =>
      intro place closure hclosure
      rw [Store.assign, Store.define, Array.getElem?_push, if_neg]
      · exact hclosure
      · rintro rfl
        rw [Array.getElem?_size] at hclosure
        cases hclosure
  case own =>
      rw [Store.assign, Store.define, Array.getElem?_modify, if_pos rfl, hscope]
      rfl
  case others =>
      intro name hname
      rw [List.map_singleton, List.mem_singleton] at hname
      rw [List.lookup_cons, beq_false_of_ne hname]
  case macros =>
      intro other hother
      cases List.mem_singleton.1 hother
      refine ⟨s.closures.size, ?_, Array.getElem?_push_size⟩
      rw [List.lookup_cons, beq_self_eq_true]

theorem Defines.cons {m : PlainMacro} {macros : List PlainMacro}
    {scope₀ scope₁ scope₂ : Template.Scope} {s₀ s₁ s₂ : Store}
    (h : Defines [m] home scope₀ scope₁ s₀ s₁) (hm : m.name ∉ macros.map PlainMacro.name)
    (hrest : Defines macros home scope₁ scope₂ s₁ s₂) :
    Defines (m :: macros) home scope₀ scope₂ s₀ s₂ where
  unchanged := hrest.unchanged
  modules := hrest.modules.trans h.modules
  scopes place hplace := (hrest.scopes place hplace).trans (h.scopes place hplace)
  closures place closure hclosure :=
    hrest.closures _ _ (h.closures place closure hclosure)
  own := hrest.own
  others name hname := by
    rw [List.map_cons, List.mem_cons, not_or] at hname
    exact (hrest.others name hname.2).trans (h.others name (by simpa using hname.1))
  macros other hother := by
    rcases List.mem_cons.1 hother with rfl | hother
    · obtain ⟨address, hlookup, hclosure⟩ := h.macros other List.mem_cons_self
      exact ⟨address, (hrest.others _ hm).trans hlookup, hrest.closures _ _ hclosure⟩
    · exact hrest.macros other hother

/-- Macros with different names are all there when they have been defined. -/
theorem definitions_run (outside : Template.Outside) :
    ∀ {macros : List PlainMacro} {s : Store} {scope : Template.Scope},
    (macros.map PlainMacro.name).Nodup → s.changed = false →
    s.scopes[home]? = some scope → ∃ text s' scope',
      Stmt.runAll outside ⟨builtins, [home]⟩ (definitions macros) s = .ok (text, s') ∧
        Defines macros home scope scope' s s'
  | [], s, scope, _, hs, hscope => by
      refine ⟨"", s, scope, ?_, hs, rfl, fun _ _ => rfl, fun _ _ => id,
        hscope, fun _ _ => rfl,
        nofun⟩
      rw [definitions, List.map_nil, List.intersperse_nil, Stmt.runAll]
      rfl
  -- Only behind the last definition there is no line end.
  | [m], s, scope, _, hs, hscope => by
      obtain ⟨s', scope', hrun, hdefines⟩ := definition_run outside m hs hscope
      refine ⟨"", s', scope', ?_, hdefines⟩
      rw [definitions, List.map_singleton, List.intersperse_singleton, Stmt.runAll,
        Template.Rendering.bind_eq hrun, Stmt.runAll]
      rfl
  | m :: next :: macros, s, scope, hnames, hs, hscope => by
      obtain ⟨hm, hnames⟩ := List.nodup_cons.1 hnames
      obtain ⟨s₁, scope₁, hrun, hdefines⟩ := definition_run outside m hs hscope
      obtain ⟨text, s₂, scope₂, hrest, hdefines'⟩ :=
        definitions_run outside hnames hdefines.unchanged hdefines.own
      refine ⟨"" ++ ("\n" ++ text), s₂, scope₂, ?_, hdefines.cons hm hdefines'⟩
      have hbetween :
          (Stmt.text "\n").run outside ⟨builtins, [home]⟩ s₁ = .ok ("\n", s₁) := by
        rw [Stmt.run]
        rfl
      change Stmt.runAll outside ⟨builtins, [home]⟩
        (m.definition :: .text "\n" :: definitions (next :: macros)) s = _
      rw [Stmt.runAll, Template.Rendering.bind_eq hrun, Stmt.runAll, bind_assoc,
        Template.Rendering.bind_eq hbetween, bind_assoc, Template.Rendering.bind_eq hrest]
      rfl

/-! ## Running the template of the macros -/

/-- An item offers the macros that are in a scope. -/
def OffersMacros (docs : Item) (s : Store) (home : Nat) : Prop :=
  ∀ m ∈ macroTrees, ∃ address, docs.attr m.name = .ok (.macroAt m.info address) ∧
    s.closures[address]? = some (m.closure builtins [home])

theorem OffersMacros.later (h : OffersMacros docs s home) (hs : s.Grows s') :
    OffersMacros docs s' home := by
  intro m hm
  obtain ⟨address, hattr, hclosure⟩ := h m hm
  exact ⟨address, hattr, hs.closures _ _ hclosure⟩

theorem macroNames_nodup : (macroTrees.map PlainMacro.name).Nodup := by decide

/-- After a run of their template the macros are in a new scope, which is what
the run leaves. -/
theorem macros_run (outside : Template.Outside) (hs : s.changed = false) :
    ∃ text s' scope, macrosTemplate.run outside builtins s = .ok ((text, scope), s') ∧
      Defines macroTrees s.scopes.size (Template.unsetScope macrosTemplate.unset) scope
        (s.allocate (Template.unsetScope macrosTemplate.unset)).2 s' := by
  have hhome :
      (s.allocate (Template.unsetScope macrosTemplate.unset)).2.scopes[s.scopes.size]? =
        some (Template.unsetScope macrosTemplate.unset) := Array.getElem?_push_size
  obtain ⟨text, s', scope, hrun, hdefines⟩ := definitions_run outside macroNames_nodup
    (Store.Grows.allocate hs _).unchanged hhome
  have hscope : s'.scope s.scopes.size = scope := by
    rw [Store.scope, hdefines.own]
    rfl
  exact ⟨text, s', scope, hscope ▸ Template.run_eq rfl hrun, hdefines⟩

theorem attr_imported {name label text : String} {serial : Nat}
    {exports : List (String × Item)}
    {item : Item} (hlabel : label ≠ "__name__") (h : exports.lookup label = some item) :
    (Item.imported name serial exports text).attr label = .ok item := by
  have hpart :
      (Item.imported name serial exports text).part? label = some (.ok item) := by
    simp only [Item.part?, h, Option.map_some]
  simp only [Item.attr, Item.attribute?, hpart]

/-! ## Importing the template of the macros -/

/-- The statement that imports the macros. -/
def importTree : Stmt := .load (.const (.text "macros.mdx.j2")) "docs" ⟨false, false⟩

theorem findBuiltIn_macros : findBuiltIn "macros.mdx.j2" = .ok macrosTemplate := by
  have hparts : Text.splitOn '/' "macros.mdx.j2" = ["macros.mdx.j2"] := by decide
  have hname :
      Text.join "/" (["macros.mdx.j2"].filter fun part => part != "" && part != ".") =
        "macros.mdx.j2" := by decide
  have hbuiltIn : builtIn.lookup "macros.mdx.j2" = some (.ok macrosTemplate) := by
    rw [builtIn, List.lookup_cons, beq_self_eq_true, compile_macrosSource]
  simp only [findBuiltIn, hparts, hname, hbuiltIn]
  rfl

theorem macroNames_shown : ∀ m ∈ macroTrees, ("_".toList.isPrefixOf m.name.toList ||
    ("self" :: Stmt.allLoadedNames macrosTemplate.body).contains m.name) = false := by
  decide

theorem macroNames_plain : ∀ m ∈ macroTrees, m.name ≠ "__name__" := by decide

/-- The import sets one name. It stands for an item that offers the macros,
which find each other. -/
theorem import_run {place depth : Nat} {page : List (String × Item)}
    {scope : Template.Scope}
    (hs : s.changed = false) (hmodules : s.modules = [])
    (hscope : s.scopes[place]? = some scope) :
    ∃ s' docs home,
      importTree.run (outside (depth + 1)) ⟨page, [place]⟩ s = .ok ("", s') ∧
      s'.changed = false ∧ s'.scopes[place]? = some (("docs", some docs) :: scope) ∧
        docs.Settled ∧ HasMacros s' home ∧ OffersMacros docs s' home := by
  obtain ⟨text, s₁, exported, hrun, hdefines⟩ := macros_run (outside depth) hs
  have hplace : place ≠ s.scopes.size := by
    rintro rfl
    rw [Array.getElem?_size] at hscope
    cases hscope
  let docs : Item :=
    .imported "macros.mdx.j2" s₁.serials (Template.exports macrosTemplate exported) text
  let s₂ : Store := { s₁.number.2 with modules := ("macros.mdx.j2", docs) :: s₁.modules }
  refine ⟨s₂.assign place "docs" docs, docs, s.scopes.size, ?_, hdefines.unchanged, ?_,
    Item.settled_imported _ _ _ _, fun m hm => ?_, fun m hm => ?_⟩
  · have hname : Template.Expr.evaluate (outside (depth + 1)) ⟨page, [place]⟩
        (.const (.text "macros.mdx.j2")) s = .ok (.text "macros.mdx.j2", s) := by
      rw [Template.Expr.evaluate]
      exact Item.settled_text "macros.mdx.j2" s hs
    have himported : Template.importedItem (outside (depth + 1)) builtins "macros.mdx.j2"
        macrosTemplate s = .ok (docs, s₁.number.2) := by
      have hrun : (outside (depth + 1)).run macrosTemplate builtins s =
          .ok ((text, exported), s₁) := hrun
      rw [Template.importedItem, Template.Rendering.bind_eq hrun]
      rfl
    have hload :
        Template.sharedItem (outside (depth + 1)) "macros.mdx.j2" macrosTemplate s =
          .ok (docs, s₂) := by
      have hget : (get : Rendering Store) s = .ok (s, s) := rfl
      have hnone : s.modules.lookup "macros.mdx.j2" = none := by
        rw [hmodules, List.lookup_nil]
      rw [Template.sharedItem, Template.Rendering.bind_eq hget, hnone]
      dsimp only
      rw [Template.Rendering.bind_eq himported]
      rfl
    have hload : Template.loadItem (outside (depth + 1)) ⟨page, [place]⟩ ⟨false, false⟩
        (.text "macros.mdx.j2") s = .ok (docs, s₂) := by
      have hfind : Template.attempt ((outside (depth + 1)).find "macros.mdx.j2") s =
          .ok (macrosTemplate, s) := by
        have hfinds : (outside (depth + 1)).find = findBuiltIn := rfl
        rw [hfinds, findBuiltIn_macros]
        rfl
      have htext : Template.attempt (Template.templateName (.text "macros.mdx.j2")) s =
          .ok ("macros.mdx.j2", s) := rfl
      rw [Template.loadItem, Template.Rendering.bind_eq htext,
        Template.Rendering.bind_eq hfind]
      exact hload
    rw [importTree, Stmt.run, Template.Rendering.bind_eq hname,
      Template.Rendering.bind_eq hload]
    rfl
  · have hs₂ : s₂.scopes[place]? = some scope := by
      refine (hdefines.scopes place hplace).trans ?_
      exact (Store.Grows.allocate hs _).scopes place scope hscope
    rw [Store.assign, Array.getElem?_modify, if_pos rfl, hs₂]
    rfl
  · obtain ⟨address, hlookup, hclosure⟩ := hdefines.macros m hm
    refine ⟨address, .inside ?_ hlookup, hclosure⟩
    rw [Store.assign, Array.getElem?_modify, if_neg hplace]
    exact hdefines.own
  · obtain ⟨address, hlookup, hclosure⟩ := hdefines.macros m hm
    refine ⟨address, attr_imported (macroNames_plain m hm) ?_, hclosure⟩
    exact Template.lookup_exports (macroNames_shown m hm) hlookup

end Layout

end SchemaDocs
