import SchemaDocs.Proofs.Compiled
import SchemaDocs.Template.Loop

/-!
# What a rendering of several templates keeps

The templates of a rendering may be of different dialects, and the names of one
mean nothing in another. Every scope belongs to one template, so it is written
down for each scope which dialect it is of and which names it was begun with. A
`World` is such a record. It grows along with the store, and what was written
down stays.

`Runs` says of a step that it works in any world its view fits into: it leads to
a world that has grown, gives something good, or fails in a contained way. The
worlds stay out of sight as long as the view is the same; there is one law for
each way to put steps together, and one for entering a new scope.
-/

namespace SchemaDocs.Template

open Item (Tame TameAll TameEntries tame_list tame_tuple tame_dict
  tameAll_nil tameAll_cons
  tameEntries_nil tameEntries_cons)
open RenderError (Contained)

variable {calculates : Bool} {d : Dialect}

/-! ## Names -/

def Item.IsDict : Item → Prop
  | .dict _ _ => True
  | _ => False

section

variable (calculates)

/-- An item that may stand under any name: a call of it or of a part of it goes
through to a macro or to nothing. -/
structure Item.Ordinary (item : Item) : Prop where
  tame : item.Tame calculates false
  inert : item.Inert
  plain : ¬item.IsDict

variable (d)

/-- What a scope of the dialect may hold under a name. -/
structure Dialect.Admits (name : String) (item : Item) : Prop where
  tame : item.Tame calculates false
  inert : name ∈ d.macros → item.Inert
  plain : name ∈ d.aliases → ¬item.IsDict

/-- What a name of the dialect may turn out to be where it is read. -/
structure Dialect.Gives (name : String) (item : Item) : Prop where
  tame : item.Tame calculates false
  inert : name ∈ d.called → item.Inert
  plain : name ∈ d.aliases → ¬item.IsDict

def Dialect.AdmitsScope (scope : Scope) : Prop :=
  ∀ e ∈ scope, ∀ item ∈ e.2, d.Admits calculates e.1 item

end

theorem Dialect.Admits.gives {name : String} {item : Item}
    (h : d.Admits calculates name item) :
    d.Gives calculates name item :=
  ⟨h.tame, fun hcalled => h.inert (d.called_macros name hcalled), h.plain⟩

theorem Dialect.Admits.undefined (name : String) (why : Missing) (serial : Option Nat) :
    d.Admits calculates name (.undefined why serial) :=
  ⟨.undefined why serial, fun _ => trivial, fun _ => id⟩

theorem Dialect.Admits.ofLeaves {name : String} (h : d.leaves name) {item : Item}
    (hitem : item.Tame calculates false) : d.Admits calculates name item := by
  simp only [Dialect.leaves, Bool.and_eq_true, Bool.not_eq_true', List.contains_eq_mem,
    decide_eq_false_iff_not] at h
  exact ⟨hitem, fun hmacro => absurd hmacro h.1, fun halias => absurd halias h.2⟩

theorem Item.Ordinary.admits {item : Item} (h : item.Ordinary calculates) (d : Dialect)
    (name : String) : d.Admits calculates name item :=
  ⟨h.tame, fun _ => h.inert, fun _ => h.plain⟩

namespace Dialect.AdmitsScope

theorem nil : d.AdmitsScope calculates [] := fun _ he => nomatch he

theorem cons {name : String} {found : Option Item} {scope : Scope}
    (hfound : ∀ item ∈ found, d.Admits calculates name item)
    (h : d.AdmitsScope calculates scope) :
    d.AdmitsScope calculates ((name, found) :: scope) :=
  List.forall_mem_cons.2 ⟨hfound, h⟩

theorem one {name : String} {item : Item} (h : d.Admits calculates name item) :
    d.AdmitsScope calculates [(name, some item)] := by
  refine cons ?_ nil
  rintro _ ⟨⟩
  exact h

theorem append {scope scope' : Scope} (h : d.AdmitsScope calculates scope)
    (h' : d.AdmitsScope calculates scope') : d.AdmitsScope calculates (scope ++ scope') :=
  fun e he => (List.mem_append.1 he).elim (h e) (h' e)

theorem unset (names : List String) : d.AdmitsScope calculates (unsetScope names) := by
  intro e he item hitem
  obtain ⟨name, -, rfl⟩ := List.mem_map.1 he
  cases hitem

end Dialect.AdmitsScope

/-! ## Worlds -/

/-- The dialect of a scope, and the names it was begun with. -/
structure Frame where
  dialect : Dialect
  bound : List String

/-- The frames of the scopes in a store. -/
abbrev World := List Frame

section

variable (calculates)

/-- A scope holds what its frame says. -/
structure Frame.Fits (f : Frame) (scope : Scope) : Prop where
  admits : f.dialect.AdmitsScope calculates scope
  bound : ∀ name ∈ f.bound, name ∈ scope.map Prod.fst

/-- The scopes of the view are of the dialect, and the names that are called in it
are begun with in one of them, or are `given`, or the page has nothing else for
them. -/
structure View.Sees (d : Dialect) (given : List String) (w : World) (view : View) :
    Prop where
  frames : ∀ place ∈ view.scopes, ∃ f, w[place]? = some f ∧ f.dialect = d
  page : ∀ e ∈ view.page, e.2.Tame calculates false
  named : ∀ name ∈ d.called ++ d.aliases, name ∈ given ∨
    (∃ place ∈ view.scopes, ∃ f, w[place]? = some f ∧ name ∈ f.bound) ∨
      ∀ item ∈ view.page.lookup name, d.Gives calculates name item

/-- A macro is of the dialect of the view it was defined in. -/
structure Closure.Of (d : Dialect) (w : World) (closure : Closure) : Prop where
  sees : (View.mk closure.page closure.scopes).Sees calculates d [] w
  takes : closure.info.params.all d.leaves
  params : paramsWithin calculates d closure.params
  body : Stmt.allWithin calculates d closure.body

structure Store.Of (w : World) (store : Store) : Prop where
  unchanged : store.changed = false
  size : store.scopes.size = w.length
  scopes : ∀ (place : Nat) (f : Frame), w[place]? = some f →
    f.Fits calculates (store.scope place)
  closures : ∀ closure ∈ store.closures, ∃ d, closure.Of calculates d w
  modules : ∀ e ∈ store.modules, e.2.Ordinary calculates

end

theorem World.getElem?_of_prefix {w w' : World} (h : w <+: w') {place : Nat} {f : Frame}
    (hf : w[place]? = some f) : w'[place]? = some f := by
  obtain ⟨rest, rfl⟩ := h
  rw [List.getElem?_append_left (List.getElem?_eq_some_iff.1 hf).1]
  exact hf

variable {w w' : World} {view : View}

namespace View.Sees

theorem mono {given : List String} (h : view.Sees calculates d given w) (hle : w <+: w') :
    view.Sees calculates d given w' where
  frames place hplace := by
    obtain ⟨f, hf, hd⟩ := h.frames place hplace
    exact ⟨f, World.getElem?_of_prefix hle hf, hd⟩
  page := h.page
  named name hname := by
    refine (h.named name hname).imp id (Or.imp_left ?_)
    rintro ⟨place, hplace, f, hf, hbound⟩
    exact ⟨place, hplace, f, World.getElem?_of_prefix hle hf, hbound⟩

theorem weaken (h : view.Sees calculates d [] w) (given : List String) :
    view.Sees calculates d given w where
  frames := h.frames
  page := h.page
  named name hname := (h.named name hname).imp (fun hnone => nomatch hnone) id

/-- A new scope inside a view, which is begun with the names that were given. -/
theorem enter {given : List String} (h : view.Sees calculates d given w) :
    View.Sees calculates d [] (w ++ [⟨d, given⟩])
      { view with scopes := w.length :: view.scopes } where
  frames place hplace := by
    rcases List.mem_cons.1 hplace with rfl | hplace
    · exact ⟨⟨d, given⟩, List.getElem?_concat_length, rfl⟩
    · exact (h.mono (List.prefix_append w _)).frames place hplace
  page := h.page
  named name hname := by
    refine .inr ?_
    have hnamed := (h.mono (List.prefix_append w [⟨d, given⟩])).named name hname
    rcases hnamed with hgiven | hbound | hpage
    · exact .inl ⟨w.length, List.mem_cons_self, ⟨d, given⟩, List.getElem?_concat_length,
        hgiven⟩
    · obtain ⟨place, hplace, hf⟩ := hbound
      exact .inl ⟨place, List.mem_cons_of_mem _ hplace, hf⟩
    · exact .inr hpage

end View.Sees

theorem Closure.Of.mono {closure : Closure} (h : closure.Of calculates d w)
    (hle : w <+: w') :
    closure.Of calculates d w' :=
  ⟨h.sees.mono hle, h.takes, h.params, h.body⟩

/-! ## The store -/

namespace Store.Of

variable {store : Store}

theorem empty : Store.empty.Of calculates [] where
  unchanged := rfl
  size := rfl
  scopes place f hf := nomatch hf
  closures := by simp [Store.empty]
  modules := by simp [Store.empty]

theorem refresh (h : store.Of calculates w) (item : Item) :
    store.refresh item = item := by
  rw [Store.refresh, h.unchanged]
  rfl

theorem allocate (h : store.Of calculates w) {f : Frame} {scope : Scope}
    (hscope : f.Fits calculates scope) :
    (store.allocate scope).2.Of calculates (w ++ [f]) where
  unchanged := h.unchanged
  size := by
    rw [List.length_append, Store.allocate, Array.size_push, h.size]
    rfl
  scopes place g hg := by
    rw [Store.scope, Store.allocate, Array.getElem?_push]
    by_cases hplace : place = store.scopes.size
    · rw [hplace, h.size, List.getElem?_concat_length] at hg
      cases hg
      rw [if_pos hplace]
      exact hscope
    · have hlt : place < w.length := by
        have := (List.getElem?_eq_some_iff.1 hg).1
        rw [List.length_append, List.length_singleton] at this
        have := h.size
        omega
      rw [List.getElem?_append_left hlt] at hg
      rw [if_neg hplace]
      exact h.scopes place g hg
  closures closure hclosure := by
    obtain ⟨d, hd⟩ := h.closures closure hclosure
    exact ⟨d, hd.mono (List.prefix_append w _)⟩
  modules := h.modules

theorem define (h : store.Of calculates w) {closure : Closure}
    (hclosure : closure.Of calculates d w) :
    (store.define closure).2.Of calculates w where
  unchanged := h.unchanged
  size := h.size
  scopes := h.scopes
  closures c hc := by
    rcases Array.mem_push.1 hc with hc | rfl
    · exact h.closures c hc
    · exact ⟨d, hclosure⟩
  modules := h.modules

theorem assign (h : store.Of calculates w) {place : Nat} {name : String} {item : Item}
    (hitem : ∀ f, w[place]? = some f → f.dialect.Admits calculates name item) :
    (store.assign place name item).Of calculates w where
  unchanged := h.unchanged
  size := by
    rw [Store.assign, Array.size_modify, h.size]
  scopes other f hf := by
    have hother := h.scopes other f hf
    have hlt : other < store.scopes.size := h.size ▸ (List.getElem?_eq_some_iff.1 hf).1
    rw [Store.scope, Array.getElem?_eq_getElem hlt] at hother
    rw [Store.scope, Store.assign, Array.getElem?_modify, Array.getElem?_eq_getElem hlt]
    split
    · next heq =>
        subst heq
        refine ⟨.cons ?_ hother.admits,
          fun n hn => List.mem_cons_of_mem _ (hother.bound n hn)⟩
        rintro _ ⟨⟩
        exact hitem f hf
    · exact hother
  closures := h.closures
  modules := h.modules

theorem hold (h : store.Of calculates w) (content : Content) :
    (store.hold content).2.Of calculates w :=
  ⟨h.unchanged, h.size, h.scopes, h.closures, h.modules⟩

theorem number (h : store.Of calculates w) : store.number.2.Of calculates w :=
  ⟨h.unchanged, h.size, h.scopes, h.closures, h.modules⟩

theorem share (h : store.Of calculates w) {name : String} {item : Item}
    (hitem : item.Ordinary calculates) :
    Store.Of calculates w { store with modules := (name, item) :: store.modules } :=
  ⟨h.unchanged, h.size, h.scopes, h.closures, List.forall_mem_cons.2 ⟨hitem, h.modules⟩⟩

end Store.Of

/-- What a view finds under a name of the dialect. -/
theorem View.find_gives {store : Store} (hview : view.Sees calculates d [] w)
    (hstore : store.Of calculates w) (name : String) :
    d.Gives calculates name (view.find store name) := by
  have hmissing : d.Gives calculates name (.undefined (.unbound name) none) :=
    (Dialect.Admits.undefined name (.unbound name) none).gives
  rw [View.find, hstore.refresh]
  split
  · next found hfound =>
      obtain ⟨place, hplace, hlookup⟩ := List.exists_of_findSome?_eq_some hfound
      obtain ⟨f, hf, rfl⟩ := hview.frames place hplace
      cases found with
      | none => exact hmissing
      | some item =>
          exact ((hstore.scopes place f hf).admits _ (mem_of_lookup hlookup)
            item rfl).gives
  · next hfound =>
      cases hlookup : view.page.lookup name with
      | none => exact hmissing
      | some item =>
          have hgives (hname : name ∈ d.called ++ d.aliases) :
              d.Gives calculates name item := by
            rcases hview.named name hname with hgiven |
              ⟨place, hplace, f, hf, hbound⟩ | hpage
            · cases hgiven
            · obtain ⟨e, he, rfl⟩ :=
                List.mem_map.1 ((hstore.scopes place f hf).bound name hbound)
              have hnone := List.findSome?_eq_none_iff.1 hfound place hplace
              exact absurd (List.lookup_eq_none_iff.1 hnone e he) (by simp)
            · exact hpage item hlookup
          refine ⟨hview.page _ (mem_of_lookup hlookup), fun hcalled => ?_,
            fun halias => ?_⟩
          · exact (hgives (List.mem_append_left _ hcalled)).inert hcalled
          · exact (hgives (List.mem_append_right _ halias)).plain halias

/-! ## Adopting -/

namespace Store

theorem adopt_inert (store : Store) {item : Item} (h : item.Inert) :
    (adopt item store).1.Inert := by
  cases item with
  | method | type => exact h.elim
  | list _ place | dict _ place => cases place <;> trivial
  | _ => trivial

theorem adopt_isDict (store : Store) {item : Item} (h : ¬item.IsDict) :
    ¬(adopt item store).1.IsDict := by
  cases item with
  | dict => exact absurd trivial h
  | list _ place => cases place <;> exact id
  | _ => exact id

mutual

theorem adopt_of {store : Store} (h : store.Of calculates w) : ∀ {item : Item},
    item.Tame calculates false →
      (adopt item store).2.Of calculates w ∧ (adopt item store).1.Tame calculates false
  | .list items none, hitem => by
      obtain ⟨hstore, hitems⟩ := adoptItems_of h (tame_list.1 hitem)
      rw [adopt]
      exact ⟨hstore.hold _, tame_list.2 hitems⟩
  | .dict entries none, hitem => by
      obtain ⟨hstore, hentries⟩ := adoptEntries_of h (tame_dict.1 hitem).2
      rw [adopt]
      exact ⟨hstore.hold _, tame_dict.2 ⟨rfl, hentries⟩⟩
  | .tuple items, hitem => by
      obtain ⟨hstore, hitems⟩ := adoptItems_of h (tame_tuple.1 hitem)
      rw [adopt]
      exact ⟨hstore, tame_tuple.2 hitems⟩
  | .list _ (some _), hitem | .dict _ (some _), hitem | .null, hitem | .bool _, hitem
  | .int _, hitem | .float _, hitem | .text _, hitem | .bytes _, hitem | .markup _, hitem
  | .range _ _ _, hitem | .view _ _ _, hitem | .slice _ _ _, hitem | .undefined _ _, hitem
  | .macroAt _ _, hitem | .imported _ _ _ _, hitem | .loop _ _ _, hitem
  | .record _ _ _, hitem
  | .again _, hitem | .self, hitem | .method _ _, hitem | .type _, hitem
  | .function _, hitem => ⟨h, hitem⟩

theorem adoptItems_of {store : Store} (h : store.Of calculates w) : ∀ {items : List Item},
    TameAll calculates false items →
      (adoptItems items store).2.Of calculates w ∧
        TameAll calculates false (adoptItems items store).1
  | [], hitems => by
      rw [adoptItems]
      exact ⟨h, hitems⟩
  | item :: rest, hitems => by
      obtain ⟨hitem, hrest⟩ := tameAll_cons.1 hitems
      obtain ⟨hstore, hitem⟩ := adopt_of h hitem
      obtain ⟨hstore, hrest⟩ := adoptItems_of hstore hrest
      rw [adoptItems]
      exact ⟨hstore, tameAll_cons.2 ⟨hitem, hrest⟩⟩

theorem adoptEntries_of {store : Store} (h : store.Of calculates w) :
    ∀ {entries : List (Item × Item)}, TameEntries calculates false entries →
      (adoptEntries entries store).2.Of calculates w ∧
        TameEntries calculates false (adoptEntries entries store).1
  | [], hentries => by
      rw [adoptEntries]
      exact ⟨h, hentries⟩
  | (key, item) :: rest, hentries => by
      obtain ⟨⟨hkey, hitem⟩, hrest⟩ := tameEntries_cons.1 hentries
      obtain ⟨hstore, hkey⟩ := adopt_of h hkey
      obtain ⟨hstore, hitem⟩ := adopt_of hstore hitem
      obtain ⟨hstore, hrest⟩ := adoptEntries_of hstore hrest
      rw [adoptEntries]
      exact ⟨hstore, tameEntries_cons.2 ⟨⟨hkey, hitem⟩, hrest⟩⟩

end

end Store

/-! ## Steps -/

section

variable {α β : Type}

/-- A step from a world gives something good and leads to a world that has grown, or
it fails in a contained way. -/
def Steps (calculates : Bool) (w : World) (x : Rendering α) (good : α → Prop) : Prop :=
  ∀ store, store.Of calculates w → Meets (Contained calculates) (x store) fun result =>
    good result.1 ∧ ∃ w', w <+: w' ∧ result.2.Of calculates w'

/-- A step from every world that a view fits into. -/
def Runs (calculates : Bool) (d : Dialect) (view : View) (x : Rendering α)
    (good : α → Prop) : Prop :=
  ∀ w, view.Sees calculates d [] w → Steps calculates w x good

variable {good : α → Prop} {fine : β → Prop} {x : Rendering α}

/-- A step that leaves the world as it is. -/
theorem Steps.ofSame (h : ∀ store, store.Of calculates w →
    Meets (Contained calculates) (x store) fun result =>
      good result.1 ∧ result.2.Of calculates w) :
    Steps calculates w x good :=
  fun store hstore => (h store hstore).mono fun _ hresult =>
    ⟨hresult.1, w, List.prefix_refl w, hresult.2⟩

theorem Steps.throw {e : RenderError} (h : e.Contained calculates) :
    Steps calculates w (throw e : Rendering α) good :=
  .ofSame fun _ _ => .error h

theorem Steps.mono {other : α → Prop} (hx : Steps calculates w x good)
    (h : ∀ a, good a → other a) : Steps calculates w x other :=
  fun store hstore => (hx store hstore).mono fun result hresult =>
    hresult.imp_left (h result.1)

/-- What follows may look at the store. -/
theorem Steps.get_bind {f : Store → Rendering α}
    (hf : ∀ store, store.Of calculates w → Steps calculates w (f store) good) :
    Steps calculates w (get >>= f) good :=
  fun store hstore => hf store hstore store hstore

theorem Steps.run' (hx : Steps calculates w x good) {store : Store}
    (hstore : store.Of calculates w) : Meets (Contained calculates) (x.run' store) good :=
  (hx store hstore).map fun _ hresult => hresult.1

theorem Steps.bind {f : α → Rendering β} (hx : Steps calculates w x good)
    (hf : ∀ w', w <+: w' → ∀ a, good a → Steps calculates w' (f a) fine) :
    Steps calculates w (x >>= f) fine := by
  intro store hstore
  refine (hx store hstore).bind fun result ⟨hgood, w', hle, hstore'⟩ => ?_
  refine (hf w' hle result.1 hgood result.2 hstore').mono
    fun _ ⟨hfine, w'', hle', hstore''⟩ => ?_
  exact ⟨hfine, w'', hle.trans hle', hstore''⟩

/-- A view in which a new scope was entered. -/
theorem Steps.enter {scope : Scope} {f : View → Rendering α}
    (hview : view.Sees calculates d (scope.map Prod.fst) w)
    (hscope : d.AdmitsScope calculates scope)
    (hf : ∀ inner : View, Runs calculates d inner (f inner) good) :
    Steps calculates w (view.enter scope >>= f) good := by
  intro store hstore
  have hfits : Frame.Fits calculates ⟨d, scope.map Prod.fst⟩ scope :=
    ⟨hscope, fun _ => id⟩
  have hinner := hf { view with scopes := store.scopes.size :: view.scopes }
    (w ++ [⟨d, scope.map Prod.fst⟩]) (hstore.size ▸ hview.enter) _ (hstore.allocate hfits)
  refine Meets.mono hinner fun _ ⟨hgood, w', hle, hstore'⟩ => ?_
  exact ⟨hgood, w', (List.prefix_append w _).trans hle, hstore'⟩

namespace Runs

theorem ofSteps (h : ∀ w, Steps calculates w x good) : Runs calculates d view x good :=
  fun w _ => h w

theorem ofSame (h : ∀ w store, view.Sees calculates d [] w → store.Of calculates w →
    Meets (Contained calculates) (x store) fun result =>
      good result.1 ∧ result.2.Of calculates w) :
    Runs calculates d view x good :=
  fun w hview => .ofSame fun store hstore => h w store hview hstore

theorem pure {a : α} (h : good a) : Runs calculates d view (Pure.pure a) good :=
  ofSame fun _ _ _ hstore => .ok ⟨h, hstore⟩

theorem throw {e : RenderError} (h : e.Contained calculates) :
    Runs calculates d view (throw e : Rendering α) good :=
  ofSteps fun _ => .throw h

theorem bind {f : α → Rendering β} (hx : Runs calculates d view x good)
    (hf : ∀ a, good a → Runs calculates d view (f a) fine) :
    Runs calculates d view (x >>= f) fine :=
  fun w hview => (hx w hview).bind fun w' hle a ha => hf a ha w' (hview.mono hle)

theorem mono {other : α → Prop} (hx : Runs calculates d view x good)
    (h : ∀ a, good a → other a) :
    Runs calculates d view x other :=
  fun w hview => (hx w hview).mono h

theorem map {f : α → β} (hx : Runs calculates d view x good)
    (hf : ∀ a, good a → fine (f a)) :
    Runs calculates d view (f <$> x) fine :=
  hx.bind fun a ha => pure (hf a ha)

theorem attempt {result : Except RenderError α}
    (h : Meets (Contained calculates) result good) :
    Runs calculates d view (attempt result) good :=
  ofSame fun _ _ _ hstore => h.map fun _ ha => ⟨ha, hstore⟩

theorem get_bind {f : Store → Rendering α}
    (hf : ∀ w store, view.Sees calculates d [] w → store.Of calculates w →
      Runs calculates d view (f store) good) :
    Runs calculates d view (get >>= f) good :=
  fun w hview => .get_bind fun store hstore => hf w store hview hstore w hview

theorem modify {f : Store → Store}
    (hf : ∀ w store, view.Sees calculates d [] w → store.Of calculates w →
      (f store).Of calculates w) :
    Runs calculates d view (modify f : Rendering PUnit) fun _ => True :=
  ofSame fun w store hview hstore => .ok ⟨trivial, hf w store hview hstore⟩

theorem hold (content : Content) :
    Runs calculates d view (modifyGet (·.hold content) : Rendering Nat) fun _ => True :=
  ofSame fun _ _ _ hstore => .ok ⟨trivial, hstore.hold content⟩

theorem ite {p : Prop} [Decidable p] {y : Rendering α}
    (hx : Runs calculates d view x good)
    (hy : Runs calculates d view y good) :
    Runs calculates d view (if p then x else y) good := by
  split
  · exact hx
  · exact hy

theorem run' (hx : Runs calculates d view x good) {store : Store}
    (hview : view.Sees calculates d [] w) (hstore : store.Of calculates w) :
    Meets (Contained calculates) (x.run' store) good :=
  (hx w hview).run' hstore

theorem mapM {f : α → Rendering β} : ∀ {xs : List α},
    (∀ x ∈ xs, Runs calculates d view (f x) fine) →
      Runs calculates d view (xs.mapM f) fun ys => ∀ y ∈ ys, fine y
  | [], _ => by
      rw [List.mapM_nil]
      exact .pure (by simp)
  | x :: rest, h => by
      rw [List.mapM_cons]
      refine (h x List.mem_cons_self).bind fun y hy => ?_
      refine (mapM fun z hz => h z (List.mem_cons_of_mem x hz)).bind fun ys hys =>
        .pure ?_
      exact List.forall_mem_cons.2 ⟨hy, hys⟩

theorem enter {scope : Scope} {f : View → Rendering α}
    (hscope : d.AdmitsScope calculates scope)
    (hf : ∀ inner : View, Runs calculates d inner (f inner) good) :
    Runs calculates d view (view.enter scope >>= f) good :=
  fun _ hview => .enter (hview.weaken _) hscope hf

end Runs

end

/-! ## Items on the way -/

variable {item : Item} {items : List Item}

/-- Nothing has changed, so an item is what it was. -/
theorem now_runs (item : Item) : Runs calculates d view (now item) (· = item) :=
  .get_bind fun _ _ _ hstore => .pure (hstore.refresh item)

theorem allNow_runs (h : TameAll calculates false items) :
    Runs calculates d view (allNow items) (TameAll calculates false) :=
  .mapM fun item hitem => (now_runs item).mono fun _ heq => heq ▸ h item hitem

theorem freshSerial_runs : Runs calculates d view freshSerial fun _ => True :=
  .ofSame fun _ _ _ hstore => .ok ⟨trivial, hstore.number⟩

theorem stamp_runs (h : item.Tame calculates false) :
    Runs calculates d view (stamp item) fun stamped => stamped.Tame calculates false ∧
      (item.Inert → stamped.Inert) ∧ (¬item.IsDict → ¬stamped.IsDict) := by
  rw [stamp.eq_def]
  split
  · exact freshSerial_runs.bind fun n _ =>
      .pure ⟨.undefined _ _, fun _ => trivial, fun _ => id⟩
  · have hadopt :
        Runs calculates d view (fun store => .ok (store.adopt item)) fun adopted =>
        adopted.Tame calculates false ∧ (item.Inert → adopted.Inert) ∧
          (¬item.IsDict → ¬adopted.IsDict) := by
      refine .ofSame fun w store _ hstore => .ok ?_
      obtain ⟨hafter, hadopted⟩ := Store.adopt_of hstore h
      exact ⟨⟨hadopted, store.adopt_inert, store.adopt_isDict⟩, hafter⟩
    refine hadopt.bind fun adopted hadopted => .get_bind fun w store _ hstore => .pure ?_
    rw [hstore.refresh]
    exact hadopted

/-- An item that a rendering takes up is as tame as it was. -/
theorem stamp_tame (h : item.Tame calculates false) :
    Runs calculates d view (stamp item) (Tame calculates false) :=
  (stamp_runs h).mono fun _ => And.left

theorem stamp_ordinary (h : item.Ordinary calculates) :
    Runs calculates d view (stamp item) (Item.Ordinary calculates) :=
  (stamp_runs h.tame).mono fun _ hstamped =>
    ⟨hstamped.1, hstamped.2.1 h.inert, hstamped.2.2 h.plain⟩

theorem stamp_gives {name : String} (h : d.Gives calculates name item) :
    Runs calculates d view (stamp item) (d.Gives calculates name) :=
  (stamp_runs h.tame).mono fun _ hstamped =>
    ⟨hstamped.1, fun hcalled => hstamped.2.1 (h.inert hcalled),
      fun halias => hstamped.2.2 (h.plain halias)⟩

theorem stamp_admits {name : String} (h : d.Admits calculates name item) :
    Runs calculates d view (stamp item) (d.Admits calculates name) :=
  (stamp_runs h.tame).mono fun _ hstamped =>
    ⟨hstamped.1, fun hmacro => hstamped.2.1 (h.inert hmacro),
      fun halias => hstamped.2.2 (h.plain halias)⟩

theorem give_tame {result : Except RenderError Item}
    (h : Meets (Contained calculates) result (Tame calculates false)) :
    Runs calculates d view (give result) (Tame calculates false) :=
  (Runs.attempt h).bind fun _ => stamp_tame

theorem assign_runs {name : String} (h : d.Admits calculates name item) :
    Runs calculates d view (view.assign name item) fun _ => True := by
  refine .modify fun w store hview hstore => ?_
  split
  · next place _ hscopes =>
      refine hstore.assign fun f hf => ?_
      obtain ⟨g, hg, hd⟩ := hview.frames place (hscopes ▸ List.mem_cons_self)
      obtain rfl : g = f := Option.some.inj (hg.symm.trans hf)
      exact hd ▸ h
  · exact hstore

end SchemaDocs.Template
