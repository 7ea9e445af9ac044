import SchemaDocs.Proofs.Apart
import SchemaDocs.Template.Evaluate

/-!
# What a rendering keeps

A template that keeps markup apart changes nothing in its place. So every item
is up to date at all times, the contents of the store do not matter, and what
is left to say about the store is that the names in its scopes stand for what
they may and that the macros in it keep markup apart too.

`Keeps` says that a step of a rendering leads from such stores to such stores
and gives something good. It has one law for each way to put steps together.
-/

namespace SchemaDocs.Template

open Item (CleanAll CleanEntries)

variable {k : Marking}

/-! ## Names -/

section

variable (k)

/-- What a name may stand for. -/
def MayStand (name : String) (item : Item) : Prop :=
  item.Clean (k.allows name) ∧ (name ∈ k.called → item.Free)

def PageApart (page : List (String × Item)) : Prop := ∀ e ∈ page, MayStand k e.1 e.2

def ScopeApart (scope : Scope) : Prop := ∀ e ∈ scope, ∀ item ∈ e.2, MayStand k e.1 item

structure Closure.Apart (closure : Closure) : Prop where
  takes : k.Takes k.passes closure.info.taken
  params : ParamsApart k closure.params
  body : Stmt.AllApart k closure.body
  page : PageApart k closure.page

structure Store.Apart (store : Store) : Prop where
  unchanged : store.changed = false
  scopes : ∀ scope ∈ store.scopes, ScopeApart k scope
  closures : ∀ closure ∈ store.closures, closure.Apart k

end

theorem Marking.Takes.mayStand {level : Bool} {names : List String}
    (h : k.Takes level names)
    {name : String} (hname : name ∈ names) {item : Item} (hitem : item.Clean level) :
    MayStand k name item :=
  ⟨hitem.mono (h name hname).2, fun hcalled => absurd hcalled (h name hname).1⟩

theorem mayStand_undefined {name : String} {why : Missing} {serial : Option Nat} :
    MayStand k name (.undefined why serial) :=
  ⟨.undefined why serial, fun _ => trivial⟩

theorem scopeApart_nil : ScopeApart k [] := fun _ he => nomatch he

theorem scopeApart_cons {name : String} {found : Option Item} {scope : Scope} :
    ScopeApart k ((name, found) :: scope) ↔
      (∀ item ∈ found, MayStand k name item) ∧ ScopeApart k scope :=
  List.forall_mem_cons

theorem scopeApart_singleton {name : String} {item : Item} (h : MayStand k name item) :
    ScopeApart k [(name, some item)] :=
  scopeApart_cons.2 ⟨by rintro _ ⟨⟩; exact h, scopeApart_nil⟩

theorem ScopeApart.append {scope scope' : Scope} (h : ScopeApart k scope)
    (h' : ScopeApart k scope') : ScopeApart k (scope ++ scope') :=
  fun e he => (List.mem_append.1 he).elim (h e) (h' e)

/-! ## The store -/

namespace Store

variable {store : Store}

theorem apart_empty : Store.empty.Apart k where
  unchanged := rfl
  scopes := by simp [Store.empty]
  closures := by simp [Store.empty]

namespace Apart

theorem refresh (h : store.Apart k) (item : Item) : store.refresh item = item := by
  rw [Store.refresh, h.unchanged]
  rfl

theorem scope (h : store.Apart k) (place : Nat) : ScopeApart k (store.scope place) := by
  rw [Store.scope]
  cases hplace : store.scopes[place]? with
  | none => exact scopeApart_nil
  | some scope => exact h.scopes scope (Array.mem_of_getElem? hplace)

theorem find? (h : store.Apart k) {places : List Nat} {name : String} {item : Item}
    (hfound : store.find? places name = some (some item)) : MayStand k name item := by
  obtain ⟨place, -, hlookup⟩ := List.exists_of_findSome?_eq_some hfound
  exact h.scope place _ (mem_of_lookup hlookup) item rfl

theorem allocate (h : store.Apart k) {scope : Scope} (hscope : ScopeApart k scope) :
    (store.allocate scope).2.Apart k where
  unchanged := h.unchanged
  scopes s hs := by
    rcases Array.mem_push.1 hs with hs | rfl
    · exact h.scopes s hs
    · exact hscope
  closures := h.closures

theorem define (h : store.Apart k) {closure : Closure} (hclosure : closure.Apart k) :
    (store.define closure).2.Apart k where
  unchanged := h.unchanged
  scopes := h.scopes
  closures c hc := by
    rcases Array.mem_push.1 hc with hc | rfl
    · exact h.closures c hc
    · exact hclosure

theorem assign (h : store.Apart k) {name : String} {item : Item}
    (hitem : MayStand k name item)
    (place : Nat) : (store.assign place name item).Apart k where
  unchanged := h.unchanged
  scopes s hs := by
    obtain ⟨n, hn, rfl⟩ := Array.mem_iff_getElem.1 hs
    simp only [Store.assign, Array.size_modify] at hn ⊢
    rw [Array.getElem_modify]
    have hscope := h.scopes _ (Array.getElem_mem hn)
    split
    · exact scopeApart_cons.2 ⟨by rintro _ ⟨⟩; exact hitem, hscope⟩
    · exact hscope
  closures := h.closures

theorem hold (h : store.Apart k) (content : Content) : (store.hold content).2.Apart k :=
  ⟨h.unchanged, h.scopes, h.closures⟩

theorem number (h : store.Apart k) : store.number.2.Apart k :=
  ⟨h.unchanged, h.scopes, h.closures⟩

end Apart

theorem adopt_free (store : Store) {item : Item} (h : item.Free) :
    (adopt item store).1.Free := by
  cases item with
  | method | record => exact h.elim
  | list _ place | dict _ place => cases place <;> trivial
  | _ => trivial

variable {level : Bool}

mutual

/-- Places make no difference to what is in an item. -/
theorem adopt_apart {store : Store} (h : store.Apart k) :
    ∀ {item : Item}, item.Clean level →
    (adopt item store).2.Apart k ∧ (adopt item store).1.Clean level
  | .list items none, hitem => by
      obtain ⟨hstore, hitems⟩ := adoptItems_apart h (Item.clean_list.1 hitem)
      rw [adopt]
      exact ⟨hstore.hold _, Item.clean_list.2 hitems⟩
  | .dict entries none, hitem => by
      obtain ⟨hstore, hentries⟩ := adoptEntries_apart h (Item.clean_dict.1 hitem)
      rw [adopt]
      exact ⟨hstore.hold _, Item.clean_dict.2 hentries⟩
  | .tuple items, hitem => by
      obtain ⟨hstore, hitems⟩ := adoptItems_apart h (Item.clean_tuple.1 hitem)
      rw [adopt]
      exact ⟨hstore, Item.clean_tuple.2 hitems⟩
  | .list _ (some _), hitem | .dict _ (some _), hitem | .null, hitem | .bool _, hitem
  | .int _, hitem | .float _, hitem | .text _, hitem | .bytes _, hitem | .markup _, hitem
  | .range _ _ _, hitem | .view _ _ _, hitem | .slice _ _ _, hitem | .undefined _ _, hitem
  | .macroAt _ _, hitem | .loop _ _ _, hitem | .record _ _ _, hitem | .again _, hitem
  | .self, hitem | .method _ _, hitem | .type _, hitem | .function _, hitem => ⟨h, hitem⟩

theorem adoptItems_apart {store : Store} (h : store.Apart k) : ∀ {items : List Item},
    CleanAll level items →
      (adoptItems items store).2.Apart k ∧ CleanAll level (adoptItems items store).1
  | [], hitems => by
      rw [adoptItems]
      exact ⟨h, hitems⟩
  | item :: rest, hitems => by
      obtain ⟨hitem, hrest⟩ := Item.cleanAll_cons.1 hitems
      obtain ⟨hstore, hitem⟩ := adopt_apart h hitem
      obtain ⟨hstore, hrest⟩ := adoptItems_apart hstore hrest
      rw [adoptItems]
      exact ⟨hstore, Item.cleanAll_cons.2 ⟨hitem, hrest⟩⟩

theorem adoptEntries_apart {store : Store} (h : store.Apart k) :
    ∀ {entries : List (Item × Item)}, CleanEntries level entries →
      (adoptEntries entries store).2.Apart k ∧
      CleanEntries level (adoptEntries entries store).1
  | [], hentries => by
      rw [adoptEntries]
      exact ⟨h, hentries⟩
  | (key, item) :: rest, hentries => by
      obtain ⟨⟨hkey, hitem⟩, hrest⟩ := Item.cleanEntries_cons.1 hentries
      obtain ⟨hstore, hkey⟩ := adopt_apart h hkey
      obtain ⟨hstore, hitem⟩ := adopt_apart hstore hitem
      obtain ⟨hstore, hrest⟩ := adoptEntries_apart hstore hrest
      rw [adoptEntries]
      exact ⟨hstore, Item.cleanEntries_cons.2 ⟨⟨hkey, hitem⟩, hrest⟩⟩

end

end Store

/-! ## Steps -/

/-- Whatever a step of a rendering gives is good, and markup is still apart in
the store that it leaves. -/
def Keeps {α : Type} (k : Marking) (x : Rendering α) (good : α → Prop) : Prop :=
  ∀ store, store.Apart k → Ensures (x store) fun result =>
    result.2.Apart k ∧ good result.1

namespace Keeps

variable {α β : Type} {good : α → Prop} {fine : β → Prop}

theorem pure {a : α} (h : good a) : Keeps k (Pure.pure a) good :=
  fun _ hstore => .ok ⟨hstore, h⟩

theorem bind {x : Rendering α} {f : α → Rendering β} (hx : Keeps k x good)
    (hf : ∀ a, good a → Keeps k (f a) fine) : Keeps k (x >>= f) fine :=
  fun store hstore => (hx store hstore).bind fun result h => hf result.1 h.2 result.2 h.1

theorem map {x : Rendering α} {f : α → β} (hx : Keeps k x good)
    (hf : ∀ a, good a → fine (f a)) : Keeps k (f <$> x) fine :=
  fun store hstore => (hx store hstore).bind fun result h => .ok ⟨h.1, hf result.1 h.2⟩

theorem mono {x : Rendering α} {other : α → Prop} (hx : Keeps k x good)
    (h : ∀ a, good a → other a) : Keeps k x other :=
  fun store hstore result hresult =>
    (hx store hstore result hresult).imp_right (h result.1)

theorem attempt {result : Except RenderError α} (h : Ensures result good) :
    Keeps k (attempt result) good :=
  fun _ hstore => h.map fun _ ha => ⟨hstore, ha⟩

theorem throw (e : RenderError) : Keeps k (throw e : Rendering α) good :=
  fun _ _ => .error e

theorem get : Keeps k (get : Rendering Store) (Store.Apart k) :=
  fun _ hstore => .ok ⟨hstore, hstore⟩

theorem set {store : Store} (h : store.Apart k) :
    Keeps k (set store : Rendering PUnit) fun _ => True :=
  fun _ _ => .ok ⟨h, trivial⟩

theorem modify {f : Store → Store} (hf : ∀ store, store.Apart k → (f store).Apart k) :
    Keeps k (modify f : Rendering PUnit) fun _ => True :=
  fun store hstore => .ok ⟨hf store hstore, trivial⟩

theorem modifyGet {f : Store → α × Store}
    (hf : ∀ store, store.Apart k → (f store).2.Apart k ∧ good (f store).1) :
    Keeps k (modifyGet f : Rendering α) good :=
  fun store hstore => .ok (hf store hstore)

theorem ite {p : Prop} [Decidable p] {x y : Rendering α} (hx : Keeps k x good)
    (hy : Keeps k y good) : Keeps k (if p then x else y) good := by
  split
  · exact hx
  · exact hy

theorem run' {x : Rendering α} (hx : Keeps k x good) {store : Store} (h : store.Apart k) :
    Ensures (x.run' store) good :=
  (hx store h).map fun _ hresult => hresult.2

theorem mapM {f : α → Rendering β} : ∀ {xs : List α}, (∀ x ∈ xs, Keeps k (f x) fine) →
    Keeps k (xs.mapM f) fun ys => ∀ y ∈ ys, fine y
  | [], _ => by
      rw [List.mapM_nil]
      exact .pure (by simp)
  | x :: rest, h => by
      rw [List.mapM_cons]
      refine (h x List.mem_cons_self).bind fun y hy => ?_
      refine (mapM fun z hz => h z (List.mem_cons_of_mem x hz)).bind fun ys hys =>
        .pure ?_
      exact List.forall_mem_cons.2 ⟨hy, hys⟩

/-- A step that fails or not, and gives nothing that matters. -/
theorem check (result : Except RenderError α) :
    Keeps k (Template.attempt result) fun _ => True :=
  .attempt (.trivial result)

end Keeps

/-! ## Items on the way -/

variable {level : Bool} {item : Item} {items : List Item}

/-- Nothing has changed, so an item is what it was. -/
theorem now_keeps (item : Item) : Keeps k (now item) (· = item) :=
  Keeps.get.bind fun _ hstore => .pure (hstore.refresh item)

theorem allNow_keeps (h : CleanAll level items) :
    Keeps k (allNow items) (CleanAll level) :=
  .mapM fun item hitem => (now_keeps item).mono fun _ heq => heq ▸ h item hitem

theorem freshSerial_keeps : Keeps k freshSerial fun _ => True :=
  fun _ hstore => .ok ⟨hstore.number, trivial⟩

theorem stamp_keeps (h : item.Clean level) :
    Keeps k (stamp item) fun stamped => stamped.Clean level ∧
    (item.Free → stamped.Free) := by
  rw [stamp.eq_def]
  split
  · exact freshSerial_keeps.bind fun n _ => .pure ⟨.undefined _ _, fun _ => trivial⟩
  · have hadopt : Keeps k (fun store => .ok (store.adopt item)) fun adopted =>
        adopted.Clean level ∧ (item.Free → adopted.Free) :=
      fun store hstore =>
        .ok ⟨(Store.adopt_apart hstore h).1, (Store.adopt_apart hstore h).2,
          store.adopt_free⟩
    refine hadopt.bind fun adopted hadopted => Keeps.get.bind fun store hstore => .pure ?_
    rw [hstore.refresh]
    exact hadopted

/-- An item that a rendering takes up is as clean as it was. -/
theorem stamp_clean (h : item.Clean level) : Keeps k (stamp item) (Item.Clean level) :=
  (stamp_keeps h).mono fun _ => And.left

theorem give_keeps {result : Except RenderError Item}
    (h : Ensures result (Item.Clean level)) :
    Keeps k (give result) (Item.Clean level) :=
  (Keeps.attempt h).bind fun _ => stamp_clean

theorem mayStand_stamp {name : String} (h : MayStand k name item) :
    Keeps k (stamp item) (MayStand k name) :=
  (stamp_keeps h.1).mono fun _ hstamped =>
    ⟨hstamped.1, fun hcalled => hstamped.2 (h.2 hcalled)⟩

end SchemaDocs.Template
