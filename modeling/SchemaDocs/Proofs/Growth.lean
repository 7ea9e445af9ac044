import SchemaDocs.Proofs.SourceTrees
import SchemaDocs.Proofs.Standing

/-!
# Renderings that go through

As long as no list and no dictionary is changed, a store only grows: scopes,
macros and contents are added, and what was there stays. `Grows` says so of two
stores, and `Gives` says of a step of a rendering that it goes through in a store
and in all that grow out of it. A fact of this form stays true while other steps
are made, so facts about steps are put together without a word about the stores
between them.
-/

namespace SchemaDocs.Template

/-! ## Stores that grow -/

/-- Nothing has changed in a store that came out of another, and what the other had
is still there. -/
structure Store.Grows (s s' : Store) : Prop where
  unchanged : s'.changed = false
  modules : s'.modules = s.modules
  scopes : ∀ (place : Nat) (scope : Scope), s.scopes[place]? = some scope →
    s'.scopes[place]? = some scope
  closures : ∀ (place : Nat) (closure : Closure), s.closures[place]? = some closure →
    s'.closures[place]? = some closure

namespace Store.Grows

variable {s s' s'' : Store}

theorem refl (h : s.changed = false) : s.Grows s :=
  ⟨h, rfl, fun _ _ => id, fun _ _ => id⟩

theorem trans (h : s.Grows s') (h' : s'.Grows s'') : s.Grows s'' where
  unchanged := h'.unchanged
  modules := h'.modules.trans h.modules
  scopes place scope hscope := h'.scopes place scope (h.scopes place scope hscope)
  closures place closure hclosure :=
    h'.closures place closure (h.closures place closure hclosure)

theorem same (h : s.Grows s') : s'.Grows s' := refl h.unchanged

theorem hold (h : s.changed = false) (content : Content) : s.Grows (s.hold content).2 :=
  ⟨h, rfl, fun _ _ => id, fun _ _ => id⟩

theorem allocate (h : s.changed = false) (scope : Scope) :
    s.Grows (s.allocate scope).2 where
  unchanged := h
  modules := rfl
  scopes place held hheld := by
    rw [Store.allocate, Array.getElem?_push, if_neg]
    · exact hheld
    · rintro rfl
      rw [Array.getElem?_size] at hheld
      cases hheld
  closures _ _ := id

end Store.Grows

/-- To set a name in a new scope is to begin the scope with it. -/
theorem Store.assign_allocate (s : Store) (scope : Scope) (name : String) (item : Item) :
    (s.allocate scope).2.assign s.scopes.size name item =
      (s.allocate ((name, some item) :: scope)).2 := by
  have hscopes : (s.scopes.push scope).modify s.scopes.size ((name, some item) :: ·) =
      s.scopes.push ((name, some item) :: scope) := by
    refine Array.ext_getElem? fun i => ?_
    rw [Array.getElem?_modify, Array.getElem?_push, Array.getElem?_push]
    by_cases hi : s.scopes.size = i
    · rw [if_pos hi, if_pos hi.symm, if_pos hi.symm]
      rfl
    · rw [if_neg hi, if_neg (Ne.symm hi), if_neg (Ne.symm hi)]
  rw [Store.assign, Store.allocate, hscopes]
  rfl

/-- A step goes through in the store and in whatever grows out of it, and what it
gives is good. -/
def Store.Gives {α : Type} (s : Store) (x : Rendering α) (good : α → Prop) : Prop :=
  ∀ s', s.Grows s' → ∃ a s'', x s' = .ok (a, s'') ∧ good a ∧ s'.Grows s''

namespace Store.Gives

variable {α β : Type} {s s' : Store} {good : α → Prop} {fine : β → Prop}

theorem later {x : Rendering α} (h : s.Gives x good) (hs : s.Grows s') :
    s'.Gives x good :=
  fun s'' hs'' => h s'' (hs.trans hs'')

theorem pure {a : α} (h : good a) : s.Gives (Pure.pure a) good :=
  fun s' hs => ⟨a, s', rfl, h, hs.same⟩

theorem bind {x : Rendering α} {f : α → Rendering β} (hx : s.Gives x good)
    (hf : ∀ a, good a → s.Gives (f a) fine) : s.Gives (x >>= f) fine := by
  intro s' hs
  obtain ⟨a, s₁, heq, ha, hs₁⟩ := hx s' hs
  obtain ⟨b, s₂, heq', hb, hs₂⟩ := hf a ha s₁ (hs.trans hs₁)
  refine ⟨b, s₂, ?_, hb, hs₁.trans hs₂⟩
  change (x s' >>= fun result => f result.1 result.2) = _
  rw [heq]
  exact heq'

/-- A step that gives one thing only. -/
theorem andThen {x : Rendering α} {f : α → Rendering β} {a : α} (hx : s.Gives x (· = a))
    (hf : s.Gives (f a) fine) : s.Gives (x >>= f) fine :=
  hx.bind fun _ ha => ha ▸ hf

theorem mono {x : Rendering α} {other : α → Prop} (hx : s.Gives x good)
    (h : ∀ a, good a → other a) : s.Gives x other :=
  fun s' hs => (hx s' hs).imp fun a => Exists.imp fun _ h' => ⟨h'.1, h a h'.2.1, h'.2.2⟩

theorem attempt {result : Except RenderError α} {a : α} (h : result = .ok a) :
    s.Gives (attempt result) (· = a) := by
  subst h
  exact fun s' hs => ⟨a, s', rfl, rfl, hs.same⟩

theorem mapM {f : α → Rendering β} {R : α → β → Prop} : ∀ {as : List α},
    (∀ a ∈ as, s.Gives (f a) (R a)) → s.Gives (as.mapM f) (List.Forall₂ R as)
  | [], _ => by
      rw [List.mapM_nil]
      exact .pure .nil
  | a :: rest, h => by
      rw [List.mapM_cons]
      refine (h a List.mem_cons_self).bind fun b hb => ?_
      exact (mapM fun a ha => h a (List.mem_cons_of_mem _ ha)).bind fun bs hbs =>
        .pure (.cons hb hbs)

/-- A step that looks at the store. -/
theorem get_bind {f : Store → Rendering β} (h : ∀ s', s.Grows s' → s'.Gives (f s') fine) :
    s.Gives (get >>= f) fine :=
  fun s' hs => h s' hs s' hs.same

theorem hold_bind {content : Content} {f : Nat → Rendering β}
    (h : ∀ n, s.Gives (f n) fine) :
    s.Gives (modifyGet (·.hold content) >>= f) fine := by
  intro s' hs
  have hheld := Store.Grows.hold hs.unchanged content
  obtain ⟨b, s₁, heq, hb, hs₁⟩ := h s'.contents.size _ (hs.trans hheld)
  exact ⟨b, s₁, heq, hb, hheld.trans hs₁⟩

/-- A step into a new scope. -/
theorem enter {view : View} {scope : Scope} {f : View → Rendering β}
    (h : ∀ s' place, s.Grows s' → s'.scopes[place]? = some scope →
      s'.Gives (f ⟨view.page, place :: view.scopes⟩) fine) :
    s.Gives (view.enter scope >>= f) fine := by
  intro s' hs
  have hentered := Store.Grows.allocate hs.unchanged scope
  have hplace : (s'.allocate scope).2.scopes[s'.scopes.size]? = some scope :=
    Array.getElem?_push_size
  obtain ⟨b, s₁, heq, hb, hs₁⟩ :=
    h _ s'.scopes.size (hs.trans hentered) hplace _ hentered.same
  exact ⟨b, s₁, heq, hb, hentered.trans hs₁⟩

/-- A step into a new scope in which a name is set at once. -/
theorem enter_assign {view : View} {scope : Scope} {name : String} {item : Item}
    {f : View → Rendering β}
    (h : ∀ s' place, s.Grows s' → s'.scopes[place]? = some ((name, some item) :: scope) →
      s'.Gives (f ⟨view.page, place :: view.scopes⟩) fine) :
    s.Gives (do
      let inner ← view.enter scope
      inner.assign name item
      f inner) fine := by
  intro s' hs
  have hentered := Store.Grows.allocate hs.unchanged ((name, some item) :: scope)
  have hplace : (s'.allocate ((name, some item) :: scope)).2.scopes[s'.scopes.size]? =
      some ((name, some item) :: scope) := Array.getElem?_push_size
  obtain ⟨b, s₁, heq, hb, hs₁⟩ :=
    h _ s'.scopes.size (hs.trans hentered) hplace _ hentered.same
  refine ⟨b, s₁, ?_, hb, hentered.trans hs₁⟩
  rw [← heq, ← Store.assign_allocate]
  rfl

end Store.Gives

/-! ## Items on the way -/

/-- An item that is part of the rendering already. -/
def Item.Settled (item : Item) : Prop :=
  ∀ store : Store, store.changed = false → stamp item store = .ok (item, store)

theorem Item.settled_of_adopt {item : Item}
    (hadopt : ∀ store, Store.adopt item store = (item, store))
    (hknown : ∀ why, item ≠ .undefined why none) : item.Settled := by
  intro store hstore
  have hrefresh : store.refresh item = item := by
    rw [Store.refresh, hstore]
    rfl
  have hstamp : stamp item store = .ok (store.refresh item, store) := by
    rw [stamp.eq_def]
    split
    · next why => exact absurd rfl (hknown why)
    · change Except.ok ((Store.adopt item store).2.refresh (Store.adopt item store).1,
        (Store.adopt item store).2) = _
      rw [hadopt]
  rw [hstamp, hrefresh]

theorem Stands.settled {v : Value} {item : Item} (h : Stands v item) : item.Settled := by
  refine Item.settled_of_adopt h.adopt fun why heq => ?_
  subst heq
  cases h

namespace Item

theorem settled_int (n : Int) : (Item.int n).Settled := (Stands.int n).settled

theorem settled_text (s : String) : (Item.text s).Settled := (Stands.text s).settled

theorem settled_markup (s : String) : (Item.markup s).Settled :=
  settled_of_adopt (fun _ => rfl) nofun

theorem settled_macroAt (info : MacroInfo) (place : Nat) :
    (Item.macroAt info place).Settled :=
  settled_of_adopt (fun _ => rfl) nofun

theorem settled_imported (name : String) (serial : Nat) (exports : List (String × Item))
    (body : String) : (Item.imported name serial exports body).Settled :=
  settled_of_adopt (fun _ => rfl) nofun

end Item

variable {s s' : Store} {outside : Outside} {view : View} {item : Item}

theorem gives_stamp (h : item.Settled) : s.Gives (stamp item) (· = item) :=
  fun s' hs => ⟨item, s', h s' hs.unchanged, rfl, hs.same⟩

/-- What is taken up stands for its data. -/
theorem gives_adopt {v : Value} (h : Adopts v item) :
    s.Gives (stamp item) (Stands v) := by
  intro s' hs
  obtain ⟨taken, contents, heq, htaken⟩ := h s'
  refine ⟨taken, { s' with contents }, ?_, htaken, hs.unchanged, rfl, fun _ _ => id,
    fun _ _ => id⟩
  rw [stamp.eq_def]
  split
  · have hsame := (Prod.ext_iff.1 heq).1
    subst hsame
    cases htaken
  · change Except.ok ((Store.adopt item s').2.refresh (Store.adopt item s').1,
      (Store.adopt item s').2) = _
    rw [heq, Store.refresh]
    simp only [hs.unchanged, Bool.false_eq_true, if_false]

theorem gives_give {result : Except RenderError Item} (hresult : result = .ok item)
    (h : item.Settled) : s.Gives (give result) (· = item) :=
  (Store.Gives.attempt hresult).andThen (gives_stamp h)

theorem gives_now (item : Item) : s.Gives (now item) (· = item) := by
  refine Store.Gives.get_bind fun s' hs => .pure ?_
  rw [Store.refresh, hs.unchanged]
  rfl

theorem gives_allNow (items : List Item) : s.Gives (allNow items) (· = items) :=
  (Store.Gives.mapM (R := fun item found => found = item) fun item _ =>
    gives_now item).mono
    fun _ h => List.forall₂_eq_eq_eq ▸ h.flip

/-! ## Names -/

/-- A scope that does not know a name is passed over. -/
theorem View.find_around {page : List (String × Item)} {places : List Nat} {place : Nat}
    {scope : Scope} {name : String} (hscope : s.scopes[place]? = some scope)
    (hname : scope.lookup name = none) (hs : s.Grows s') :
    View.find ⟨page, place :: places⟩ s' name = View.find ⟨page, places⟩ s' name := by
  have hfind : s'.find? (place :: places) name = s'.find? places name := by
    rw [Store.find?, List.findSome?_cons, Store.scope, hs.scopes place scope hscope,
      Option.getD_some, hname]
    rfl
  rw [View.find, View.find, hfind]

/-- What a view finds under a name, in a store and in all that grow out of it. -/
def View.Finds (view : View) (s : Store) (name : String) (item : Item) : Prop :=
  ∀ s', s.Grows s' → view.find s' name = item

namespace View.Finds

variable {page : List (String × Item)} {places : List Nat} {place : Nat} {scope : Scope}
  {name : String}

theorem later (h : view.Finds s name item) (hs : s.Grows s') : view.Finds s' name item :=
  fun s'' hs'' => h s'' (hs.trans hs'')

theorem inside (hscope : s.scopes[place]? = some scope)
    (hname : scope.lookup name = some (some item)) :
    View.Finds ⟨page, place :: places⟩ s name item := by
  intro s' hs
  have hfind : s'.find? (place :: places) name = some (some item) := by
    rw [Store.find?, List.findSome?_cons, Store.scope, hs.scopes place scope hscope,
      Option.getD_some, hname]
  rw [View.find, hfind, Store.refresh, hs.unchanged]
  rfl

theorem around (hscope : s.scopes[place]? = some scope) (hname : scope.lookup name = none)
    (h : View.Finds ⟨page, places⟩ s name item) :
    View.Finds ⟨page, place :: places⟩ s name item :=
  fun s' hs => (View.find_around hscope hname hs).trans (h s' hs)

theorem onPage (hname : page.lookup name = some item) :
    View.Finds ⟨page, []⟩ s name item := by
  intro s' hs
  rw [View.find, Store.refresh, hs.unchanged]
  simp [Store.find?, hname]

end View.Finds

/-! ## Expressions -/

/-- An expression has an item. -/
def Store.Evaluates (s : Store) (outside : Outside) (view : View)
    (e : Expr) (item : Item) : Prop :=
  s.Gives (e.evaluate outside view) (· = item)

namespace Store.Evaluates

variable {e e' : Expr} {found : Item} {n : Int}

theorem name {name : String} (h : view.Finds s name item) (hitem : item.Settled) :
    s.Evaluates outside view (.name name) item := by
  rw [Store.Evaluates, Expr.evaluate]
  refine Gives.get_bind fun s' hs => ?_
  rw [h s' hs]
  exact gives_stamp hitem

theorem const (hwritten : constantItem item = .ok item) (hitem : item.Settled) :
    s.Evaluates outside view (.const item) item := by
  rw [Store.Evaluates, Expr.evaluate]
  exact gives_give hwritten hitem

theorem attr {label : String} (h : s.Evaluates outside view e item)
    (hattr : item.attr label = .ok found) (hfound : found.Settled) :
    s.Evaluates outside view (.attr e label) found := by
  rw [Store.Evaluates, Expr.evaluate]
  exact Gives.andThen h (gives_give hattr hfound)

/-- Data under an attribute of data. -/
theorem entry {label : String} {entries : List (String × Value)} {v : Value}
    (h : s.Evaluates outside view e item) (hitem : Stands (.object entries) item)
    (hlabel : isCarried label = false) (hv : entries.lookup label = some v) :
    ∃ found, s.Evaluates outside view (.attr e label) found ∧ Stands v found := by
  obtain ⟨found, hattr, hfound⟩ := hitem.attr hlabel hv
  exact ⟨found, h.attr hattr hfound.settled, hfound⟩

theorem arguments {function : String} {es : List Expr} {items : List Item}
    (h : List.Forall₂ (s.Evaluates outside view) es items) : ∀ before : List Item,
    s.Gives (Expr.evaluateArguments outside view function ⟨before, []⟩
      (es.map fun e => (.positional, e))) (· = ⟨before ++ items, []⟩) := by
  induction h with
  | nil =>
      intro before
      rw [List.map_nil, Expr.evaluateArguments]
      exact .pure (by rw [List.append_nil])
  | @cons _ item _ _ h _ ih =>
      intro before
      have hadd : Arguments.add function ⟨before, []⟩ .positional item =
          .ok ⟨before ++ [item], []⟩ := rfl
      rw [List.map_cons, Expr.evaluateArguments]
      refine Gives.andThen h ((Gives.attempt hadd).andThen ?_)
      refine (ih (before ++ [item])).mono fun args hargs => ?_
      rw [hargs, List.append_assoc, List.singleton_append]

/-- A filter without arguments. -/
theorem filter {word : String} (h : s.Evaluates outside view e item)
    (hfilter : applyFilter word ⟨[item], []⟩ = .ok found) (hfound : found.Settled) :
    s.Evaluates outside view (.filter e word []) found := by
  rw [Store.Evaluates, Expr.evaluate]
  have hnone :
      s.Gives (Expr.evaluateArguments outside view (functionName filters word) .none [])
        (· = ⟨[], []⟩) := arguments .nil []
  refine Gives.andThen h (hnone.andThen ((gives_now item).andThen ?_))
  exact gives_give hfilter hfound

theorem arithmetic {op : Item.ArithmeticOp} {left right : Item} (hop : op ≠ .mod)
    (h : s.Evaluates outside view e left) (h' : s.Evaluates outside view e' right)
    (hresult : left.arithmetic op right = .ok found) (hfound : found.Settled) :
    s.Evaluates outside view (.arithmetic op e e') found := by
  rw [Store.Evaluates, Expr.evaluate]
  · exact Gives.andThen h
      (Gives.andThen h' ((gives_now left).andThen (gives_give hresult hfound)))
  · exact fun _ _ heq => absurd heq hop

theorem compare {op : Item.CompareOp} {left right : Item} {b : Bool}
    (h : s.Evaluates outside view e left) (h' : s.Evaluates outside view e' right)
    (hresult : left.compareWith op right = .ok (.bool b)) :
    s.Evaluates outside view (.compare e [(op, e')]) (.bool b) := by
  rw [Store.Evaluates, Expr.evaluate]
  refine Gives.andThen h ?_
  rw [Expr.evaluateLinks]
  refine Gives.andThen h' ((gives_now left).andThen ?_)
  refine (Gives.attempt (a := b) ?_).andThen ?_
  · rw [hresult]
    rfl
  · cases b with
    | false => exact .pure rfl
    | true =>
        rw [if_pos rfl, Expr.evaluateLinks]
        exact .pure rfl

end Store.Evaluates

/-! ## Statements -/

theorem Stmt.runAll_append (outside : Outside) (view : View) (rest : List Stmt) :
    ∀ body : List Stmt, Stmt.runAll outside view (body ++ rest) = do
      let text ← Stmt.runAll outside view body
      return text ++ (← Stmt.runAll outside view rest)
  | [] => by
      rw [List.nil_append, Stmt.runAll, pure_bind]
      simp only [String.empty_append, bind_pure]
  | first :: body => by
      rw [List.cons_append, Stmt.runAll, Stmt.runAll,
        runAll_append outside view rest body]
      simp only [bind_assoc, pure_bind, String.append_assoc]

/-- Statements write a text. -/
def Store.Writes (s : Store) (outside : Outside) (view : View)
    (body : List Stmt) (text : String) :
    Prop :=
  s.Gives (Stmt.runAll outside view body) (· = text)

namespace Store.Writes

variable {body rest : List Stmt} {first : Stmt} {text text' : String} {e : Expr}

theorem of_eq (h : s.Writes outside view body text) (heq : text = text') :
    s.Writes outside view body text' :=
  heq ▸ h

theorem nil : s.Writes outside view [] "" := by
  rw [Store.Writes, Stmt.runAll]
  exact .pure rfl

theorem cons (h : s.Gives (first.run outside view) (· = text))
    (hrest : s.Writes outside view rest text') :
    s.Writes outside view (first :: rest) (text ++ text') := by
  rw [Store.Writes, Stmt.runAll]
  exact h.andThen (Gives.andThen hrest (.pure rfl))

theorem one (h : s.Gives (first.run outside view) (· = text)) :
    s.Writes outside view [first] text := by
  refine (cons h nil).of_eq ?_
  rw [String.append_empty]

theorem append (h : s.Writes outside view body text)
    (hrest : s.Writes outside view rest text') :
    s.Writes outside view (body ++ rest) (text ++ text') := by
  rw [Store.Writes, Stmt.runAll_append]
  exact Gives.andThen h (Gives.andThen hrest (.pure rfl))

theorem text_cons (written : String) (hrest : s.Writes outside view rest text') :
    s.Writes outside view (.text written :: rest) (written ++ text') := by
  refine cons ?_ hrest
  rw [Stmt.run]
  exact .pure rfl

theorem print_cons (h : s.Evaluates outside view e item)
    (hprinted : item.printed = .ok text)
    (hrest : s.Writes outside view rest text') :
    s.Writes outside view (.print e :: rest) (text ++ text') := by
  refine cons ?_ hrest
  rw [Stmt.run]
  exact Gives.andThen h (Gives.attempt hprinted)

theorem print (h : s.Evaluates outside view e item) (hprinted : item.printed = .ok text) :
    s.Writes outside view [.print e] text :=
  (print_cons h hprinted nil).of_eq String.append_empty

theorem print_text (h : s.Evaluates outside view e item)
    (hprinted : item.printed = .ok text)
    (written : String) :
    s.Writes outside view [.print e, .text written] (text ++ written) := by
  refine (print_cons h hprinted (text_cons written nil)).of_eq ?_
  rw [String.append_empty]

theorem branch {otherwise : List Stmt} {holds : Bool}
    (h : s.Evaluates outside view e item) (htruthy : item.truthy = .ok holds)
    (hyes : holds = true → s.Writes outside view body text)
    (hno : holds = false → s.Writes outside view otherwise text) :
    s.Writes outside view [.branch e body otherwise] text := by
  refine one ?_
  rw [Stmt.run]
  refine Gives.andThen h ((Gives.attempt htruthy).andThen ?_)
  cases holds with
  | false => exact hno rfl
  | true => exact hyes rfl

end Store.Writes

/-! ## Loops -/

section Loops

variable {α : Type} {f : α → Value}

theorem gives_rounds {render : α → String} {round : Item → Item → Rendering String}
    (place : Nat)
    (source : Item) :
    ∀ {as : List α} {items : List Item} {fuel : Nat} (progress : Progress),
    StandAll (as.map f) items → as.length < fuel →
    (∀ a ∈ as, ∀ item, Stands (f a) item →
      ∀ state, s.Gives (round item state) (· = render a)) →
    s.Gives (runRounds (fun _ => pure true) round place source fuel progress items)
      fun p =>
      p.out = progress.out ++ Layout.each render as ∧ p.done = progress.done + as.length
  | [], _, fuel + 1, progress, .nil, _, _ => by
      rw [runRounds]
      refine Store.Gives.get_bind fun s' hs => ?_
      rw [hs.unchanged]
      exact .pure ⟨String.append_empty.symm, rfl⟩
  | a :: as, _, fuel + 1, progress, @StandAll.cons _ _ item _ h hrest, hfuel, hround => by
      rw [runRounds]
      refine Store.Gives.get_bind fun s' hs => ?_
      rw [hs.unchanged]
      refine Store.Gives.andThen (.pure rfl) ?_
      refine (gives_now item).andThen (Store.Gives.andThen (.pure rfl) ?_)
      refine Store.Gives.get_bind fun s'' hs' => ?_
      refine ((hround a List.mem_cons_self item h _).later (hs.trans hs')).andThen ?_
      refine ((gives_rounds place source _ hrest (Nat.lt_of_succ_lt_succ hfuel)
        fun b hb => hround b
        (List.mem_cons_of_mem a hb)).later (hs.trans hs')).mono fun p hp => ⟨?_, ?_⟩
      · rw [hp.1, String.append_assoc]
        rfl
      · rw [hp.2, List.length_cons, Nat.add_assoc, Nat.add_comm 1]

/-- A loop over the items of a list writes them one after the other. -/
theorem Store.Writes.each_cons {as : List α} {name : String}
    {e : Expr} {body rest : List Stmt}
    {text : String} (render : α → String) (h : s.Evaluates outside view e item)
    (hitem : Stands (.list (as.map f)) item) (hlimit : as.length < roundLimit)
    (hbody : ∀ a ∈ as, ∀ item, Stands (f a) item →
      ∀ (s' : Store) (place : Nat), s.Grows s' →
      s'.scopes[place]? = some [(name, some item)] →
      s'.Writes outside ⟨view.page, place :: view.scopes⟩ body (render a))
    (hrest : s.Writes outside view rest text) :
    s.Writes outside view (.loop (.name name) e none body [] {} :: rest)
      (Layout.each render as ++ text) := by
  refine cons ?_ hrest
  cases hitem with
  | @list _ items place hitems =>
  rw [Stmt.run]
  refine Gives.andThen h ((Gives.attempt rfl).andThen (Gives.hold_bind fun n => ?_))
  refine Gives.bind (gives_rounds n _ .start hitems hlimit fun a ha item hstands state =>
    Gives.enter_assign fun s' place hs hscope =>
      hbody a ha item hstands s' place hs hscope)
    fun p hp => ?_
  obtain ⟨hout, hdone⟩ := hp
  have hstart : p.out = Layout.each render as := hout.trans String.empty_append
  by_cases hnone : p.done = 0
  · have has : as = [] := by
      rw [hnone, Progress.start, Nat.zero_add] at hdone
      exact List.length_eq_zero_iff.1 hdone.symm
    rw [if_neg (not_not.2 hnone)]
    refine Gives.enter fun s' place hs hscope => ?_
    rw [has]
    exact Store.Writes.nil
  · rw [if_pos hnone]
    exact .pure hstart

end Loops

/-! ## Macros -/

/-- The macro as it is defined on a page, inside some scopes. -/
def PlainMacro.closure (m : PlainMacro) (page : List (String × Item))
    (scopes : List Nat) :
    Closure :=
  ⟨m.info, m.params.map fun name => (name, none), m.body, [], page, scopes⟩

/-- The scope that a call of the macro begins with. -/
def PlainMacro.scope (m : PlainMacro) (items : List Item) : Scope :=
  m.params.zip (items.map some)

theorem bindArguments_zip : ∀ {params : List String} {items : List Item},
    items.length = params.length →
    bindArguments [] params items = (params.zip (items.map some), [], [])
  | [], [], _ => rfl
  | name :: params, item :: items, h => by
      rw [bindArguments, bindArguments_zip (Nat.succ.inj h)]
      rfl

theorem lookup_zip_isSome {name : String} : ∀ {params : List String} {items : List Item},
    items.length = params.length → name ∈ params →
    ∃ item, (params.zip (items.map some)).lookup name = some (some item)
  | other :: params, item :: items, h, hname => by
      rw [List.map_cons, List.zip_cons_cons, List.lookup_cons]
      cases heq : name == other with
      | true => exact ⟨item, rfl⟩
      | false =>
          refine lookup_zip_isSome (Nat.succ.inj h) (List.mem_of_ne_of_mem ?_ hname)
          exact ne_of_beq_false heq

theorem gives_fillDefaults {scope : Scope} : ∀ {names : List String},
    (∀ name ∈ names, ∃ item, scope.lookup name = some (some item)) →
    s.Gives (fillDefaults outside view scope (names.map fun name => (name, none)))
      fun _ => True
  | [], _ => .pure trivial
  | name :: names, h => by
      obtain ⟨item, hitem⟩ := h name List.mem_cons_self
      rw [List.map_cons, fillDefaults.eq_def]
      simp only [hitem]
      exact gives_fillDefaults fun name hname => h name (List.mem_cons_of_mem _ hname)

theorem PlainMacro.gives_apply {m : PlainMacro} {page : List (String × Item)}
    {scopes : List Nat}
    {items : List Item} {text : String} (hitems : items.length = m.params.length)
    (hbody : ∀ (s' : Store) (place : Nat), s.Grows s' →
      s'.scopes[place]? = some (m.scope items) →
      s'.Writes outside ⟨page, place :: scopes⟩ m.body text) :
    s.Gives ((m.closure page scopes).apply outside ⟨items, []⟩) (· = .markup text) := by
  have hbind : bindArguments [] (m.closure page scopes).info.params items =
      (m.scope items, [], []) :=
    bindArguments_zip hitems
  rw [Closure.apply]
  simp only [hbind]
  refine Store.Gives.andThen (.pure rfl) ?_
  refine (Store.Gives.attempt rfl).andThen ((Store.Gives.attempt rfl).andThen ?_)
  refine Store.Gives.andThen (.pure rfl) (Store.Gives.enter fun s' place hs hscope => ?_)
  have hdefaults : s'.Gives (fillDefaults outside ⟨page, place :: scopes⟩ (m.scope items)
      (m.closure page scopes).params) fun _ => True :=
    gives_fillDefaults fun name hname => lookup_zip_isSome hitems hname
  refine hdefaults.bind fun _ _ => ?_
  have hscope : s'.scopes[place]? = some (m.scope items) := by
    simpa [PlainMacro.closure, unsetScope] using hscope
  exact Store.Gives.andThen (hbody s' place hs hscope) (.pure rfl)

/-- A call of a macro gives what its body writes. -/
theorem Store.Evaluates.call {m : PlainMacro} {depth place : Nat}
    {page : List (String × Item)}
    {scopes : List Nat} {f : Expr} {es : List Expr} {items : List Item} {text : String}
    (hf : s.Evaluates (Layout.outside (depth + 1)) view f (.macroAt m.info place))
    (hplace : s.closures[place]? = some (m.closure page scopes))
    (hes : List.Forall₂ (s.Evaluates (Layout.outside (depth + 1)) view) es items)
    (hitems : items.length = m.params.length)
    (hbody : ∀ (s' : Store) (place : Nat), s.Grows s' →
      s'.scopes[place]? = some (m.scope items) →
      s'.Writes (Layout.outside depth) ⟨page, place :: scopes⟩ m.body text) :
    s.Evaluates (Layout.outside (depth + 1)) view
      (.call f (es.map fun e => (.positional, e)))
      (.markup text) := by
  rw [Store.Evaluates, Expr.evaluate]
  refine Gives.andThen hf ((arguments hes []).andThen ?_)
  rw [callItem]
  refine Gives.andThen (.pure rfl)
    ((gives_allNow items).andThen ((gives_now _).andThen ?_))
  refine Gives.get_bind fun s' hs => ?_
  simp only [hs.closures place _ hplace]
  exact (PlainMacro.gives_apply hitems hbody).later hs

end SchemaDocs.Template
