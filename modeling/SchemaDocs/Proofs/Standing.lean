import SchemaDocs.Proofs.Failure
import SchemaDocs.Template.Evaluate

/-!
# Items that stand for data

Data becomes part of a rendering as it is, but for the places that its lists and
dictionaries get. `Stands` says that an item is what some data became. Such an
item is taken up again without a change, and what a template asks of it can be
told from the data: its attributes, whether it counts as true, and how it is
shown.
-/

namespace SchemaDocs.Value

/-! ## The quoted form of data -/

theorem literalItems_cons (v : Value) (rest : List Value) :
    literalItems (v :: rest) =
      v.literal ++ if rest.isEmpty then "" else ", " ++ literalItems rest := by
  cases rest with
  | nil => simp [literalItems]
  | cons next rest => simp [literalItems, String.append_assoc]

theorem literalEntries_cons (key : String) (v : Value) (rest : List (String × Value)) :
    literalEntries ((key, v) :: rest) = Text.quoted key ++ ": " ++ v.literal ++
      if rest.isEmpty then "" else ", " ++ literalEntries rest := by
  cases rest with
  | nil => simp [literalEntries]
  | cons next rest => simp [literalEntries, String.append_assoc]

end SchemaDocs.Value

namespace SchemaDocs.Template

mutual

inductive Stands : Value → Item → Prop
  | null : Stands .null .null
  | bool (b : Bool) : Stands (.bool b) (.bool b)
  | int (n : Int) : Stands (.int n) (.int n)
  | float (x : Binary64) : Stands (.float x) (.float x)
  | text (s : String) : Stands (.text s) (.text s)
  | bytes (octets : List UInt8) : Stands (.bytes octets) (.bytes octets)
  | list {vs : List Value} {items : List Item} (place : Nat) :
      StandAll vs items → Stands (.list vs) (.list items (some place))
  | object {entries : List (String × Value)} {items : List (Item × Item)} (place : Nat) :
      StandEntries entries items → Stands (.object entries) (.dict items (some place))

inductive StandAll : List Value → List Item → Prop
  | nil : StandAll [] []
  | cons {v : Value} {vs : List Value} {item : Item} {items : List Item} :
      Stands v item → StandAll vs items → StandAll (v :: vs) (item :: items)

inductive StandEntries : List (String × Value) → List (Item × Item) → Prop
  | nil : StandEntries [] []
  | cons {v : Value} {entries : List (String × Value)} {item : Item}
      {items : List (Item × Item)} (key : String) :
      Stands v item → StandEntries entries items →
      StandEntries ((key, v) :: entries) ((.text key, item) :: items)

end

variable {v : Value} {vs : List Value} {entries : List (String × Value)} {item : Item}
  {items : List Item}

/-! ## Taking up data -/

theorem bind_apply_eq {α β σ : Type} {x : StateM σ α} {f : α → StateM σ β}
    {s s' : σ} {a : α}
    (h : x s = (a, s')) : (x >>= f) s = f a s' := by
  simp only [bind, StateT.bind, h]

theorem Stands.adopt (h : Stands v item) (store : Store) :
    Store.adopt item store = (item, store) := by
  cases h <;> rfl

/-- When the item is taken up, it stands for the data. -/
def Adopts (v : Value) (item : Item) : Prop :=
  ∀ store : Store, ∃ taken contents,
    Store.adopt item store = (taken, { store with contents }) ∧ Stands v taken

theorem Stands.adopts (h : Stands v item) : Adopts v item :=
  fun store => ⟨item, store.contents, h.adopt store, h⟩

theorem adoptItems_stands (h : List.Forall₂ Adopts vs items) : ∀ store : Store,
    ∃ taken contents, Store.adoptItems items store = (taken, { store with contents }) ∧
      StandAll vs taken := by
  induction h with
  | nil => exact fun store => ⟨[], store.contents, rfl, .nil⟩
  | cons h _ ih =>
      intro store
      obtain ⟨item, contents, heq, hitem⟩ := h store
      obtain ⟨items, contents', heq', hitems⟩ := ih { store with contents }
      refine ⟨item :: items, contents', ?_, .cons hitem hitems⟩
      rw [Store.adoptItems, bind_apply_eq heq]
      exact bind_apply_eq heq'

theorem Adopts.list (h : List.Forall₂ Adopts vs items) :
    Adopts (.list vs) (.list items) := by
  intro store
  obtain ⟨items, contents, heq, hitems⟩ := adoptItems_stands h store
  refine ⟨_, contents.push (.items items), ?_, .list contents.size hitems⟩
  rw [Store.adopt]
  exact bind_apply_eq heq

/-- Entries under the same keys, which are taken up. -/
def AdoptsEntry (e : String × Value) (e' : Item × Item) : Prop :=
  e'.1 = .text e.1 ∧ Adopts e.2 e'.2

theorem adoptEntries_stands {items : List (Item × Item)}
    (h : List.Forall₂ AdoptsEntry entries items) : ∀ store : Store,
    ∃ taken contents, Store.adoptEntries items store = (taken, { store with contents }) ∧
      StandEntries entries taken := by
  induction h with
  | nil => exact fun store => ⟨[], store.contents, rfl, .nil⟩
  | @cons e e' _ _ h _ ih =>
      intro store
      obtain ⟨key, v⟩ := e
      obtain ⟨_, item⟩ := e'
      obtain ⟨rfl, h⟩ := h
      obtain ⟨item, contents, heq, hitem⟩ := h store
      obtain ⟨items, contents', heq', hitems⟩ := ih { store with contents }
      refine ⟨(.text key, item) :: items, contents', ?_, .cons key hitem hitems⟩
      rw [Store.adoptEntries, bind_apply_eq ((Stands.text key).adopt store),
        bind_apply_eq heq]
      exact bind_apply_eq heq'

theorem Adopts.dict {items : List (Item × Item)}
    (h : List.Forall₂ AdoptsEntry entries items) :
    Adopts (.object entries) (.dict items) := by
  intro store
  obtain ⟨items, contents, heq, hitems⟩ := adoptEntries_stands h store
  refine ⟨_, contents.push (.entries items), ?_, .object contents.size hitems⟩
  rw [Store.adopt]
  exact bind_apply_eq heq

mutual

theorem adopts_ofValue : ∀ v : Value, Adopts v (.ofValue v)
  | .null => Stands.null.adopts
  | .bool b => (Stands.bool b).adopts
  | .int n => (Stands.int n).adopts
  | .float x => (Stands.float x).adopts
  | .text s => (Stands.text s).adopts
  | .bytes octets => (Stands.bytes octets).adopts
  | .list vs => by
      rw [Item.ofValue]
      exact .list (adopts_ofValues vs)
  | .object entries => by
      rw [Item.ofValue]
      exact .dict (adopts_ofEntries entries)

theorem adopts_ofValues : ∀ vs : List Value, List.Forall₂ Adopts vs (Item.ofValues vs)
  | [] => .nil
  | v :: rest => .cons (adopts_ofValue v) (adopts_ofValues rest)

theorem adopts_ofEntries : ∀ entries : List (String × Value),
    List.Forall₂ AdoptsEntry entries (Item.ofEntries entries)
  | [] => .nil
  | (_, v) :: rest => .cons ⟨rfl, adopts_ofValue v⟩ (adopts_ofEntries rest)

end

/-! ## Showing data -/

theorem StandAll.isEmpty (h : StandAll vs items) : items.isEmpty = vs.isEmpty := by
  cases h <;> rfl

theorem StandEntries.isEmpty {items : List (Item × Item)}
    (h : StandEntries entries items) :
    items.isEmpty = entries.isEmpty := by
  cases h <;> rfl

theorem Item.literalItems_cons (item : Item) (rest : List Item) :
    Item.literalItems (item :: rest) =
      item.literal ++ if rest.isEmpty then "" else ", " ++ Item.literalItems rest := by
  cases rest with
  | nil => simp [Item.literalItems]
  | cons next rest => simp [Item.literalItems, String.append_assoc]

theorem Item.literalEntries_cons (key item : Item) (rest : List (Item × Item)) :
    Item.literalEntries ((key, item) :: rest) = key.literal ++ ": " ++ item.literal ++
      if rest.isEmpty then "" else ", " ++ Item.literalEntries rest := by
  cases rest with
  | nil => simp [Item.literalEntries]
  | cons next rest => simp [Item.literalEntries, String.append_assoc]

mutual

theorem Stands.literal :
    ∀ {v : Value} {item : Item}, Stands v item → item.literal = v.literal
  | _, _, .null | _, _, .bool _ | _, _, .int _ | _, _, .float _ | _, _, .text _
  | _, _, .bytes _ => rfl
  | _, _, .list place h => congrArg (fun s => "[" ++ s ++ "]") h.literalItems
  | _, _, .object place h => congrArg (fun s => "\x7b" ++ s ++ "\x7d") h.literalEntries

theorem StandAll.literalItems :
    ∀ {vs : List Value} {items : List Item}, StandAll vs items →
    Item.literalItems items = Value.literalItems vs
  | _, _, .nil => rfl
  | _, _, .cons h hrest => by
      rw [Item.literalItems_cons, Value.literalItems_cons, h.literal, hrest.literalItems,
        hrest.isEmpty]

theorem StandEntries.literalEntries : ∀ {entries : List (String × Value)}
    {items : List (Item × Item)}, StandEntries entries items →
    Item.literalEntries items = Value.literalEntries entries
  | _, _, .nil => rfl
  | _, _, .cons key h hrest => by
      rw [Item.literalEntries_cons, Value.literalEntries_cons,
        h.literal, hrest.literalEntries, hrest.isEmpty]
      rfl

end

mutual

theorem Stands.isShowable : ∀ {v : Value} {item : Item}, Stands v item →
    item.isShowable = (Item.ofValue v).isShowable
  | _, _, .null | _, _, .bool _ | _, _, .int _ | _, _, .float _ | _, _, .text _
  | _, _, .bytes _ => by rw [Item.ofValue]
  | _, _, .list place h => by
    rw [Item.isShowable, Item.ofValue, Item.isShowable, h.areShowable]
  | _, _, .object place h => by
      rw [Item.isShowable, Item.ofValue, Item.isShowable, h.areEntriesShowable]

theorem StandAll.areShowable :
    ∀ {vs : List Value} {items : List Item}, StandAll vs items →
    Item.areShowable items = Item.areShowable (Item.ofValues vs)
  | _, _, .nil => by rw [Item.ofValues]
  | _, _, .cons h hrest => by
      rw [Item.areShowable, Item.ofValues, Item.areShowable,
        h.isShowable, hrest.areShowable]

theorem StandEntries.areEntriesShowable : ∀ {entries : List (String × Value)}
    {items : List (Item × Item)}, StandEntries entries items →
    Item.areEntriesShowable items = Item.areEntriesShowable (Item.ofEntries entries)
  | _, _, .nil => by rw [Item.ofEntries]
  | _, _, .cons key h hrest => by
      rw [Item.areEntriesShowable, Item.ofEntries, Item.areEntriesShowable, h.isShowable,
        hrest.areEntriesShowable]

end

theorem Stands.display (h : Stands v item) (hshow : (Item.ofValue v).isShowable) :
    item.display = .ok v.display := by
  have hform : item.quotedForm = .ok v.literal := by
    rw [Item.quotedForm, if_pos (h.isShowable.trans hshow), h.literal]
  cases h <;> simp only [Item.display, Value.display, hform]

theorem Stands.printed (h : Stands v item) (hnull : v ≠ .null)
    (hshow : (Item.ofValue v).isShowable) :
    item.printed = .ok (Text.escapeMdx v.display) := by
  have hdisplay := h.display hshow
  cases h with
  | null => exact absurd rfl hnull
  | _ => simp only [Item.printed, hdisplay, Except.map]

/-! ## Asking data -/

theorem length_ne_zero_eq {α : Type} (xs : List α) :
    decide (xs.length ≠ 0) = !xs.isEmpty := by
  cases xs <;> rfl

theorem Stands.truthy (h : Stands v item) : item.truthy = .ok !v.isFalsy := by
  cases h with
  | null | float => rfl
  | bool b => rw [Item.truthy, Value.isFalsy, Bool.not_not]
  | int n => exact congrArg Except.ok decide_not
  | text s =>
      refine congrArg Except.ok
        ((length_ne_zero_eq s.toList).trans (congrArg Bool.not ?_))
      rw [Value.isFalsy, Bool.eq_iff_iff, List.isEmpty_iff, String.toList_eq_nil_iff,
        beq_iff_eq]
  | bytes octets => exact congrArg Except.ok (length_ne_zero_eq octets)
  | list place h =>
      exact congrArg Except.ok ((length_ne_zero_eq _).trans (congrArg Bool.not h.isEmpty))
  | object place h =>
      exact congrArg Except.ok ((length_ne_zero_eq _).trans (congrArg Bool.not h.isEmpty))

/-- Is the name one of those that every dictionary has by itself? -/
def isCarried (name : String) : Bool :=
  Item.dictNames.contains name || Item.commonNames.contains name

theorem StandEntries.findEntry {name : String} (fuel : Nat) :
    ∀ {items : List (Item × Item)},
    StandEntries entries items → entries.lookup name = some v →
    ∃ found, Item.findEntry (fuel + 1) (.text name) items = .ok (some found) ∧
    Stands v found := by
  induction entries with
  | nil => exact fun _ hv => nomatch hv
  | cons entry rest ih =>
      intro items h hv
      cases h with
      | cons key h hrest =>
      have hsame :
          Item.sameElement (fuel + 1) (.text key) (.text name) = .ok (key == name) := by
        simp [Item.sameElement, Item.isIdentical, Item.place?, Item.equals, Item.number?,
          Item.text?]
      rw [Item.findEntry, hsame, ok_bind_eq]
      rw [List.lookup_cons] at hv
      cases hkey : name == key with
      | true =>
          rw [hkey] at hv
          cases hv
          exact ⟨_, by rw [BEq.comm, hkey]; rfl, h⟩
      | false =>
          rw [hkey] at hv
          obtain ⟨found, hfound, hstands⟩ := ih hrest hv
          exact ⟨found, by rw [BEq.comm, hkey]; exact hfound, hstands⟩

theorem Stands.attr (h : Stands (.object entries) item) {name : String}
    (hname : isCarried name = false) (hv : entries.lookup name = some v) :
    ∃ found, item.attr name = .ok found ∧ Stands v found := by
  cases h with
  | @object _ items place hitems =>
    obtain ⟨hdict, hcommon⟩ := Bool.or_eq_false_iff.1 hname
    obtain ⟨found, hfound, hstands⟩ := hitems.findEntry 999 hv
    have hclass : name ≠ "__class__" := by rintro rfl; revert hcommon; decide
    have hhash : name ≠ "__hash__" := by rintro rfl; revert hcommon; decide
    refine ⟨found, ?_, hstands⟩
    have hattribute : Item.attribute? (.dict items (some place)) name = none := by
      simp only [Item.attribute?, Item.part?, if_neg hclass,
        Item.functionNames, hdict, hcommon, hhash, decide_false,
        Bool.false_and, Bool.or_self, Bool.false_eq_true, if_false]
    rw [Item.attr, hattribute]
    simp only [Item.element?, Item.keyFault?, Item.lookUp, Item.nestingLimit,
      hfound, ok_bind_eq]
    rfl

end SchemaDocs.Template
