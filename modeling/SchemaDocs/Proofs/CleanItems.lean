import SchemaDocs.Proofs.Failure
import SchemaDocs.Proofs.Unstructured
import SchemaDocs.Template.Attribute

/-!
# Clean items

What is printed passes the escaper unless it is markup, and markup is taken at
its word. `Item.Clean marked` says that an item cannot do harm by this. If it
is `marked` there may be markup in it, but all of it is without structure, and
macros, which give such markup; otherwise there is nothing of the kind. An
imported template is markup too, and never clean.

What can be asked of a clean item is clean: its parts, its attributes, its
elements, and what a loop goes over. Markup that is cut gives markup, and its
single characters are plain text when a loop goes over them.
-/

namespace SchemaDocs.Template.Item

open Text (Unstructured)

/-- Harmless when it is printed, and without markup and macros unless it is `marked`. -/
inductive Clean (marked : Bool) : Item → Prop
  | null : Clean marked .null
  | bool (b : Bool) : Clean marked (.bool b)
  | int (n : Int) : Clean marked (.int n)
  | float (x : Binary64) : Clean marked (.float x)
  | text (s : String) : Clean marked (.text s)
  | bytes (octets : List UInt8) : Clean marked (.bytes octets)
  | markup {s : String} (hmarked : marked = true) (h : Unstructured s) :
      Clean marked (.markup s)
  | list {items : List Item} {place : Option Nat}
      (h : ∀ item ∈ items, Clean marked item) : Clean marked (.list items place)
  | tuple {items : List Item} (h : ∀ item ∈ items, Clean marked item) :
      Clean marked (.tuple items)
  | dict {entries : List (Item × Item)} {place : Option Nat}
      (hkeys : ∀ e ∈ entries, Clean marked e.1)
      (hitems : ∀ e ∈ entries, Clean marked e.2) :
      Clean marked (.dict entries place)
  | range (start stop step : Int) : Clean marked (.range start stop step)
  | view {part : DictPart} {entries : List (Item × Item)} {place : Option Nat}
      (hkeys : ∀ e ∈ entries, Clean marked e.1)
      (hitems : ∀ e ∈ entries, Clean marked e.2) :
      Clean marked (.view part entries place)
  | slice {start stop step : Item} (hstart : Clean marked start)
    (hstop : Clean marked stop)
      (hstep : Clean marked step) : Clean marked (.slice start stop step)
  | undefined (why : Missing) (serial : Option Nat) : Clean marked (.undefined why serial)
  | macroAt (hmarked : marked = true) (info : MacroInfo) (address : Nat) :
      Clean marked (.macroAt info address)
  | loop {state : LoopState} {previous : List Item}
    {next : Except RenderError (List Item)}
      (hprevious : ∀ item ∈ previous, Clean marked item)
      (hnext : ∀ items, next = .ok items → ∀ item ∈ items, Clean marked item) :
      Clean marked (.loop state previous next)
  | record {kind : RecordKind} {members : List (Item × Item)} {place : Nat}
      (hkeys : ∀ e ∈ members, Clean marked e.1)
      (hitems : ∀ e ∈ members, Clean marked e.2) :
      Clean marked (.record kind members place)
  | again {item : Item} (h : Clean marked item) : Clean marked (.again item)
  | self : Clean marked .self
  | method {owner : Item} {name : String} (h : Clean marked owner) :
      Clean marked (.method owner name)
  | type (name : String) : Clean marked (.type name)
  | function (name : String) : Clean marked (.function name)

attribute [simp] Clean.null Clean.bool Clean.int Clean.float
  Clean.text Clean.bytes Clean.range
  Clean.undefined Clean.self Clean.type Clean.function

def CleanAll (marked : Bool) (items : List Item) : Prop :=
  ∀ item ∈ items, item.Clean marked

def CleanEntries (marked : Bool) (entries : List (Item × Item)) : Prop :=
  ∀ e ∈ entries, e.1.Clean marked ∧ e.2.Clean marked

variable {marked : Bool} {item : Item} {items : List Item} {entries : List (Item × Item)}

/-- What is unmarked may count as marked. -/
theorem Clean.mono {other : Bool} (h : item.Clean marked)
    (hle : marked = true → other = true) :
    item.Clean other := by
  induction h with
  | null => exact .null
  | bool b => exact .bool b
  | int n => exact .int n
  | float x => exact .float x
  | text s => exact .text s
  | bytes octets => exact .bytes octets
  | markup hmarked h => exact .markup (hle hmarked) h
  | list _ ih => exact .list ih
  | tuple _ ih => exact .tuple ih
  | dict _ _ ihkeys ihitems => exact .dict ihkeys ihitems
  | range start stop step => exact .range start stop step
  | view _ _ ihkeys ihitems => exact .view ihkeys ihitems
  | slice _ _ _ ihstart ihstop ihstep => exact .slice ihstart ihstop ihstep
  | undefined why serial => exact .undefined why serial
  | macroAt hmarked info address => exact .macroAt (hle hmarked) info address
  | loop _ _ ihprevious ihnext => exact .loop ihprevious ihnext
  | record _ _ ihkeys ihitems => exact .record ihkeys ihitems
  | again _ ih => exact .again ih
  | self => exact .self
  | method _ ih => exact .method ih
  | type name => exact .type name
  | function name => exact .function name

theorem Clean.ofUnmarked (h : item.Clean false) : item.Clean marked :=
  h.mono fun hf => nomatch hf

/-! ## Parts -/

section

variable {place : Option Nat}

@[simp] theorem clean_markup {s : String} :
    (Item.markup s).Clean marked ↔ marked = true ∧ Unstructured s :=
  ⟨fun | .markup hmarked h => ⟨hmarked, h⟩, fun h => .markup h.1 h.2⟩

@[simp] theorem clean_macroAt {info : MacroInfo} {address : Nat} :
    (Item.macroAt info address).Clean marked ↔ marked = true :=
  ⟨fun | .macroAt hmarked _ _ => hmarked, fun h => .macroAt h info address⟩

@[simp] theorem clean_list :
    (Item.list items place).Clean marked ↔ CleanAll marked items :=
  ⟨fun | .list h => h, .list⟩

@[simp] theorem clean_tuple : (Item.tuple items).Clean marked ↔ CleanAll marked items :=
  ⟨fun | .tuple h => h, .tuple⟩

@[simp] theorem clean_dict :
    (Item.dict entries place).Clean marked ↔ CleanEntries marked entries :=
  ⟨fun | .dict hkeys hitems => fun e he => ⟨hkeys e he, hitems e he⟩,
    fun h => .dict (fun e he => (h e he).1) fun e he => (h e he).2⟩

@[simp] theorem clean_view {part : DictPart} :
    (Item.view part entries place).Clean marked ↔ CleanEntries marked entries :=
  ⟨fun | .view hkeys hitems => fun e he => ⟨hkeys e he, hitems e he⟩,
    fun h => .view (fun e he => (h e he).1) fun e he => (h e he).2⟩

@[simp] theorem clean_record {kind : RecordKind} {place : Nat} :
    (Item.record kind entries place).Clean marked ↔ CleanEntries marked entries :=
  ⟨fun | .record hkeys hitems => fun e he => ⟨hkeys e he, hitems e he⟩,
    fun h => .record (fun e he => (h e he).1) fun e he => (h e he).2⟩

@[simp] theorem clean_slice {start stop step : Item} :
    (Item.slice start stop step).Clean marked ↔
    start.Clean marked ∧ stop.Clean marked ∧ step.Clean marked :=
  ⟨fun | .slice h h' h'' => ⟨h, h', h''⟩, fun ⟨h, h', h''⟩ => .slice h h' h''⟩

@[simp] theorem clean_loop {state : LoopState} {next : Except RenderError (List Item)} :
    (Item.loop state items next).Clean marked ↔
      CleanAll marked items ∧ Ensures next (CleanAll marked) :=
  ⟨fun | .loop h h' => ⟨h, h'⟩, fun ⟨h, h'⟩ => .loop h h'⟩

@[simp] theorem clean_method {name : String} :
    (Item.method item name).Clean marked ↔ item.Clean marked :=
  ⟨fun | .method h => h, .method⟩

@[simp] theorem not_clean_imported {name body : String} {serial : Nat}
    {exports : List (String × Item)} :
    ¬ (Item.imported name serial exports body).Clean marked :=
  fun h => nomatch h

end

/-! ## Lists -/

@[simp] theorem cleanAll_nil : CleanAll marked [] := by simp [CleanAll]

@[simp] theorem cleanAll_cons :
    CleanAll marked (item :: items) ↔ item.Clean marked ∧ CleanAll marked items := by
  simp [CleanAll]

@[simp] theorem cleanAll_append {items' : List Item} :
    CleanAll marked (items ++ items') ↔
    CleanAll marked items ∧ CleanAll marked items' := by
  simp only [CleanAll, List.mem_append, or_imp, forall_and]

@[simp] theorem cleanEntries_nil : CleanEntries marked [] := by simp [CleanEntries]

@[simp] theorem cleanEntries_cons {key : Item} :
    CleanEntries marked ((key, item) :: entries) ↔
    (key.Clean marked ∧ item.Clean marked) ∧ CleanEntries marked entries := by
  simp [CleanEntries]

theorem CleanAll.subset {items' : List Item} (h : CleanAll marked items)
    (hsub : items' ⊆ items) : CleanAll marked items' :=
  fun item hitem => h item (hsub hitem)

theorem member?_clean (h : CleanEntries marked entries) {name : String}
    (hmember : member? entries name = some item) : item.Clean marked := by
  obtain ⟨⟨key, found⟩, he, hfound⟩ := List.exists_of_findSome?_eq_some hmember
  simp only [Option.ite_none_right_eq_some, Option.some.injEq] at hfound
  exact hfound.2 ▸ (h _ he).2

/-! ## Attributes -/

theorem neighbour_clean {why : Missing} (h : CleanAll marked items) :
    (neighbour why items).Clean marked := by
  cases items with
  | nil => exact .undefined why none
  | cons item rest => exact h item List.mem_cons_self

theorem loopPart?_clean {state : LoopState} {name : String}
    {found : Except RenderError Item}
    (hfound : LoopState.part? state name = some found) :
    Ensures found (Clean marked) := by
  rw [LoopState.part?.eq_def] at hfound
  split at hfound <;> cases hfound
  -- What lies ahead may depend on a condition that fails.
  case h_4 | h_5 | h_6 | h_7 => exact (Ensures.trivial _).map (by simp)
  all_goals exact .ok (by simp)

theorem macroPart?_clean {info : MacroInfo} {name : String}
    (hitem : MacroInfo.part? info name = some item) : item.Clean marked := by
  rw [MacroInfo.part?.eq_def] at hitem
  split at hitem <;> cases hitem
  all_goals simp [CleanAll]

theorem turns_clean (h : CleanEntries marked entries) :
    CleanAll marked (turns entries).1 := by
  rw [turns]
  split
  · next hitems _ => exact clean_tuple.1 (member?_clean h hitems)
  · exact cleanAll_nil

theorem part?_clean (h : item.Clean marked) {name : String}
    {found : Except RenderError Item}
    (hfound : item.part? name = some found) : Ensures found (Clean marked) := by
  rw [part?.eq_def] at hfound
  split at hfound
  case h_18 =>
    cases hfound
    exact .ok (neighbour_clean (clean_loop.1 h).1)
  case h_19 =>
    cases hfound
    exact (clean_loop.1 h).2.map fun items hitems => neighbour_clean hitems
  case h_20 => exact loopPart?_clean hfound
  case h_21 =>
    obtain ⟨item, hitem, rfl⟩ := Option.map_eq_some_iff.1 hfound
    exact .ok (macroPart?_clean hitem)
  case h_22 =>
    obtain ⟨item, hitem, rfl⟩ := Option.map_eq_some_iff.1 hfound
    exact .ok (turns_clean (clean_record.1 h) item (List.mem_of_getElem? hitem))
  case h_23 =>
    obtain ⟨item, hitem, rfl⟩ := Option.map_eq_some_iff.1 hfound
    exact .ok (member?_clean (clean_record.1 h) hitem)
  case h_25 => exact absurd h not_clean_imported
  -- What is left are numbers, texts, and what the item is made of.
  all_goals
    cases hfound
  all_goals exact .ok (by simp_all)

theorem attribute?_clean (h : item.Clean marked) {name : String}
    {found : Except RenderError Item} (hfound : item.attribute? name = some found) :
    Ensures found (Clean marked) := by
  rw [attribute?.eq_def] at hfound
  split at hfound
  · cases hfound
    exact .error _
  · split at hfound
    · cases hfound
      exact .ok (.type _)
    · obtain ⟨item, hitem, rfl⟩ := Option.map_eq_some_iff.1 hfound
      exact .ok (member?_clean (clean_record.1 h) hitem)
  · split at hfound
    · next hpart =>
        cases hfound
        exact part?_clean h hpart
    · split at hfound
      · cases hfound
        exact .ok (.type _)
      · split at hfound
        · cases hfound
          exact .ok .null
        · split at hfound <;> cases hfound
          exact .ok (.method h)

/-! ## Elements -/

theorem findEntry_clean {fuel : Nat} {key : Item} (h : CleanEntries marked entries) :
    Ensures (findEntry fuel key entries) fun found =>
      ∀ item ∈ found, item.Clean marked := by
  induction entries with
  | nil =>
      rw [findEntry]
      exact .ok (by simp)
  | cons e rest ih =>
      obtain ⟨k, item⟩ := e
      obtain ⟨⟨-, hitem⟩, hrest⟩ := cleanEntries_cons.1 h
      rw [findEntry]
      refine .behind fun same => .ite (.pure ?_) (ih hrest)
      rintro _ ⟨⟩
      exact hitem

theorem lookUp_clean {key : Item} (h : CleanEntries marked entries) :
    Ensures (lookUp entries key) fun found => ∀ item ∈ found, item.Clean marked := by
  rw [lookUp]
  split
  · exact .error _
  · exact findEntry_clean h

theorem Cut.take_subset {α : Type} (c : Cut) (xs : List α) : c.take xs ⊆ xs := by
  intro x hx
  obtain ⟨i, _, hi⟩ := List.mem_filterMap.1 hx
  rw [List.getElem?_toArray] at hi
  exact List.mem_of_getElem? hi

theorem mem_of_elementAt? {α : Type} {xs : List α} {i : Int} {x : α}
    (h : elementAt? xs i = some x) : x ∈ xs := by
  obtain ⟨n, _, hn⟩ := Option.bind_eq_some_iff.1 h
  exact List.mem_of_getElem? hn

theorem cut_clean (h : item.Clean marked) (start stop step : Item) :
    Ensures (item.cut start stop step) (Clean marked) := by
  rw [cut.eq_def]
  split
  case h_1 => exact .behind fun c => .pure (.text _)
  case h_2 =>
    obtain ⟨hmarked, h⟩ := clean_markup.1 h
    exact .behind fun c =>
      .pure (.markup hmarked (h.of_subset (c.take_subset _)))
  case h_3 => exact .behind fun c => .pure (.bytes _)
  case h_4 =>
    exact .behind fun c =>
      .pure (clean_list.2 ((clean_list.1 h).subset (c.take_subset _)))
  case h_5 =>
    exact .behind fun c =>
      .pure (clean_tuple.2 ((clean_tuple.1 h).subset (c.take_subset _)))
  case h_6 => exact .behind fun c => .pure (.range _ _ _)
  all_goals exact .error _

theorem element?_clean (h : item.Clean marked) (key : Item) :
    Ensures (item.element? key) fun found => ∀ item ∈ found, item.Clean marked := by
  rw [element?.eq_def]
  split
  case h_1 => exact .error _
  case h_2 =>
    split
    · exact .error _
    · exact .ok fun item hitem => nomatch hitem
    · exact lookUp_clean (clean_dict.1 h)
  case h_3 => exact .ite (.ok fun item hitem => nomatch hitem) (.error _)
  case h_4 =>
    split
    · next hfound => exact .ok (by simpa using cut_clean h _ _ _ _ hfound)
    · exact .error _
    · exact .ite (.ok fun item hitem => nomatch hitem) (.error _)
  case h_5 =>
    split
    · exact .ok fun item hitem => nomatch hitem
    · refine .ok fun found hfound => ?_
      split at hfound
      · exact clean_list.1 h found (mem_of_elementAt? hfound)
      · exact clean_tuple.1 h found (mem_of_elementAt? hfound)
      · obtain ⟨c, _, rfl⟩ := Option.map_eq_some_iff.1 hfound
        exact .text _
      · obtain ⟨c, hc, rfl⟩ := Option.map_eq_some_iff.1 hfound
        obtain ⟨hmarked, h⟩ := clean_markup.1 h
        exact .markup hmarked (h.of_subset (by simpa using mem_of_elementAt? hc))
      · obtain ⟨b, _, rfl⟩ := Option.map_eq_some_iff.1 hfound
        exact .int _
      · obtain ⟨n, _, rfl⟩ := Option.map_eq_some_iff.1 hfound
        exact .int _
      · cases hfound

theorem absent_clean (item key : Item) : (item.absent key).Clean marked := by
  rw [absent]
  split <;> exact .undefined _ _

theorem attr_clean (h : item.Clean marked) (name : String) :
    Ensures (item.attr name) (Clean marked) := by
  rw [attr]
  split
  · next hfound => exact attribute?_clean h hfound
  · refine (element?_clean h (.text name)).bind fun found hfound => .pure ?_
    cases found with
    | none => exact absent_clean item (.text name)
    | some found => exact hfound found rfl

theorem element_clean (h : item.Clean marked) (key : Item) :
    Ensures (item.element key) (Clean marked) := by
  rw [element]
  refine (element?_clean h key).bind fun found hfound => ?_
  split
  · next found => exact .pure (hfound found rfl)
  · split
    · next hattribute =>
        obtain ⟨name, _, hattribute⟩ := Option.bind_eq_some_iff.1 hattribute
        exact attribute?_clean h hattribute
    · exact .pure (absent_clean item key)

/-! ## Collections -/

theorem partItems_clean (part : DictPart) (h : CleanEntries marked entries) :
    CleanAll marked (partItems part entries) := by
  intro item hitem
  obtain ⟨e, he, rfl⟩ := List.mem_map.1 hitem
  have hboth := h e he
  cases part <;> simp [hboth]

theorem elements_clean (h : item.Clean marked) :
    Ensures item.elements (CleanAll marked) := by
  rw [elements.eq_def]
  split
  case h_1 => exact .ok (clean_list.1 h)
  case h_2 => exact .ok (clean_tuple.1 h)
  case h_3 => exact .ok (partItems_clean .keys (clean_dict.1 h))
  case h_4 => exact .ok (by simp [CleanAll, rangeItems])
  case h_5 => exact .ok (partItems_clean _ (clean_view.1 h))
  case h_6 => exact .ok (by simp [CleanAll, chars])
  case h_7 => exact .ok (by simp [CleanAll, chars])
  case h_8 => exact .ok (by simp [CleanAll])
  case h_9 => exact .ite (.ok cleanAll_nil) (.error _)
  all_goals exact .error _

mutual

/-- There is no markup in data. -/
theorem ofValue_clean : ∀ v : Value, (ofValue v).Clean marked
  | .null => .null
  | .bool b => .bool b
  | .int n => .int n
  | .float x => .float x
  | .text s => .text s
  | .bytes octets => .bytes octets
  | .list items => clean_list.2 (ofValues_clean items)
  | .object entries => clean_dict.2 (ofEntries_clean entries)

theorem ofValues_clean : ∀ vs : List Value, CleanAll marked (ofValues vs)
  | [] => cleanAll_nil
  | v :: rest => cleanAll_cons.2 ⟨ofValue_clean v, ofValues_clean rest⟩

theorem ofEntries_clean : ∀ entries : List (String × Value),
    CleanEntries marked (ofEntries entries)
  | [] => cleanEntries_nil
  | (key, v) :: rest =>
    cleanEntries_cons.2 ⟨⟨.text key, ofValue_clean v⟩, ofEntries_clean rest⟩

end

/-- A clean item is printed as a text without structure. -/
theorem printed_unstructured (h : item.Clean marked) :
    Ensures item.printed Unstructured := by
  rw [printed.eq_def]
  split
  · exact .ok (clean_markup.1 h).2
  · exact .ok .empty
  · exact (Ensures.trivial _).map fun s _ => .escapeMdx s

end SchemaDocs.Template.Item
