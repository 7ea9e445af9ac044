import SchemaDocs.Proofs.CleanItems
import SchemaDocs.Proofs.Contracts
import SchemaDocs.Proofs.Dialect

/-!
# Tame items

What an item is asked for may fail in a way that was put into it long before:
the state of a loop holds the failures of its condition. `Item.Tame` says that
an item holds none that is not contained. A dialect makes no ranges, no records
and no views of dictionaries, so there are none among tame items, and the macros
of an imported template are indeed macros.

Constants are tame in a narrower sense. They depend on nothing that is known
only later, and a number among them has digits unless there was a calculation.
-/

namespace SchemaDocs.Template.Item

open RenderError (Contained)

/-- Nothing that a call would go through to, macros apart. -/
def Inert : Item → Prop
  | .method _ _ => False
  | .type _ => False
  | _ => True

/-- An item that fails in contained ways only; `constant` if it was worked out
before the page is known. -/
inductive Tame (calculates constant : Bool) : Item → Prop
  | null : Tame calculates constant .null
  | bool (b : Bool) : Tame calculates constant (.bool b)
  | int (n : Int) : Tame calculates constant (.int n)
  | float {x : Binary64}
      (h : constant = true → (calculates || (Item.float x).unwritable?.isNone) = true) :
      Tame calculates constant (.float x)
  | text (s : String) : Tame calculates constant (.text s)
  | bytes (octets : List UInt8) : Tame calculates constant (.bytes octets)
  | markup (s : String) : Tame calculates constant (.markup s)
  | list {items : List Item} {place : Option Nat}
      (h : ∀ item ∈ items, Tame calculates constant item) :
      Tame calculates constant (.list items place)
  | tuple {items : List Item} (h : ∀ item ∈ items, Tame calculates constant item) :
      Tame calculates constant (.tuple items)
  | dict {entries : List (Item × Item)} {place : Option Nat} (hlate : constant = false)
      (hkeys : ∀ e ∈ entries, Tame calculates constant e.1)
      (hitems : ∀ e ∈ entries, Tame calculates constant e.2) :
      Tame calculates constant (.dict entries place)
  | undefined (why : Missing) (serial : Option Nat) :
      Tame calculates constant (.undefined why serial)
  | macroAt (info : MacroInfo) (address : Nat) :
    Tame calculates constant (.macroAt info address)
  | imported {name : String} {serial : Nat} {exports : List (String × Item)}
    {body : String}
      (hlate : constant = false) (hexports : ∀ e ∈ exports, Tame calculates constant e.2)
      (hmacros : ∀ e ∈ exports, e.1 ∈ layoutMacros → e.2.Inert) :
      Tame calculates constant (.imported name serial exports body)
  | loop {state : LoopState} {previous : List Item}
    {next : Except RenderError (List Item)}
      (hlate : constant = false)
      (hhasNext : Meets (Contained calculates) state.hasNext fun _ => True)
      (hlength : Meets (Contained calculates) state.length fun _ => True)
      (hprevious : ∀ item ∈ previous, Tame calculates constant item)
      (hnext : ∀ items, next = .ok items → ∀ item ∈ items, Tame calculates constant item)
      (hfault : ∀ e, next = .error e → e.Contained calculates) :
      Tame calculates constant (.loop state previous next)
  | self : Tame calculates constant .self
  | method {owner : Item} {name : String} (h : Tame calculates constant owner) :
      Tame calculates constant (.method owner name)
  | type (name : String) : Tame calculates constant (.type name)
  | function (name : String) : Tame calculates constant (.function name)

attribute [simp] Tame.null Tame.bool Tame.int Tame.text Tame.bytes
  Tame.markup Tame.undefined
  Tame.macroAt Tame.self Tame.type Tame.function

variable {calculates constant : Bool} {item : Item} {items : List Item}
  {entries : List (Item × Item)}

def TameAll (calculates constant : Bool) (items : List Item) : Prop :=
  ∀ item ∈ items, item.Tame calculates constant

def TameEntries (calculates constant : Bool) (entries : List (Item × Item)) : Prop :=
  ∀ e ∈ entries, e.1.Tame calculates constant ∧ e.2.Tame calculates constant

/-! ## Parts -/

section

variable {place : Option Nat}

@[simp] theorem tame_list :
    (Item.list items place).Tame calculates constant ↔
    TameAll calculates constant items :=
  ⟨fun | .list h => h, .list⟩

@[simp] theorem tame_tuple :
    (Item.tuple items).Tame calculates constant ↔ TameAll calculates constant items :=
  ⟨fun | .tuple h => h, .tuple⟩

@[simp] theorem tame_dict : (Item.dict entries place).Tame calculates constant ↔
    constant = false ∧ TameEntries calculates constant entries :=
  ⟨fun | .dict hlate hkeys hitems => ⟨hlate, fun e he => ⟨hkeys e he, hitems e he⟩⟩,
    fun h => .dict h.1 (fun e he => (h.2 e he).1) fun e he => (h.2 e he).2⟩

@[simp] theorem tame_imported {name body : String} {serial : Nat}
    {exports : List (String × Item)} :
    (Item.imported name serial exports body).Tame calculates constant ↔ constant = false ∧
      (∀ e ∈ exports, e.2.Tame calculates constant) ∧
        ∀ e ∈ exports, e.1 ∈ layoutMacros → e.2.Inert :=
  ⟨fun | .imported hlate hexports hmacros => ⟨hlate, hexports, hmacros⟩,
    fun h => .imported h.1 h.2.1 h.2.2⟩

@[simp] theorem tame_loop {state : LoopState} {next : Except RenderError (List Item)} :
    (Item.loop state items next).Tame calculates constant ↔
      constant = false ∧ Meets (Contained calculates) state.hasNext (fun _ => True) ∧
        Meets (Contained calculates) state.length (fun _ => True) ∧
          TameAll calculates constant items ∧
            Meets (Contained calculates) next (TameAll calculates constant) := by
  constructor
  · intro h
    cases h with
    | loop hlate hhasNext hlength hprevious hnext hfault =>
        refine ⟨hlate, hhasNext, hlength, hprevious, ?_⟩
        cases next with
        | ok items => exact .ok (hnext items rfl)
        | error e => exact .error (hfault e rfl)
  · rintro ⟨hlate, hhasNext, hlength, hprevious, hnext⟩
    exact .loop hlate hhasNext hlength hprevious hnext.ensures fun e => hnext.of_error

@[simp] theorem tame_method {name : String} :
    (Item.method item name).Tame calculates constant ↔ item.Tame calculates constant :=
  ⟨fun | .method h => h, .method⟩

/-- A number that is not worked out beforehand may have no digits. -/
theorem tame_float (x : Binary64) : (Item.float x).Tame calculates false :=
  .float fun h => nomatch h

theorem tame_float_of_calculates (x : Binary64) : (Item.float x).Tame true constant :=
  .float fun _ => rfl

@[simp] theorem tameAll_nil : TameAll calculates constant [] := by simp [TameAll]

@[simp] theorem tameAll_cons : TameAll calculates constant (item :: items) ↔
    item.Tame calculates constant ∧ TameAll calculates constant items := by
  simp [TameAll]

@[simp] theorem tameAll_append {items' : List Item} :
    TameAll calculates constant (items ++ items') ↔
      TameAll calculates constant items ∧ TameAll calculates constant items' := by
  simp only [TameAll, List.mem_append, or_imp, forall_and]

@[simp] theorem tameEntries_nil :
    TameEntries calculates constant [] := by simp [TameEntries]

@[simp] theorem tameEntries_cons {key : Item} :
    TameEntries calculates constant ((key, item) :: entries) ↔
      (key.Tame calculates constant ∧ item.Tame calculates constant) ∧
        TameEntries calculates constant entries := by
  simp [TameEntries]

theorem TameAll.subset {items' : List Item} (h : TameAll calculates constant items)
    (hsub : items' ⊆ items) : TameAll calculates constant items' :=
  fun item hitem => h item (hsub hitem)

end

/-- What an undefined value stands for, or its own failure. -/
theorem orElse_meets {α : Type} {good : α → Prop} {why : Missing} {nothing : α}
    (h : good nothing) : Meets (Contained calculates) (why.orElse nothing) good := by
  rw [Missing.orElse]
  exact .ite (.ok h) (.error (.undefined why))

/-! ## Comparing

A comparison fails only on undefined values, and where items nest too deep. -/

section

variable {fuel : Nat}
  (hequals : ∀ a b, Meets (Contained calculates) (equals fuel a b) fun _ => True)

include hequals

theorem sameElement_meets_of (a b : Item) :
    Meets (Contained calculates) (sameElement fuel a b) fun _ => True := by
  rw [sameElement]
  exact .ite (.ok trivial) (hequals a b)

theorem equalItems_meets_of : ∀ xs ys : List Item,
    Meets (Contained calculates) (equalItems fuel xs ys) fun _ => True
  | x :: xs, y :: ys => by
      rw [equalItems]
      exact (sameElement_meets_of hequals x y).bind fun same _ =>
        .ite (equalItems_meets_of xs ys) (.pure trivial)
  | [], _ => by
      rw [equalItems]
      · exact .ok trivial
      · simp
  | _ :: _, [] => by
      rw [equalItems]
      · exact .ok trivial
      · simp

theorem findEntry_meets_of (good : Item → Prop) (key : Item) :
    ∀ {entries : List (Item × Item)}, (∀ e ∈ entries, good e.2) →
      Meets (Contained calculates) (findEntry fuel key entries) fun found =>
        ∀ item ∈ found, good item
  | [], _ => by
      rw [findEntry]
      exact .ok (by simp)
  | (k, item) :: rest, h => by
      obtain ⟨hitem, hrest⟩ := List.forall_mem_cons.1 h
      rw [findEntry]
      refine (sameElement_meets_of hequals k key).bind fun same _ => .ite (.pure ?_)
        (findEntry_meets_of good key hrest)
      rintro _ ⟨⟩
      exact hitem

theorem equalEntries_meets_of (all : List (Item × Item)) : ∀ entries : List (Item × Item),
    Meets (Contained calculates) (equalEntries fuel all entries) fun _ => True
  | [] => by
      rw [equalEntries]
      exact .ok trivial
  | (key, x) :: rest => by
      rw [equalEntries]
      refine (findEntry_meets_of hequals (fun _ => True) key (by simp)).bind
        fun found _ => ?_
      cases found with
      | none => exact .pure trivial
      | some y =>
          exact (sameElement_meets_of hequals x y).bind fun same _ =>
            .ite (equalEntries_meets_of all rest) (.pure trivial)

theorem holdsKeys_meets_of (all : List (Item × Item)) : ∀ entries : List (Item × Item),
    Meets (Contained calculates) (holdsKeys fuel all entries) fun _ => True
  | [] => by
      rw [holdsKeys]
      exact .ok trivial
  | (key, _) :: rest => by
      rw [holdsKeys]
      refine (findEntry_meets_of hequals (fun _ => True) key (by simp)).bind
        fun found _ => ?_
      cases found with
      | none => exact .pure trivial
      | some y => exact holdsKeys_meets_of all rest

theorem equals_meets_of (a b : Item) :
    Meets (Contained calculates) (equals (fuel + 1) a b) fun _ => True := by
  rw [equals.eq_def]
  split
  · exact Meets.bind (show Meets _ _ fun _ => True from orElse_meets trivial) fun _ _ =>
      orElse_meets trivial
  · exact orElse_meets trivial
  · exact orElse_meets trivial
  · exact .error .tooDeep
  · next hfuel _ _ _ =>
      cases hfuel
      split
      · exact .ok trivial
      split
      · exact .ok trivial
      split
      case h_3 | h_4 => exact .ite (equalItems_meets_of hequals _ _) (.ok trivial)
      case h_5 | h_8 => exact .ite (equalEntries_meets_of hequals _ _) (.ok trivial)
      case h_7 => exact .ite (holdsKeys_meets_of hequals _ _) (.ok trivial)
      case h_9 => exact equalItems_meets_of hequals _ _
      case h_15 =>
        exact .ite (.ok trivial)
          ((sameElement_meets_of hequals _ _).bind fun _ _ => .pure trivial)
      all_goals exact .ok trivial

end

theorem equals_meets : ∀ (fuel : Nat) (a b : Item),
    Meets (Contained calculates) (equals fuel a b) fun _ => True
  | 0, a, b => by
      rw [equals.eq_def]
      split
      · exact Meets.bind
          (show Meets _ _ fun _ => True from orElse_meets trivial) fun _ _ =>
          orElse_meets trivial
      · exact orElse_meets trivial
      · exact orElse_meets trivial
      · exact .error .tooDeep
      · next hfuel _ _ _ => cases hfuel
  | fuel + 1, a, b => equals_meets_of (equals_meets fuel) a b

theorem same_meets (a b : Item) : Meets (Contained calculates) (same a b) fun _ => True :=
  equals_meets _ a b

theorem sameInside_meets (a b : Item) :
    Meets (Contained calculates) (sameInside a b) fun _ => True :=
  sameElement_meets_of (equals_meets _) a b

mutual

/-- What can be no key is undefined or can change. -/
theorem keyFault?_own : ∀ (item : Item), ∀ e ∈ item.keyFault?, e.origin.foreign? = none
  | .undefined why _ => by
      rw [keyFault?]
      split
      · simp
      · rintro _ ⟨⟩
        rfl
  | .tuple items => by
      rw [keyFault?]
      exact firstKeyFault?_own items
  | .again item => by
      rw [keyFault?]
      exact keyFault?_own item
  | .list _ _ | .dict _ _ | .slice _ _ _ | .view .keys _ _ | .view .items _ _ => by
      rintro _ ⟨⟩
      rfl
  | .null | .bool _ | .int _ | .float _ | .text _ | .bytes _ | .markup _ | .range _ _ _
  | .view .values _ _ | .macroAt _ _ | .imported _ _ _ _ | .loop _ _ _
  | .record _ _ _ | .self
  | .method _ _ | .type _ | .function _ => by
      rintro _ ⟨⟩

theorem firstKeyFault?_own : ∀ (items : List Item), ∀ e ∈ firstKeyFault? items,
    e.origin.foreign? = none
  | [] => by
      rintro _ ⟨⟩
  | item :: rest => by
      intro e he
      rw [firstKeyFault?, Option.mem_def, Option.or_eq_some_iff] at he
      exact he.elim (keyFault?_own item e) fun h => firstKeyFault?_own rest e h.2

end

theorem lookUp_meets (good : Item → Prop) (key : Item) (h : ∀ e ∈ entries, good e.2) :
    Meets (Contained calculates) (lookUp entries key) fun found =>
      ∀ item ∈ found, good item := by
  rw [lookUp]
  split
  · next e hfault => exact .error (.own (keyFault?_own key e hfault))
  · exact findEntry_meets_of (equals_meets _) good key h

/-! ## Attributes -/

/-- A number of things, on its way into an item. -/
theorem counted_meets {n : Except RenderError Nat}
    (h : Meets (Contained calculates) n fun _ => True) (f : Int → Int) :
    Meets (Contained calculates)
      (((do return ((← n : Nat) : Int)) : Except RenderError Int).map
      fun n => Item.int (f n)) (Tame calculates constant) :=
  Meets.map (show Meets _ _ fun _ => True from h.bind fun _ _ => .pure trivial) fun _ _ =>
    .int _

theorem loopPart?_meets {state : LoopState}
    (hhasNext : Meets (Contained calculates) state.hasNext fun _ => True)
    (hlength : Meets (Contained calculates) state.length fun _ => True) {name : String}
    {found : Except RenderError Item} (hfound : LoopState.part? state name = some found) :
    Meets (Contained calculates) found (Tame calculates constant) := by
  rw [LoopState.part?.eq_def] at hfound
  split at hfound <;> cases hfound
  -- What lies ahead may depend on a condition that fails.
  case h_4 => exact hhasNext.map fun _ _ => .bool _
  case h_5 | h_6 | h_7 => exact counted_meets hlength _
  all_goals exact .ok (by simp)

theorem macroPart?_tame {info : MacroInfo} {name : String}
    (hitem : MacroInfo.part? info name = some item) : item.Tame calculates constant := by
  rw [MacroInfo.part?.eq_def] at hitem
  split at hitem <;> cases hitem
  all_goals simp [TameAll]

theorem neighbour_tame {why : Missing} (h : TameAll calculates constant items) :
    (neighbour why items).Tame calculates constant := by
  cases items with
  | nil => exact .undefined why none
  | cons item rest => exact h item List.mem_cons_self

theorem part?_meets (h : item.Tame calculates constant) {name : String}
    {found : Except RenderError Item} (hfound : item.part? name = some found) :
    Meets (Contained calculates) found (Tame calculates constant) := by
  rw [part?.eq_def] at hfound
  split at hfound
  case h_18 =>
    cases hfound
    exact .ok (neighbour_tame (tame_loop.1 h).2.2.2.1)
  case h_19 =>
    cases hfound
    exact (tame_loop.1 h).2.2.2.2.map fun items hitems => neighbour_tame hitems
  case h_20 => exact loopPart?_meets (tame_loop.1 h).2.1 (tame_loop.1 h).2.2.1 hfound
  case h_21 =>
    obtain ⟨item, hitem, rfl⟩ := Option.map_eq_some_iff.1 hfound
    exact .ok (macroPart?_tame hitem)
  case h_25 =>
    obtain ⟨item, hitem, rfl⟩ := Option.map_eq_some_iff.1 hfound
    exact .ok ((tame_imported.1 h).2.1 _ (mem_of_lookup hitem))
  case h_9 =>
    cases hfound
    exact .ok h
  case h_10 =>
    cases hfound
    exact .ok (.float fun _ => by simp [unwritable?, Binary64.zero])
  case h_26 | h_27 | h_28 =>
    cases hfound
    exact .ok (by simp_all)
  -- Neither are there ranges, slices, views and records among tame items.
  case h_11 | h_12 | h_13 | h_14 | h_15 | h_16 | h_17 | h_22 | h_23 => cases h
  all_goals
    cases hfound
  all_goals exact .ok (by simp)

theorem attribute?_meets (h : item.Tame calculates constant) {name : String}
    {found : Except RenderError Item} (hfound : item.attribute? name = some found) :
    Meets (Contained calculates) found (Tame calculates constant) := by
  rw [attribute?.eq_def] at hfound
  split at hfound
  · cases hfound
    exact .error (.undefined _)
  · cases h
  · split at hfound
    · next hpart =>
        cases hfound
        exact part?_meets h hpart
    · split at hfound
      · cases hfound
        exact .ok (.type _)
      · split at hfound
        · cases hfound
          exact .ok .null
        · split at hfound <;> cases hfound
          exact .ok (.method h)

/-! ## Elements -/

theorem bound?_meets (default : Int) (item : Item) :
    Meets (Contained calculates) (bound? default item) fun _ => True := by
  rw [bound?.eq_def]
  split
  · exact .ok trivial
  · split
    · exact .ok trivial
    · exact .error (.own rfl)

/-- One end of a cut, which may be left open. -/
theorem cutEnd_meets (f : Int → Int) (default : Int) (item : Item) :
    Meets (Contained calculates)
      (match item with
        | .null => .ok default
        | item => do return f ((← bound? 0 item).getD 0)) fun _ => True := by
  split
  · exact .ok trivial
  · exact (bound?_meets 0 item).bind fun _ _ => .pure trivial

theorem cutOf_meets (length : Nat) (start stop step : Item) :
    Meets (Contained calculates) (cutOf length start stop step) fun _ => True := by
  rw [cutOf]
  refine (bound?_meets 1 step).bind fun step _ => ?_
  refine .ite (.error (.own rfl)) ?_
  exact (cutEnd_meets _ _ start).bind fun first _ =>
    (cutEnd_meets _ _ stop).bind fun last _ => .pure trivial

theorem cut_meets (h : item.Tame calculates constant) (start stop step : Item) :
    Meets (Contained calculates) (item.cut start stop step)
      (Tame calculates constant) := by
  rw [cut.eq_def]
  split
  case h_1 => exact (cutOf_meets _ _ _ _).bind fun c _ => .pure (.text _)
  case h_2 => exact (cutOf_meets _ _ _ _).bind fun c _ => .pure (.markup _)
  case h_3 => exact (cutOf_meets _ _ _ _).bind fun c _ => .pure (.bytes _)
  case h_4 =>
    exact (cutOf_meets _ _ _ _).bind fun c _ =>
      .pure (tame_list.2 ((tame_list.1 h).subset (c.take_subset _)))
  case h_5 =>
    exact (cutOf_meets _ _ _ _).bind fun c _ =>
      .pure (tame_tuple.2 ((tame_tuple.1 h).subset (c.take_subset _)))
  case h_6 => cases h
  all_goals exact .error (.own rfl)

theorem element?_meets (h : item.Tame calculates constant) (key : Item) :
    Meets (Contained calculates) (item.element? key) fun found =>
      ∀ item ∈ found, item.Tame calculates constant := by
  rw [element?.eq_def]
  split
  case h_1 => exact .error (.undefined _)
  case h_2 =>
    split
    · exact .error (.undefined _)
    · exact .ok (by simp)
    · exact lookUp_meets _ key fun e he => ((tame_dict.1 h).2 e he).2
  case h_3 => exact .ite (.ok (by simp)) (.error (.undefined _))
  case h_4 =>
    have hcut := cut_meets h
    split
    · next hfound => exact .ok (by simpa using (hcut _ _ _).ensures _ hfound)
    · exact .error (.undefined _)
    · next _ hfault => exact .ite (.ok (by simp)) (.error ((hcut _ _ _).of_error hfault))
  case h_5 =>
    split
    · exact .ok (by simp)
    · refine .ok fun found hfound => ?_
      split at hfound
      · exact tame_list.1 h found (mem_of_elementAt? hfound)
      · exact tame_tuple.1 h found (mem_of_elementAt? hfound)
      · obtain ⟨c, _, rfl⟩ := Option.map_eq_some_iff.1 hfound
        exact .text _
      · obtain ⟨c, _, rfl⟩ := Option.map_eq_some_iff.1 hfound
        exact .markup _
      · obtain ⟨b, _, rfl⟩ := Option.map_eq_some_iff.1 hfound
        exact .int _
      · cases h
      · cases hfound

theorem absent_tame (item key : Item) : (item.absent key).Tame calculates constant := by
  rw [absent]
  split <;> exact .undefined _ _

theorem attr_meets (h : item.Tame calculates constant) (name : String) :
    Meets (Contained calculates) (item.attr name) (Tame calculates constant) := by
  rw [attr]
  split
  · next hfound => exact attribute?_meets h hfound
  · refine (element?_meets h (.text name)).bind fun found hfound => .pure ?_
    cases found with
    | none => exact absent_tame item (.text name)
    | some found => exact hfound found rfl

theorem element_meets (h : item.Tame calculates constant) (key : Item) :
    Meets (Contained calculates) (item.element key) (Tame calculates constant) := by
  rw [element]
  refine (element?_meets h key).bind fun found hfound => ?_
  split
  · next found => exact .pure (hfound found rfl)
  · split
    · next hattribute =>
        obtain ⟨name, _, hattribute⟩ := Option.bind_eq_some_iff.1 hattribute
        exact attribute?_meets h hattribute
    · exact .pure (absent_tame item key)

/-! ## What stands under the name of a macro -/

section

variable {label : String} (hlabel : label ∈ layoutMacros)

include hlabel

theorem functionNames_contains_eq_false (h : item.Tame calculates constant) :
    (item.functionNames.contains label || commonNames.contains label) = false := by
  have hnames :
      ∀ names ∈ [wholeNames, realNames, textNames, markupNames, octetNames, listNames,
          tupleNames, dictNames,
          ["cycle", "changed", "__len__", "__iter__", "__next__", "__call__"],
          ["__html__"], ["__bool__"], ["__call__"]], ∀ label ∈ layoutMacros,
        (names.contains label || commonNames.contains label) = false := by
    decide
  refine hnames _ ?_ label hlabel
  cases h <;> simp [functionNames]

theorem part?_inert (h : item.Tame calculates constant) {found : Except RenderError Item}
    (hfound : item.part? label = some found) : Ensures found Inert := by
  rw [part?.eq_def] at hfound
  split at hfound
  case h_20 =>
    rw [LoopState.part?.eq_def] at hfound
    split at hfound <;> first | (simp [layoutMacros] at hlabel; done) | cases hfound
  case h_21 =>
    obtain ⟨found, hpart, rfl⟩ := Option.map_eq_some_iff.1 hfound
    rw [MacroInfo.part?.eq_def] at hpart
    split at hpart <;> first | (simp [layoutMacros] at hlabel; done) | cases hpart
  case h_22 | h_23 => cases h
  case h_25 =>
    obtain ⟨found, hexport, rfl⟩ := Option.map_eq_some_iff.1 hfound
    exact .ok ((tame_imported.1 h).2.2 _ (mem_of_lookup hexport) hlabel)
  all_goals first | (simp [layoutMacros] at hlabel; done) | cases hfound

/-- What has the name of a macro on it, and is no dictionary, has a macro under it
or nothing that could be called. -/
theorem attr_inert (h : item.Tame calculates constant)
    (hdict : ∀ entries place, item ≠ .dict entries place) :
    Ensures (item.attr label) Inert := by
  have hattribute {found : Except RenderError Item}
      (hfound : item.attribute? label = some found) : Ensures found Inert := by
    rw [attribute?.eq_def] at hfound
    split at hfound
    · cases hfound
      exact .error _
    · cases h
    · split at hfound
      · next hpart =>
          cases hfound
          exact part?_inert hlabel h hpart
      · rw [functionNames_contains_eq_false hlabel h] at hfound
        split at hfound
        · next hclass => simp [hclass, layoutMacros] at hlabel
        · split at hfound <;> cases hfound
          exact .ok trivial
  have helement : Ensures (item.element? (.text label)) fun found => found = none := by
    rw [element?.eq_def]
    split
    case h_1 => exact .error _
    case h_2 => exact absurd rfl (hdict _ _)
    case h_5 => exact .ok rfl
    all_goals simp_all
  rw [attr]
  split
  · next hfound => exact hattribute hfound
  · refine helement.bind fun found hfound => .pure ?_
    rw [hfound, Option.getD_none, absent]
    split <;> trivial

end

/-! ## Collections -/

theorem elements_meets (h : item.Tame calculates constant) :
    Meets (Contained calculates) item.elements (TameAll calculates constant) := by
  rw [elements.eq_def]
  split
  case h_1 => exact .ok (tame_list.1 h)
  case h_2 => exact .ok (tame_tuple.1 h)
  case h_3 =>
    exact .ok (by simpa [TameAll] using fun _ _ he => ((tame_dict.1 h).2 _ he).1)
  case h_4 | h_5 => cases h
  case h_6 | h_7 => exact .ok (by simp [TameAll, chars])
  case h_8 => exact .ok (by simp [TameAll])
  case h_9 => exact orElse_meets tameAll_nil
  all_goals exact .error (.own rfl)

theorem length?_meets (h : item.Tame calculates constant) {n : Except RenderError Nat}
    (hn : item.length? = some n) : Meets (Contained calculates) n fun _ => True := by
  rw [length?.eq_def] at hn
  split at hn <;> cases hn
  case h_7 | h_8 => cases h
  case h_9 => exact orElse_meets trivial
  case h_10 => exact (tame_loop.1 h).2.2.1
  all_goals exact .ok trivial

theorem truthy_meets (h : item.Tame calculates constant) :
    Meets (Contained calculates) item.truthy fun _ => True := by
  rw [truthy.eq_def]
  split
  case h_5 => exact orElse_meets trivial
  case h_7 =>
    split
    · next hn => exact (length?_meets h hn).map fun _ _ => trivial
    · exact .ok trivial
  all_goals exact .ok trivial

/-! ## Showing -/

/-- Numbers of too many digits are not shown, which is a misuse of a value. -/
theorem quotedForm_meets (item : Item) :
    Meets (Contained calculates) item.quotedForm fun _ => True := by
  rw [quotedForm]
  exact .ite (.ok trivial) (.error (.own rfl))

theorem display_meets (item : Item) :
    Meets (Contained calculates) item.display fun _ => True := by
  rw [display.eq_def]
  split
  case h_3 => exact orElse_meets trivial
  case h_5 => exact quotedForm_meets _
  all_goals exact .ok trivial

theorem printed_meets (item : Item) :
    Meets (Contained calculates) item.printed fun _ => True := by
  rw [printed.eq_def]
  split
  case h_3 => exact (display_meets _).map fun _ _ => trivial
  all_goals exact .ok trivial

mutual

/-- Data is tame. -/
theorem ofValue_tame : ∀ v : Value, (ofValue v).Tame calculates false
  | .null => .null
  | .bool b => .bool b
  | .int n => .int n
  | .float x => tame_float x
  | .text s => .text s
  | .bytes octets => .bytes octets
  | .list items => tame_list.2 (ofValues_tame items)
  | .object entries => tame_dict.2 ⟨rfl, ofEntries_tame entries⟩

theorem ofValues_tame : ∀ vs : List Value, TameAll calculates false (ofValues vs)
  | [] => tameAll_nil
  | v :: rest => tameAll_cons.2 ⟨ofValue_tame v, ofValues_tame rest⟩

theorem ofEntries_tame : ∀ entries : List (String × Value),
    TameEntries calculates false (ofEntries entries)
  | [] => tameEntries_nil
  | (key, v) :: rest =>
    tameEntries_cons.2 ⟨⟨.text key, ofValue_tame v⟩, ofEntries_tame rest⟩

end

end SchemaDocs.Template.Item
