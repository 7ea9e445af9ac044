import SchemaDocs.Proofs.Growth

/-!
# What the built-in macros write
-/

namespace SchemaDocs

open Template
  (Expr Stmt Item Store View PlainMacro MacroInfo Stands StandAll isCarried builtins
  roundLimit)

/-! ## What can be gone over and shown -/

/-- The address of a link is never empty. -/
def TypeBinding.Presentable (t : TypeBinding) : Prop := t.href ≠ some ""

structure FieldBinding.Presentable (f : FieldBinding) : Prop where
  type : f.type.Presentable
  map : ∀ key value, f.map = some (key, value) → key.Presentable ∧ value.Presentable
  oneof : ∀ v ∈ f.oneof, v.isFalsy = false ∧ (Item.ofValue v).isShowable

structure EnumBinding.Presentable (e : EnumBinding) : Prop where
  size : e.entries.length < roundLimit
  numbers : ∀ v ∈ e.entries, (Item.int v.number).isShowable

/-- What the message has by itself can be gone over and shown. -/
structure MessageBinding.OwnPresentable (m : MessageBinding) : Prop where
  fieldCount : m.fields.length < roundLimit
  fields : ∀ f ∈ m.fields, f.Presentable
  messageCount : m.messages.length < roundLimit
  enumCount : m.enums.length < roundLimit
  enums : ∀ e ∈ m.enums, e.Presentable

/-- So can what is nested in it, which is so at most to a depth. -/
def MessageBinding.Presentable : (depth : Nat) → MessageBinding → Prop
  | 0, _ => False
  | depth + 1, m => m.OwnPresentable ∧ ∀ nested ∈ m.messages, nested.Presentable depth

structure ServiceBinding.Presentable (s : ServiceBinding) : Prop where
  size : s.methods.length < roundLimit
  methods : ∀ m ∈ s.methods, m.request.Presentable ∧ m.response.Presentable

namespace Layout

variable {s s' : Store} {home : Nat} {view : View} {item : Item}

/-! ## Parts of data -/

section Parts

variable {name label : String} {entries : List (String × Value)} {v : Value}

theorem part_evaluates (outside : Template.Outside) (hname : view.Finds s name item)
    (hitem : Stands (.object entries) item) (hlabel : isCarried label = false)
    (hv : entries.lookup label = some v) :
    ∃ found, s.Evaluates outside view (part name label) found ∧ Stands v found :=
  (Store.Evaluates.name hname hitem.settled).entry hitem hlabel hv

theorem part_text {outside : Template.Outside} {t : String}
    (hname : view.Finds s name item)
    (hitem : Stands (.object entries) item) (hlabel : isCarried label = false)
    (hv : entries.lookup label = some (.text t)) :
    s.Evaluates outside view (part name label) (.text t) := by
  obtain ⟨found, he, hfound⟩ := part_evaluates outside hname hitem hlabel hv
  cases hfound
  exact he

end Parts

section

variable {outside : Template.Outside} {e : Expr} {body : List Stmt}

/-- What is written for a text, unless it is empty. -/
theorem text_branch {t text : String} (he : s.Evaluates outside view e (.text t))
    (hbody : s.Writes outside view body text) :
    s.Writes outside view [.branch e body []] (if t = "" then "" else text) := by
  refine .branch he (Stands.text t).truthy (fun hyes => ?_) (fun hno => ?_)
  · have hsome : t ≠ "" := by simpa [Value.isFalsy] using hyes
    rw [if_neg hsome]
    exact hbody
  · have hnone : t = "" := by simpa [Value.isFalsy] using hno
    rw [if_pos hnone]
    exact .nil

/-- What is written for a list, unless it is empty. -/
theorem list_branch {α : Type} {f : α → Value} {as : List α} {text : String}
    (he : s.Evaluates outside view e item) (hitem : Stands (.list (as.map f)) item)
    (hbody : s.Writes outside view body text) :
    s.Writes outside view [.branch e body []] (if as.isEmpty then "" else text) := by
  have htruthy := hitem.truthy
  rw [Value.isFalsy, List.isEmpty_map] at htruthy
  refine .branch he htruthy (fun hyes => ?_) (fun hno => ?_)
  · rw [if_neg (by simpa using hyes)]
    exact hbody
  · rw [if_pos (by simpa using hno)]
    exact .nil

end

/-! ## Macros in a store -/

/-- The macros of the built-in layout are in a scope of the store. -/
def HasMacros (s : Store) (home : Nat) : Prop :=
  ∀ m ∈ macroTrees, ∃ address,
    View.Finds ⟨builtins, [home]⟩ s m.name (.macroAt m.info address) ∧
    s.closures[address]? = some (m.closure builtins [home])

theorem HasMacros.later (h : HasMacros s home) (hs : s.Grows s') : HasMacros s' home := by
  intro m hm
  obtain ⟨address, hfind, hclosure⟩ := h m hm
  exact ⟨address, hfind.later hs, hs.closures _ _ hclosure⟩

/-- Under a name the view finds what the macros find there. -/
def Reaches (view : View) (s : Store) (home : Nat) (name : String) : Prop :=
  ∀ s', s.Grows s' → view.find s' name = (View.mk builtins [home]).find s' name

theorem Reaches.later {name : String} (h : Reaches view s home name) (hs : s.Grows s') :
    Reaches view s' home name :=
  fun s'' hs' => h s'' (hs.trans hs')

theorem Reaches.itself (s : Store) (home : Nat) (name : String) :
    Reaches ⟨builtins, [home]⟩ s home name :=
  fun _ _ => rfl

theorem Reaches.around {page : List (String × Item)} {places : List Nat} {place : Nat}
    {scope : Template.Scope} {name : String} (hscope : s.scopes[place]? = some scope)
    (hname : scope.lookup name = none) (h : Reaches ⟨page, places⟩ s home name) :
    Reaches ⟨page, place :: places⟩ s home name :=
  fun s' hs => (View.find_around hscope hname hs).trans (h s' hs)

/-- The body of a macro writes a text when it is called with some items. -/
def Fills (m : PlainMacro) (s : Store) (depth home : Nat) (items : List Item)
    (text : String) :
    Prop :=
  ∀ (s' : Store) (place : Nat), s.Grows s' → s'.scopes[place]? = some (m.scope items) →
    s'.Writes (outside depth) ⟨builtins, [place, home]⟩ m.body text

theorem Fills.later {m : PlainMacro} {depth : Nat} {items : List Item} {text : String}
    (h : Fills m s depth home items text) (hs : s.Grows s') :
    Fills m s' depth home items text :=
  fun s'' place hs' => h s'' place (hs.trans hs')

/-- A macro is called by its name, where nothing hides it. -/
theorem HasMacros.call {m : PlainMacro} (h : HasMacros s home) (hm : m ∈ macroTrees)
    {depth : Nat} {es : List Expr} {items : List Item} {text : String}
    (hview : Reaches view s home m.name)
    (hes : List.Forall₂ (s.Evaluates (outside (depth + 1)) view) es items)
    (hitems : items.length = m.params.length) (htext : Fills m s depth home items text) :
    s.Evaluates (outside (depth + 1)) view (plainCall (.name m.name) es)
      (.markup text) := by
  obtain ⟨address, hfind, hclosure⟩ := h m hm
  have hname :
      s.Evaluates (outside (depth + 1)) view (.name m.name) (.macroAt m.info address) :=
    .name (fun s' hs => (hview s' hs).trans (hfind s' hs))
      (Item.settled_macroAt m.info address)
  exact hname.call hclosure hes hitems htext

/-! ## Headings -/

/-- The least of two numbers. -/
theorem applyFilter_min (m n : Int) (place : Option Nat) :
    Template.applyFilter "min" ⟨[.list [.int m, .int n] place], []⟩ =
      .ok (.int (min m n)) := by
  have hordered : Item.ordered .lt Item.nestingLimit (.int n) (.int m) =
      .ok (Item.holds .lt (compare n m)) := rfl
  have hholds : Item.holds .lt (compare n m) = decide (n < m) := by
    rw [Bool.eq_iff_iff, decide_eq_true_iff, ← Int.compare_eq_lt]
    cases compare n m <;> decide
  change (Item.list [.int m, .int n] place).least (.bool false) .null = _
  simp only [Item.least, Item.elements, Item.truthy, Item.sortKey,
    Item.pathKeys, List.foldlM_nil, List.foldlM_cons, ok_bind_eq,
    pure, Except.pure, hordered, hholds]
  by_cases h : n < m
  · have hmin : min m n = n := by omega
    simp [h, hmin]
  · have hmin : min m n = m := by omega
    simp [h, hmin]

theorem arithmetic_repeat {n : Nat} (h : n ≤ 6) :
    Item.arithmetic .mul (.text "#") (.int n) =
      .ok (.text (String.ofList (List.replicate n '#'))) := by
  have hrepetitions : Item.repetitions n = .ok n := by
    have hlimit : Item.sizeLimit = 9223372036854775808 := by decide
    rw [Item.repetitions, hlimit, if_neg (by omega)]
    rfl
  change (Item.text "#").multiplySequences (.int n) = _
  rw [Item.multiplySequences]
  simp only [Item.isSequence, Item.repeated?, Option.isSome_some, if_true, Item.whole?,
    hrepetitions, ok_bind_eq, Option.getD_some]
  change Except.ok (Item.text (String.ofList (List.replicate n ['#']).flatten)) = _
  rw [List.flatten_replicate_singleton]

/-- The least of two numbers that stand in a list. -/
theorem least_evaluates {outside : Template.Outside} {e e' : Expr} {m n : Int}
    (h : s.Evaluates outside view e (.int m))
    (h' : s.Evaluates outside view e' (.int n)) :
    s.Evaluates outside view (.filter (.list [e, e']) "min" []) (.int (min m n)) := by
  have hitems :
      s.Gives (Expr.evaluateAll outside view [e, e']) (· = [.int m, .int n]) := by
    rw [Expr.evaluateAll, Expr.evaluateAll, Expr.evaluateAll]
    refine Store.Gives.andThen h (Store.Gives.andThen ?_ (.pure rfl))
    exact Store.Gives.andThen h' (Store.Gives.andThen (.pure rfl) (.pure rfl))
  have hlist : s.Gives (Expr.evaluate outside view (.list [e, e']))
      (Stands (.list [.int m, .int n])) := by
    rw [Expr.evaluate]
    exact hitems.andThen
      (Template.gives_adopt (Template.adopts_ofValue (.list [.int m, .int n])))
  rw [Store.Evaluates, Expr.evaluate]
  refine hlist.bind fun list hstands => ?_
  obtain ⟨place, rfl⟩ : ∃ place, list = .list [.int m, .int n] (some place) := by
    cases hstands with
    | list place hitems =>
        obtain _ | ⟨hm, _ | ⟨hn, _ | _⟩⟩ := hitems
        cases hm
        cases hn
        exact ⟨place, rfl⟩
  have hnone : s.Gives (Expr.evaluateArguments outside view
      (Template.functionName Template.filters "min") .none []) (· = ⟨[], []⟩) :=
    Store.Evaluates.arguments .nil []
  refine hnone.andThen ((Template.gives_now _).andThen ?_)
  exact Template.gives_give (applyFilter_min m n _) (Item.settled_int _)

theorem escapeMdx_heading (n : Nat) : Text.escapeMdx (heading n) = heading n := by
  have hchars (k : Nat) :
      Text.escapeMdxChars (List.replicate k '#') = List.replicate k '#' := by
    induction k with
    | zero => rfl
    | succ k ih =>
        rw [List.replicate_succ, Text.escapeMdxChars, List.flatMap_cons,
          ← Text.escapeMdxChars, ih]
        rfl
  rw [heading, Text.escapeMdx, String.toList_ofList, hchars]

theorem heading_fills (n depth : Nat) :
    Fills headingTree s depth home [.int n] (heading n) := by
  intro s' place hs hplace
  have hlevel : View.Finds ⟨builtins, [place, home]⟩ s' "level" (.int n) :=
    .inside hplace rfl
  have hleast : s'.Evaluates (outside depth) ⟨builtins, [place, home]⟩
      (.filter (.list [.name "level", .const (.int 6)]) "min" [])
      (.int (min n 6 : Nat)) := by
    have hmin : ((min n 6 : Nat) : Int) = min (n : Int) 6 := by omega
    rw [hmin]
    exact least_evaluates (.name hlevel (Item.settled_int n))
      (.const rfl (Item.settled_int 6))
  have hprinted : (Item.text (heading n)).printed = .ok (heading n) :=
    congrArg Except.ok (escapeMdx_heading n)
  refine .print ?_ hprinted
  exact .arithmetic (by decide) (.const rfl (Item.settled_text "#")) hleast
    (arithmetic_repeat (Nat.min_le_right n 6)) (Item.settled_text _)

/-! ## Types -/

theorem link_writes {outside : Template.Outside} {name label text : String}
    {href : Option String}
    {entries : List (String × Value)} (hname : view.Finds s name item)
    (hitem : Stands (.object entries) item) (hhref : href ≠ some "")
    (hlabel : isCarried label = false) (htext : entries.lookup label = some (.text text))
    (haddress : entries.lookup "href" = some (optionalText href)) :
    s.Writes outside view [linkTree name label] (link text href) := by
  have hpart : s.Evaluates outside view (part name label) (.text text) :=
    part_text hname hitem hlabel htext
  obtain ⟨found, he, hfound⟩ :=
    part_evaluates outside hname hitem (by decide : isCarried "href" = false) haddress
  have htruthy := hfound.truthy
  cases href with
  | none =>
      refine .branch he htruthy nofun (fun _ => ?_)
      exact .print hpart rfl
  | some address =>
      cases hfound
      refine .branch he htruthy (fun _ => ?_) (fun hno => ?_)
      · refine (Store.Writes.text_cons _ (.print_cons hpart rfl (.text_cons _
          (.print_cons he rfl (.text_cons _ .nil))))).of_eq ?_
        simp only [link, String.append_empty, String.append_assoc]
      · have haddress : address = "" := by simpa [optionalText, Value.isFalsy] using hno
        exact absurd (congrArg some haddress) hhref

theorem typeRef_fills {t : TypeBinding} (ht : t.Presentable)
    (hitem : Stands t.toValue item)
    (depth : Nat) : Fills typeRefTree s depth home [item] (typeRef t) := by
  intro s' place hs hplace
  exact link_writes (.inside hplace rfl) hitem ht (by decide) rfl rfl

/-- Where a type stands, its reference is printed. -/
theorem HasMacros.type_cons {depth : Nat} {e : Expr} {t : TypeBinding} {rest : List Stmt}
    {text : String} (h : HasMacros s home)
    (hview : Reaches view s home "type_ref")
    (he : s.Evaluates (outside (depth + 1)) view e item) (hitem : Stands t.toValue item)
    (ht : t.Presentable) (hrest : s.Writes (outside (depth + 1)) view rest text) :
    s.Writes (outside (depth + 1)) view (typeTree e :: rest) (typeRef t ++ text) :=
  .print_cons (h.call (m := typeRefTree) (by simp [macroTrees]) hview (.cons he .nil) rfl
    (typeRef_fills ht hitem depth)) rfl hrest

theorem fieldType_fills {f : FieldBinding} (hf : f.Presentable) (h : HasMacros s home)
    (hitem : Stands f.toValue item) (depth : Nat) :
    Fills fieldTypeTree s (depth + 1) home [item] (fieldType f) := by
  intro s' place hs hplace
  have hmacros := h.later hs
  have hname : View.Finds ⟨builtins, [place, home]⟩ s' "f" item := .inside hplace rfl
  have hview : Reaches ⟨builtins, [place, home]⟩ s' home "type_ref" :=
    .around hplace rfl (.itself s' home "type_ref")
  obtain ⟨map, hmap, hstands⟩ := part_evaluates (outside (depth + 1)) hname hitem
    (by decide : isCarried "map" = false) rfl
  obtain ⟨type, htype, htypeStands⟩ := part_evaluates (outside (depth + 1)) hname hitem
    (by decide : isCarried "type" = false) rfl
  have htruthy := hstands.truthy
  cases hfmap : f.map with
  | none =>
      rw [hfmap] at hstands htruthy
      refine .branch hmap htruthy nofun (fun _ => ?_)
      rw [fieldType, hfmap]
      exact (hmacros.type_cons hview htype htypeStands hf.type .nil).of_eq
        String.append_empty
  | some types =>
      obtain ⟨key, value⟩ := types
      rw [hfmap] at hstands htruthy
      obtain ⟨hkeyType, hvalueType⟩ := hf.map key value hfmap
      obtain ⟨keyItem, hkey, hkeyStands⟩ :=
        hmap.entry hstands (by decide : isCarried "key" = false) rfl
      obtain ⟨valueItem, hvalue, hvalueStands⟩ :=
        hmap.entry hstands (by decide : isCarried "value" = false) rfl
      refine .branch hmap htruthy (fun _ => ?_) nofun
      refine (Store.Writes.text_cons _ (hmacros.type_cons hview hkey hkeyStands hkeyType
        (.text_cons _ (hmacros.type_cons hview hvalue hvalueStands hvalueType
          (.text_cons _ .nil))))).of_eq ?_
      simp only [fieldType, hfmap, String.append_empty, String.append_assoc]

/-! ## Openings -/

theorem description_writes {outside : Template.Outside} {e : Expr} {description : String}
    (he : s.Evaluates outside view e (.text description)) :
    s.Writes outside view [descriptionTree e]
      (if description = "" then "" else Text.escapeMdx description ++ "\n\n") :=
  text_branch he (.print_text he rfl "\n\n")

theorem HasMacros.opening_writes {depth n : Nat}
    {name fullName shortName description : String}
    {entries : List (String × Value)} (h : HasMacros s home)
    (hview : Reaches view s home "heading")
    (hname : view.Finds s name item) (hlevel : view.Finds s "level" (.int n))
    (hitem : Stands (.object entries) item)
    (hfull : entries.lookup "anchor" = some (.text fullName))
    (hshort : entries.lookup "name" = some (.text shortName))
    (hdescription : entries.lookup "description" = some (.text description)) :
    s.Writes (outside (depth + 1)) view (openingTree name)
      (opening n fullName shortName description) := by
  have hheading : s.Evaluates (outside (depth + 1)) view
      (plainCall (.name "heading") [.name "level"]) (.markup (heading n)) :=
    h.call (m := headingTree) (by simp [macroTrees]) hview
      (.cons (.name hlevel (Item.settled_int n)) .nil) rfl (heading_fills n depth)
  refine (Store.Writes.text_cons _
    (.print_cons (part_text hname hitem (by decide) hfull) rfl
    (.text_cons _ (.print_cons hheading rfl (.text_cons _ (.print_cons
      (part_text hname hitem (by decide) hshort) rfl (.text_cons _
        (description_writes
          (part_text hname hitem (by decide) hdescription))))))))).of_eq ?_
  simp only [opening, anchor, String.append_assoc]

/-- A description in a table. -/
theorem cell_cons {outside : Template.Outside} {name description text : String}
    {entries : List (String × Value)} {rest : List Stmt} (hname : view.Finds s name item)
    (hitem : Stands (.object entries) item)
    (hdescription : entries.lookup "description" = some (.text description))
    (hrest : s.Writes outside view rest text) :
    s.Writes outside view (cellTree name :: rest) (cell description ++ text) :=
  .print_cons ((part_text hname hitem (by decide) hdescription).filter
    rfl (Item.settled_text _))
    rfl hrest

/-! ## Enums -/

theorem enumRow_writes {outside : Template.Outside} {v : EnumValue}
    (hv : (Item.int v.number).isShowable) (hname : view.Finds s "v" item)
    (hitem : Stands (enumEntryValue v) item) :
    s.Writes outside view enumRowTree (enumRow v) := by
  obtain ⟨number, hnumber, hstands⟩ :=
    part_evaluates outside hname hitem (by decide : isCarried "number" = false) rfl
  refine (Store.Writes.text_cons _
    (.print_cons (part_text hname hitem (by decide) rfl) rfl
    (.text_cons _ (.print_cons hnumber (hstands.printed nofun hv) (.text_cons _
      (cell_cons hname hitem rfl (.text_cons _ .nil))))))).of_eq ?_
  simp only [enumRow, String.append_empty, String.append_assoc]
  rfl

theorem enum_fills {e : EnumBinding} (he : e.Presentable) (h : HasMacros s home)
    (hitem : Stands e.toValue item) (n depth : Nat) :
    Fills enumTree s (depth + 1) home [item, .int n] (enum n e) := by
  intro s' place hs hplace
  have hname : View.Finds ⟨builtins, [place, home]⟩ s' "e" item := .inside hplace rfl
  have hlevel : View.Finds ⟨builtins, [place, home]⟩ s' "level" (.int n) :=
    .inside hplace rfl
  have hopening :
      s'.Writes (outside (depth + 1)) ⟨builtins, [place, home]⟩ (openingTree "e")
        (opening n e.fullName e.name e.description) :=
    (h.later hs).opening_writes (.around hplace rfl (.itself s' home _))
      hname hlevel hitem
      rfl rfl rfl
  obtain ⟨rows, hrows, hstands⟩ := part_evaluates (outside (depth + 1)) hname hitem
    (by decide : isCarried "entries" = false) rfl
  refine (hopening.append (.text_cons _ (.each_cons enumRow hrows hstands he.size
    (fun v hv row hrow s'' inner hs' hinner => ?_) (.text_cons _ .nil)))).of_eq ?_
  · exact enumRow_writes (he.numbers v hv) (.inside hinner rfl) hrow
  · simp only [enum, String.append_empty, String.append_assoc]

/-! ## Messages -/

theorem oneof_writes {outside : Template.Outside} {f : FieldBinding} (hf : f.Presentable)
    (hname : view.Finds s "f" item) (hitem : Stands f.toValue item) :
    s.Writes outside view
      [.branch (part "f" "oneof")
        [.text " (oneof ", .print (part "f" "oneof"), .text ")"] []]
      (oneofNote f.oneof) := by
  obtain ⟨found, he, hstands⟩ :=
    part_evaluates outside hname hitem (by decide : isCarried "oneof" = false) rfl
  have htruthy := hstands.truthy
  cases honeof : f.oneof with
  | none =>
      rw [honeof] at htruthy
      exact .branch he htruthy nofun fun _ => .nil
  | some v =>
      rw [honeof] at hstands htruthy
      obtain ⟨hholds, hshow⟩ := hf.oneof v honeof
      rw [Option.getD_some, hholds] at htruthy
      have hnull : v ≠ .null := by
        rintro rfl
        cases hholds
      refine .branch he htruthy (fun _ => ?_) nofun
      refine (Store.Writes.text_cons _ (.print_cons he (hstands.printed hnull hshow)
        (.text_cons _ .nil))).of_eq ?_
      simp only [oneofNote, Option.getD_some, String.append_empty, String.append_assoc]

theorem HasMacros.fieldRow_writes {f : FieldBinding} (hf : f.Presentable)
    (h : HasMacros s home)
    {depth : Nat} (hview : Reaches view s home "field_type")
    (hname : view.Finds s "f" item) (hitem : Stands f.toValue item) :
    s.Writes (outside (depth + 2)) view fieldRowTree (fieldRow f) := by
  have htype :
      s.Evaluates (outside (depth + 2)) view (plainCall (.name "field_type") [.name "f"])
        (.markup (fieldType f)) :=
    h.call (m := fieldTypeTree) (by simp [macroTrees]) hview
      (.cons (.name hname hitem.settled) .nil) rfl (fieldType_fills hf h hitem depth)
  have hnote :
      s.Writes (outside (depth + 2)) view _ (oneofNote f.oneof ++ (" |\n" ++ "")) :=
    (oneof_writes hf hname hitem).append (.text_cons " |\n" .nil)
  refine (Store.Writes.text_cons _
    (.print_cons (part_text hname hitem (by decide) rfl) rfl
    (.text_cons _ (.print_cons htype rfl (.text_cons _ (.print_cons
      (part_text hname hitem (by decide) rfl) rfl (.text_cons _ (cell_cons hname hitem rfl
        hnote)))))))).of_eq ?_
  simp only [fieldRow, String.append_empty, String.append_assoc]

theorem messageValues_eq_map : ∀ messages : List MessageBinding,
    messageValues messages = messages.map MessageBinding.toValue
  | [] => rfl
  | m :: rest => congrArg (m.toValue :: ·) (messageValues_eq_map rest)

theorem nested_eq_each (level : Nat) : ∀ messages : List MessageBinding,
    nested level messages = each (fun m => message level m ++ "\n") messages
  | [] => rfl
  | m :: rest => congrArg (message level m ++ "\n" ++ ·) (nested_eq_each level rest)

theorem HasMacros.fieldTable_writes {fields : List FieldBinding} {depth : Nat}
    (h : HasMacros s home) (hview : Reaches view s home "field_type")
    (hcount : fields.length < roundLimit) (hfields : ∀ f ∈ fields, f.Presentable)
    (he : s.Evaluates (outside (depth + 2)) view (part "m" "fields") item)
    (hitem : Stands (.list (fields.map FieldBinding.toValue)) item) :
    s.Writes (outside (depth + 2)) view [fieldTableTree] (fieldTable fields) := by
  refine list_branch he hitem
    ((Store.Writes.text_cons _ (.each_cons fieldRow he hitem hcount
    (fun f hf row hrow s' inner hs hinner => ?_) (.text_cons _ .nil))).of_eq ?_)
  · exact (h.later hs).fieldRow_writes (hfields f hf)
      (.around hinner rfl (hview.later hs))
      (.inside hinner rfl) hrow
  · rw [String.append_empty, String.append_assoc]

/-- Nested declarations are written by a macro, each one level deeper. -/
theorem HasMacros.nested_writes {α : Type} {f : α → Value} {render : α → String}
    {as : List α}
    {m : PlainMacro} {depth n : Nat} {e : Expr} (h : HasMacros s home)
    (hm : m ∈ macroTrees)
    (hparams : m.params.length = 2) (hview : Reaches view s home m.name)
    (hlevel : view.Finds s "level" (.int n))
    (he : s.Evaluates (outside (depth + 1)) view e item)
    (hitem : Stands (.list (as.map f)) item)
    (hcount : as.length < roundLimit)
    (hfills : ∀ a ∈ as, ∀ row, Stands (f a) row →
      Fills m s depth home [row, .int (n + 1 : Nat)] (render a)) :
    s.Writes (outside (depth + 1)) view [loopOver "nested" e (nestedTree m.name)]
      (each (fun a => render a ++ "\n") as) := by
  have hhidden : ∀ m ∈ macroTrees, m.name ≠ "nested" := by decide
  refine (Store.Writes.each_cons (fun a => render a ++ "\n") he hitem hcount
    (fun a ha row hrow s' inner hs hinner => ?_) .nil).of_eq String.append_empty
  have hlevel : View.Finds ⟨view.page, inner :: view.scopes⟩ s' "level" (.int n) :=
    .around hinner rfl (hlevel.later hs)
  have hdeeper : s'.Evaluates (outside (depth + 1)) ⟨view.page, inner :: view.scopes⟩
      (.arithmetic .add (.name "level") (.const (.int 1))) (.int (n + 1 : Nat)) :=
    .arithmetic (by decide) (.name hlevel (Item.settled_int n))
      (.const rfl (Item.settled_int 1))
      rfl (Item.settled_int _)
  have hreaches : Reaches ⟨view.page, inner :: view.scopes⟩ s' home m.name := by
    refine .around hinner ?_ (hview.later hs)
    rw [List.lookup_cons, beq_false_of_ne (hhidden m hm), List.lookup_nil]
  have hnested : View.Finds ⟨view.page, inner :: view.scopes⟩ s' "nested" row :=
    .inside hinner rfl
  have hcall := (h.later hs).call hm hreaches
    (.cons (.name hnested hrow.settled) (.cons hdeeper .nil)) hparams.symm
    ((hfills a ha row hrow).later hs)
  exact .print_text hcall rfl "\n"

/-- By the depth of the calls: a message calls the macro again for those nested in it. -/
theorem message_fills (h : HasMacros s home) :
    ∀ {depth : Nat} {m : MessageBinding} {item : Item},
    m.Presentable depth → Stands m.toValue item → ∀ n : Nat,
    Fills messageTree s (depth + 1) home [item, .int n] (message n m)
  | depth + 1, ⟨name, fullName, description, fields, messages, enums⟩,
      item, hm, hitem, n => by
      intro s' place hs hplace
      obtain ⟨hown, hmessages⟩ := hm
      have hmacros := h.later hs
      have hname : View.Finds ⟨builtins, [place, home]⟩ s' "m" item := .inside hplace rfl
      have hlevel : View.Finds ⟨builtins, [place, home]⟩ s' "level" (.int n) :=
        .inside hplace rfl
      have hview (other : String)
          (hother : (messageTree.scope [item, .int n]).lookup other = none) :
          Reaches ⟨builtins, [place, home]⟩ s' home other :=
        .around hplace hother (.itself s' home other)
      obtain ⟨fieldList, hfieldList, hfieldStands⟩ := part_evaluates (outside (depth + 2))
        hname hitem (by decide : isCarried "fields" = false) rfl
      obtain ⟨messageList, hmessageList, hmessageStands⟩ := part_evaluates
        (outside (depth + 2)) hname hitem (by decide : isCarried "messages" = false) rfl
      obtain ⟨enumList, henumList, henumStands⟩ := part_evaluates (outside (depth + 2))
        hname hitem (by decide : isCarried "enums" = false) rfl
      rw [messageValues_eq_map] at hmessageStands
      have hopening :
          s'.Writes (outside (depth + 2)) ⟨builtins, [place, home]⟩ (openingTree "m")
            (opening n fullName name description) :=
        hmacros.opening_writes (hview _ rfl) hname hlevel hitem rfl rfl rfl
      have htable :=
        hmacros.fieldTable_writes (hview _ rfl) hown.fieldCount
          hown.fields hfieldList hfieldStands
      have hmessage := hmacros.nested_writes (m := messageTree) (by simp [macroTrees]) rfl
        (hview _ rfl) hlevel hmessageList hmessageStands
          hown.messageCount fun m hm row hrow =>
          (message_fills h (hmessages m hm) hrow (n + 1)).later hs
      have henum := hmacros.nested_writes (m := enumTree) (by simp [macroTrees]) rfl
        (hview _ rfl) hlevel henumList henumStands hown.enumCount fun e he row hrow =>
          (enum_fills (hown.enums e he) h hrow (n + 1) depth).later hs
      refine (hopening.append (htable.append (hmessage.append henum))).of_eq ?_
      rw [message, nested_eq_each]
      simp only [String.append_assoc]

/-! ## Services -/

theorem HasMacros.streamed_writes {depth : Nat} {streaming : Bool} {t : TypeBinding}
    {flag label : String} {entries : List (String × Value)} (h : HasMacros s home)
    (hview : Reaches view s home "type_ref") (hname : view.Finds s "m" item)
    (hitem : Stands (.object entries) item) (ht : t.Presentable)
    (hflagName : isCarried flag = false) (hlabel : isCarried label = false)
    (hflag : entries.lookup flag = some (.bool streaming))
    (htype : entries.lookup label = some t.toValue) :
    s.Writes (outside (depth + 1)) view (streamedTree flag label)
      (streamed streaming t) := by
  obtain ⟨flagItem, he, hstands⟩ :=
    part_evaluates (outside (depth + 1)) hname hitem hflagName hflag
  obtain ⟨typeItem, htypeItem, htypeStands⟩ :=
    part_evaluates (outside (depth + 1)) hname hitem hlabel htype
  have htruthy := hstands.truthy
  rw [Value.isFalsy, Bool.not_not] at htruthy
  have hstream : s.Writes (outside (depth + 1)) view [.text "stream "] "stream " :=
    (Store.Writes.text_cons _ .nil).of_eq String.append_empty
  have hword :
      s.Writes (outside (depth + 1)) view [.branch (part "m" flag) [.text "stream "] []]
        (if streaming then "stream " else "") := by
    refine .branch he htruthy (fun hyes => ?_) (fun hno => ?_)
    · rw [if_pos hyes]
      exact hstream
    · rw [hno, if_neg Bool.false_ne_true]
      exact .nil
  refine (hword.append (h.type_cons hview htypeItem htypeStands ht .nil)).of_eq ?_
  rw [streamed, String.append_empty]

theorem HasMacros.methodRow_writes {m : MethodBinding} {depth : Nat}
    (h : HasMacros s home)
    (hrequest : m.request.Presentable) (hresponse : m.response.Presentable)
    (hview : Reaches view s home "type_ref") (hname : view.Finds s "m" item)
    (hitem : Stands m.toValue item) :
    s.Writes (outside (depth + 1)) view methodRowTree (methodRow m) := by
  have hstart : s.Writes (outside (depth + 1)) view
      [.text "| ", .print (part "m" "name"), .text " | "] _ :=
    .text_cons _
      (.print_cons (part_text hname hitem (by decide) rfl) rfl (.text_cons _ .nil))
  have hfirst :
      s.Writes (outside (depth + 1)) view (streamedTree "client_streaming" "request")
        (streamed m.clientStreaming m.request) :=
    h.streamed_writes hview hname hitem hrequest (by decide) (by decide) rfl rfl
  have hsecond :
      s.Writes (outside (depth + 1)) view (streamedTree "server_streaming" "response")
        (streamed m.serverStreaming m.response) :=
    h.streamed_writes hview hname hitem hresponse (by decide) (by decide) rfl rfl
  have hend : s.Writes (outside (depth + 1)) view
      [.text " | ", cellTree "m", .text " |\n"] _ :=
    .text_cons _ (cell_cons hname hitem rfl (.text_cons _ .nil))
  refine ((((hstart.append hfirst).append (.text_cons " | " .nil)).append hsecond).append
    hend).of_eq ?_
  simp only [methodRow, String.append_empty, String.append_assoc]

theorem service_fills {svc : ServiceBinding} (hservice : svc.Presentable)
    (h : HasMacros s home)
    (hitem : Stands svc.toValue item) (n depth : Nat) :
    Fills serviceTree s (depth + 1) home [item, .int n] (service n svc) := by
  intro s' place hs hplace
  have hname : View.Finds ⟨builtins, [place, home]⟩ s' "s" item := .inside hplace rfl
  have hlevel : View.Finds ⟨builtins, [place, home]⟩ s' "level" (.int n) :=
    .inside hplace rfl
  have hopening :
      s'.Writes (outside (depth + 1)) ⟨builtins, [place, home]⟩ (openingTree "s")
        (opening n svc.fullName svc.name svc.description) :=
    (h.later hs).opening_writes (.around hplace rfl (.itself s' home _))
      hname hlevel hitem
      rfl rfl rfl
  obtain ⟨rows, hrows, hstands⟩ := part_evaluates (outside (depth + 1)) hname hitem
    (by decide : isCarried "methods" = false) rfl
  refine (hopening.append (.text_cons _ (.each_cons methodRow hrows hstands hservice.size
    (fun m hm row hrow s'' inner hs' hinner => ?_) (.text_cons _ .nil)))).of_eq ?_
  · obtain ⟨hrequest, hresponse⟩ := hservice.methods m hm
    exact (h.later (hs.trans hs')).methodRow_writes hrequest hresponse
      (.around hinner rfl (.around (hs'.scopes _ _ hplace) rfl (.itself s'' home _)))
      (.inside hinner rfl) hrow
  · simp only [service, String.append_empty, String.append_assoc]

end Layout

end SchemaDocs
