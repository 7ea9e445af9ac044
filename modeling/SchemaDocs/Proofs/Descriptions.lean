import SchemaDocs.Proofs.Recordable

/-!
# Every description is of the element it stands with

The comments of a file stand apart from its elements, each under a path: a field
number and an index, again and again, from the file down. `Element.at?` follows
such a path and knows nothing of records. The table `Element.branches` has all
the field numbers; one number leads to different things from elements of
different kinds.

A record is made on another way down, which leaves out the entry messages of
maps. `Describes` says of a record, and of all the records inside it, that it is
that of the element to which its path leads, and that its description is what
the file says at this path. Indices are those of the descriptor, where nothing
is left out, so a message has the comments of its own whatever stands before it.
-/

namespace SchemaDocs.Descriptor

/-! ## Comments -/

/-- The comment before a place, or the one behind it if there is none before. -/
def Location.words (l : Location) : Str :=
  if l.leading.isEmpty then l.trailing else l.leading

/-- The last place of a path that has words speaks for it. -/
inductive FileProto.Says (f : FileProto) (path : List Int) : Value → Prop
  | last {before after : List Location} {l : Location}
      (locations : f.locations = before ++ l :: after) (here : l.path = path)
      (words : l.words.isEmpty = false)
      (silent : ∀ k ∈ after, k.path = path → k.words.isEmpty = true) :
      Says f path l.words.trim.toValue
  | nothing (silent : ∀ l ∈ f.locations, l.path = path → l.words.isEmpty = true) :
      Says f path (.text "")

theorem Location.comment?_eq (l : Location) :
    l.comment? = if l.words.isEmpty then none else some l.words.trim := by
  rw [Location.comment?, Location.words]
  cases hleading : l.leading.isEmpty with
  | true => cases htrailing : l.trailing.isEmpty <;> simp [htrailing]
  | false => simp [hleading]

/-- The comment of a place, if it has the path. -/
def Location.commentAt? (path : List Int) (l : Location) : Option Str :=
  if l.path = path ∧ l.words.isEmpty = false then some l.words.trim else none

theorem Location.commentAt?_eq_none {path : List Int} {l : Location} :
    l.commentAt? path = none ↔ (l.path = path → l.words.isEmpty = true) := by
  simp [Location.commentAt?]

/-- The last comment of a path is the first that is met from the end. -/
theorem FileProto.describe_eq (f : FileProto) (path : List Int) :
    f.comments.describe path =
      match f.locations.reverse.findSome? (·.commentAt? path) with
      | some text => text.toValue
      | none => .text "" := by
  have hlast : ((f.comments.filter (·.1 == path)).getLast?).map Prod.snd =
      f.locations.reverse.findSome? (·.commentAt? path) := by
    rw [FileProto.comments, List.filter_filterMap, ← List.getLast?_map,
      List.map_filterMap, List.getLast?_filterMap]
    congr 1
    funext l
    rw [Location.comment?_eq, Location.commentAt?]
    by_cases hpath : l.path = path
    · cases l.words.isEmpty <;> simp [hpath]
    · cases l.words.isEmpty <;> simp [hpath]
  rw [← hlast, Comments.describe]
  cases (f.comments.filter (·.1 == path)).getLast? <;> rfl

/-- What is found for a path is what the file says there, and nothing else is. -/
theorem FileProto.says_iff {f : FileProto} {path : List Int} {v : Value} :
    f.Says path v ↔ f.comments.describe path = v := by
  rw [FileProto.describe_eq]
  constructor
  · rintro (⟨hlocations, hpath, hwords, hsilent⟩ | hsilent)
    case last before after l =>
      have hfound :
          f.locations.reverse.findSome? (·.commentAt? path) = some l.words.trim := by
        refine List.findSome?_eq_some_iff.2 ⟨after.reverse, l, before.reverse, ?_, ?_, ?_⟩
        · simp [hlocations]
        · rw [Location.commentAt?, if_pos ⟨hpath, hwords⟩]
        · exact fun k hk =>
            Location.commentAt?_eq_none.2 (hsilent k (List.mem_reverse.1 hk))
      rw [hfound]
    case nothing =>
      have hnone : f.locations.reverse.findSome? (·.commentAt? path) = none :=
        List.findSome?_eq_none_iff.2 fun l hl =>
          Location.commentAt?_eq_none.2 (hsilent l (List.mem_reverse.1 hl))
      rw [hnone]
  · rintro rfl
    split
    · next text hfound =>
      obtain ⟨after, l, before, hlocations, hcomment, hsilent⟩ :=
        List.findSome?_eq_some_iff.1 hfound
      rw [Location.commentAt?, Option.ite_none_right_eq_some, Option.some.injEq]
        at hcomment
      obtain ⟨⟨hpath, hwords⟩, rfl⟩ := hcomment
      have hsplit : f.locations = before.reverse ++ l :: after.reverse := by
        rw [← List.reverse_reverse f.locations, hlocations]
        simp
      exact .last hsplit hpath hwords fun k hk =>
        Location.commentAt?_eq_none.1 (hsilent k (List.mem_reverse.1 hk))
    · next hnone =>
      rw [List.findSome?_eq_none_iff] at hnone
      exact .nothing fun l hl =>
        Location.commentAt?_eq_none.1 (hnone l (List.mem_reverse.2 hl))

theorem FileProto.says_describe (f : FileProto) (path : List Int) :
    f.Says path (f.comments.describe path) := FileProto.says_iff.2 rfl

/-! ## Elements and their paths -/

inductive Element
  | file (f : FileProto)
  | message (m : MessageProto)
  | field (f : FieldProto)
  | enum (e : EnumProto)
  | value (v : EnumValueProto)
  | service (s : ServiceProto)
  | method (m : MethodProto)

/-- Elements listed by another one, with the key they have in its record and the
field number they have in its descriptor. -/
structure Branch where
  key : String
  number : Int
  items : List Element

namespace Element

def name : Element → Str
  | file f => f.name
  | message m => m.name
  | field f => f.name
  | enum e => e.name
  | value v => v.name
  | service s => s.name
  | method m => m.name

def branches : Element → List Branch
  | file f => [
      ⟨"messages", 4, f.messages.map message⟩,
      ⟨"enums", 5, f.enums.map enum⟩,
      ⟨"services", 6, f.services.map service⟩]
  | message m => [
      ⟨"fields", 2, m.fields.map field⟩,
      ⟨"messages", 3, m.nested.map message⟩,
      ⟨"enums", 4, m.enums.map enum⟩]
  | enum e => [⟨"values", 2, e.values.map value⟩]
  | service s => [⟨"methods", 2, s.methods.map method⟩]
  | field _ | value _ | method _ => []

/-- What a field number and an index lead to. -/
def step? (x : Element) (number : Int) : Int → Option Element
  | .ofNat i => (x.branches.find? (·.number == number)).bind (·.items[i]?)
  | .negSucc _ => none

/-- What a path leads to from an element. -/
def at? (x : Element) : List Int → Option Element
  | [] => some x
  | [_] => none
  | number :: index :: rest => (x.step? number index).bind (·.at? rest)

/-- What an element has no record for inside its own: a message does without the
entry messages of its maps. -/
def drops : Element → Element → Bool
  | message _, message n => n.mapEntry
  | _, _ => false

/-- What the record of an element lists of a branch, each under its path. -/
def listed (x : Element) (path : List Int) (b : Branch) : List (List Int × Element) :=
  ((indexed b.items).filter fun y => !x.drops y.1).map fun y =>
    (path ++ [b.number, y.2], y.1)

theorem at?_append {x y : Element} {path : List Int} (h : x.at? path = some y)
    (rest : List Int) : x.at? (path ++ rest) = y.at? rest := by
  fun_induction Element.at? x path with
  | case1 x =>
      cases h
      rfl
  | case2 x number => cases h
  | case3 x number index path ih =>
      obtain ⟨z, hz, hy⟩ := Option.bind_eq_some_iff.1 h
      change (x.step? number index).bind (·.at? (path ++ rest)) = y.at? rest
      rw [hz]
      exact ih z hy

/-- No field number stands for two branches. -/
theorem find?_branches {x : Element} {b : Branch} (hb : b ∈ x.branches) :
    x.branches.find? (·.number == b.number) = some b := by
  cases x <;> simp only [branches, List.mem_cons, List.not_mem_nil, or_false] at hb ⊢
  case file f => rcases hb with rfl | rfl | rfl <;> rfl
  case message m => rcases hb with rfl | rfl | rfl <;> rfl
  case enum e => cases hb; rfl
  case service s => cases hb; rfl

theorem at?_listed {x y : Element} {path : List Int} (h : x.at? path = some y)
    {b : Branch}
    (hb : b ∈ y.branches) : ∀ z ∈ y.listed path b, x.at? z.1 = some z.2 := by
  intro z hz
  obtain ⟨⟨item, index⟩, hmem, rfl⟩ := List.mem_map.1 hz
  obtain ⟨⟨_, i⟩, hindexed, heq⟩ := List.mem_map.1 (List.mem_filter.1 hmem).1
  cases heq
  rw [List.mk_mem_zipIdx_iff_getElem?] at hindexed
  have hstep : y.step? b.number i = some item := by
    change (y.branches.find? (·.number == b.number)).bind (·.items[i]?) = some item
    rw [find?_branches hb]
    exact hindexed
  rw [at?_append h]
  change (y.step? b.number i).bind (·.at? []) = some item
  rw [hstep]
  rfl

end Element

/-! ## Records that show what they are of -/

/-- There is a list of records, one for each thing and in their order. -/
inductive Lists {α : Type} (R : Value → α → Prop) : Option Value → List α → Prop
  | intro {vs : List Value} {as : List α} (h : List.Forall₂ R vs as) :
    Lists R (some (.list vs)) as

/-- The path leads to the element, the record has its name and what the file
says at the path, and so does each record inside it. -/
inductive FileProto.Describes (f : FileProto) : Value → List Int × Element → Prop
  | intro {r : List (String × Value)} {path : List Int} {x : Element}
      (own : (Element.file f).at? path = some x)
      (name : Value.get? r "name" = some x.name.toValue)
      (description : ∃ d, Value.get? r "description" = some d ∧ f.Says path d)
      (branches : ∀ b ∈ x.branches,
        Lists (Describes f) (Value.get? r b.key) (x.listed path b)) :
      Describes f (.object r) (path, x)

/-- The record of a file has no description, and is not inside another one. -/
inductive FileProto.DescribedBy (f : FileProto) : Value → Prop
  | intro {r : List (String × Value)} (path : Value.get? r "path" = some f.name.toValue)
      (branches : ∀ b ∈ (Element.file f).branches,
        Lists f.Describes (Value.get? r b.key) ((Element.file f).listed [] b)) :
      DescribedBy f (.object r)

theorem Element.filter_kept {α : Type} {x : Element} {g : α → Element}
    (hkept : ∀ a, x.drops (g a) = false) (items : List α) :
    ((indexed items).filter fun y => !x.drops (g y.1)) = indexed items := by
  rw [List.filter_eq_self]
  intro y _
  rw [hkept, Bool.not_false]

section

variable {f : FileProto} {x : Element} {path : List Int} {α : Type}
  {key : String} {number : Int}
  {items : List α} {g : α → Element} (own : (Element.file f).at? path = some x)
  (hb : ⟨key, number, items.map g⟩ ∈ x.branches)

include own hb

/-- One step of the way down: what is listed is described if each record is that
of what it is made of. -/
theorem lists_of_mapM {make : α × Int → Except RecordError Value} {vs : List Value}
    (hmake : ((indexed items).filter fun y => !x.drops (g y.1)).mapM make = .ok vs)
    (h : ∀ y v, y.1 ∈ items →
      (Element.file f).at? (path ++ [number, y.2]) = some (g y.1) →
      make y = .ok v → f.Describes v (path ++ [number, y.2], g y.1)) :
    Lists f.Describes (some (.list vs)) (x.listed path ⟨key, number, items.map g⟩) := by
  have hlisted : x.listed path ⟨key, number, items.map g⟩ =
      ((indexed items).filter fun y => !x.drops (g y.1)).map
        fun y => (path ++ [number, y.2], g y.1) := by
    rw [Element.listed, indexed_map, List.filter_map, List.map_map]
    rfl
  have hown := Element.at?_listed own hb
  rw [hlisted, List.forall_mem_map] at hown
  have hall := (List.forall₂_and_left _ _).2
    ⟨fun y hy => And.intro hy (hown y hy), mapM_eq_ok_iff.1 hmake⟩
  rw [hlisted]
  refine .intro (List.forall₂_map_right_iff.2 (hall.imp ?_).flip)
  exact fun y v ⟨⟨hy, hpath⟩, hmade⟩ =>
    h y v (mem_of_mem_indexed (List.mem_filter.1 hy).1) hpath hmade

/-- The same where every item has a record, which is made without fail. -/
theorem lists_of_map (hkept : ∀ a, x.drops (g a) = false) {make : α × Int → Value}
    (h : ∀ y, (Element.file f).at? (path ++ [number, y.2]) = some (g y.1) →
      f.Describes (make y) (path ++ [number, y.2], g y.1)) :
    Lists f.Describes (some (.list ((indexed items).map make)))
      (x.listed path ⟨key, number, items.map g⟩) := by
  have hmake : ((indexed items).filter fun y => !x.drops (g y.1)).mapM
      (fun y => (.ok (make y) : Except RecordError Value)) =
        .ok ((indexed items).map make) := by
    rw [Element.filter_kept hkept]
    exact mapM_eq_map fun _ _ => rfl
  refine lists_of_mapM own hb hmake fun y v _ hpath hmade => ?_
  cases hmade
  exact h y hpath

end

/-! ## The records of elements -/

section

variable {f : FileProto} {path : List Int}

theorem EnumProto.describes {e : EnumProto}
    (own : (Element.file f).at? path = some (.enum e)) :
    f.Describes (e.record f.comments path) (path, .enum e) := by
  refine .intro own rfl ⟨_, rfl, f.says_describe path⟩ ?_
  simp only [Element.branches, List.forall_mem_singleton]
  refine lists_of_map own List.mem_cons_self (fun _ => rfl) fun y hpath => ?_
  exact .intro hpath rfl ⟨_, rfl, f.says_describe _⟩ nofun

theorem ServiceProto.describes {s : ServiceProto}
    (own : (Element.file f).at? path = some (.service s)) :
    f.Describes (s.record f.comments path) (path, .service s) := by
  refine .intro own rfl ⟨_, rfl, f.says_describe path⟩ ?_
  simp only [Element.branches, List.forall_mem_singleton]
  refine lists_of_map own List.mem_cons_self (fun _ => rfl) fun y hpath => ?_
  exact .intro hpath rfl ⟨_, rfl, f.says_describe _⟩ nofun

/-- A record of a field opens with its name, and is described before anything that not all
fields have. -/
theorem FieldProto.exists_record_eq {p : FieldProto} {m : MessageProto}
    {fullName : String}
    {description v : Value} (h : p.record m fullName description = .ok v) :
    ∃ type rest, v = .object (
      ("name", p.name.toValue) :: ("number", .int p.number) :: ("type", type) ::
      ("label", .text p.label.name) :: ("description", description) :: rest) := by
  rw [FieldProto.record_eq_entries] at h
  obtain ⟨typed, htyped, h⟩ := bind_eq_ok_iff.1 h
  obtain ⟨group, -, h⟩ := bind_eq_ok_iff.1 h
  cases h
  rw [FieldProto.typeEntries] at htyped
  split at htyped
  · cases htyped
    exact ⟨_, _, rfl⟩
  · obtain ⟨key, -, htyped⟩ := bind_eq_ok_iff.1 htyped
    obtain ⟨value, -, htyped⟩ := bind_eq_ok_iff.1 htyped
    cases htyped
    exact ⟨_, _, rfl⟩

theorem FieldProto.describes {p : FieldProto}
    (own : (Element.file f).at? path = some (.field p))
    {m : MessageProto} {fullName : String} {v : Value}
    (h : p.record m fullName (f.comments.describe path) = .ok v) :
    f.Describes v (path, .field p) := by
  obtain ⟨type, rest, rfl⟩ := FieldProto.exists_record_eq h
  exact .intro own rfl ⟨_, rfl, f.says_describe path⟩ nofun

/-- Entry messages are passed over, and count. -/
theorem nestedRecords_eq_mapM (comments : Comments) (fullName : String) (path : List Int)
    (index : Nat) (ms : List MessageProto) :
    nestedRecords comments fullName path index ms =
      (((ms.zipIdx index).map fun (m, i) => (m, (i : Int))).filter fun y =>
        !y.1.mapEntry).mapM
        fun y => y.1.record comments (fullName ++ "." ++ y.1.name.display)
            (path ++ [3, y.2]) := by
  induction ms generalizing index with
  | nil => rfl
  | cons m rest ih =>
      rw [nestedRecords, List.zipIdx_cons, List.map_cons, List.filter_cons]
      have ih := ih (index + 1)
      push_cast at ih
      cases m.mapEntry with
      | true => simpa using ih
      | false =>
          simp only [Bool.false_eq_true, ↓reduceIte, Bool.not_false, List.mapM_cons, ih]

theorem MessageProto.describes {m : MessageProto} {fullName : String} {v : Value}
    (own : (Element.file f).at? path = some (.message m))
    (h : m.record f.comments fullName path = .ok v) :
    f.Describes v (path, .message m) := by
  -- On the way down the path and the full name grow, so the induction is for all of them.
  induction m using MessageProto.nestedInduction generalizing fullName path v with
  | step m ih =>
      rw [MessageProto.record_eq] at h
      obtain ⟨fields, hfields, h⟩ := bind_eq_ok_iff.1 h
      obtain ⟨messages, hmessages, h⟩ := bind_eq_ok_iff.1 h
      cases h
      refine .intro own rfl ⟨_, rfl, f.says_describe path⟩ ?_
      simp only [Element.branches, List.forall_mem_cons, List.not_mem_nil, false_imp_iff,
        implies_true, and_true]
      refine ⟨?fields, ?messages, ?enums⟩
      case fields =>
        rw [← Element.filter_kept (x := .message m) (g := .field) fun _ => rfl] at hfields
        refine lists_of_mapM own List.mem_cons_self hfields ?_
        exact fun y v _ hpath hmade => FieldProto.describes hpath hmade
      case messages =>
        refine lists_of_mapM own (List.mem_cons_of_mem _ List.mem_cons_self)
          ((nestedRecords_eq_mapM _ _ _ 0 _).symm.trans hmessages) ?_
        exact fun y v hy hpath hmade => ih y.1 hy hpath hmade
      case enums =>
        refine lists_of_map own
          (List.mem_cons_of_mem _ (List.mem_cons_of_mem _ List.mem_cons_self))
          (fun _ => rfl) ?_
        exact fun y hpath => EnumProto.describes hpath

end

theorem FileProto.describedBy {f : FileProto} {v : Value} (h : f.record = .ok v) :
    f.DescribedBy v := by
  obtain ⟨scope, -, h⟩ := bind_eq_ok_iff.1 h
  obtain ⟨messages, hmessages, h⟩ := bind_eq_ok_iff.1 h
  cases h
  refine .intro rfl ?_
  simp only [Element.branches, List.forall_mem_cons, List.not_mem_nil, false_imp_iff,
    implies_true, and_true]
  have own : (Element.file f).at? [] = some (.file f) := rfl
  refine ⟨?messages, ?enums, ?services⟩
  case messages =>
    rw [← Element.filter_kept (x := .file f) (g := .message) fun _ => rfl] at hmessages
    refine lists_of_mapM own List.mem_cons_self hmessages ?_
    exact fun y v _ hpath hmade => MessageProto.describes hpath hmade
  case enums =>
    refine lists_of_map own (List.mem_cons_of_mem _ List.mem_cons_self) (fun _ => rfl) ?_
    exact fun y hpath => EnumProto.describes hpath
  case services =>
    refine lists_of_map own
      (List.mem_cons_of_mem _ (List.mem_cons_of_mem _ List.mem_cons_self))
      (fun _ => rfl) ?_
    exact fun y hpath => ServiceProto.describes hpath

/-- If a set has records, there is one for each file, and in it each message,
field, enum, value, service and method is described by what the file says at its
own path. -/
theorem FileSet.records_described {s : FileSet} {raw : Value} (h : s.records = .ok raw) :
    ∃ records, raw = .object [("files", .list records)] ∧
      List.Forall₂ FileProto.DescribedBy s.files records := by
  obtain ⟨records, hrecords, h⟩ := bind_eq_ok_iff.1 h
  cases h
  exact ⟨records, rfl, (mapM_eq_ok_iff.1 hrecords).imp fun _ _ => FileProto.describedBy⟩

/-- A message that stands behind the entry message of a map. It is spoken of
three times. -/
def board : FileProto where
  name := .text "board.proto"
  messages := [{
    name := .text "Board"
    fields := [
      { name := .text "names", number := 1, label := .repeated, type := .message
        typeName := .text ".Board.NamesEntry" }]
    nested := [
      { name := .text "NamesEntry", mapEntry := true
        fields := [
          { name := .text "key", number := 1, type := .string },
          { name := .text "value", number := 2, type := .string }] },
      { name := .text "Post"
        fields := [{ name := .text "body", number := 1, type := .string }]
        enums := [{ name := .text "State", values := [{ name := .text "OPEN" }] }] }] }]
  services := [{
    name := .text "Boards"
    methods := [{
      name := .text "Get"
      inputType := .text ".Board"
      outputType := .text ".Board.Post" }] }]
  locations := [
    { path := [4, 0, 3, 0], leading := .text " An entry.\n" },
    { path := [4, 0, 3, 1], leading := .text " Something.\n" },
    { path := [4, 0, 3, 1], leading := .text " A post.\n",
      trailing := .text " Not this.\n" },
    { path := [4, 0, 3, 1] },
    { path := [4, 0, 3, 1, 4, 0, 2, 0], trailing := .text " To be answered.\n" },
    { path := [6, 0, 2, 0], leading := .text " The last post.\n" }]

theorem records_described_behindEntry :
    ∃ raw, FileSet.records { files := [board] } = .ok raw ∧
      ∃ records, raw = .object [("files", .list records)] ∧
        List.Forall₂ FileProto.DescribedBy [board] records := by
  obtain ⟨raw, h⟩ : ∃ raw, FileSet.records { files := [board] } = .ok raw := ⟨_, rfl⟩
  exact ⟨raw, h, FileSet.records_described h⟩

example : board.Says [4, 0, 3, 1] (.text "A post.") := FileProto.says_iff.2 rfl

end SchemaDocs.Descriptor
