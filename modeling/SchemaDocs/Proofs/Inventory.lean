import SchemaDocs.Proofs.Loading
import SchemaDocs.Proofs.Mentions

/-!
# The index lists everything once

The index is built by a walk with a stack, and stops where a name comes back.
`inventory` lists what files declare by recursion on the trees of their
messages: a message, then its enums, then what is inside its messages. The
index is this list as long as no name occurs twice. Otherwise the list is
followed up to the first entry whose name has been there, and what is reported
is this entry and the one that had its name before.

A reference that has been resolved says by which name and in which file to look
for its target. Loading marks everything with the path of the file that it was
declared in, so that what the index has under the name is marked with the path
that the reference says.
-/

namespace SchemaDocs

/-! ## The list of everything declared -/

mutual

/-- A message and what is declared inside it, in the order of the index. -/
def Message.inventory : Message → List Entity
  | m@⟨_, _, _, messages, enums, _, _⟩ =>
    .message m :: enums.map .enum ++ inventoryAll messages

def inventoryAll : List Message → List Entity
  | [] => []
  | m :: rest => m.inventory ++ inventoryAll rest

end

/-- What a file declares: the trees of its messages, its enums, its services. -/
def File.inventory (f : File) : List Entity :=
  inventoryAll f.messages ++ f.enums.map .enum ++ f.services.map .service

/-- What files declare, each with the path of its file. -/
def inventory (files : List File) : List Declaration :=
  files.flatMap fun f => f.inventory.map fun e => ⟨e, f.path⟩

/-! ## The walk gives this list -/

theorem inventoryAll_eq_flatMap (ms : List Message) :
    inventoryAll ms = ms.flatMap Message.inventory := by
  induction ms with
  | nil => rfl
  | cons m rest ih => rw [inventoryAll, List.flatMap_cons, ih]

theorem Message.inventory_eq (m : Message) :
    m.inventory = m.declared ++ inventoryAll m.messages := by
  cases m
  rw [Message.inventory]
  rfl

theorem flatMap_declared_preorder (m : Message) :
    m.preorder.flatMap Message.declared = m.inventory := by
  induction m using Message.nestedInduction with
  | step m ih =>
      rw [Message.preorder_eq, List.flatMap_cons, Message.inventory_eq,
        preorderAll_eq_flatMap, List.flatMap_assoc, inventoryAll_eq_flatMap,
        List.flatMap_def, List.flatMap_def,
        List.map_congr_left ih]

theorem File.entities_eq_inventory (f : File) : f.entities = f.inventory := by
  rw [File.entities, File.inventory, File.allMessages_eq, preorderAll_eq_flatMap,
    List.flatMap_assoc, inventoryAll_eq_flatMap]
  simp only [flatMap_declared_preorder]

theorem declarations_eq_inventory (files : List File) :
    declarations files = inventory files := by
  unfold declarations inventory File.declarations
  simp only [File.entities_eq_inventory]

theorem mem_inventory {files : List File} {d : Declaration} :
    d ∈ inventory files ↔ ∃ f ∈ files, d.file = f.path ∧ f.Holds d.entity := by
  rw [← declarations_eq_inventory, mem_declarations]
  simp only [File.mem_entities_iff_holds]

theorem map_fullName_inventory (files : List File) :
    (inventory files).map Declaration.fullName = declaredNames files := by
  rw [← declarations_eq_inventory, map_fullName_declarations]

/-! ## The first name that comes back -/

/-- A list followed up to the first entry whose name has been there, and the
entry that had it. -/
inductive Collision.Stops (c : Collision) : List Declaration → Prop
  | intro {before behind : List Declaration}
      (hbefore : (before.map Declaration.fullName).Nodup) (hfirst : c.first ∈ before)
      (hname : c.first.fullName = c.second.fullName) :
      Stops c (before ++ c.second :: behind)

/-- By what is still to be added, with what has been added in front of it. -/
theorem Index.stops_of_extend : ∀ {ds : List Declaration} {index : Index} {c : Collision},
    (index.map Declaration.fullName).Nodup → Index.extend index ds = .error c →
    c.Stops (index ++ ds) := by
  intro ds
  induction ds with
  | nil =>
      intro index c _ h
      cases h
  | cons d rest ih =>
      intro index c hnd h
      rw [Index.extend] at h
      split at h
      · next first hfirst =>
        cases h
        obtain ⟨hmem, hname⟩ := (Index.find?_eq_some_iff hnd).1 hfirst
        exact .intro hnd hmem hname
      · next hfresh =>
        have hstops := ih (Index.nodup_of_fresh hnd hfresh) h
        rwa [List.append_assoc, List.singleton_append] at hstops

theorem Index.build_of_nodup {files : List File} (hnd : (declaredNames files).Nodup) :
    Index.build files = .ok (inventory files) :=
  Index.build_eq_ok_iff.2 ⟨(declarations_eq_inventory files).symm, hnd⟩

theorem Index.build_of_repeated {files : List File} (h : ¬ (declaredNames files).Nodup) :
    ∃ c, Index.build files = .error c ∧ c.Stops (inventory files) := by
  obtain ⟨c, hc⟩ := Index.build_eq_error_iff.2 h
  have hempty : (([] : Index).map Declaration.fullName).Nodup := List.nodup_nil
  have hstops := Index.stops_of_extend hempty hc
  rw [declarations_eq_inventory, List.nil_append] at hstops
  exact ⟨c, hc, hstops⟩

/-! ## The paths that loading leaves -/

def Entity.filePath : Entity → String
  | .message m => m.filePath
  | .enum e => e.filePath
  | .service s => s.filePath

/-- A message is marked with a path, and so is everything inside it. -/
def Message.Marked (path : String) (m : Message) : Prop :=
  ∀ k : Message, k.Within m → k.filePath = path ∧ ∀ e ∈ k.enums, e.filePath = path

/-- What a file declares is marked with its path. -/
def File.Marked (f : File) : Prop := ∀ e, f.Holds e → e.filePath = f.path

namespace Load

variable {path scope : String} {v : Value}

theorem enumDef_marked : Ensures (enumDef path scope v) fun e => e.filePath = path := by
  rw [enumDef]
  refine .behind fun record => .behind fun name => ?_
  exact .behind fun items => .behind fun values => .behind fun description => .pure rfl

theorem service_marked : Ensures (service path scope v) fun s => s.filePath = path := by
  rw [service]
  refine .behind fun record => .behind fun name => ?_
  exact .behind fun items => .behind fun methods => .behind fun description => .pure rfl

theorem message_marked {fuel : Nat} : ∀ {scope : String} {v : Value},
    Ensures (message fuel path scope v) (Message.Marked path) := by
  induction fuel with
  | zero => exact fun {scope v} => .error _
  | succ fuel ih =>
      intro scope v
      rw [message]
      refine .behind fun record => .behind fun name => ?_
      refine .behind fun fieldItems => .behind fun fields =>
        .behind fun messageItems => ?_
      refine (Ensures.mapM fun w _ => ih).bind fun messages hmessages =>
        .behind fun enumItems => ?_
      refine (Ensures.mapM fun w _ => enumDef_marked).bind fun enums henums => ?_
      refine .behind fun description => .pure fun k hk => ?_
      -- what is within the message is the message, or within one that was just read
      rcases nested_iff.1 hk with rfl | ⟨n, hn, hk⟩
      · exact ⟨rfl, henums⟩
      · exact hmessages n hn k hk

theorem file_marked {i : Nat} : Ensures (file i v) File.Marked := by
  rw [file_eq]
  refine .behind fun record => .behind fun path => .behind fun package => ?_
  refine .behind fun dependencyItems => .behind fun dependencies => ?_
  refine .behind fun messageItems => (Ensures.mapM fun w _ => message_marked).bind ?_
  refine fun messages hmessages => .behind fun enumItems => ?_
  refine (Ensures.mapM fun w _ => enumDef_marked).bind fun enums henums => ?_
  refine .behind fun serviceItems => (Ensures.mapM fun w _ => service_marked).bind ?_
  refine fun services hservices => .behind fun description => .pure ?_
  rintro e (⟨top, htop, hm⟩ | ⟨⟨top, htop, hm⟩, he⟩ | he | hs)
  · exact (hmessages top htop _ hm).1
  · exact (hmessages top htop _ hm).2 _ he
  · exact henums _ he
  · exact hservices _ hs

end Load

/-! ## What a resolved reference points at -/

section

variable {files : List File} (hnd : (declaredNames files).Nodup)

include hnd

/-- The target of a reference is a type of the files, under the name and in the
file that the reference says. -/
theorem target?_reference {scope name entity path : String} {kind : EntityKind}
    (h : Index.reference (declarations files) scope name = .resolved entity path kind) :
    ∃ d ∈ declarations files,
      Index.target? (declarations files) (.resolved entity path kind) = some d ∧
      d.fullName = entity ∧ d.file = path ∧ d.kind = kind ∧ d.kind ≠ .service := by
  rw [Index.reference] at h
  split at h
  · cases h
  · cases hfound : Index.lookup? (declarations files) scope name with
    | none =>
        rw [hfound] at h
        cases h
    | some d =>
        rw [hfound] at h
        cases h
        obtain ⟨c, -, hc⟩ := List.exists_of_findSome?_eq_some hfound
        obtain ⟨hd, hname, hkind⟩ := (findType?_eq_some_iff hnd).1 hc
        refine ⟨d, hd, ?_, rfl, rfl, rfl, hkind⟩
        exact (find?_declarations_eq_some_iff hnd).2 ⟨hd, rfl⟩

end

/-- The index of files with different names: what they declare, in order, each
found under its name with the path of its file. -/
structure Index.Exact (files : List File) (index : Index) : Prop where
  order : index = inventory files
  keys : index.map Declaration.fullName = declaredNames files
  distinct : (index.map Declaration.fullName).Nodup
  complete : ∀ d, d ∈ index ↔ ∃ f ∈ files, d.file = f.path ∧ f.Holds d.entity
  found : ∀ f ∈ files, ∀ e, f.Holds e → index.find? e.fullName = some ⟨e, f.path⟩

theorem Index.inventory_exact {files : List File} (hnd : (declaredNames files).Nodup) :
    Index.Exact files (inventory files) where
  order := rfl
  keys := map_fullName_inventory files
  distinct := by rwa [map_fullName_inventory]
  complete _ := mem_inventory
  found f hf e he := by
    have hdistinct : ((inventory files).map Declaration.fullName).Nodup := by
      rwa [map_fullName_inventory]
    rw [Index.find?_eq_some_iff hdistinct]
    exact ⟨mem_inventory.2 ⟨f, hf, rfl, he⟩, rfl⟩

/-- Files with different names have an index that is exact. If a name comes
back, the first declaration where it does is reported, with the one before it.
And what a resolved reference of loaded files points at has the name and the
path that the reference says. -/
theorem index_exact (files : List File) :
    ((declaredNames files).Nodup →
      ∃ index, Index.build files = .ok index ∧ Index.Exact files index) ∧
      (¬ (declaredNames files).Nodup →
        ∃ c, Index.build files = .error c ∧ c.Stops (inventory files) ∧
          c.message = "Duplicate fully-qualified name '" ++ c.second.fullName ++ "': " ++
            c.first.kind.text ++ " in '" ++ c.first.file ++ "' and " ++
            c.second.kind.text ++ " in '" ++ c.second.file ++ "'") ∧
      ((∀ f ∈ files, ∃ i v, Load.file i v = .ok f) → ∀ r, resolve files = .ok r →
        ∀ f ∈ r.files, ∀ u ∈ f.mentions, ∀ entity path kind,
          u.ref = some (.resolved entity path kind) →
          ∃ d, r.index.target? (.resolved entity path kind) = some d ∧
            d.entity.fullName = entity ∧ d.entity.filePath = path ∧
            d.entity.kind = kind) := by
  refine ⟨fun hnd => ?_, fun hrepeated => ?_, fun hloaded r hr => ?_⟩
  · exact ⟨_, Index.build_of_nodup hnd, Index.inventory_exact hnd⟩
  · obtain ⟨c, hc, hstops⟩ := Index.build_of_repeated hrepeated
    exact ⟨c, hc, hstops, rfl⟩
  · obtain ⟨hnd, -, rfl⟩ := resolve_eq_ok_iff.1 hr
    rintro f hf u hu entity path kind href
    obtain ⟨f, -, rfl⟩ := List.mem_map.1 hf
    -- a slot holds what the index says of the name beside it
    rw [Index.mentions_fillFile] at hu
    obtain ⟨u, -, rfl⟩ := List.mem_map.1 hu
    obtain ⟨d, hd, htarget, rfl, rfl, rfl, -⟩ :=
      target?_reference hnd (Option.some.inj href)
    obtain ⟨g, hg, hfile, he⟩ := mem_declarations.1 hd
    obtain ⟨i, v, hv⟩ := hloaded g hg
    have hmarked : g.Marked := Load.file_marked g hv
    refine ⟨d, htarget, rfl, ?_, rfl⟩
    rw [hfile]
    exact hmarked _ (File.mem_entities_iff_holds.1 he)

/-- A message with an enum and a message inside it, which it has a field of. -/
def nestRecord : Load.Record := [
  ("path", .text "nest.proto"), ("package", .text "p"),
  ("messages", .list [.object [("name", .text "Outer"),
    ("fields", .list [.object [("name", .text "inner"), ("type", .text "Inner")]]),
    ("messages", .list [.object [("name", .text "Inner")]]),
    ("enums", .list [.object [("name", .text "Kind")]])]])]

def nest : File := {
  path := "nest.proto", package := "p"
  messages := [{
    name := "Outer", fullName := "p.Outer", filePath := "nest.proto"
    fields := [{ name := "inner", typeName := "Inner" }]
    messages :=
      [{ name := "Inner", fullName := "p.Outer.Inner", filePath := "nest.proto" }]
    enums :=
      [{ name := "Kind", fullName := "p.Outer.Kind", filePath := "nest.proto" }] }] }

theorem index_exact_nest :
    declaredNames [nest] = ["p.Outer", "p.Outer.Kind", "p.Outer.Inner"] ∧
      (∃ index, Index.build [nest] = .ok index ∧ Index.Exact [nest] index) ∧
      (∃ c, Index.build [nest, nest] = .error c ∧ c.Stops (inventory [nest, nest]) ∧
        c.message =
          "Duplicate fully-qualified name 'p.Outer': message in 'nest.proto' and " ++
          "message in 'nest.proto'") ∧
      ∃ r, resolve [nest] = .ok r ∧
        ∃ d, r.index.target? (.resolved "p.Outer.Inner" "nest.proto" .message) = some d ∧
          d.entity.fullName = "p.Outer.Inner" ∧ d.entity.filePath = "nest.proto" ∧
          d.entity.kind = .message := by
  have hloaded : ∀ f ∈ [nest], ∃ i v, Load.file i v = .ok f := by
    intro f hf
    rw [List.mem_singleton.1 hf]
    exact ⟨0, .object nestRecord, rfl⟩
  obtain ⟨c, hc, hstops, -⟩ := (index_exact [nest, nest]).2.1 (by decide)
  refine ⟨rfl, (index_exact [nest]).1 (by decide), ⟨c, hc, hstops, ?_⟩, _, rfl, ?_⟩
  · cases hc
    rfl
  · exact (index_exact [nest]).2.2 hloaded _ rfl _ List.mem_cons_self
      ⟨"p.Outer", "Inner", some (.resolved "p.Outer.Inner" "nest.proto" .message)⟩
      List.mem_cons_self _ _ _ rfl

end SchemaDocs
