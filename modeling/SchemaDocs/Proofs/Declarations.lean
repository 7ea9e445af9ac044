import SchemaDocs.Proofs.Keys
import SchemaDocs.Proofs.Walk
import SchemaDocs.Schema.Index

/-!
# What files declare, and under which names

A file declares the messages at every depth, the enums beside and inside
them, and its services. `File.Declares` says this with no order and no
traversal in it, and `declaredNames` lists the names of everything declared,
so that a name used twice appears twice. The index is then what it should be:
it is built exactly when no name appears twice, it is the list of
declarations, and a look-up in it finds the one declaration of a name.
-/

namespace SchemaDocs

/-- A file declares something of a kind under a full name. -/
inductive File.Declares (f : File) : EntityKind → String → Prop
  | message {m : Message} (hm : f.HasMessage m) : Declares f .message m.fullName
  | nestedEnum {m : Message} {e : EnumDef} (hm : f.HasMessage m)
      (he : e ∈ m.enums) : Declares f .enum e.fullName
  | enum {e : EnumDef} (he : e ∈ f.enums) : Declares f .enum e.fullName
  | service {s : Service} (hs : s ∈ f.services) : Declares f .service s.fullName

/-- A file declares an entity, somewhere. -/
inductive File.Holds (f : File) : Entity → Prop
  | message {m : Message} (hm : f.HasMessage m) : Holds f (.message m)
  | nestedEnum {m : Message} {e : EnumDef} (hm : f.HasMessage m) (he : e ∈ m.enums) :
      Holds f (.enum e)
  | enum {e : EnumDef} (he : e ∈ f.enums) : Holds f (.enum e)
  | service {s : Service} (hs : s ∈ f.services) : Holds f (.service s)

mutual

/-- The full names of a message and of everything declared inside it. -/
def Message.declaredNames : Message → List String
  | ⟨_, fullName, _, messages, enums, _, _⟩ =>
    fullName :: enums.map (·.fullName) ++ declaredInMessages messages

def declaredInMessages : List Message → List String
  | [] => []
  | m :: rest => m.declaredNames ++ declaredInMessages rest

end

/-- The full names of everything that a file declares, each as often as it is
declared. -/
def File.declaredNames (f : File) : List String :=
  declaredInMessages f.messages ++ f.enums.map (·.fullName) ++
    f.services.map (·.fullName)

def declaredNames (files : List File) : List String :=
  files.flatMap File.declaredNames

/-! ## Membership -/

theorem mem_declared {m : Message} {e : Entity} :
    e ∈ m.declared ↔ e = .message m ∨ ∃ x ∈ m.enums, e = .enum x := by
  simp only [Message.declared, List.mem_cons, List.mem_map]
  exact or_congr Iff.rfl (exists_congr fun x => and_congr_right fun _ => eq_comm)

theorem File.mem_entities {f : File} {e : Entity} :
    e ∈ f.entities ↔
      (∃ m, f.HasMessage m ∧ e ∈ m.declared) ∨ (∃ x ∈ f.enums, e = .enum x) ∨
        ∃ s ∈ f.services, e = .service s := by
  simp only [File.entities, List.mem_append, List.mem_flatMap, List.mem_map,
    File.mem_allMessages, or_assoc, eq_comm (a := e)]

theorem File.mem_entities_iff_holds {f : File} {e : Entity} :
    e ∈ f.entities ↔ f.Holds e := by
  rw [File.mem_entities]
  constructor
  · rintro (⟨m, hm, he⟩ | ⟨x, hx, rfl⟩ | ⟨s, hs, rfl⟩)
    · rcases mem_declared.1 he with rfl | ⟨x, hx, rfl⟩
      · exact .message hm
      · exact .nestedEnum hm hx
    · exact .enum hx
    · exact .service hs
  · rintro (hm | ⟨hm, he⟩ | he | hs)
    · exact .inl ⟨_, hm, mem_declared.2 (.inl rfl)⟩
    · exact .inl ⟨_, hm, mem_declared.2 (.inr ⟨_, he, rfl⟩)⟩
    · exact .inr (.inl ⟨_, he, rfl⟩)
    · exact .inr (.inr ⟨_, hs, rfl⟩)

theorem File.declares_iff {f : File} {kind : EntityKind} {name : String} :
    f.Declares kind name ↔
      ∃ e ∈ f.entities, e.kind = kind ∧ e.fullName = name := by
  simp only [File.mem_entities_iff_holds]
  constructor
  · rintro (hm | ⟨hm, he⟩ | he | hs)
    · exact ⟨_, .message hm, rfl, rfl⟩
    · exact ⟨_, .nestedEnum hm he, rfl, rfl⟩
    · exact ⟨_, .enum he, rfl, rfl⟩
    · exact ⟨_, .service hs, rfl, rfl⟩
  · rintro ⟨e, hm | ⟨hm, he⟩ | he | hs, rfl, rfl⟩
    · exact .message hm
    · exact .nestedEnum hm he
    · exact .enum he
    · exact .service hs

theorem mem_declarations {files : List File} {d : Declaration} :
    d ∈ declarations files ↔
      ∃ f ∈ files, d.file = f.path ∧ d.entity ∈ f.entities := by
  simp only [declarations, List.mem_flatMap, File.declarations, List.mem_map]
  refine exists_congr fun f => and_congr_right fun _ => ?_
  constructor
  · rintro ⟨e, he, rfl⟩
    exact ⟨rfl, he⟩
  · rintro ⟨hf, he⟩
    exact ⟨d.entity, he, by rw [← hf]⟩

/-- Something is declared under a name exactly when the list of declarations
has it, with its kind and the path of its file. -/
theorem exists_declaration_iff {files : List File} {kind : EntityKind}
    {name path : String} :
    (∃ d ∈ declarations files, d.fullName = name ∧ d.kind = kind ∧ d.file = path) ↔
      ∃ f ∈ files, f.path = path ∧ f.Declares kind name := by
  constructor
  · rintro ⟨d, hd, rfl, rfl, rfl⟩
    obtain ⟨f, hf, hp, he⟩ := mem_declarations.1 hd
    exact ⟨f, hf, hp.symm, File.declares_iff.2 ⟨d.entity, he, rfl, rfl⟩⟩
  · rintro ⟨f, hf, rfl, hn⟩
    obtain ⟨e, he, hk, hn⟩ := File.declares_iff.1 hn
    exact ⟨⟨e, f.path⟩, mem_declarations.2 ⟨f, hf, rfl, he⟩, hn, hk, rfl⟩

/-! ## Names, with their multiplicity -/

theorem map_fullName_declared (m : Message) :
    m.declared.map Entity.fullName = m.fullName :: m.enums.map (·.fullName) := by
  simp only [Message.declared, List.map_cons, List.map_map]
  rfl

theorem declaredInMessages_eq_flatMap (ms : List Message) :
    declaredInMessages ms = ms.flatMap Message.declaredNames := by
  induction ms with
  | nil => rfl
  | cons m rest ih => rw [declaredInMessages, List.flatMap_cons, ih]

theorem Message.declaredNames_eq (m : Message) :
    m.declaredNames = m.fullName :: m.enums.map (·.fullName) ++
      m.messages.flatMap Message.declaredNames := by
  cases m
  rw [Message.declaredNames, declaredInMessages_eq_flatMap]

theorem map_fullName_preorder (m : Message) :
    (m.preorder.flatMap Message.declared).map Entity.fullName =
      m.declaredNames := by
  induction m using Message.nestedInduction with
  | step m ih =>
      rw [Message.preorder_eq, List.flatMap_cons, List.map_append,
        map_fullName_declared, Message.declaredNames_eq, preorderAll_eq_flatMap,
        List.flatMap_assoc, List.map_flatMap, List.flatMap_def, List.flatMap_def,
        List.map_congr_left ih]

theorem map_fullName_preorderAll (ms : List Message) :
    ((preorderAll ms).flatMap Message.declared).map Entity.fullName =
      declaredInMessages ms := by
  rw [preorderAll_eq_flatMap, List.flatMap_assoc, List.map_flatMap,
    declaredInMessages_eq_flatMap]
  simp only [map_fullName_preorder]

theorem File.map_fullName_declarations (f : File) :
    f.declarations.map Declaration.fullName = f.declaredNames := by
  have hnames : f.declarations.map Declaration.fullName =
      f.entities.map Entity.fullName := by
    simp only [File.declarations, List.map_map]
    rfl
  rw [hnames, File.entities, List.map_append, List.map_append,
    File.allMessages_eq, map_fullName_preorderAll, File.declaredNames,
    List.map_map, List.map_map]
  rfl

theorem map_fullName_declarations (files : List File) :
    (declarations files).map Declaration.fullName = declaredNames files := by
  rw [declarations, List.map_flatMap, declaredNames]
  simp only [File.map_fullName_declarations]

/-! ## The index -/

theorem Index.find?_eq_none_iff {index : Index} {name : String} :
    index.find? name = none ↔ name ∉ index.map Declaration.fullName := by
  simp [Index.find?, List.find?_eq_none]

/-- Names that occur once have one declaration, and the index finds it. -/
theorem Index.find?_eq_some_iff {index : Index}
    (hnd : (index.map Declaration.fullName).Nodup) {name : String}
    {d : Declaration} :
    index.find? name = some d ↔ d ∈ index ∧ d.fullName = name :=
  find?_key_eq_some_iff hnd

theorem Index.extend_of_nodup : ∀ {ds : List Declaration} {index : Index},
    ((index ++ ds).map Declaration.fullName).Nodup →
    Index.extend index ds = .ok (index ++ ds) := by
  intro ds
  induction ds with
  | nil => intro index _; rw [Index.extend, List.append_nil]
  | cons d rest ih =>
      intro index hnd
      have hfresh : index.find? d.fullName = none := by
        rw [Index.find?_eq_none_iff]
        rw [List.map_append, List.map_cons] at hnd
        exact fun hmem => List.disjoint_of_nodup_append hnd hmem (by simp)
      rw [Index.extend, hfresh]
      simp only []
      rw [ih (by simpa using hnd)]
      simp

/-- A name that is not found can be added. -/
theorem Index.nodup_of_fresh {index : Index} {d : Declaration}
    (hnd : (index.map Declaration.fullName).Nodup)
    (hfresh : index.find? d.fullName = none) :
    ((index ++ [d]).map Declaration.fullName).Nodup := by
  rw [Index.find?_eq_none_iff] at hfresh
  rw [List.map_append, List.map_cons, List.map_nil]
  exact hnd.append (List.nodup_singleton _)
    (by simpa [List.disjoint_singleton] using hfresh)

theorem Index.nodup_of_extend : ∀ {ds : List Declaration} {index out : Index},
    (index.map Declaration.fullName).Nodup →
    Index.extend index ds = .ok out →
    ((index ++ ds).map Declaration.fullName).Nodup := by
  intro ds
  induction ds with
  | nil => intro index out hnd _; simpa using hnd
  | cons d rest ih =>
      intro index out hnd h
      rw [Index.extend] at h
      split at h
      · cases h
      · next hfresh =>
          simpa using ih (Index.nodup_of_fresh hnd hfresh) h

/-- An index is built exactly when no name is declared twice, and it is then
the list of all declarations. -/
theorem Index.build_eq_ok_iff {files : List File} {index : Index} :
    Index.build files = .ok index ↔
      index = declarations files ∧ (declaredNames files).Nodup := by
  rw [← map_fullName_declarations, Index.build]
  constructor
  · intro h
    have hnd := Index.nodup_of_extend (by simp) h
    rw [Index.extend_of_nodup hnd] at h
    simp only [List.nil_append, Except.ok.injEq] at h hnd
    exact ⟨h.symm, hnd⟩
  · rintro ⟨rfl, hnd⟩
    exact Index.extend_of_nodup hnd

theorem Index.build_eq_error_iff {files : List File} :
    (∃ c, Index.build files = .error c) ↔ ¬ (declaredNames files).Nodup := by
  constructor
  · rintro ⟨c, hc⟩ hnd
    rw [Index.build_eq_ok_iff.2 ⟨rfl, hnd⟩] at hc
    cases hc
  · intro hdup
    cases hb : Index.build files with
    | error c => exact ⟨c, rfl⟩
    | ok index => exact absurd (Index.build_eq_ok_iff.1 hb).2 hdup

end SchemaDocs
