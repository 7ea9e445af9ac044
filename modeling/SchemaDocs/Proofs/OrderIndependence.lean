import SchemaDocs.Proofs.Rearrangement
import SchemaDocs.Proofs.Unresolved

/-!
# Resolution does not depend on the order of declarations

What a name refers to is read off the index, and of a declaration in the index
only its key is read. Keys do not repeat, so an index with the same keys in
another order gives the same references. Rearranging a schema permutes the
keys and leaves everything else of a file where it is. So filling the slots
goes with the rearrangement: whatever order turns one schema into another, it
turns the resolution of the one into that of the other, or both fail in the
same stage.
-/

namespace SchemaDocs

/-! ## What a resolution reads of an index -/

section

variable {index index' : Index}

theorem Index.map_key_find? (index : Index) (name : String) :
    (index.find? name).map Declaration.key =
      (index.map Declaration.key).find? (Prod.fst · == name) := by
  rw [List.find?_map]
  rfl

theorem Index.map_key_findType? (name : String) :
    (index.findType? name).map Declaration.key =
      ((index.map Declaration.key).find? (Prod.fst · == name)).filter
        (·.2.1 ≠ .service) := by
  rw [← Index.map_key_find?, Index.findType?]
  cases index.find? name with
  | none => rfl
  | some d =>
      simp only [Option.map_some, Option.filter_some]
      by_cases hk : d.kind = .service <;> simp [Declaration.key, hk]

theorem Index.reference_eq (index : Index) (scope name : String) :
    index.reference scope name =
      if isPrimitive name then .primitive name
      else match (index.lookup? scope name).map Declaration.key with
        | some (entity, kind, file) => .resolved entity file kind
        | none => .unresolved name := by
  rw [Index.reference]
  cases index.lookup? scope name <;> rfl

/-- An index with the same keys in another order says the same of every name. -/
theorem Index.reference_eq_of_perm
    (hnd : (index.map Declaration.fullName).Nodup)
    (h : (index'.map Declaration.key).Perm (index.map Declaration.key)) :
    index'.reference = index.reference := by
  have hnd : ((index.map Declaration.key).map Prod.fst).Nodup := by
    rwa [List.map_map]
  have htype (name : String) : (index'.findType? name).map Declaration.key =
      (index.findType? name).map Declaration.key := by
    rw [Index.map_key_findType?, Index.map_key_findType?,
      find?_key_eq_of_perm hnd h name]
  funext scope name
  rw [Index.reference_eq, Index.reference_eq, Index.lookup?, Index.lookup?,
    List.map_findSome?, List.map_findSome?,
    show Option.map Declaration.key ∘ index'.findType? =
      Option.map Declaration.key ∘ index.findType? from funext htype]

variable (h : index'.reference = index.reference)

include h

theorem Index.fillField_congr : index'.fillField = index.fillField := by
  funext scope f
  unfold Index.fillField Index.fillMap
  rw [h]

theorem Index.fillMessage_congr (m : Message) :
    index'.fillMessage m = index.fillMessage m := by
  induction m using Message.nestedInduction with
  | step m ih =>
      obtain ⟨name, fullName, fields, messages, enums, description, path⟩ := m
      rw [Index.fillMessage, Index.fillMessage, Index.fillMessages_eq_map,
        Index.fillMessages_eq_map, Index.fillField_congr h, List.map_congr_left ih]

theorem Index.fillFile_congr : index'.fillFile = index.fillFile := by
  funext f
  unfold Index.fillFile Index.fillService Index.fillMethod
  rw [Index.fillMessages_eq_map, Index.fillMessages_eq_map, h,
    List.map_congr_left fun m _ => Index.fillMessage_congr h m]

theorem Index.scalarKeysAll_congr {files : List File} :
    index'.ScalarKeysAll files ↔ index.ScalarKeysAll files := by
  unfold Index.ScalarKeysAll Index.ScalarKeys Index.ScalarKey
  rw [h]

end

/-! ## Filling goes with rearranging -/

section

variable (index : Index)

theorem Index.fillMessage_arrange (o : MessageOrder) (m : Message) :
    index.fillMessage (m.arrange o) = (index.fillMessage m).arrange o := by
  induction m using Message.nestedInduction generalizing o with
  | step m ih =>
      obtain ⟨name, fullName, fields, messages, enums, description, path⟩ := m
      rw [Message.arrange, Index.fillMessage, Index.fillMessage, Message.arrange,
        Ranking.arrange_map, Index.fillMessages_eq_map, Index.fillMessages_eq_map,
        arrangeMessages_eq_mapIdx, arrangeMessages_eq_mapIdx]
      rw [map_arrange_mapIdx o.messages fun i n hn => ih n hn (o.inside i)]

theorem Index.fillService_arrange (scope : String) (rank : Ranking) (s : Service) :
    index.fillService scope (s.arrange rank) =
      (index.fillService scope s).arrange rank := by
  unfold Index.fillService Service.arrange
  rw [Ranking.arrange_map]

theorem Index.fillFile_arrange (o : FileOrder) (f : File) :
    index.fillFile (f.arrange o) = (index.fillFile f).arrange o := by
  unfold Index.fillFile File.arrange
  rw [Index.fillMessages_eq_map, Index.fillMessages_eq_map,
    arrangeMessages_eq_mapIdx, arrangeMessages_eq_mapIdx,
    map_arrange_mapIdx o.messages fun i m _ => index.fillMessage_arrange (o.inside i) m,
    map_arrange_mapIdx o.services fun i s _ =>
      index.fillService_arrange f.package (o.methods i) s]

theorem Index.map_fillFile_arrange (o : SchemaOrder) (files : List File) :
    (o.arrange files).map index.fillFile = o.arrange (files.map index.fillFile) :=
  map_arrange_mapIdx o.files fun i f _ => index.fillFile_arrange (o.inside i) f

theorem Index.scalarKeysAll_iff {files : List File} :
    index.ScalarKeysAll files ↔
      ∀ x ∈ files.flatMap File.members, index.ScalarKey x.1 x.2 := by
  simp only [Index.ScalarKeysAll, Index.ScalarKeys, List.mem_flatMap, File.members,
    Message.members, List.mem_map, File.mem_allMessages]
  constructor
  · rintro h _ ⟨f, hf, m, hm, x, hx, rfl⟩
    exact h f hf m hm x hx
  · intro h f hf m hm x hx
    exact h (m.fullName, x) ⟨f, hf, m, hm, x, hx, rfl⟩

theorem Index.scalarKeysAll_arrange (o : SchemaOrder) (files : List File) :
    index.ScalarKeysAll (o.arrange files) ↔ index.ScalarKeysAll files := by
  rw [Index.scalarKeysAll_iff, Index.scalarKeysAll_iff]
  exact forall_congr' fun x => imp_congr_left (members_arrange o files).mem_iff

end

/-! ## The resolution of a rearranged schema -/

/-- How the outcome for a rearranged schema goes with the one for the schema:
both fail in the same stage, or the files of one are those of the other
rearranged, with what was filled into their slots, and the same is known about
all names. -/
inductive Corresponds (o : SchemaOrder) :
    Except ResolveError Resolution → Except ResolveError Resolution → Prop
  | resolved {r r' : Resolution} (files : r'.files = o.arrange r.files)
      (index : (r'.index.map Declaration.key).Perm (r.index.map Declaration.key))
      (unresolved : (r'.unresolved.map (·.name)).Perm (r.unresolved.map (·.name))) :
      Corresponds o (.ok r) (.ok r')
  | collision (c c' : Collision) :
      Corresponds o (.error (.collision c)) (.error (.collision c'))
  | keyType (f f' : KeyFault) :
      Corresponds o (.error (.keyType f)) (.error (.keyType f'))

theorem declaredNames_arrange (o : SchemaOrder) (files : List File) :
    (declaredNames (o.arrange files)).Perm (declaredNames files) := by
  rw [← map_fst_key_declarations, ← map_fst_key_declarations]
  exact (map_key_arrange o files).map Prod.fst

theorem resolve_arrange (o : SchemaOrder) (files : List File) :
    Corresponds o (resolve files) (resolve (o.arrange files)) := by
  have hkeys := map_key_arrange o files
  have hnames := (declaredNames_arrange o files).nodup_iff
  by_cases hnd : (declaredNames files).Nodup
  · have href : Index.reference (declarations (o.arrange files)) =
        Index.reference (declarations files) :=
      Index.reference_eq_of_perm (by rwa [map_fullName_declarations]) hkeys
    have hscalar : Index.ScalarKeysAll (declarations (o.arrange files))
        (o.arrange files) ↔ Index.ScalarKeysAll (declarations files) files := by
      rw [Index.scalarKeysAll_congr href, Index.scalarKeysAll_arrange]
    by_cases hs : Index.ScalarKeysAll (declarations files) files
    · rw [resolve_of_scalarKeys hnd hs,
        resolve_of_scalarKeys (hnames.2 hnd) (hscalar.2 hs)]
      have hfiles : (o.arrange files).map
          (Index.fillFile (declarations (o.arrange files))) =
          o.arrange (files.map (Index.fillFile (declarations files))) := by
        rw [Index.fillFile_congr href, Index.map_fillFile_arrange]
      refine .resolved hfiles hkeys (Index.diagnose_names_perm ?_)
      rw [hfiles]
      exact slots_arrange o _
    · obtain ⟨f, hf⟩ := resolve_of_keyType hnd hs
      obtain ⟨f', hf'⟩ := resolve_of_keyType (hnames.2 hnd) (mt hscalar.1 hs)
      rw [hf, hf']
      exact .keyType f f'
  · obtain ⟨c, hc⟩ := resolve_of_collision hnd
    obtain ⟨c', hc'⟩ := resolve_of_collision (mt hnames.1 hnd)
    rw [hc, hc']
    exact .collision c c'

/-- A rearranged schema has an order that it comes from, and the outcomes go
with every such order. -/
theorem resolve_rearranged {files files' : List File} (h : Rearranged files files') :
    (∃ o : SchemaOrder, o.arrange files = files') ∧
      ∀ o : SchemaOrder, o.arrange files = files' →
        Corresponds o (resolve files) (resolve files') := by
  refine ⟨rearranged_iff.1 h, ?_⟩
  rintro o rfl
  exact resolve_arrange o files

/-- Two files whose names are looked up in each other, with two entries in every
list. -/
def tangled : List File := [
  { path := "a.proto", package := "p"
    messages := [
      { name := "Outer", fullName := "p.Outer"
        fields := [
          { name := "inner", typeName := "Inner" },
          { name := "lost", typeName := "Lost" }]
        messages := [
          { name := "Inner", fullName := "p.Outer.Inner"
            fields := [
              { name := "state", typeName := "State" },
              { name := "up", typeName := "Outer" }] },
          { name := "Other", fullName := "p.Outer.Other" }]
        enums := [
          { name := "State", fullName := "p.Outer.State" },
          { name := "Kind", fullName := "p.Outer.Kind" }] },
      { name := "Last", fullName := "p.Last" }]
    enums := [
      { name := "State", fullName := "p.State" },
      { name := "Level", fullName := "p.Level" }]
    services := [
      { name := "S", fullName := "p.S"
        methods := [
          { name := "Get", requestType := "Last", responseType := "q.Far" },
          { name := "Put", requestType := "q.Far", responseType := "Outer.Other" }] },
      { name := "T", fullName := "p.T" }] },
  { path := "b.proto", package := "q"
    messages := [{
      name := "Far", fullName := "q.Far"
      fields := [
        { name := "back", typeName := "p.Outer.Inner" },
        { name := "gone", typeName := "Gone" }] }] }]

/-- The same with every list the other way round. -/
def turned : List File := [
  { path := "b.proto", package := "q"
    messages := [{
      name := "Far", fullName := "q.Far"
      fields := [
        { name := "gone", typeName := "Gone" },
        { name := "back", typeName := "p.Outer.Inner" }] }] },
  { path := "a.proto", package := "p"
    messages := [
      { name := "Last", fullName := "p.Last" },
      { name := "Outer", fullName := "p.Outer"
        fields := [
          { name := "lost", typeName := "Lost" },
          { name := "inner", typeName := "Inner" }]
        messages := [
          { name := "Other", fullName := "p.Outer.Other" },
          { name := "Inner", fullName := "p.Outer.Inner"
            fields := [
              { name := "up", typeName := "Outer" },
              { name := "state", typeName := "State" }] }]
        enums := [
          { name := "Kind", fullName := "p.Outer.Kind" },
          { name := "State", fullName := "p.Outer.State" }] }]
    enums := [
      { name := "Level", fullName := "p.Level" },
      { name := "State", fullName := "p.State" }]
    services := [
      { name := "T", fullName := "p.T" },
      { name := "S", fullName := "p.S"
        methods := [
          { name := "Put", requestType := "q.Far", responseType := "Outer.Other" },
          { name := "Get", requestType := "Last", responseType := "q.Far" }] }] }]

theorem rearranged_tangled : Rearranged tangled turned := by
  have hempty {α : Type} {R : α → α → Prop} : Shuffled R [] [] := ⟨.nil, .nil⟩
  have hswap {α : Type} {R : α → α → Prop} {x x' y y' : α} (hx : R x x') (hy : R y y') :
      Shuffled R [x, y] [y', x'] := ⟨.cons hx (.cons hy .nil), .swap _ _ _⟩
  refine hswap ⟨?messages, .swap _ _ _, ?services, rfl⟩ ⟨?far, .nil, hempty, rfl⟩
  case messages =>
      refine hswap ⟨.swap _ _ _, ?inside, .swap _ _ _, rfl⟩ ⟨.nil, hempty, .nil, rfl⟩
      exact hswap ⟨.swap _ _ _, hempty, .nil, rfl⟩ ⟨.nil, hempty, .nil, rfl⟩
  case services => exact hswap ⟨.swap _ _ _, rfl⟩ ⟨.nil, rfl⟩
  case far => exact ⟨.cons ⟨.swap _ _ _, hempty, .nil, rfl⟩ .nil, .refl _⟩

/-- Both are resolved, and the unresolved names are met in another order. -/
theorem resolve_rearranged_tangled :
    Rearranged tangled turned ∧
      (∃ r r', resolve tangled = .ok r ∧ resolve turned = .ok r' ∧
        r.unresolved.map (·.name) = ["Lost", "Gone"] ∧
        r'.unresolved.map (·.name) = ["Gone", "Lost"]) ∧
      (∃ o : SchemaOrder, o.arrange tangled = turned) ∧
      ∀ o : SchemaOrder, o.arrange tangled = turned →
        Corresponds o (resolve tangled) (resolve turned) :=
  ⟨rearranged_tangled, ⟨_, _, rfl, rfl, rfl, rfl⟩, resolve_rearranged rearranged_tangled⟩

end SchemaDocs
