import SchemaDocs.Proofs.References

/-!
# Names that need no scope

The name of a scalar and a name with a dot in front mean the same wherever they
stand. Where files have no other names, and scalars for the keys of maps, scopes
play no part. Resolution cannot fail then, unless a full name is declared twice,
and what a slot holds can be told from the name beside it: a scalar, the message
or the enum of this name with the file that declares it, or nothing that is
declared.
-/

namespace SchemaDocs

/-- What a name without a scope is resolved to. -/
inductive Resolves (files : List File) : String → Option TypeRef → Prop
  | scalar {name : String} (h : name ∈ primitiveNames) :
      Resolves files name (some (.primitive name))
  | declared {name path : String} {kind : EntityKind}
    (h : TypeDeclared files name path kind) :
      Resolves files ("." ++ name) (some (.resolved name path kind))
  | undeclared {name : String} (h : ∀ path kind, ¬ TypeDeclared files name path kind) :
      Resolves files ("." ++ name) (some (.unresolved ("." ++ name)))

/-- The slots of a field are resolved. The key of a map is a scalar, and its own
slot repeats the one of its values. -/
structure Field.Resolved (files : List File) (f : Field) : Prop where
  plain : f.map = none → Resolves files f.typeName f.typeRef
  key : ∀ m, f.map = some m →
    m.keyType ∈ primitiveNames ∧ m.keyRef = some (.primitive m.keyType)
  value : ∀ m, f.map = some m →
    Resolves files m.valueType m.valueRef ∧ f.typeRef = m.valueRef

structure Method.Resolved (files : List File) (m : Method) : Prop where
  request : Resolves files m.requestType m.requestRef
  response : Resolves files m.responseType m.responseRef

/-- All slots of a file are resolved, in messages at every depth. -/
structure File.Resolved (files : List File) (f : File) : Prop where
  fields : ∀ m, f.HasMessage m → ∀ x ∈ m.fields, x.Resolved files
  methods : ∀ s ∈ f.services, ∀ x ∈ s.methods, x.Resolved files

/-! ## Names that leave scopes out -/

/-- A name that means the same in every scope. -/
def ScopeFree (name : String) : Prop := name ∈ primitiveNames ∨ ∃ rest, name = "." ++ rest

structure Field.ScopeFree (f : Field) : Prop where
  plain : f.map = none → SchemaDocs.ScopeFree f.typeName
  key : ∀ m, f.map = some m → m.keyType ∈ primitiveNames
  value : ∀ m, f.map = some m → SchemaDocs.ScopeFree m.valueType

structure File.ScopeFree (f : File) : Prop where
  fields : ∀ m, f.HasMessage m → ∀ x ∈ m.fields, x.ScopeFree
  methods : ∀ s ∈ f.services, ∀ x ∈ s.methods,
    SchemaDocs.ScopeFree x.requestType ∧ SchemaDocs.ScopeFree x.responseType

section

variable {files : List File}

theorem reference_primitive (index : Index) (scope : String) {name : String}
    (h : name ∈ primitiveNames) : index.reference scope name = .primitive name := by
  rw [Index.reference, if_pos]
  rw [isPrimitive, List.contains_iff_mem]
  exact h

variable (hnd : (declaredNames files).Nodup)

include hnd

theorem ScopeFree.resolves {name : String} (h : ScopeFree name) (scope : String) :
    Resolves files name (some (Index.reference (declarations files) scope name)) := by
  have hdenotes :=
    (denotes_iff hnd).2 (Eq.refl (Index.reference (declarations files) scope name))
  generalize Index.reference (declarations files) scope name = ref at hdenotes
  cases hdenotes with
  | primitive hp => exact .scalar hp
  | absolute hp hn hd =>
      rw [hn]
      exact .declared hd
  | absoluteUnknown hp hn hd =>
      rw [hn]
      exact .undeclared hd
  | relative hp hn =>
      rcases h with h | ⟨rest, hrest⟩
      · exact absurd h hp
      · exact absurd hrest (hn rest)
  | relativeUnknown hp hn =>
      rcases h with h | ⟨rest, hrest⟩
      · exact absurd h hp
      · exact absurd hrest (hn rest)

theorem Index.fillField_resolved (scope : String) {f : Field} (h : f.ScopeFree) :
    (Index.fillField (declarations files) scope f).Resolved files := by
  rw [Index.fillField]
  cases hm : f.map with
  | none =>
      constructor
      case plain => exact fun _ => (h.plain hm).resolves hnd scope
      all_goals
        intro _ hmap
        cases hmap
  | some m =>
      constructor
      case plain =>
          intro hmap
          cases hmap
      case key =>
          intro _ hmap
          cases hmap
          exact ⟨h.key m hm, congrArg some (reference_primitive _ scope (h.key m hm))⟩
      case value =>
          intro _ hmap
          cases hmap
          exact ⟨(h.value m hm).resolves hnd scope, rfl⟩

theorem Index.fillFile_resolved {f : File} (h : f.ScopeFree) :
    (Index.fillFile (declarations files) f).Resolved files := by
  constructor
  case fields =>
      intro _ hk _ hfield
      obtain ⟨m, hm, rfl⟩ := (Index.hasMessage_fillFile _).1 hk
      rw [Index.fillMessage_fields] at hfield
      obtain ⟨x, hx, rfl⟩ := List.mem_map.1 hfield
      exact Index.fillField_resolved hnd m.fullName (h.fields m hm x hx)
  case methods =>
      intro _ hservice _ hmethod
      obtain ⟨s, hs, rfl⟩ := List.mem_map.1 hservice
      obtain ⟨x, hx, rfl⟩ := List.mem_map.1 hmethod
      obtain ⟨hrequest, hresponse⟩ := h.methods s hs x hx
      exact ⟨hrequest.resolves hnd f.package, hresponse.resolves hnd f.package⟩

/-- Files in which no name depends on a scope are resolved, whatever they
declare. -/
theorem resolve_scopeFree (h : ∀ f ∈ files, f.ScopeFree) :
    ∃ r, resolve files = .ok r ∧ r.files.map File.cleared = files.map File.cleared ∧
      ∀ f ∈ r.files, f.Resolved files := by
  have hkeys : Index.ScalarKeysAll (declarations files) files := by
    intro f hf m hm x hx k hk entity path kind href
    rw [reference_primitive _ _ (((h f hf).fields m hm x hx).key k hk)] at href
    cases href
  refine ⟨_, resolve_of_scalarKeys hnd hkeys, ?_, fun _ hfilled => ?_⟩
  · simp only [List.map_map]
    exact List.map_congr_left fun f _ => Index.fillFile_cleared _ f
  · obtain ⟨f, hf, rfl⟩ := List.mem_map.1 hfilled
    exact Index.fillFile_resolved hnd (h f hf)

end

end SchemaDocs
