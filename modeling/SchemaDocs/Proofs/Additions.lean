import SchemaDocs.Proofs.Mentions

/-!
# Adding files to a schema

When files are added to a schema, what its type names refer to can change, but
only in two ways. A name that had nothing to refer to may find a type of the
added files. And a name that refers to a type may find one of the added files
in a scope further in, which shadows the old one. Nothing that was found is
lost, and everything else stays as it was.

The reason is that a look-up goes through its candidates in one order in both
schemas, and that at every candidate the larger schema has what the smaller one
has, or else what the added files have. So of the two searches the one in the
larger schema ends at the same candidate, or earlier at an added type.
-/

namespace SchemaDocs

/-- How the reference of a name changes when files are added. Candidates come
in the order in which they are tried: those in front of the old target are the
ones that an added type shadows it from. -/
inductive Develops (added : List File) (scope name : String) : TypeRef → TypeRef → Prop
  | primitive (scalar : String) :
      Develops added scope name (.primitive scalar) (.primitive scalar)
  | kept {entity path : String} {kind : EntityKind} {front back : List String}
      (hcandidates : candidates name scope = front ++ entity :: back)
      (hfirst : entity ∉ front)
      (hnone : ∀ c ∈ front, ∀ path kind, ¬ TypeDeclared added c path kind) :
      Develops added scope name (.resolved entity path kind) (.resolved entity path kind)
  | shadowed {entity path inner path' : String} {kind kind' : EntityKind}
      {front back : List String}
      (hcandidates : candidates name scope = front ++ entity :: back)
      (hfirst : entity ∉ front) (hinner : inner ∈ front)
      (hadded : TypeDeclared added inner path' kind') :
      Develops added scope name (.resolved entity path kind) (.resolved inner path' kind')
  | stillOpen
      (hnone : ∀ c ∈ candidates name scope,
        ∀ path kind, ¬ TypeDeclared added c path kind) :
      Develops added scope name (.unresolved name) (.unresolved name)
  | completed {entity path : String} {kind : EntityKind}
      (hcandidate : entity ∈ candidates name scope)
      (hadded : TypeDeclared added entity path kind) :
      Develops added scope name (.unresolved name) (.resolved entity path kind)

/-- A type name before and after files were added. -/
structure Mention.Develops (added : List File) (u u' : Mention) : Prop where
  scope : u'.scope = u.scope
  name : u'.name = u.name
  refs : ∃ t t', u.ref = some t ∧ u'.ref = some t' ∧
    SchemaDocs.Develops added u.scope u.name t t'

theorem declarations_append (files added : List File) :
    declarations (files ++ added) = declarations files ++ declarations added :=
  List.flatMap_append

theorem declaredNames_append (files added : List File) :
    declaredNames (files ++ added) = declaredNames files ++ declaredNames added :=
  List.flatMap_append

/-- Two places of one list are the same place, or one of them comes first. -/
theorem append_cons_eq_append_cons {α : Type} {front back front' back' : List α} {x y : α}
    (h : front ++ x :: back = front' ++ y :: back') :
    (front = front' ∧ x = y) ∨ x ∈ front' ∨ y ∈ front := by
  rcases List.append_eq_append_iff.1 h with ⟨mid, rfl, hmid⟩ | ⟨mid, rfl, hmid⟩
  · cases mid with
    | nil =>
        cases hmid
        exact .inl ⟨(List.append_nil front).symm, rfl⟩
    | cons z mid =>
        cases hmid
        exact .inr (.inl (by simp))
  · cases mid with
    | nil =>
        cases hmid
        exact .inl ⟨List.append_nil front', rfl⟩
    | cons z mid =>
        cases hmid
        exact .inr (.inr (by simp))

/-! ## The look-up in the larger schema -/

section

variable {files added : List File} (hnd : (declaredNames (files ++ added)).Nodup)

include hnd

theorem nodup_before_adding : (declaredNames files).Nodup := by
  rw [declaredNames_append] at hnd
  exact hnd.of_append_left

theorem nodup_added : (declaredNames added).Nodup := by
  rw [declaredNames_append] at hnd
  exact hnd.of_append_right

/-- No name is declared on both sides, so it does not matter which side is
asked first. -/
theorem findType?_append (name : String) :
    Index.findType? (declarations (files ++ added)) name =
      (Index.findType? (declarations files) name).or
        (Index.findType? (declarations added) name) := by
  have hfiles := nodup_before_adding hnd
  have hadded := nodup_added hnd
  refine Option.ext fun d => ?_
  rw [findType?_eq_some_iff hnd, Option.or_eq_some_iff, findType?_eq_some_iff hfiles,
    findType?_eq_some_iff hadded, declarations_append, List.mem_append]
  constructor
  · rintro ⟨hd | hd, hname, hkind⟩
    · exact .inl ⟨hd, hname, hkind⟩
    · refine .inr ⟨?_, hd, hname, hkind⟩
      cases hold : Index.findType? (declarations files) name with
      | none => rfl
      | some e =>
          obtain ⟨he, hename, -⟩ := (findType?_eq_some_iff hfiles).1 hold
          rw [declaredNames_append, ← map_fullName_declarations,
            ← map_fullName_declarations] at hnd
          have hleft : name ∈ (declarations files).map Declaration.fullName := by
            rw [← hename]
            exact List.mem_map_of_mem he
          have hright : name ∈ (declarations added).map Declaration.fullName := by
            rw [← hname]
            exact List.mem_map_of_mem hd
          exact absurd hright (List.disjoint_of_nodup_append hnd hleft)
  · rintro (⟨hd, hname, hkind⟩ | ⟨-, hd, hname, hkind⟩)
    · exact ⟨.inl hd, hname, hkind⟩
    · exact ⟨.inr hd, hname, hkind⟩

theorem findType?_append_eq_none {name : String}
    (h : Index.findType? (declarations (files ++ added)) name = none) :
    Index.findType? (declarations files) name = none ∧
      ∀ path kind, ¬ TypeDeclared added name path kind := by
  rw [findType?_append hnd, Option.or_eq_none_iff] at h
  exact ⟨h.1, (findType?_eq_none_iff (nodup_added hnd)).1 h.2⟩

/-- A search that ends in the larger schema where the smaller one has nothing
has found an added type. -/
theorem typeDeclared_of_findType?_append {name : String} {d : Declaration}
    (hold : Index.findType? (declarations files) name = none)
    (hnew : Index.findType? (declarations (files ++ added)) name = some d) :
    TypeDeclared added d.fullName d.file d.kind := by
  rw [findType?_append hnd, hold, Option.none_or] at hnew
  rw [((findType?_eq_some_iff (nodup_added hnd)).1 hnew).2.1]
  exact (typeDeclared_iff (nodup_added hnd)).2 ⟨d, hnew, rfl, rfl⟩

/-- Both searches end. The one in the larger schema ends at the target of the
other, or at an added type in front of it. -/
theorem develops_of_found {scope name : String} {d d' : Declaration}
    (hold : Index.lookup? (declarations files) scope name = some d)
    (hnew : Index.lookup? (declarations (files ++ added)) scope name = some d') :
    Develops added scope name (.resolved d.fullName d.file d.kind)
      (.resolved d'.fullName d'.file d'.kind) := by
  have hfiles := nodup_before_adding hnd
  rw [Index.lookup?, List.findSome?_eq_some_iff] at hold hnew
  obtain ⟨front, target, back, hsplit, htarget, hfront⟩ := hold
  obtain ⟨front', target', back', hsplit', htarget', hfront'⟩ := hnew
  have hname : d.fullName = target := ((findType?_eq_some_iff hfiles).1 htarget).2.1
  have hfirst : target ∉ front := by
    intro hmem
    rw [hfront target hmem] at htarget
    cases htarget
  have hfront' : ∀ c ∈ front', Index.findType? (declarations files) c = none ∧
      ∀ path kind, ¬ TypeDeclared added c path kind :=
    fun c hc => findType?_append_eq_none hnd (hfront' c hc)
  rcases append_cons_eq_append_cons (hsplit'.symm.trans hsplit) with
    ⟨rfl, rfl⟩ | hinner | hpassed
  · rw [findType?_append hnd, htarget, Option.some_or] at htarget'
    obtain rfl : d = d' := Option.some.inj htarget'
    rw [hname]
    exact .kept hsplit hfirst fun c hc => (hfront' c hc).2
  · have hname' : d'.fullName = target' := ((findType?_eq_some_iff hnd).1 htarget').2.1
    have hadded := typeDeclared_of_findType?_append hnd (hfront target' hinner) htarget'
    rw [hname]
    rw [hname'] at hadded ⊢
    exact .shadowed hsplit hfirst hinner hadded
  · rw [(hfront' target hpassed).1] at htarget
    cases htarget

theorem develops_reference (scope name : String) :
    Develops added scope name (Index.reference (declarations files) scope name)
      (Index.reference (declarations (files ++ added)) scope name) := by
  rw [Index.reference, Index.reference]
  split
  · exact .primitive name
  · cases hold : Index.lookup? (declarations files) scope name with
    | some d =>
        cases hnew : Index.lookup? (declarations (files ++ added)) scope name with
        | some d' => exact develops_of_found hnd hold hnew
        | none =>
            -- what is found in the smaller schema is found in the larger one
            rw [Index.lookup?, List.findSome?_eq_none_iff] at hnew
            obtain ⟨c, hc, hd⟩ := List.exists_of_findSome?_eq_some hold
            rw [(findType?_append_eq_none hnd (hnew c hc)).1] at hd
            cases hd
    | none =>
        rw [Index.lookup?, List.findSome?_eq_none_iff] at hold
        cases hnew : Index.lookup? (declarations (files ++ added)) scope name with
        | some d' =>
            obtain ⟨c, hc, hd⟩ := List.exists_of_findSome?_eq_some hnew
            have hname := ((findType?_eq_some_iff hnd).1 hd).2.1
            refine .completed (by rwa [hname]) ?_
            exact typeDeclared_of_findType?_append hnd (hold c hc) hd
        | none =>
            rw [Index.lookup?, List.findSome?_eq_none_iff] at hnew
            exact .stillOpen fun c hc => (findType?_append_eq_none hnd (hnew c hc)).2

end

/-- When files are added to a schema, the slots of its own files stay where
they are. A scalar stays a scalar. A reference to a type stays one, and keeps
its target, or goes to an added type that is tried before the old target. A name
that was not found stays so, or comes to refer to an added type. -/
theorem resolve_append {files added : List File} {r r' : Resolution}
    (h : resolve files = .ok r) (h' : resolve (files ++ added) = .ok r') :
    r.files.map File.cleared = files.map File.cleared ∧
      (r'.files.take files.length).map File.cleared = files.map File.cleared ∧
      List.Forall₂
        (fun f f' => List.Forall₂ (Mention.Develops added) f.mentions f'.mentions)
        r.files (r'.files.take files.length) := by
  obtain ⟨-, -, rfl⟩ := resolve_eq_ok_iff.1 h
  obtain ⟨hnd, -, rfl⟩ := resolve_eq_ok_iff.1 h'
  have htake :
      ((files ++ added).map (Index.fillFile (declarations (files ++ added)))).take
        files.length = files.map (Index.fillFile (declarations (files ++ added))) := by
    rw [List.map_append]
    exact List.take_left' (List.length_map _)
  have hcleared (index : Index) :
      (files.map index.fillFile).map File.cleared = files.map File.cleared := by
    rw [List.map_map]
    exact List.map_congr_left fun f _ => index.fillFile_cleared f
  refine ⟨hcleared _, ?_, ?_⟩
  · rw [htake]
    exact hcleared _
  · rw [htake, List.forall₂_map_left_iff, List.forall₂_map_right_iff, List.forall₂_same]
    intro f _
    rw [Index.mentions_fillFile, Index.mentions_fillFile, List.forall₂_map_left_iff,
      List.forall₂_map_right_iff, List.forall₂_same]
    intro u _
    exact ⟨rfl, rfl, _, _, rfl, rfl, develops_reference hnd u.scope u.name⟩

/-- A message of `p.q` that names a scalar, an enum of `p`, and something that
nobody declares. -/
def lone : List File := [
  { path := "lone.proto", package := "p.q"
    messages := [{
      name := "Outer", fullName := "p.q.Outer"
      fields := [
        { name := "count", typeName := "int32" },
        { name := "things", typeName := "map", label := .repeated
          map := some { keyType := "string", valueType := "Thing" } },
        { name := "late", typeName := "Late" }] }] },
  { path := "things.proto", package := "p"
    enums := [{ name := "Thing", fullName := "p.Thing" }] }]

/-- A type that is further in than the enum, and the one that was missing. -/
def joining : List File := [
  { path := "joining.proto", package := "p.q"
    messages := [{ name := "Thing", fullName := "p.q.Thing" }] },
  { path := "late.proto"
    messages := [{ name := "Late", fullName := "Late" }] }]

theorem resolve_append_joining :
    ∃ r r', resolve lone = .ok r ∧ resolve (lone ++ joining) = .ok r' ∧
      (r.files.flatMap File.mentions).map Mention.ref = [
        some (.primitive "int32"), some (.primitive "string"),
        some (.resolved "p.Thing" "things.proto" .enum),
        some (.resolved "p.Thing" "things.proto" .enum), some (.unresolved "Late")] ∧
      ((r'.files.take 2).flatMap File.mentions).map Mention.ref = [
        some (.primitive "int32"), some (.primitive "string"),
        some (.resolved "p.q.Thing" "joining.proto" .message),
        some (.resolved "p.q.Thing" "joining.proto" .message),
        some (.resolved "Late" "late.proto" .message)] ∧
      r.files.map File.cleared = lone.map File.cleared ∧
      (r'.files.take lone.length).map File.cleared = lone.map File.cleared ∧
      List.Forall₂
        (fun f f' => List.Forall₂ (Mention.Develops joining) f.mentions f'.mentions)
        r.files (r'.files.take lone.length) :=
  ⟨_, _, rfl, rfl, rfl, rfl, resolve_append rfl rfl⟩

end SchemaDocs
