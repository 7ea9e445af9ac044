import SchemaDocs.Proofs.Documents

/-!
# How a generation in the built-in layout ends

The stages come one after the other, and the first that fails decides. Each
fails under one condition, which can be read off the loaded files: a full name
is declared twice, a map is keyed by a message or an enum, a file has no
route. Behind these stages nothing can fail any more. The names of the pages
are different, so the navigation takes every page, and the built-in layout has
a text for everything that a page can show.
-/

namespace SchemaDocs

/-! ## Kinds of failure -/

/-- What is wrong when a generation fails: the structure of the description,
two declarations of one name, a file that has no place on the site, or the
layout, if a template is given that cannot be compiled or cannot be filled. -/
inductive FailureKind
  | structural
  | collision
  | content
  | layout
deriving DecidableEq, Repr

def ResolveError.kind : ResolveError → FailureKind
  | .collision _ => .collision
  | .keyType _ => .structural

def GenerateError.kind : GenerateError → FailureKind
  | .load _ => .structural
  | .resolve e => e.kind
  | .route _ => .content
  | .template _ => .layout
  | .render _ _ => .layout
  | .navigation _ => .content

/-- How a generation fails, if it does. -/
def failure? (raw routeBase : Value) (template : Option String) : Option FailureKind :=
  match generate raw routeBase template with
  | .ok _ => none
  | .error e => some e.kind

/-! ## The stages -/

/-- Two entities of the files have one full name. -/
def Colliding (files : List File) : Prop := ¬ (declaredNames files).Nodup

/-- The keys of some map are a message or an enum, by the rule of scopes. -/
def KeyedByType (files : List File) : Prop :=
  ∃ f ∈ files, ∃ m, f.HasMessage m ∧ ∃ x ∈ m.fields, ∃ t, x.map = some t ∧
    ∃ entity path kind, Denotes files m.fullName t.keyType (.resolved entity path kind)

/-- Some file has no place on the site. -/
def Homeless (files : List File) : Prop := ∃ f ∈ files, f.Unroutable

theorem keyedByType_iff {files : List File} (hnd : (declaredNames files).Nodup) :
    KeyedByType files ↔ ¬ Index.ScalarKeysAll (declarations files) files := by
  simp only [KeyedByType, Index.ScalarKeysAll, Index.ScalarKeys, Index.ScalarKey,
    denotes_iff hnd, eq_comm (b := Index.reference _ _ _)]
  push Not
  rfl

section

variable {raw routeBase : Value} {template : Option String}

theorem failure?_of_load {e : LoadError}
    (h : Schema.load raw routeBase = .error e) :
    failure? raw routeBase template = some .structural := by
  simp only [failure?, generate, h, Except.mapError, bind, Except.bind,
    GenerateError.kind]

theorem failure?_of_resolve {schema : Schema} {e : ResolveError}
    (hload : Schema.load raw routeBase = .ok schema)
    (h : resolve schema.files = .error e) :
    failure? raw routeBase template = some e.kind := by
  simp only [failure?, generate, hload, h, Except.mapError, bind, Except.bind,
    GenerateError.kind]

theorem failure?_of_route {schema : Schema} {r : Resolution} {e : RouteError}
    (hload : Schema.load raw routeBase = .ok schema)
    (hresolve : resolve schema.files = .ok r)
    (h : buildSite r.files schema.routeBase = .error e) :
    failure? raw routeBase template = some .content := by
  simp only [failure?, generate, hload, hresolve, h, Except.mapError, bind,
    Except.bind, GenerateError.kind]

theorem Accepted.failure?_eq_none {schema : Schema} {r : Resolution} {site : Site}
    (h : Accepted raw routeBase schema r site) :
    failure? raw routeBase none = none := by
  obtain ⟨g, hg⟩ := h.exists_generation
  simp only [failure?, hg]

end

/-- Resolution leaves alone what decides about a route. -/
theorem homeless_iff {files : List File} {r : Resolution}
    (h : resolve files = .ok r) :
    Homeless r.files ↔ Homeless files := by
  obtain ⟨-, -, rfl⟩ := resolve_eq_ok_iff.1 h
  constructor
  · rintro ⟨_, hfilled, hroute⟩
    obtain ⟨f, hf, rfl⟩ := List.mem_map.1 hfilled
    exact ⟨f, hf, hroute⟩
  · rintro ⟨f, hf, hroute⟩
    exact ⟨_, List.mem_map_of_mem hf, hroute⟩

/-! ## The outcome -/

/-- How a generation ends that fails as the first of these says that holds: the
description is rejected, a full name is declared twice, a map is keyed by a
message or an enum, a file has no route. -/
def Ends (raw : Value) (base : String) (failed : Option FailureKind) : Prop :=
  match Schema.load raw (.text base) with
  | .error _ => failed = some .structural
  | .ok ⟨files, _⟩ =>
    (failed = some .collision ↔ Colliding files) ∧
    (failed = some .structural ↔ ¬ Colliding files ∧ KeyedByType files) ∧
    (failed = some .content ↔
      ¬ Colliding files ∧ ¬ KeyedByType files ∧ Homeless files) ∧
    (failed = none ↔ ¬ Colliding files ∧ ¬ KeyedByType files ∧ ¬ Homeless files)

theorem ends_builtIn (raw : Value) (base : String) :
    Ends raw base (failure? raw (.text base) none) := by
  unfold Ends
  cases hload : Schema.load raw (.text base) with
  | error e => exact failure?_of_load hload
  | ok schema =>
  dsimp only
  by_cases hcolliding : Colliding schema.files
  case pos =>
      obtain ⟨c, hc⟩ := resolve_of_collision hcolliding
      rw [failure?_of_resolve hload hc]
      simp [ResolveError.kind, hcolliding]
  case neg =>
  have hnd : (declaredNames schema.files).Nodup := not_not.1 hcolliding
  by_cases hkeys : Index.ScalarKeysAll (declarations schema.files) schema.files
  case neg =>
      obtain ⟨f, hf⟩ := resolve_of_keyType hnd hkeys
      rw [failure?_of_resolve hload hf]
      simp [ResolveError.kind, hcolliding, (keyedByType_iff hnd).2 hkeys]
  case pos =>
  have hresolve := resolve_of_scalarKeys hnd hkeys
  have hkeyed : ¬ KeyedByType schema.files :=
    fun h => (keyedByType_iff hnd).1 h hkeys
  by_cases hroute : Homeless schema.files
  case pos =>
      obtain ⟨e, he⟩ := buildSite_eq_error_iff.2 ((homeless_iff hresolve).2 hroute)
      rw [failure?_of_route hload hresolve he]
      simp [hcolliding, hkeyed, hroute]
  case neg =>
      cases hsite : buildSite _ schema.routeBase with
      | error e =>
          exact absurd ((homeless_iff hresolve).1
            (buildSite_eq_error_iff.1 ⟨e, hsite⟩)) hroute
      | ok site =>
          have haccepted : Accepted raw (.text base) schema _ site :=
            ⟨hload, hresolve, hsite⟩
          rw [haccepted.failure?_eq_none]
          simp [hcolliding, hkeyed, hroute]

/-- In the built-in layout a generation fails as the first of these says that
holds: the description is rejected, a full name is declared twice, a map is
keyed by a message or an enum, a file has no route. If none holds it succeeds. -/
theorem generate_outcome (raw : Value) (base : String) :
    match Schema.load raw (.text base) with
    | .error _ => failure? raw (.text base) none = some .structural
    | .ok ⟨files, _⟩ =>
      (failure? raw (.text base) none = some .collision ↔ Colliding files) ∧
      (failure? raw (.text base) none = some .structural ↔
        ¬ Colliding files ∧ KeyedByType files) ∧
      (failure? raw (.text base) none = some .content ↔
        ¬ Colliding files ∧ ¬ KeyedByType files ∧ Homeless files) ∧
      (failure? raw (.text base) none = none ↔
        ¬ Colliding files ∧ ¬ KeyedByType files ∧ ¬ Homeless files) :=
  ends_builtIn raw base

end SchemaDocs
