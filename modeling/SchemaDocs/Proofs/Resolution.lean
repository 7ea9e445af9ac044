import SchemaDocs.Proofs.Scoping
import SchemaDocs.Schema.Slots

/-!
# What resolution does to a file

Resolution goes over a file with something in its hands: it notes what it
sees, and it stops at a map whose key is no scalar. Underneath, it is a plain
function of the index. `Index.fillFile` is that function: it puts into every
slot what the index says the name beside it refers to.

`Yields` says of a step when it ends well, what it then gives, and what has
been noted by then, all three without the state it starts from. Steps that
follow one another follow one another in `Yields` too, so each function of the
resolver needs one lemma, and the lemma of a function is put together from
those of the functions it calls. The notes come out as the slots of the result
in the order of `File.slots`.
-/

namespace SchemaDocs

/-! ## Filling slots -/

namespace Index

variable (index : Index)

def fillMap (scope : String) (m : MapType) : MapType :=
  { m with
    keyRef := some (index.reference scope m.keyType)
    valueRef := some (index.reference scope m.valueType) }

def fillField (scope : String) (f : Field) : Field :=
  match f.map with
  | none => { f with typeRef := some (index.reference scope f.typeName) }
  | some m =>
    { f with
      map := some (index.fillMap scope m)
      typeRef := some (index.reference scope m.valueType) }

mutual

def fillMessage : Message → Message
  | ⟨name, fullName, fields, messages, enums, description, filePath⟩ =>
    ⟨name, fullName, fields.map (index.fillField fullName),
      fillMessages messages, enums, description, filePath⟩

def fillMessages : List Message → List Message
  | [] => []
  | m :: rest => fillMessage m :: fillMessages rest

end

def fillMethod (scope : String) (m : Method) : Method :=
  { m with
    requestRef := some (index.reference scope m.requestType)
    responseRef := some (index.reference scope m.responseType) }

def fillService (scope : String) (s : Service) : Service :=
  { s with methods := s.methods.map (index.fillMethod scope) }

def fillFile (f : File) : File :=
  { f with
    messages := index.fillMessages f.messages
    services := f.services.map (index.fillService f.package) }

/-- The key of a map field is no message and no enum. -/
def ScalarKey (scope : String) (f : Field) : Prop :=
  ∀ m, f.map = some m →
    ∀ entity path kind, index.reference scope m.keyType ≠ .resolved entity path kind

/-- So it is for all map fields of a message, not counting nested messages. -/
def ScalarKeys (m : Message) : Prop :=
  ∀ f ∈ m.fields, index.ScalarKey m.fullName f

end Index

theorem Index.fillMessages_eq_map (index : Index) (ms : List Message) :
    index.fillMessages ms = ms.map index.fillMessage := by
  induction ms with
  | nil => rfl
  | cons m rest ih => rw [Index.fillMessages, ih, List.map_cons]

section

variable (index : Index) (m : Message)

@[simp] theorem Index.fillMessage_fullName :
    (index.fillMessage m).fullName = m.fullName := by
  cases m
  rw [Index.fillMessage]

@[simp] theorem Index.fillMessage_fields :
    (index.fillMessage m).fields = m.fields.map (index.fillField m.fullName) := by
  cases m
  rw [Index.fillMessage]

@[simp] theorem Index.fillMessage_messages :
    (index.fillMessage m).messages = m.messages.map index.fillMessage := by
  cases m
  rw [Index.fillMessage, Index.fillMessages_eq_map]

@[simp] theorem Index.fillMessage_enums :
    (index.fillMessage m).enums = m.enums := by
  cases m
  rw [Index.fillMessage]

end

/-! ## Steps -/

/-- Slots with the files they are in, in the order in which they are noted. -/
abbrev Notes := List (File × Slot)

def Diagnostics.noteSlot (d : Diagnostics) : File × Slot → Diagnostics
  | (file, ⟨referrer, some t⟩) => d.note file referrer t
  | (_, ⟨_, none⟩) => d

def Diagnostics.noteAll (d : Diagnostics) (notes : Notes) : Diagnostics :=
  notes.foldl Diagnostics.noteSlot d

/-- A step ends well exactly when `good` holds, and then it gives `a` and has
noted `notes`. -/
def Yields {α : Type} (x : Resolver α) (good : Prop) (a : α) (notes : Notes) : Prop :=
  ∀ d, (good ∧ x.run d = .ok a (d.noteAll notes)) ∨
    (¬ good ∧ ∃ e d', x.run d = .error e d')

namespace Yields

variable {α β : Type} {P Q : Prop} {a : α} {b : β} {n n' : Notes}

theorem pure (a : α) : Yields (Pure.pure a : Resolver α) True a [] :=
  fun _ => Or.inl ⟨trivial, rfl⟩

theorem bind {x : Resolver α} {f : α → Resolver β}
    (hx : Yields x P a n) (hf : P → Yields (f a) Q b n') :
    Yields (x >>= f) (P ∧ Q) b (n ++ n') := by
  intro d
  rcases hx d with ⟨hp, hrun⟩ | ⟨hp, e, d', hrun⟩
  · rcases hf hp (d.noteAll n) with ⟨hq, hrun'⟩ | ⟨hq, e, d', hrun'⟩
    · refine Or.inl ⟨⟨hp, hq⟩, ?_⟩
      rw [EStateM.run_bind, hrun]
      simp only [Diagnostics.noteAll, List.foldl_append] at hrun' ⊢
      exact hrun'
    · refine Or.inr ⟨fun h => hq h.2, e, d', ?_⟩
      rw [EStateM.run_bind, hrun]
      exact hrun'
  · refine Or.inr ⟨fun h => hp h.1, e, d', ?_⟩
    rw [EStateM.run_bind, hrun]

theorem bindPure {x : Resolver α} (g : α → β) (hx : Yields x P a n) :
    Yields (do return g (← x)) P (g a) n := by
  simpa using hx.bind (f := fun a => Pure.pure (g a)) fun _ => Yields.pure (g a)

theorem congr {x : Resolver α} (hx : Yields x P a n) (hp : P ↔ Q) :
    Yields x Q a n := by
  rwa [← propext hp]

/-- A list is gone through from front to back. -/
theorem mapM {f : α → Resolver β} {g : α → β} {good : α → Prop}
    {notes : α → Notes} : ∀ {xs : List α},
    (∀ x ∈ xs, Yields (f x) (good x) (g x) (notes x)) →
    Yields (xs.mapM f) (∀ x ∈ xs, good x) (xs.map g) (xs.flatMap notes) := by
  intro xs
  induction xs with
  | nil => intro _; exact (Yields.pure []).congr (by simp)
  | cons x rest ih =>
      intro hf
      rw [List.mapM_cons, List.map_cons, List.flatMap_cons, List.forall_mem_cons]
      exact (hf x (by simp)).bind fun _ =>
        (ih fun y hy => hf y (by simp [hy])).bindPure (g x :: ·)

end Yields

/-! ## The functions of the resolver -/

section

variable (index : Index) (file : File)

theorem resolveName_yields (scope referrer name : String) :
    Yields (resolveName index file scope referrer name) True
      (index.reference scope name)
      [(file, ⟨referrer, some (index.reference scope name)⟩)] :=
  fun _ => Or.inl ⟨trivial, rfl⟩

theorem resolveMap_yields (scope referrer : String) (m : MapType) :
    Yields (resolveMap index file scope referrer m)
      (∀ entity path kind,
        index.reference scope m.keyType ≠ .resolved entity path kind)
      (index.fillMap scope m)
      [(file, ⟨referrer, some (index.reference scope m.keyType)⟩),
        (file, ⟨referrer, some (index.reference scope m.valueType)⟩)] := by
  rw [resolveMap]
  cases hk : index.reference scope m.keyType with
  | resolved entity path kind =>
      intro d
      refine Or.inr ⟨fun h => h entity path kind rfl, ?_⟩
      simp only [resolveName, hk]
      exact ⟨_, _, rfl⟩
  | primitive name =>
      refine Yields.congr (fun d => Or.inl ⟨trivial, ?_⟩) (by simp)
      simp only [resolveName, hk, Index.fillMap]
      rfl
  | unresolved name =>
      refine Yields.congr (fun d => Or.inl ⟨trivial, ?_⟩) (by simp)
      simp only [resolveName, hk, Index.fillMap]
      rfl

theorem resolveField_yields (scope : String) (f : Field) :
    Yields (resolveField index file scope f) (index.ScalarKey scope f)
      (index.fillField scope f)
      (((index.fillField scope f).slots scope).map fun s => (file, s)) := by
  rw [resolveField, Index.ScalarKey, Index.fillField]
  cases hm : f.map with
  | none =>
      have h := resolveName_yields index file scope (scope ++ "." ++ f.name)
        f.typeName
      exact (h.bindPure _).congr (by simp)
  | some m =>
      have h := resolveMap_yields index file scope (scope ++ "." ++ f.name) m
      exact (h.bindPure _).congr (by simp)

/-- A file's slots, as they are noted when they are filled. -/
def noted (slots : List Slot) : Notes := slots.map fun s => (file, s)

theorem noted_append (slots slots' : List Slot) :
    noted file (slots ++ slots') = noted file slots ++ noted file slots' :=
  List.map_append

theorem noted_flatMap {α : Type} (xs : List α) (f : α → List Slot) :
    noted file (xs.flatMap f) = xs.flatMap fun x => noted file (f x) :=
  List.map_flatMap ..

/-- The messages nested in a message, given that each is resolved as it
should be. -/
theorem resolveMessages_yields : ∀ {ms : List Message},
    (∀ m ∈ ms, Yields (resolveMessage index file m)
      (∀ k ∈ m.preorder, index.ScalarKeys k) (index.fillMessage m)
      (noted file ((index.fillMessage m).preorder.flatMap Message.slots))) →
    Yields (resolveMessages index file ms)
      (∀ k ∈ preorderAll ms, index.ScalarKeys k) (index.fillMessages ms)
      (noted file ((preorderAll (index.fillMessages ms)).flatMap Message.slots)) := by
  intro ms
  induction ms with
  | nil => intro _; exact (Yields.pure []).congr (by simp [preorderAll])
  | cons m rest ih =>
      intro h
      rw [resolveMessages, preorderAll, Index.fillMessages, preorderAll,
        List.flatMap_append, noted_append, List.forall_mem_append]
      exact (h m (by simp)).bind fun _ =>
        (ih fun k hk => h k (by simp [hk])).bindPure _

theorem resolveMessage_yields (m : Message) :
    Yields (resolveMessage index file m)
      (∀ k ∈ m.preorder, index.ScalarKeys k) (index.fillMessage m)
      (noted file ((index.fillMessage m).preorder.flatMap Message.slots)) := by
  induction m using Message.nestedInduction with
  | step m ih =>
      have hfields := Yields.mapM
        fun f (_ : f ∈ m.fields) => resolveField_yields index file m.fullName f
      have hnested := resolveMessages_yields index file ih
      obtain ⟨name, fullName, fields, messages, enums, description, path⟩ := m
      rw [resolveMessage, Message.preorder, List.forall_mem_cons,
        Index.fillMessage, Message.preorder, List.flatMap_cons, noted_append]
      rw [Message.slots, List.flatMap_map, noted_flatMap]
      exact hfields.bind fun _ => hnested.bindPure _

theorem resolveMethod_yields (service : String) (m : Method) :
    Yields (resolveMethod index file service m) True
      (index.fillMethod file.package m)
      (noted file ((index.fillMethod file.package m).slots service)) := by
  have hreq := resolveName_yields index file file.package
    (service ++ "." ++ m.name) m.requestType
  have hresp := resolveName_yields index file file.package
    (service ++ "." ++ m.name) m.responseType
  rw [resolveMethod]
  exact (hreq.bind fun _ => hresp.bindPure _).congr (by simp)

theorem resolveService_yields (s : Service) :
    Yields (resolveService index file s) True
      (index.fillService file.package s)
      (noted file (index.fillService file.package s).slots) := by
  have h := Yields.mapM
    fun m (_ : m ∈ s.methods) => resolveMethod_yields index file s.fullName m
  rw [resolveService, Service.slots, noted_flatMap]
  simp only [Index.fillService, List.flatMap_map]
  exact (h.bindPure _).congr (by simp)

theorem resolveFile_yields :
    Yields (resolveFile index file) (∀ m, file.HasMessage m → index.ScalarKeys m)
      (index.fillFile file) (noted file (index.fillFile file).slots) := by
  have hmessages := resolveMessages_yields index file
    fun m (_ : m ∈ file.messages) => resolveMessage_yields index file m
  have hservices := Yields.mapM
    fun s (_ : s ∈ file.services) => resolveService_yields index file s
  rw [resolveFile, File.slots, noted_append, File.allMessages_eq,
    noted_flatMap file (index.fillFile file).services, Index.fillFile]
  simp only [List.flatMap_map]
  refine Yields.congr (hmessages.bind fun _ => hservices.bindPure _) ?_
  simp only [← File.allMessages_eq, File.mem_allMessages, implies_true, and_true]

end

/-! ## Resolving a schema -/

/-- No map of the files has a message or an enum for its keys. -/
def Index.ScalarKeysAll (index : Index) (files : List File) : Prop :=
  ∀ f ∈ files, ∀ m, f.HasMessage m → index.ScalarKeys m

theorem resolveFiles_yields (index : Index) (files : List File) :
    Yields (files.mapM (resolveFile index)) (index.ScalarKeysAll files)
      (files.map index.fillFile)
      (files.flatMap fun f => noted f (index.fillFile f).slots) :=
  Yields.mapM fun f _ => resolveFile_yields index f

/-- What the slots of files, filled by an index, leave on record. -/
def Index.diagnose (index : Index) (files : List File) : Diagnostics :=
  ({} : Diagnostics).noteAll
    (files.flatMap fun f => noted f (index.fillFile f).slots)

section

variable {files : List File}

theorem resolve_of_collision (hdup : ¬ (declaredNames files).Nodup) :
    ∃ c, resolve files = .error (.collision c) := by
  obtain ⟨c, hc⟩ := Index.build_eq_error_iff.2 hdup
  exact ⟨c, by simp only [resolve, resolveAll, hc]⟩

theorem resolve_of_keyType (hnd : (declaredNames files).Nodup)
    (hkeys : ¬ Index.ScalarKeysAll (declarations files) files) :
    ∃ f, resolve files = .error (.keyType f) := by
  rcases resolveFiles_yields (declarations files) files {} with ⟨h, -⟩ | ⟨-, e, d, h⟩
  · exact absurd h hkeys
  · refine ⟨e, ?_⟩
    simp only [resolve, resolveAll, Index.build_eq_ok_iff.2 ⟨rfl, hnd⟩, h]

/-- A resolution that goes through has noted what the filled slots show. -/
theorem resolveAll_of_scalarKeys (hnd : (declaredNames files).Nodup)
    (hkeys : Index.ScalarKeysAll (declarations files) files) :
    resolveAll files =
      ⟨some (declarations files), Index.diagnose (declarations files) files,
      .ok ⟨files.map (Index.fillFile (declarations files)), declarations files,
        (Index.diagnose (declarations files) files).unresolved⟩⟩ := by
  rcases resolveFiles_yields (declarations files) files {} with ⟨-, h⟩ | ⟨h, -⟩
  · simp only [resolveAll, Index.build_eq_ok_iff.2 ⟨rfl, hnd⟩, h]
    rfl
  · exact absurd hkeys h

theorem resolve_of_scalarKeys (hnd : (declaredNames files).Nodup)
    (hkeys : Index.ScalarKeysAll (declarations files) files) :
    resolve files = .ok ⟨files.map (Index.fillFile (declarations files)),
      declarations files, (Index.diagnose (declarations files) files).unresolved⟩ := by
  rw [resolve, resolveAll_of_scalarKeys hnd hkeys]

/-- Resolution succeeds exactly when no name is declared twice and no map is
keyed by a message or an enum, and then there is one thing it can give. -/
theorem resolve_eq_ok_iff {r : Resolution} :
    resolve files = .ok r ↔
      (declaredNames files).Nodup ∧
      Index.ScalarKeysAll (declarations files) files ∧
      r = ⟨files.map (Index.fillFile (declarations files)), declarations files,
        (Index.diagnose (declarations files) files).unresolved⟩ := by
  constructor
  · intro h
    by_cases hnd : (declaredNames files).Nodup
    · by_cases hkeys : Index.ScalarKeysAll (declarations files) files
      · rw [resolve_of_scalarKeys hnd hkeys, Except.ok.injEq] at h
        exact ⟨hnd, hkeys, h.symm⟩
      · obtain ⟨f, hf⟩ := resolve_of_keyType hnd hkeys
        rw [hf] at h
        cases h
    · obtain ⟨c, hc⟩ := resolve_of_collision hnd
      rw [hc] at h
      cases h
  · rintro ⟨hnd, hkeys, rfl⟩
    exact resolve_of_scalarKeys hnd hkeys

end

end SchemaDocs
