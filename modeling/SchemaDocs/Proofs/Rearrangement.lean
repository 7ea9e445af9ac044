import Mathlib.Data.List.Perm.Basic
import SchemaDocs.Proofs.Declarations
import SchemaDocs.Schema.Slots

/-!
# Rearranging a schema

A schema is `Rearranged` when the lists of declarations in it, at every depth,
are permuted and nothing else is changed. To say what goes where, the order in
which things are declared is data here, apart from the things. A `Ranking`
gives a number to every place of a list, and the entries go where the numbers
say; every permutation of a list comes from one. An order for a message ranks
its fields, its messages and its enums, and so it does for each message inside
it, which it finds by the places that lead there. So an order of a schema says
of every list in it how it is permuted, and a schema is rearranged exactly if
an order does it. The order can then be applied to any schema: to one with
empty slots, and to the same schema with its slots filled.

What is read off a file by going through its messages comes out permuted when
the file is rearranged, as long as each single message gives a permutation of
what it gave. That is the one induction over the nesting; declarations, fields
and slots are cases of it.
-/

namespace SchemaDocs

abbrev Ranking := Nat → Nat

namespace Ranking

variable {α β : Type} (rank : Ranking)

/-- Whether an entry goes before another, each standing beside its place. -/
def le (a b : α × Nat) : Bool := rank a.2 ≤ rank b.2

def arrange (xs : List α) : List α := (xs.zipIdx.mergeSort rank.le).map Prod.fst

theorem le_iff {a b : α × Nat} : rank.le a b = true ↔ rank a.2 ≤ rank b.2 :=
  decide_eq_true_iff

theorem arrange_perm (xs : List α) : (rank.arrange xs).Perm xs := by
  have h := (List.mergeSort_perm xs.zipIdx rank.le).map Prod.fst
  rwa [List.zipIdx_map_fst] at h

theorem arrange_map (f : α → β) (xs : List α) :
    rank.arrange (xs.map f) = (rank.arrange xs).map f := by
  have h : (xs.zipIdx.mergeSort rank.le).map (Prod.map f id) =
      (xs.zipIdx.map (Prod.map f id)).mergeSort rank.le :=
    List.map_mergeSort fun _ _ _ _ => rfl
  rw [arrange, arrange, List.zipIdx_map, ← h, List.map_map, List.map_map]
  rfl

theorem sorted (xs : List (α × Nat)) :
    (xs.mergeSort rank.le).Pairwise fun a b => rank.le a b = true := by
  refine List.pairwise_mergeSort (fun a b c hab hbc => ?_) (fun a b => ?_) xs
  · rw [le_iff] at hab hbc ⊢
    exact Nat.le_trans hab hbc
  · rw [Bool.or_eq_true, le_iff, le_iff]
    exact Nat.le_total _ _

/-- Entries are put in a given order by ranking every place by where its entry
stands in that order. -/
theorem mergeSort_zipIdx {xs : List α} {placed : List (α × Nat)}
    (h : placed.Perm xs.zipIdx) :
    xs.zipIdx.mergeSort (Ranking.le (placed.map Prod.snd).idxOf) = placed := by
  have hnd : (placed.map Prod.snd).Nodup := by
    rw [(h.map Prod.snd).nodup_iff, List.zipIdx_map_snd]
    exact List.nodup_range'
  refine List.Perm.eq_of_pairwise ?_ (sorted _ _) ?_
    ((List.mergeSort_perm _ _).trans h.symm)
  · rintro ⟨a, i⟩ ⟨b, j⟩ ha hb hle hge
    have hj : j ∈ placed.map Prod.snd := List.mem_map_of_mem hb
    rw [le_iff] at hle hge
    obtain rfl : j = i := (List.idxOf_inj hj).1 (Nat.le_antisymm hge hle)
    rw [(List.mergeSort_perm _ _).mem_iff, List.mem_zipIdx_iff_getElem?] at ha
    rw [h.mem_iff, List.mem_zipIdx_iff_getElem?] at hb
    exact congrArg (·, j) (Option.some.inj (ha.symm.trans hb))
  · have hplace (k : Nat) (hk : k < placed.length) :
        (placed.map Prod.snd).idxOf placed[k].2 = k := by
      have h := hnd.idxOf_getElem k (by simpa using hk)
      rwa [List.getElem_map] at h
    refine List.pairwise_iff_getElem.2 fun i j hi hj hij => ?_
    rw [le_iff, hplace, hplace]
    exact Nat.le_of_lt hij

/-- Every order of a list comes from a ranking. -/
theorem exists_arrange {xs ys : List α} (h : ys.Perm xs) :
    ∃ rank : Ranking, rank.arrange xs = ys := by
  have hcomp : Relation.Comp (· = List.map Prod.fst ·) List.Perm ys xs.zipIdx := by
    rw [List.eq_map_comp_perm]
    simpa only [List.zipIdx_map_fst] using h
  obtain ⟨placed, rfl, hplaced⟩ := hcomp
  exact ⟨_, by rw [arrange, mergeSort_zipIdx hplaced]⟩

end Ranking

/-! ## Orders -/

/-- How the lists that stand directly in a message are ranked. -/
structure Ranks where
  fields : Ranking
  messages : Ranking
  enums : Ranking
deriving Inhabited

/-- Ranks for a message and for every message inside it, by the places that
lead there. -/
structure MessageOrder where
  ranks : List Nat → Ranks
deriving Inhabited

namespace MessageOrder

variable (o : MessageOrder)

def fields : Ranking := (o.ranks []).fields

def messages : Ranking := (o.ranks []).messages

def enums : Ranking := (o.ranks []).enums

/-- The order of the message that was declared at a place. -/
def inside (i : Nat) : MessageOrder := ⟨fun places => o.ranks (i :: places)⟩

/-- The order of a message out of its own ranks and the orders of the messages
in it. -/
def node (own : Ranks) (inside : Nat → MessageOrder) : MessageOrder where
  ranks
    | [] => own
    | i :: places => (inside i).ranks places

end MessageOrder

structure FileOrder where
  messages : Ranking
  enums : Ranking
  services : Ranking
  inside : Nat → MessageOrder
  methods : Nat → Ranking
deriving Inhabited

structure SchemaOrder where
  files : Ranking
  inside : Nat → FileOrder
deriving Inhabited

mutual

def Message.arrange (o : MessageOrder) : Message → Message
  | ⟨name, fullName, fields, messages, enums, description, filePath⟩ =>
    ⟨name, fullName, o.fields.arrange fields,
      o.messages.arrange (arrangeMessages o.inside messages),
      o.enums.arrange enums, description, filePath⟩

/-- Rearranges each message of a list, by its place. -/
def arrangeMessages (inside : Nat → MessageOrder) : List Message → List Message
  | [] => []
  | m :: rest => m.arrange (inside 0) :: arrangeMessages (fun i => inside (i + 1)) rest

end

def Service.arrange (rank : Ranking) (s : Service) : Service :=
  { s with methods := rank.arrange s.methods }

def File.arrange (o : FileOrder) (f : File) : File :=
  { f with
    messages := o.messages.arrange (arrangeMessages o.inside f.messages)
    enums := o.enums.arrange f.enums
    services :=
      o.services.arrange (f.services.mapIdx fun i s => s.arrange (o.methods i)) }

def SchemaOrder.arrange (o : SchemaOrder) (files : List File) : List File :=
  o.files.arrange (files.mapIdx fun i f => f.arrange (o.inside i))

theorem arrangeMessages_eq_mapIdx (inside : Nat → MessageOrder) (ms : List Message) :
    arrangeMessages inside ms = ms.mapIdx fun i m => m.arrange (inside i) := by
  induction ms generalizing inside with
  | nil => rfl
  | cons m rest ih => rw [arrangeMessages, ih, List.mapIdx_cons]

section

variable (o : MessageOrder) (m : Message)

theorem Message.arrange_eq :
    m.arrange o = { m with
      fields := o.fields.arrange m.fields
      messages := o.messages.arrange (m.messages.mapIdx fun i n => n.arrange (o.inside i))
      enums := o.enums.arrange m.enums } := by
  cases m
  rw [Message.arrange, arrangeMessages_eq_mapIdx]

@[simp] theorem Message.arrange_fullName : (m.arrange o).fullName = m.fullName := by
  rw [Message.arrange_eq]

theorem Message.arrange_fields :
    (m.arrange o).fields = o.fields.arrange m.fields := by
  rw [Message.arrange_eq]

theorem Message.arrange_messages :
    (m.arrange o).messages =
      o.messages.arrange (m.messages.mapIdx fun i n => n.arrange (o.inside i)) := by
  rw [Message.arrange_eq]

theorem Message.arrange_enums : (m.arrange o).enums = o.enums.arrange m.enums := by
  rw [Message.arrange_eq]

end

theorem File.arrange_eq (o : FileOrder) (f : File) :
    f.arrange o = { f with
      messages := o.messages.arrange (f.messages.mapIdx fun i m => m.arrange (o.inside i))
      enums := o.enums.arrange f.enums
      services := o.services.arrange
        (f.services.mapIdx fun i s => s.arrange (o.methods i)) } := by
  rw [File.arrange, arrangeMessages_eq_mapIdx]

/-! ## Rearranged schemas -/

/-- The entries of one list in any order, each of them changed as `R` allows. -/
inductive Shuffled {α : Type} (R : α → α → Prop) : List α → List α → Prop
  | intro {changed xs ys : List α} (each : List.Forall₂ R xs changed)
      (order : ys.Perm changed) : Shuffled R xs ys

/-- The fields, messages and enums of a message are permuted, in the messages
inside it too, and nothing else is changed. -/
inductive Message.Rearranged : Message → Message → Prop
  | intro {m m' : Message} (fields : m'.fields.Perm m.fields)
      (messages : Shuffled Message.Rearranged m.messages m'.messages)
      (enums : m'.enums.Perm m.enums)
      (others : m' = { m with
        fields := m'.fields, messages := m'.messages, enums := m'.enums }) :
      Message.Rearranged m m'

structure Service.Rearranged (s s' : Service) : Prop where
  methods : s'.methods.Perm s.methods
  others : s' = { s with methods := s'.methods }

structure File.Rearranged (f f' : File) : Prop where
  messages : Shuffled Message.Rearranged f.messages f'.messages
  enums : f'.enums.Perm f.enums
  services : Shuffled Service.Rearranged f.services f'.services
  others : f' = { f with
    messages := f'.messages, enums := f'.enums, services := f'.services }

/-- Everything that is declared may stand elsewhere among its like. -/
def Rearranged (files files' : List File) : Prop := Shuffled File.Rearranged files files'

section

variable {α Ω : Type} [Inhabited Ω] {R : α → α → Prop} {change : Ω → α → α}
  {xs ys : List α}

/-- Entries are changed one by one exactly if each place has its own change. -/
theorem forall₂_iff_mapIdx (hR : ∀ x ∈ xs, ∀ y, R x y ↔ ∃ o, change o x = y) :
    List.Forall₂ R xs ys ↔
      ∃ inside : Nat → Ω, (xs.mapIdx fun i x => change (inside i) x) = ys := by
  induction xs generalizing ys with
  | nil =>
      rw [List.forall₂_nil_left_iff]
      exact ⟨fun h => ⟨fun _ => default, h.symm⟩, fun ⟨_, h⟩ => h.symm⟩
  | cons x rest ih =>
      obtain ⟨hx, hrest⟩ := List.forall_mem_cons.1 hR
      simp only [List.forall₂_cons_left_iff, hx, ih hrest, List.mapIdx_cons]
      constructor
      · rintro ⟨_, _, ⟨o, rfl⟩, ⟨inside, rfl⟩, rfl⟩
        exact ⟨fun | 0 => o | i + 1 => inside i, rfl⟩
      · rintro ⟨inside, rfl⟩
        exact ⟨_, _, ⟨_, rfl⟩, ⟨fun i => inside (i + 1), rfl⟩, rfl⟩

theorem shuffled_iff (ys : List α) (hR : ∀ x ∈ xs, ∀ y, R x y ↔ ∃ o, change o x = y) :
    Shuffled R xs ys ↔ ∃ (rank : Ranking) (inside : Nat → Ω),
      rank.arrange (xs.mapIdx fun i x => change (inside i) x) = ys := by
  constructor
  · rintro ⟨heach, horder⟩
    obtain ⟨inside, rfl⟩ := (forall₂_iff_mapIdx hR).1 heach
    obtain ⟨rank, rfl⟩ := Ranking.exists_arrange horder
    exact ⟨rank, inside, rfl⟩
  · rintro ⟨rank, inside, rfl⟩
    exact ⟨(forall₂_iff_mapIdx hR).2 ⟨inside, rfl⟩, rank.arrange_perm _⟩

end

theorem Message.rearranged_iff (m m' : Message) :
    m.Rearranged m' ↔ ∃ o : MessageOrder, m.arrange o = m' := by
  induction m using Message.nestedInduction generalizing m' with
  | step m ih =>
      have hinside (ns : List Message) := shuffled_iff ns fun n hn => ih n hn
      constructor
      · rintro ⟨hfields, hmessages, henums, hothers⟩
        obtain ⟨fields, hfields⟩ := Ranking.exists_arrange hfields
        obtain ⟨messages, inside, hmessages⟩ := (hinside _).1 hmessages
        obtain ⟨enums, henums⟩ := Ranking.exists_arrange henums
        refine ⟨.node ⟨fields, messages, enums⟩ inside, ?_⟩
        rw [hothers, Message.arrange_eq, ← hfields, ← hmessages, ← henums]
        rfl
      · rintro ⟨o, rfl⟩
        rw [Message.arrange_eq]
        exact ⟨o.fields.arrange_perm _, (hinside _).2 ⟨o.messages, o.inside, rfl⟩,
          o.enums.arrange_perm _, rfl⟩

theorem Service.rearranged_iff (s s' : Service) :
    s.Rearranged s' ↔ ∃ rank : Ranking, s.arrange rank = s' := by
  constructor
  · rintro ⟨hmethods, hothers⟩
    obtain ⟨rank, hrank⟩ := Ranking.exists_arrange hmethods
    exact ⟨rank, by rw [hothers, Service.arrange, hrank]⟩
  · rintro ⟨rank, rfl⟩
    exact ⟨rank.arrange_perm _, rfl⟩

theorem File.rearranged_iff (f f' : File) :
    f.Rearranged f' ↔ ∃ o : FileOrder, f.arrange o = f' := by
  have hmessages (ms : List Message) :=
    shuffled_iff ms fun m (_ : m ∈ f.messages) => m.rearranged_iff
  have hservices (ss : List Service) :=
    shuffled_iff ss fun s (_ : s ∈ f.services) => s.rearranged_iff
  constructor
  · rintro ⟨hm, henums, hs, hothers⟩
    obtain ⟨messages, inside, hm⟩ := (hmessages _).1 hm
    obtain ⟨enums, henums⟩ := Ranking.exists_arrange henums
    obtain ⟨services, methods, hs⟩ := (hservices _).1 hs
    refine ⟨⟨messages, enums, services, inside, methods⟩, ?_⟩
    rw [hothers, File.arrange_eq, ← hm, ← henums, ← hs]
  · rintro ⟨o, rfl⟩
    rw [File.arrange_eq]
    exact ⟨(hmessages _).2 ⟨o.messages, o.inside, rfl⟩, o.enums.arrange_perm _,
      (hservices _).2 ⟨o.services, o.methods, rfl⟩, rfl⟩

/-- A schema is rearranged exactly if an order does it. -/
theorem rearranged_iff {files files' : List File} :
    Rearranged files files' ↔ ∃ o : SchemaOrder, o.arrange files = files' := by
  rw [Rearranged, shuffled_iff files' fun f _ => f.rearranged_iff]
  constructor
  · rintro ⟨rank, inside, h⟩
    exact ⟨⟨rank, inside⟩, h⟩
  · rintro ⟨o, h⟩
    exact ⟨o.files, o.inside, h⟩

/-! ## What is read off in order -/

section

variable {α β γ : Type}

theorem flatMap_mapIdx_perm {f : Nat → α → α} {g : α → List β} {xs : List α}
    (h : ∀ i, ∀ x ∈ xs, (g (f i x)).Perm (g x)) :
    ((xs.mapIdx f).flatMap g).Perm (xs.flatMap g) := by
  induction xs generalizing f with
  | nil => exact .refl _
  | cons x rest ih =>
      rw [List.mapIdx_cons, List.flatMap_cons, List.flatMap_cons]
      exact (h 0 x (by simp)).append
        (ih fun i y hy => h (i + 1) y (by simp [hy]))

/-- Entries are changed and then put in another order, and every entry still
gives the same up to order. -/
theorem flatMap_arrange_perm (rank : Ranking) {f : Nat → α → α} {g : α → List β}
    {xs : List α} (h : ∀ i, ∀ x ∈ xs, (g (f i x)).Perm (g x)) :
    ((rank.arrange (xs.mapIdx f)).flatMap g).Perm (xs.flatMap g) :=
  ((rank.arrange_perm _).flatMap_right g).trans (flatMap_mapIdx_perm h)

theorem map_arrange_perm (rank : Ranking) {f : Nat → α → α} {g : α → γ}
    {xs : List α} (h : ∀ i, ∀ x ∈ xs, g (f i x) = g x) :
    ((rank.arrange (xs.mapIdx f)).map g).Perm (xs.map g) := by
  rw [List.map_eq_flatMap, List.map_eq_flatMap]
  exact flatMap_arrange_perm rank fun i x hx => by rw [h i x hx]

/-- A function that goes with the change of every entry goes with the change of
the list. -/
theorem map_arrange_mapIdx (rank : Ranking) {f : Nat → α → α} {f' : Nat → γ → γ}
    {g : α → γ} {xs : List α} (h : ∀ i, ∀ x ∈ xs, g (f i x) = f' i (g x)) :
    (rank.arrange (xs.mapIdx f)).map g = rank.arrange ((xs.map g).mapIdx f') := by
  rw [← Ranking.arrange_map]
  congr 1
  induction xs generalizing f f' with
  | nil => rfl
  | cons x rest ih =>
      rw [List.mapIdx_cons, List.map_cons, List.map_cons, List.mapIdx_cons,
        h 0 x (by simp), ih fun i y hy => h (i + 1) y (by simp [hy])]

/-- The same for what a message and all messages inside it give. -/
theorem Message.preorder_arrange_perm {g : Message → List β}
    (hg : ∀ (o : MessageOrder) (m : Message), (g (m.arrange o)).Perm (g m))
    (o : MessageOrder) (m : Message) :
    ((m.arrange o).preorder.flatMap g).Perm (m.preorder.flatMap g) := by
  induction m using Message.nestedInduction generalizing o with
  | step m ih =>
      rw [Message.preorder_eq, Message.preorder_eq m, List.flatMap_cons,
        List.flatMap_cons, preorderAll_eq_flatMap, preorderAll_eq_flatMap,
        List.flatMap_assoc, List.flatMap_assoc, Message.arrange_messages]
      exact (hg o m).append
        (flatMap_arrange_perm _ fun i n hn => ih n hn (o.inside i))

theorem File.allMessages_arrange_perm {g : Message → List β}
    (hg : ∀ (o : MessageOrder) (m : Message), (g (m.arrange o)).Perm (g m))
    (o : FileOrder) (f : File) :
    ((f.arrange o).allMessages.flatMap g).Perm (f.allMessages.flatMap g) := by
  rw [File.allMessages_eq, File.allMessages_eq, preorderAll_eq_flatMap,
    preorderAll_eq_flatMap, List.flatMap_assoc, List.flatMap_assoc, File.arrange_eq]
  exact flatMap_arrange_perm _ fun i m _ =>
    Message.preorder_arrange_perm hg (o.inside i) m

end

/-! ## Declarations, fields and slots -/

/-- What tells declarations apart: the full name, the kind and the file. -/
def Declaration.key (d : Declaration) : String × EntityKind × String :=
  (d.fullName, d.kind, d.file)

/-- The key of something that a file of a given path declares. -/
def Entity.key (path : String) (e : Entity) : String × EntityKind × String :=
  (e.fullName, e.kind, path)

theorem File.map_key_declarations (f : File) :
    f.declarations.map Declaration.key =
      f.allMessages.flatMap (fun m => m.declared.map (Entity.key f.path)) ++
        f.enums.map (fun e => (e.fullName, .enum, f.path)) ++
        f.services.map fun s => (s.fullName, .service, f.path) := by
  rw [File.declarations, File.entities, List.map_map, List.map_append,
    List.map_append, List.map_flatMap, List.map_map, List.map_map]
  rfl

/-- A file declares the same with its messages changed, if none is renamed and
neither are enums and services. -/
theorem File.map_key_of_map {f f' : File} {g : Message → Message}
    (hpath : f'.path = f.path)
    (hmessages : f'.allMessages = f.allMessages.map g)
    (hname : ∀ m, (g m).fullName = m.fullName)
    (hnested : ∀ m, (g m).enums.map EnumDef.fullName = m.enums.map EnumDef.fullName)
    (henums : f'.enums.map EnumDef.fullName = f.enums.map EnumDef.fullName)
    (hservices : f'.services.map Service.fullName = f.services.map Service.fullName) :
    f'.declarations.map Declaration.key = f.declarations.map Declaration.key := by
  -- of what is not a message only the names count
  have hkeyed {α : Type} (name : α → String) (kind : EntityKind) (xs : List α) :
      xs.map (fun x => (name x, kind, f.path)) = (xs.map name).map (·, kind, f.path) := by
    rw [List.map_map]
    rfl
  have hdeclared (m : Message) :
      m.declared.map (Entity.key f.path) = (m.fullName, .message, f.path) ::
        (m.enums.map EnumDef.fullName).map (·, .enum, f.path) := by
    rw [Message.declared, List.map_cons, List.map_map, ← hkeyed]
    rfl
  rw [File.map_key_declarations, File.map_key_declarations, hpath,
    hmessages, List.flatMap_map, hkeyed EnumDef.fullName, hkeyed Service.fullName,
    henums, hservices, ← hkeyed, ← hkeyed]
  simp only [hdeclared, hname, hnested]

theorem map_key_of_file {g : File → File}
    (hg : ∀ f, (g f).declarations.map Declaration.key =
      f.declarations.map Declaration.key)
    (files : List File) :
    (declarations (files.map g)).map Declaration.key =
      (declarations files).map Declaration.key := by
  rw [declarations, declarations, List.map_flatMap, List.map_flatMap, List.flatMap_map]
  exact List.flatMap_congr fun f _ => hg f

theorem map_fst_key_declarations (files : List File) :
    ((declarations files).map Declaration.key).map Prod.fst = declaredNames files := by
  rw [List.map_map, ← map_fullName_declarations]
  rfl

theorem Message.map_key_declared_arrange (path : String) (o : MessageOrder)
    (m : Message) :
    ((m.arrange o).declared.map (Entity.key path)).Perm
      (m.declared.map (Entity.key path)) := by
  simp only [Message.declared, List.map_cons, List.map_map, Message.arrange_enums,
    Entity.key, Entity.fullName, Message.arrange_fullName]
  exact ((o.enums.arrange_perm m.enums).map _).cons _

theorem File.map_key_arrange (o : FileOrder) (f : File) :
    ((f.arrange o).declarations.map Declaration.key).Perm
      (f.declarations.map Declaration.key) := by
  rw [File.map_key_declarations, File.map_key_declarations]
  refine (List.Perm.append ?_ ?_).append ?_
  · exact File.allMessages_arrange_perm (Message.map_key_declared_arrange f.path) o f
  · exact (o.enums.arrange_perm f.enums).map _
  · exact map_arrange_perm _ fun _ _ _ => rfl

/-- However a schema is arranged, it declares the same names, each with the
same kind and in the same file. -/
theorem map_key_arrange (o : SchemaOrder) (files : List File) :
    ((declarations (o.arrange files)).map Declaration.key).Perm
      ((declarations files).map Declaration.key) := by
  rw [declarations, declarations, List.map_flatMap, List.map_flatMap]
  exact flatMap_arrange_perm _ fun i f _ => File.map_key_arrange (o.inside i) f

/-- The fields of a message with the scope that they stand in. -/
def Message.members (m : Message) : List (String × Field) :=
  m.fields.map fun f => (m.fullName, f)

/-- The fields of all messages of a file. -/
def File.members (f : File) : List (String × Field) :=
  f.allMessages.flatMap Message.members

theorem Message.members_arrange (o : MessageOrder) (m : Message) :
    (m.arrange o).members.Perm m.members := by
  rw [Message.members, Message.members, Message.arrange_fields,
    Message.arrange_fullName]
  exact (o.fields.arrange_perm m.fields).map _

theorem members_arrange (o : SchemaOrder) (files : List File) :
    ((o.arrange files).flatMap File.members).Perm (files.flatMap File.members) :=
  flatMap_arrange_perm _ fun i f _ =>
    File.allMessages_arrange_perm Message.members_arrange (o.inside i) f

theorem Message.slots_arrange (o : MessageOrder) (m : Message) :
    (m.arrange o).slots.Perm m.slots := by
  rw [Message.slots, Message.slots, Message.arrange_fields, Message.arrange_fullName]
  exact (o.fields.arrange_perm m.fields).flatMap_right _

theorem Service.slots_arrange (rank : Ranking) (s : Service) :
    (s.arrange rank).slots.Perm s.slots :=
  (rank.arrange_perm s.methods).flatMap_right _

theorem File.slots_arrange (o : FileOrder) (f : File) :
    (f.arrange o).slots.Perm f.slots :=
  (File.allMessages_arrange_perm Message.slots_arrange o f).append
    (flatMap_arrange_perm _ fun i s _ => Service.slots_arrange (o.methods i) s)

theorem slots_arrange (o : SchemaOrder) (files : List File) :
    ((o.arrange files).flatMap File.slots).Perm (files.flatMap File.slots) :=
  flatMap_arrange_perm _ fun i f _ => File.slots_arrange (o.inside i) f

end SchemaDocs
