import SchemaDocs.Files.Disk
import SchemaDocs.Proofs.Failure
import SchemaDocs.Proofs.Parts

/-!
# Where a path leads

Folders have no second names on a disk, so where a path leads can be read off
its text: empty parts and points stay where they are, two points go up, and
any other part goes down by its name. The disk only decides whether there is a
way at all. `Path.destination` is this reading, and `Disk.locate` never leads
anywhere else.

The destination of a path below a folder is found from the destination of the
folder. Parts that do not go up only add names to it, and the plain form of a
path has the destination of the path.
-/

namespace SchemaDocs

namespace Path

/-- From a location to the next, by the text of a part. -/
def step (location : Location) (part : String) : Location :=
  if part = "" ∨ part = "." then location
  else if part = ".." then location.dropLast
  else location ++ [part]

/-- Where a path leads, by its text alone. -/
def destination (here : Location) (path : String) : Location :=
  (parts path).foldl step (if isAbsolute path then [] else here)

/-- The parts that are names, where no part goes up. -/
def names (parts : List String) : List String :=
  parts.filter fun part => part != "" && part != "."

end Path

theorem Disk.follow_eq_ok {disk : Disk} {path part : String} {location next : Location}
    (h : disk.follow path location part = .ok next) : next = Path.step location part := by
  rw [Disk.follow] at h
  rw [Path.step]
  split at h
  · cases h
  · cases h
  · split at h
    · next hstay => rw [if_pos hstay, Except.ok.inj h]
    · next hstay =>
        rw [if_neg hstay]
        split at h
        · next hup => rw [if_pos hup, Except.ok.inj h]
        · next hup =>
            rw [if_neg hup]
            split at h
            · cases h
            · exact (Except.ok.inj h).symm

/-- If there is a way, it leads where the text says. -/
theorem Disk.locate_eq_ok {disk : Disk} {path : String} {location : Location}
    (h : disk.locate path = .ok location) :
    location = Path.destination disk.here path := by
  have hfold : ∀ (parts : List String) {start goal : Location},
      parts.foldlM (disk.follow path) start = .ok goal →
      goal = parts.foldl Path.step start := by
    intro parts
    induction parts with
    | nil =>
        intro start goal h
        cases h
        rfl
    | cons part rest ih =>
        intro start goal h
        rw [List.foldlM_cons] at h
        obtain ⟨next, hnext, hrest⟩ := bind_eq_ok_iff.1 h
        rw [List.foldl_cons, ← Disk.follow_eq_ok hnext]
        exact ih hrest
  rw [Disk.locate] at h
  split at h
  · cases h
  · split at h
    · cases h
    · split at h
      · cases h
      · exact hfold _ h

/-! ## Paths from the root -/

namespace Path

theorem isAbsolute_iff {path : String} :
    isAbsolute path = true ↔ path.toList.head? = some '/' := by
  rw [isAbsolute, Text.startsWith, show "/".toList = ['/'] from rfl]
  cases path.toList with
  | nil => simp [List.isPrefixOf]
  | cons c rest =>
      rw [List.isPrefixOf, List.isPrefixOf, Bool.and_true, beq_iff_eq, List.head?_cons,
        Option.some.injEq]
      exact eq_comm

theorem isAbsolute_append {a : String} (b : String) (ha : a ≠ "") :
    isAbsolute (a ++ b) = isAbsolute a := by
  have hhead : (a ++ b).toList.head? = a.toList.head? := by
    rw [String.toList_append]
    cases h : a.toList with
    | nil => exact absurd (String.toList_eq_nil_iff.1 h) ha
    | cons c rest => rfl
  rw [Bool.eq_iff_iff, isAbsolute_iff, isAbsolute_iff, hhead]

/-! ## Parts that only go down -/

theorem names_cons (part : String) (rest : List String) :
    names (part :: rest) = if part = "" ∨ part = "." then names rest
      else part :: names rest := by
  rw [names, names, List.filter_cons]
  by_cases h : part = "" ∨ part = "."
  · rw [if_pos h, if_neg (by rcases h with rfl | rfl <;> decide)]
  · have hkept : (part != "" && part != ".") = true := by
      rw [Bool.and_eq_true, bne_iff_ne, bne_iff_ne]
      exact not_or.1 h
    rw [if_neg h, if_pos hkept]

theorem foldl_step_eq {location : Location} {parts : List String}
    (h : ∀ part ∈ parts, part ≠ "..") :
    parts.foldl step location = location ++ names parts := by
  induction parts generalizing location with
  | nil => rw [List.foldl_nil, names, List.filter_nil, List.append_nil]
  | cons part rest ih =>
      rw [List.forall_mem_cons] at h
      rw [List.foldl_cons, ih h.2, names_cons, step, if_neg h.1]
      split
      · rfl
      · rw [List.append_assoc, List.singleton_append]

/-- Staying where one is adds nothing. -/
theorem foldl_step_names (location : Location) (parts : List String) :
    (names parts).foldl step location = parts.foldl step location := by
  induction parts generalizing location with
  | nil => rfl
  | cons part rest ih =>
      rw [names_cons, List.foldl_cons]
      split
      · next hstay => rw [step, if_pos hstay, ih]
      · rw [List.foldl_cons, ih]

theorem parts_append_slash (a b : String) : parts (a ++ "/" ++ b) = parts a ++ parts b :=
  Text.splitOn_between '/' a b

/-- A relative path below a folder goes on from where the folder is. -/
theorem destination_join {here : Location} {base path : String}
    (h : isAbsolute path = false) :
    destination here (join base path) =
      (parts path).foldl step (destination here base) := by
  have hbelow : ∀ a b, isAbsolute (a ++ "/" ++ b) = isAbsolute (a ++ "/") := fun a b =>
    isAbsolute_append b (by simp)
  rw [join, if_neg (by simpa using h)]
  by_cases hbase : base = ""
  · subst hbase
    rw [if_pos (Or.inl rfl), String.empty_append, destination, h]
    rfl
  · by_cases hslash : Text.endsWith "/" base = true
    · rw [if_pos (Or.inr hslash)]
      obtain ⟨front, hfront⟩ := List.isSuffixOf_iff_suffix.1 hslash
      obtain rfl : String.ofList front ++ "/" = base := by
        rw [← String.toList_inj, String.toList_append, String.toList_ofList, hfront]
      have hempty := parts_append_slash (String.ofList front) ""
      rw [String.append_empty] at hempty
      rw [destination, destination, parts_append_slash, hempty, hbelow, List.foldl_append,
        List.foldl_append]
      rfl
    · rw [if_neg (by simp [hbase, hslash]), destination, destination, parts_append_slash,
        List.foldl_append, String.append_assoc, isAbsolute_append _ hbase]

/-- A path that only goes down, by a name at every step. -/
def Descends (path : String) : Prop :=
  ∀ part ∈ parts path, part ≠ "" ∧ part ≠ "." ∧ part ≠ ".."

instance (path : String) : Decidable (Descends path) :=
  inferInstanceAs (Decidable (∀ part ∈ parts path, part ≠ "" ∧ part ≠ "." ∧ part ≠ ".."))

theorem exists_of_isAbsolute {path : String} (h : isAbsolute path = true) :
    ∃ rest, path = "/" ++ rest := by
  rw [isAbsolute_iff, List.head?_eq_some_iff] at h
  obtain ⟨rest, hrest⟩ := h
  refine ⟨String.ofList rest, ?_⟩
  rw [← String.toList_inj, hrest]
  simp

theorem parts_slash_append (text : String) : parts ("/" ++ text) = "" :: parts text :=
  parts_append_slash "" text

theorem Descends.destination_join {path : String} (h : Descends path) (here : Location)
    (base : String) :
    destination here (join base path) = destination here base ++ parts path := by
  have hrelative : isAbsolute path = false := by
    rw [Bool.eq_false_iff]
    intro habsolute
    obtain ⟨rest, rfl⟩ := exists_of_isAbsolute habsolute
    refine (h "" ?_).1 rfl
    rw [parts_slash_append]
    exact List.mem_cons_self
  have hnames : names (parts path) = parts path := by
    rw [names, List.filter_eq_self]
    intro part hpart
    simp [h part hpart]
  rw [Path.destination_join hrelative, foldl_step_eq fun part hpart => (h part hpart).2.2,
    hnames]

/-- Below one folder, paths that only go down lead to different places. -/
theorem Descends.injective {here : Location} {base a b : String} (ha : Descends a)
    (hb : Descends b)
    (h : destination here (join base a) = destination here (join base b)) :
    a = b := by
  rw [ha.destination_join, hb.destination_join, List.append_cancel_left_eq] at h
  rw [← Text.join_splitOn '/' a, ← Text.join_splitOn '/' b]
  exact congrArg _ h

theorem rootMark_cases (path : String) :
    (isAbsolute path = false ∧ rootMark path = "") ∨
      (isAbsolute path = true ∧ (rootMark path = "/" ∨ rootMark path = "//")) := by
  rw [isAbsolute, Text.startsWith, rootMark, show "/".toList = ['/'] from rfl]
  cases path.toList with
  | nil => exact Or.inl ⟨rfl, rfl⟩
  | cons c rest =>
      by_cases hc : c = '/'
      · subst hc
        refine Or.inr ⟨by simp [List.isPrefixOf], ?_⟩
        rw [List.takeWhile_cons_of_pos (by rfl), List.length_cons]
        split
        · next h => omega
        · exact Or.inr rfl
        · exact Or.inl rfl
      · refine Or.inl ⟨by simpa [List.isPrefixOf] using Ne.symm hc, ?_⟩
        rw [List.takeWhile_cons_of_neg (by simpa [Text.isSlash] using hc)]
        rfl

/-- The names of a path, joined, are a relative path with the same parts but
for those that stay where they are. -/
theorem join_names (path : String) :
    isAbsolute (Text.join "/" (names (parts path))) = false ∧
      ∀ location, (parts (Text.join "/" (names (parts path)))).foldl step location =
        (parts path).foldl step location := by
  have hkept : ∀ part ∈ names (parts path), '/' ∉ part.toList := fun part hpart =>
    Text.notMem_of_mem_splitOn (List.mem_of_mem_filter hpart)
  by_cases hnil : names (parts path) = []
  · refine ⟨by rw [hnil]; rfl, fun location => ?_⟩
    rw [← foldl_step_names location (parts path), hnil]
    rfl
  · have hparts : parts (Text.join "/" (names (parts path))) = names (parts path) :=
      Text.splitOn_join hnil hkept
    constructor
    · rw [Bool.eq_false_iff]
      intro habsolute
      obtain ⟨rest, hrest⟩ := exists_of_isAbsolute habsolute
      have hempty : "" ∈ names (parts path) := by
        rw [← hparts, hrest, parts_slash_append]
        exact List.mem_cons_self
      simp [names] at hempty
    · intro location
      rw [hparts, foldl_step_names]

/-- The plain form of a path leads where the path does. -/
theorem destination_plain (here : Location) (path : String) :
    destination here (plain path) = destination here path := by
  obtain ⟨hrelative, hfold⟩ := join_names path
  have hplain : plain path =
      if rootMark path ++ Text.join "/" (names (parts path)) = "" then "."
      else rootMark path ++ Text.join "/" (names (parts path)) := rfl
  have hslash : ∀ text : String, isAbsolute ("/" ++ text) = true := fun text => by
    rw [isAbsolute_append text (by simp)]
    rfl
  rw [hplain]
  rcases rootMark_cases path with ⟨habsolute, hmark⟩ | ⟨habsolute, hmark | hmark⟩
  · rw [hmark, String.empty_append]
    split
    · next hempty =>
        have hstay := hfold here
        rw [hempty] at hstay
        rw [destination, destination, habsolute, if_neg Bool.false_ne_true, ← hstay]
        rfl
    · rw [destination, destination, hrelative, habsolute, hfold]
  · rw [hmark, if_neg (by simp), destination, destination, hslash, habsolute,
      parts_slash_append, List.foldl_cons]
    exact hfold []
  · have htwice : "//" ++ Text.join "/" (names (parts path)) =
        "/" ++ ("/" ++ Text.join "/" (names (parts path))) := by
      rw [← String.append_assoc]
      rfl
    rw [hmark, if_neg (by simp), htwice, destination, destination, hslash, habsolute,
      parts_slash_append, parts_slash_append, List.foldl_cons, List.foldl_cons]
    exact hfold []

end Path

end SchemaDocs
