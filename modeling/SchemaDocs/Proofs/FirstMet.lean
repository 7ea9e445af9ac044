import SchemaDocs.Proofs.Navigation
import SchemaDocs.Proofs.Walk

/-!
# Siblings stand in the order in which they were first met

Pages have a rank, their place in the order of entering. A node is met when
the first page below it is entered, so the rank of that page, the least below
the node, is what siblings are ordered by. Entering a page whose rank is above
all others changes the least rank of no node that is there, and a node that is
new comes last. That is all the invariant needs: the groups of a page are
opened one inside the other, and the same argument holds in each.

The other half says that there is only one such tree. The page of the least
rank lies below the first node, and says by its groups what that node is: the
page itself, or the group of a label. In that group are all the pages whose
groups begin with the label, because no sibling has the label too.
-/

namespace SchemaDocs

namespace NavTree

variable {α : Type}

/-- The groups among siblings, each with its contents. -/
def groups : List (NavTree α) → List (String × List (NavTree α))
  | [] => []
  | .leaf _ _ :: rest => groups rest
  | .group label children :: rest => (label, children) :: groups rest

def groupLabels (ts : List (NavTree α)) : List String := (groups ts).map Prod.fst

def groupContents (ts : List (NavTree α)) : List (List (NavTree α)) :=
  (groups ts).map Prod.snd

/-- The siblings at some node of a tree: the ones at the top, or the contents of
a group, however deep. -/
abbrev SiblingsIn : List (NavTree α) → List (NavTree α) → Prop := Nested groupContents

/-- The least rank of a page below a node. -/
def earliest (rank : α → Nat) (t : NavTree α) : Option Nat :=
  (t.placed.map fun l => rank l.page).min?

/-- There is something below both, and what is below the one came first. -/
def Precedes (first second : Option Nat) : Prop :=
  ∃ i j, first = some i ∧ second = some j ∧ i < j

/-- Siblings in good order: no two groups have one label, no group is empty, and
what was met first comes first. -/
structure Orderly (rank : α → Nat) (ts : List (NavTree α)) : Prop where
  labels : (groupLabels ts).Nodup
  inhabited : ∀ children ∈ groupContents ts, placedAll children ≠ []
  ordered : ts.Pairwise fun t u => Precedes (t.earliest rank) (u.earliest rank)

/-- Siblings are in good order at every node. -/
def OrderlyAll (rank : α → Nat) (ts : List (NavTree α)) : Prop :=
  ∀ us, SiblingsIn us ts → Orderly rank us

theorem orderlyAll_iff {rank : α → Nat} {ts : List (NavTree α)} :
    OrderlyAll rank ts ↔
      Orderly rank ts ∧ ∀ children ∈ groupContents ts, OrderlyAll rank children := by
  constructor
  · exact fun h => ⟨h ts (.refl ts), fun children hc us hus => h us (.deeper hc hus)⟩
  · rintro ⟨htop, hinside⟩ us hus
    rcases nested_iff.1 hus with rfl | ⟨children, hc, hus⟩
    · exact htop
    · exact hinside children hc us hus

theorem orderlyAll_nil {rank : α → Nat} : OrderlyAll rank ([] : List (NavTree α)) := by
  rw [orderlyAll_iff]
  simp only [groupContents, groups, List.map_nil, List.not_mem_nil, false_implies,
    implies_true, and_true]
  exact ⟨List.nodup_nil, by simp [groupContents, groups], List.Pairwise.nil⟩

/-! ## Groups -/

theorem groups_append (ts us : List (NavTree α)) :
    groups (ts ++ us) = groups ts ++ groups us := by
  induction ts with
  | nil => rfl
  | cons t rest ih => cases t <;> simp [groups, ih]

theorem mem_groups {label : String} {children ts : List (NavTree α)} :
    (label, children) ∈ groups ts ↔ .group label children ∈ ts := by
  induction ts with
  | nil => simp [groups]
  | cons t rest ih => cases t <;> simp [groups, ih]

theorem mem_groupContents {children ts : List (NavTree α)} :
    children ∈ groupContents ts ↔ ∃ label, .group label children ∈ ts := by
  simp only [groupContents, List.mem_map, Prod.exists, exists_eq_right, mem_groups]

/-- What entering a group does: it changes the group that is there, or puts a
new one last. -/
theorem enter_cases (label : String) (change : List (NavTree α) → List (NavTree α)) :
    ∀ ts : List (NavTree α),
      (label ∉ groupLabels ts ∧
        enter label change ts = ts ++ [.group label (change [])]) ∨
      ∃ front children behind, ts = front ++ .group label children :: behind ∧
        enter label change ts = front ++ .group label (change children) :: behind := by
  intro ts
  induction ts with
  | nil => exact Or.inl ⟨List.not_mem_nil, rfl⟩
  | cons t rest ih =>
      cases t with
      | leaf l page =>
          rw [enter]
          rcases ih with ⟨hnew, h⟩ | ⟨front, children, behind, rfl, h⟩
          · exact Or.inl ⟨hnew, by rw [h, List.cons_append]⟩
          · exact Or.inr ⟨.leaf l page :: front, children, behind, rfl, by
              rw [h, List.cons_append]⟩
      | group l inside =>
          rw [enter]
          split
          · next hl =>
              subst hl
              exact Or.inr ⟨[], inside, rest, rfl, rfl⟩
          · next hl =>
              rcases ih with ⟨hnew, h⟩ | ⟨front, children, behind, rfl, h⟩
              · refine Or.inl ⟨?_, by rw [h, List.cons_append]⟩
                simp only [groupLabels, groups, List.map_cons, List.mem_cons, not_or]
                exact ⟨Ne.symm hl, hnew⟩
              · exact Or.inr ⟨.group l inside :: front, children, behind, rfl, by
                  rw [h, List.cons_append]⟩

/-! ## The least rank below a node -/

section

variable {rank : α → Nat}

theorem earliest_eq_some_iff {t : NavTree α} {i : Nat} :
    t.earliest rank = some i ↔
      (∃ l ∈ t.placed, rank l.page = i) ∧ ∀ l ∈ t.placed, i ≤ rank l.page := by
  rw [earliest, List.min?_eq_some_iff]
  simp only [List.mem_map, forall_exists_index, and_imp, forall_apply_eq_imp_iff₂]

theorem earliest_leaf (label : String) (page : α) :
    (leaf label page).earliest rank = some (rank page) := rfl

theorem exists_earliest (rank : α → Nat) {t : NavTree α} (h : t.placed ≠ []) :
    ∃ i, t.earliest rank = some i := by
  rw [← Option.isSome_iff_exists, earliest, List.isSome_min?_iff]
  simpa using h

/-- Labels do not matter to the least rank, and the order of the pages does not
either. -/
theorem earliest_group_eq_some_iff {label : String} {children : List (NavTree α)}
    {i : Nat} : (group label children).earliest rank = some i ↔
      (∃ l ∈ placedAll children, rank l.page = i) ∧
        ∀ l ∈ placedAll children, i ≤ rank l.page := by
  rw [earliest_eq_some_iff, placed]
  simp only [List.mem_map, exists_exists_and_eq_and, forall_exists_index, and_imp,
    forall_apply_eq_imp_iff₂, Leaf.within]

/-- A page that comes after all others leaves the least rank of a group as it
was. -/
theorem earliest_group_of_perm {label : String} {children children' : List (NavTree α)}
    {leaf : Leaf α} (hperm : (placedAll children').Perm (leaf :: placedAll children))
    (hne : placedAll children ≠ [])
    (hlate : ∀ l ∈ placedAll children, rank l.page < rank leaf.page) :
    (group label children').earliest rank = (group label children).earliest rank := by
  have hplaced : (group label children).placed ≠ [] := by simpa [placed] using hne
  obtain ⟨i, hi⟩ := exists_earliest rank hplaced
  rw [hi]
  obtain ⟨⟨l, hl, rfl⟩, hleast⟩ := earliest_group_eq_some_iff.1 hi
  refine earliest_group_eq_some_iff.2 ⟨⟨l, ?_, rfl⟩, fun k hk => ?_⟩
  · exact hperm.mem_iff.2 (List.mem_cons_of_mem leaf hl)
  · rcases List.mem_cons.1 (hperm.mem_iff.1 hk) with rfl | hk
    · exact (hlate l hl).le
    · exact hleast k hk

theorem Orderly.placed_ne_nil {ts : List (NavTree α)} (h : Orderly rank ts)
    {t : NavTree α} (ht : t ∈ ts) : t.placed ≠ [] := by
  cases t with
  | leaf label page => simp [placed]
  | group label children =>
      simpa [placed] using h.inhabited children (mem_groupContents.2 ⟨label, ht⟩)

theorem mem_placedAll {ts : List (NavTree α)} {l : Leaf α} :
    l ∈ placedAll ts ↔ ∃ t ∈ ts, l ∈ t.placed := by
  induction ts with
  | nil => simp [placedAll]
  | cons t rest ih => simp [placedAll, ih]

/-! ## Entering a page keeps the order -/

/-- A node that was met after all others may be put last. -/
theorem Orderly.concat {ts : List (NavTree α)} {t : NavTree α} {n : Nat}
    (h : Orderly rank ts) (hlate : ∀ l ∈ placedAll ts, rank l.page < n)
    (ht : t.earliest rank = some n) (hlabels : (groupLabels (ts ++ [t])).Nodup)
    (hcontents : ∀ children ∈ groupContents [t], placedAll children ≠ []) :
    Orderly rank (ts ++ [t]) := by
  constructor
  case labels => exact hlabels
  case inhabited =>
      rw [groupContents, groups_append, List.map_append, List.forall_mem_append]
      exact ⟨h.inhabited, hcontents⟩
  case ordered =>
      rw [List.pairwise_append]
      refine ⟨h.ordered, List.pairwise_singleton _ t, fun u hu v hv => ?_⟩
      rw [List.mem_singleton.1 hv]
      obtain ⟨i, hi⟩ := exists_earliest rank (h.placed_ne_nil hu)
      obtain ⟨⟨l, hl, rfl⟩, -⟩ := earliest_eq_some_iff.1 hi
      exact ⟨_, n, hi, ht, hlate l (mem_placedAll.2 ⟨u, hu, hl⟩)⟩

/-- A group may be replaced by one of its label with the same least rank. -/
theorem Orderly.replace {front behind children children' : List (NavTree α)}
    {label : String} (h : Orderly rank (front ++ .group label children :: behind))
    (hne : placedAll children' ≠ [])
    (hearliest : (group label children').earliest rank =
      (group label children).earliest rank) :
    Orderly rank (front ++ .group label children' :: behind) := by
  obtain ⟨hlabels, hinhabited, hordered⟩ := h
  simp only [groupLabels, groupContents, groups_append, groups, List.map_append,
    List.map_cons] at hlabels hinhabited
  constructor
  case labels =>
      simpa only [groupLabels, groups_append, groups, List.map_append, List.map_cons]
        using hlabels
  case inhabited =>
      rw [groupContents, groups_append, groups, List.map_append, List.map_cons,
        List.forall_mem_append, List.forall_mem_cons]
      rw [List.forall_mem_append, List.forall_mem_cons] at hinhabited
      exact ⟨hinhabited.1, hne, hinhabited.2.2⟩
  case ordered =>
      -- nothing but the least ranks counts for the order
      rw [← List.pairwise_map (f := earliest rank)] at hordered ⊢
      rwa [List.map_append, List.map_cons, hearliest, ← List.map_cons,
        ← List.map_append]

/-- A change that adds a page to siblings after all others, and keeps them in
order, does so inside a group too. -/
theorem OrderlyAll.enter {label : String} {leaf : Leaf α}
    {change : List (NavTree α) → List (NavTree α)}
    (hchange : ∀ ts, (placedAll (change ts)).Perm (leaf :: placedAll ts))
    (horderly : ∀ ts, OrderlyAll rank ts →
      (∀ l ∈ placedAll ts, rank l.page < rank leaf.page) → OrderlyAll rank (change ts))
    {ts : List (NavTree α)} (h : OrderlyAll rank ts)
    (hlate : ∀ l ∈ placedAll ts, rank l.page < rank leaf.page) :
    OrderlyAll rank (enter label change ts) := by
  obtain ⟨htop, hinside⟩ := orderlyAll_iff.1 h
  have hne : ∀ children, placedAll (change children) ≠ [] := fun children hnil => by
    simpa [hnil] using hchange children
  rcases enter_cases label change ts with ⟨hnew, henter⟩ |
    ⟨front, children, behind, rfl, henter⟩
  · have hempty : OrderlyAll rank (change []) :=
      horderly [] orderlyAll_nil (by simp [placedAll])
    have hearliest : (group label (change [])).earliest rank = some (rank leaf.page) := by
      refine earliest_group_eq_some_iff.2 ⟨⟨leaf, ?_, rfl⟩, fun l hl => ?_⟩
      · exact (hchange []).mem_iff.2 List.mem_cons_self
      · have hl : l = leaf := by simpa [placedAll] using (hchange []).mem_iff.1 hl
        rw [hl]
    rw [henter, orderlyAll_iff]
    constructor
    · refine htop.concat hlate hearliest ?_
        (by simpa [groupContents, groups] using hne [])
      rw [groupLabels, groups_append, List.map_append]
      exact htop.labels.append (List.nodup_singleton label)
        (by simpa [groups, List.disjoint_singleton] using hnew)
    · rw [groupContents, groups_append, List.map_append, List.forall_mem_append]
      exact ⟨hinside, by simpa [groups] using hempty⟩
  · have hc : children ∈ groupContents (front ++ .group label children :: behind) :=
      mem_groupContents.2 ⟨label, by simp⟩
    have hsub : ∀ l ∈ placedAll children, rank l.page < rank leaf.page := by
      intro l hl
      refine hlate (l.within label) (mem_placedAll.2 ⟨.group label children, by simp, ?_⟩)
      exact List.mem_map_of_mem hl
    have hchanged := horderly children (hinside children hc) hsub
    rw [henter, orderlyAll_iff]
    constructor
    · exact htop.replace (hne children)
        (earliest_group_of_perm (hchange children) (htop.inhabited children hc) hsub)
    · rw [groupContents, groups_append, groups, List.map_append, List.map_cons,
        List.forall_mem_append, List.forall_mem_cons] at hinside ⊢
      exact ⟨hinside.1, hchanged, hinside.2.2⟩

theorem OrderlyAll.insert (label : String) (page : α) : ∀ (segments : List String)
    {ts : List (NavTree α)}, OrderlyAll rank ts →
    (∀ l ∈ placedAll ts, rank l.page < rank page) →
    OrderlyAll rank (insert label page segments ts) := by
  intro segments
  induction segments with
  | nil =>
      intro ts h hlate
      obtain ⟨htop, hinside⟩ := orderlyAll_iff.1 h
      rw [NavTree.insert, orderlyAll_iff]
      have hgroups : groups (ts ++ [.leaf label page]) = groups ts := by
        rw [groups_append, groups, groups, List.append_nil]
      constructor
      · refine htop.concat hlate (earliest_leaf label page) ?_
          (by simp [groupContents, groups])
        rw [groupLabels, hgroups]
        exact htop.labels
      · rwa [groupContents, hgroups]
  | cons segment rest ih =>
      intro ts h hlate
      rw [NavTree.insert]
      exact OrderlyAll.enter (placedAll_insert label page rest)
        (fun ts hts hlate => ih hts hlate) h hlate

/-! ## There is only one such tree -/

/-- What is left of a leaf inside the group of a label. -/
def Leaf.inside? (label : String) (l : Leaf α) : Option (Leaf α) :=
  match l.groups with
  | [] => none
  | g :: rest => if g = label then some { l with groups := rest } else none

theorem filterMap_within (label : String) (ls : List (Leaf α)) :
    (ls.map (Leaf.within label)).filterMap (Leaf.inside? label) = ls := by
  rw [List.filterMap_map]
  conv_rhs => rw [← List.filterMap_some (l := ls)]
  congr 1
  funext l
  simp [Leaf.inside?, Leaf.within]

theorem filterMap_inside?_of_notMem {label : String} {ts : List (NavTree α)}
    (h : label ∉ groupLabels ts) :
    (placedAll ts).filterMap (Leaf.inside? label) = [] := by
  rw [List.filterMap_eq_nil_iff]
  intro l hl
  obtain ⟨t, ht, hl⟩ := mem_placedAll.1 hl
  cases t with
  | leaf other page =>
      rw [placed, List.mem_singleton] at hl
      rw [hl, Leaf.inside?]
  | group other children =>
      obtain ⟨k, -, rfl⟩ := List.mem_map.1 hl
      have hother : other ≠ label := by
        rintro rfl
        exact h (List.mem_map_of_mem (mem_groups.2 ht))
      simp [Leaf.inside?, Leaf.within, hother]

/-- The first node has the page of the least rank. -/
theorem Orderly.exists_least {t : NavTree α} {rest : List (NavTree α)}
    (h : Orderly rank (t :: rest)) : ∃ l ∈ t.placed,
      ∀ k ∈ placedAll (t :: rest), rank l.page ≤ rank k.page := by
  obtain ⟨i, hi⟩ := exists_earliest rank (h.placed_ne_nil List.mem_cons_self)
  obtain ⟨⟨l, hl, rfl⟩, hleast⟩ := earliest_eq_some_iff.1 hi
  refine ⟨l, hl, fun k hk => ?_⟩
  rw [placedAll, List.mem_append, mem_placedAll] at hk
  rcases hk with hk | ⟨u, hu, hk⟩
  · exact hleast k hk
  · obtain ⟨_, j, hi', hj, hlt⟩ := (List.pairwise_cons.1 h.ordered).1 u hu
    obtain rfl : rank l.page = _ := Option.some.inj (hi.symm.trans hi')
    exact hlt.le.trans ((earliest_eq_some_iff.1 hj).2 k hk)

/-- The page of the least rank says what the first node is, so the first nodes
of two trees with the same leaves are pages together or groups together. -/
theorem exists_common_leaf {t u : NavTree α} {rest rest' : List (NavTree α)}
    (ht : Orderly rank (t :: rest)) (hu : Orderly rank (u :: rest'))
    (hperm : (placedAll (t :: rest)).Perm (placedAll (u :: rest')))
    (hnd : ((placedAll (t :: rest)).map fun l => rank l.page).Nodup) :
    ∃ l, l ∈ t.placed ∧ l ∈ u.placed := by
  obtain ⟨l, hl, hleast⟩ := ht.exists_least
  obtain ⟨k, hk, hleast'⟩ := hu.exists_least
  have hl' : l ∈ placedAll (t :: rest) := mem_placedAll.2 ⟨t, List.mem_cons_self, hl⟩
  have hk' : k ∈ placedAll (t :: rest) :=
    hperm.mem_iff.2 (mem_placedAll.2 ⟨u, List.mem_cons_self, hk⟩)
  have hrank : rank l.page = rank k.page :=
    Nat.le_antisymm (hleast k hk') (hleast' l (hperm.mem_iff.1 hl'))
  obtain rfl : l = k := List.inj_on_of_nodup_map hnd hl' hk' hrank
  exact ⟨l, hl, hk⟩

theorem map_rank_within (label : String) (ls : List (Leaf α)) :
    (ls.map (Leaf.within label)).map (fun l => rank l.page) =
      ls.map fun l => rank l.page := by
  rw [List.map_map]
  rfl

theorem OrderlyAll.tail {t : NavTree α} {rest : List (NavTree α)}
    (h : OrderlyAll rank (t :: rest)) : OrderlyAll rank rest := by
  obtain ⟨⟨hlabels, hinhabited, hordered⟩, hinside⟩ := orderlyAll_iff.1 h
  have hgroups : groups (t :: rest) = groups [t] ++ groups rest := groups_append [t] rest
  rw [groupLabels, hgroups, List.map_append] at hlabels
  rw [groupContents, hgroups, List.map_append, List.forall_mem_append]
    at hinhabited hinside
  exact orderlyAll_iff.2 ⟨⟨hlabels.of_append_right, hinhabited.2, hordered.tail⟩,
    hinside.2⟩

theorem OrderlyAll.contents {label : String} {children rest : List (NavTree α)}
    (h : OrderlyAll rank (.group label children :: rest)) : OrderlyAll rank children :=
  (orderlyAll_iff.1 h).2 children (mem_groupContents.2 ⟨label, List.mem_cons_self⟩)

/-- The leaves of a first group, found by its label. -/
theorem OrderlyAll.filterMap_inside? {label : String} {children rest : List (NavTree α)}
    (h : OrderlyAll rank (.group label children :: rest)) :
    (placedAll (.group label children :: rest)).filterMap (Leaf.inside? label) =
      placedAll children := by
  have hlabels := (orderlyAll_iff.1 h).1.labels
  rw [groupLabels, groups, List.map_cons, List.nodup_cons] at hlabels
  rw [placedAll, placed, List.filterMap_append, filterMap_within,
    filterMap_inside?_of_notMem hlabels.1, List.append_nil]

/-- Trees in good order are determined by their leaves. -/
theorem OrderlyAll.eq_of_perm : ∀ {ts us : List (NavTree α)}, OrderlyAll rank ts →
    OrderlyAll rank us → (placedAll ts).Perm (placedAll us) →
    ((placedAll ts).map fun l => rank l.page).Nodup → ts = us
  | [], [], _, _, _, _ => rfl
  | [], u :: rest', _, hus, hperm, _ => by
      have hnil : placedAll (u :: rest') = [] := hperm.symm.eq_nil
      rw [placedAll, List.append_eq_nil_iff] at hnil
      exact absurd hnil.1 ((orderlyAll_iff.1 hus).1.placed_ne_nil List.mem_cons_self)
  | t :: rest, [], hts, _, hperm, _ => by
      have hnil : placedAll (t :: rest) = [] := hperm.eq_nil
      rw [placedAll, List.append_eq_nil_iff] at hnil
      exact absurd hnil.1 ((orderlyAll_iff.1 hts).1.placed_ne_nil List.mem_cons_self)
  | .leaf label page :: rest, u :: rest', hts, hus, hperm, hnd => by
      obtain ⟨l, hl, hl'⟩ := exists_common_leaf (orderlyAll_iff.1 hts).1
        (orderlyAll_iff.1 hus).1 hperm hnd
      rw [placed, List.mem_singleton] at hl
      subst hl
      cases u with
      | group other children' =>
          obtain ⟨k, -, hk⟩ := List.mem_map.1 hl'
          simp [Leaf.within] at hk
      | leaf label' page' =>
          rw [placed, List.mem_singleton, Leaf.mk.injEq] at hl'
          obtain ⟨-, rfl, rfl⟩ := hl'
          rw [placedAll, placedAll, List.perm_append_left_iff] at hperm
          rw [placedAll, List.map_append] at hnd
          rw [OrderlyAll.eq_of_perm hts.tail hus.tail hperm hnd.of_append_right]
  | .group label children :: rest, u :: rest', hts, hus, hperm, hnd => by
      obtain ⟨l, hl, hl'⟩ := exists_common_leaf (orderlyAll_iff.1 hts).1
        (orderlyAll_iff.1 hus).1 hperm hnd
      obtain ⟨k, -, rfl⟩ := List.mem_map.1 hl
      cases u with
      | leaf label' page' =>
          rw [placed, List.mem_singleton] at hl'
          simp [Leaf.within] at hl'
      | group label' children' =>
          obtain ⟨k', -, hk'⟩ := List.mem_map.1 hl'
          simp only [Leaf.within, Leaf.mk.injEq, List.cons.injEq] at hk'
          obtain ⟨⟨rfl, -⟩, -⟩ := hk'
          have hinside := hperm.filterMap (Leaf.inside? label')
          rw [hts.filterMap_inside?, hus.filterMap_inside?] at hinside
          rw [placedAll, placed, List.map_append, map_rank_within] at hnd
          obtain rfl : children = children' :=
            OrderlyAll.eq_of_perm hts.contents hus.contents hinside hnd.of_append_left
          rw [placedAll, placedAll, List.perm_append_left_iff] at hperm
          rw [OrderlyAll.eq_of_perm hts.tail hus.tail hperm hnd.of_append_right]
termination_by ts => sizeOf ts

end

end NavTree

/-! ## The navigation of pages -/

/-- The place of a page among pages, found by its name. -/
def pageRank (pages : List Page) (p : Page) : Nat :=
  (pages.map Page.fileName).idxOf p.fileName

/-- The tree of some pages in which every page stands once, in its place, and
siblings stand in the order in which the first pages below them came. -/
structure NavTree.IsTrieOf (pages : List Page) (nodes : List (NavTree Page)) : Prop where
  leaves : (placedAll nodes).Perm (pages.map Page.leaf)
  orderly : OrderlyAll (pageRank pages) nodes

theorem pairwise_pageRank {pages : List Page} (hnd : (pages.map Page.fileName).Nodup) :
    pages.Pairwise fun p q => pageRank pages p < pageRank pages q := by
  have hrank : ∀ i (hi : i < pages.length), pageRank pages pages[i] = i := by
    intro i hi
    have hidx := hnd.idxOf_getElem i (by simpa using hi)
    rwa [List.getElem_map] at hidx
  rw [List.pairwise_iff_getElem]
  intro i j hi hj hij
  rwa [hrank i hi, hrank j hj]

/-- Pages of growing rank keep a tree in order. -/
theorem enterPages_orderly {rank : Page → Nat} :
    ∀ {pages : List Page} {seen : List String} {nodes nodes' : List (NavTree Page)},
    enterPages seen nodes pages = .ok nodes' →
    NavTree.OrderlyAll rank nodes →
    (pages.Pairwise fun p q => rank p < rank q) →
    (∀ p ∈ pages, ∀ l ∈ NavTree.placedAll nodes, rank l.page < rank p) →
    NavTree.OrderlyAll rank nodes' := by
  intro pages
  induction pages with
  | nil =>
      intro seen nodes nodes' h horderly _ _
      cases h
      exact horderly
  | cons p rest ih =>
      intro seen nodes nodes' h horderly hranks hlate
      rw [List.pairwise_cons] at hranks
      rw [List.forall_mem_cons] at hlate
      rw [enterPages] at h
      split at h
      · cases h
      · refine ih h (horderly.insert p.slug p p.segments hlate.1) hranks.2 ?_
        intro q hq l hl
        have hstep := NavTree.placedAll_insert p.slug p p.segments nodes
        rcases List.mem_cons.1 (hstep.mem_iff.1 hl) with rfl | hl
        · exact hranks.1 q hq
        · exact hlate.2 q hq l hl

theorem buildNavigation_isTrieOf {pages : List Page} {nodes : List (NavTree Page)}
    (hnd : (pages.map Page.fileName).Nodup) (h : buildNavigation pages = .ok nodes) :
    NavTree.IsTrieOf pages nodes :=
  ⟨buildNavigation_eq_ok h, enterPages_orderly h NavTree.orderlyAll_nil
    (pairwise_pageRank hnd) (by simp [NavTree.placedAll])⟩

theorem NavTree.IsTrieOf.unique {pages : List Page} {nodes nodes' : List (NavTree Page)}
    (hnd : (pages.map Page.fileName).Nodup) (h : NavTree.IsTrieOf pages nodes)
    (h' : NavTree.IsTrieOf pages nodes') : nodes = nodes' := by
  refine h.orderly.eq_of_perm h'.orderly (h.leaves.trans h'.leaves.symm) ?_
  rw [(h.leaves.map _).nodup_iff, List.map_map]
  have hranks : (pages.map (pageRank pages)).Pairwise (· < ·) :=
    List.pairwise_map.2 (pairwise_pageRank hnd)
  exact hranks.imp Nat.ne_of_lt

/-- A navigation is turned down exactly when two pages have one name. Otherwise
it is the one tree in which every page is a leaf below its segments, groups
with one label are one group and have pages in them, and siblings stand in the
order in which the first pages below them came. -/
theorem buildNavigation_trie (pages : List Page) :
    ((∃ e, buildNavigation pages = .error e) ↔ ¬ (pages.map Page.fileName).Nodup) ∧
      ∀ nodes, buildNavigation pages = .ok nodes ↔
        (pages.map Page.fileName).Nodup ∧ NavTree.IsTrieOf pages nodes := by
  refine ⟨buildNavigation_eq_error_iff, fun nodes => ⟨fun h => ?_, ?_⟩⟩
  · have hnd : (pages.map Page.fileName).Nodup := by
      by_contra hdup
      obtain ⟨e, he⟩ := buildNavigation_eq_error_iff.2 hdup
      rw [h] at he
      cases he
    exact ⟨hnd, buildNavigation_isTrieOf hnd h⟩
  · rintro ⟨hnd, htrie⟩
    cases h : buildNavigation pages with
    | error e => exact absurd hnd (buildNavigation_eq_error_iff.1 ⟨e, h⟩)
    | ok nodes' => rw [htrie.unique hnd (buildNavigation_isTrieOf hnd h)]

end SchemaDocs
