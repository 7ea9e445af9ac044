import SchemaDocs.Proofs.Sites
import SchemaDocs.Site.Navigation

/-!
# Every page is one leaf of the navigation

A leaf of the navigation is known by the groups it stands in and by its own
label. Entering a page adds one leaf, under the groups of the page's segments
and with its slug for a label, and leaves all others where they are, whether
the groups are there already or not. So a navigation has the leaves of its
pages and no others, but in the order of reading, which is not the order in
which the pages came.

A page is turned away only when its name was entered before. Pages of a sound
site have different names, and no two of them stand at one place, because the
name can be read off the place.
-/

namespace SchemaDocs

/-- A leaf of the navigation, with the labels of its groups from the top. -/
structure NavTree.Leaf (α : Type) where
  groups : List String
  label : String
  page : α

namespace NavTree

variable {α β : Type}

namespace Leaf

def within (label : String) (l : Leaf α) : Leaf α :=
  { l with groups := label :: l.groups }

def map (f : α → β) (l : Leaf α) : Leaf β := ⟨l.groups, l.label, f l.page⟩

/-- Where a leaf stands. -/
def place (l : Leaf α) : List String × String := (l.groups, l.label)

end Leaf

mutual

/-- The leaves below a node, in reading order. -/
def placed : NavTree α → List (Leaf α)
  | .leaf label page => [⟨[], label, page⟩]
  | .group label children => (placedAll children).map (Leaf.within label)

def placedAll : List (NavTree α) → List (Leaf α)
  | [] => []
  | t :: rest => t.placed ++ placedAll rest

end

mutual

/-- The leaves in their places are the leaves. -/
theorem leaves_eq_placed : ∀ t : NavTree α,
    t.leaves = t.placed.map fun l => (l.label, l.page)
  | .leaf label page => by
      rw [leaves, placed, List.map_singleton]
  | .group label children => by
      rw [leaves, placed, leavesAll_eq_placedAll children, List.map_map]
      rfl

theorem leavesAll_eq_placedAll : ∀ ts : List (NavTree α),
    leavesAll ts = (placedAll ts).map fun l => (l.label, l.page)
  | [] => by
      rw [leavesAll, placedAll, List.map_nil]
  | t :: rest => by
      rw [leavesAll, placedAll, List.map_append, leaves_eq_placed t,
        leavesAll_eq_placedAll rest]

end

mutual

theorem placed_map (f : α → β) : ∀ t : NavTree α,
    (t.map f).placed = t.placed.map (Leaf.map f)
  | .leaf label page => by
      rw [map, placed, placed, List.map_singleton, Leaf.map]
  | .group label children => by
      rw [map, placed, placed, placedAll_mapAll f children, List.map_map,
        List.map_map]
      rfl

theorem placedAll_mapAll (f : α → β) : ∀ ts : List (NavTree α),
    placedAll (mapAll f ts) = (placedAll ts).map (Leaf.map f)
  | [] => by
      rw [mapAll, placedAll, placedAll, List.map_nil]
  | t :: rest => by
      rw [mapAll, placedAll, placedAll, List.map_append, placed_map f t,
        placedAll_mapAll f rest]

end

/-! ## Entering a page -/

theorem placedAll_append (ts us : List (NavTree α)) :
    placedAll (ts ++ us) = placedAll ts ++ placedAll us := by
  induction ts with
  | nil => simp [placedAll]
  | cons t rest ih =>
      rw [List.cons_append, placedAll, placedAll, ih, List.append_assoc]

/-- A change that adds one leaf to the contents of a group adds it to the tree,
within that group. -/
theorem placedAll_enter {label : String} {leaf : Leaf α}
    {change : List (NavTree α) → List (NavTree α)}
    (hchange : ∀ ts, (placedAll (change ts)).Perm (leaf :: placedAll ts)) :
    ∀ ts : List (NavTree α), (placedAll (enter label change ts)).Perm
      (leaf.within label :: placedAll ts) := by
  intro ts
  induction ts with
  | nil =>
      simp only [enter, placedAll, placed, List.append_nil]
      exact (hchange []).map (Leaf.within label)
  | cons t rest ih =>
      cases t with
      | leaf l page =>
          simp only [enter, placedAll, placed]
          exact (ih.append_left _).trans List.perm_middle
      | group l children =>
          rw [enter]
          split
          · next hl =>
              subst hl
              simp only [placedAll, placed]
              exact ((hchange children).map (Leaf.within l)).append_right _
          · simp only [placedAll, placed]
            exact (ih.append_left _).trans List.perm_middle

/-- Inserting a page adds one leaf, below the segments, and moves no other. -/
theorem placedAll_insert (label : String) (page : α) :
    ∀ (segments : List String) (ts : List (NavTree α)),
      (placedAll (insert label page segments ts)).Perm
        (⟨segments, label, page⟩ :: placedAll ts) := by
  intro segments
  induction segments with
  | nil =>
      intro ts
      rw [insert, placedAll_append]
      exact List.perm_append_singleton _ _
  | cons segment rest ih =>
      intro ts
      exact placedAll_enter ih ts

end NavTree

/-! ## Entering all pages -/

/-- The leaf that a page becomes. -/
def Page.leaf (p : Page) : NavTree.Leaf Page := ⟨p.segments, p.slug, p⟩

theorem enterPages_eq_ok : ∀ {pages : List Page} {seen : List String}
    {nodes nodes' : List (NavTree Page)}, enterPages seen nodes pages = .ok nodes' →
      (NavTree.placedAll nodes').Perm
        (pages.map Page.leaf ++ NavTree.placedAll nodes) := by
  intro pages
  induction pages with
  | nil =>
      intro seen nodes nodes' h
      cases h
      exact List.Perm.refl _
  | cons p rest ih =>
      intro seen nodes nodes' h
      rw [enterPages] at h
      split at h
      · cases h
      · have hstep := NavTree.placedAll_insert p.slug p p.segments nodes
        exact (ih h).trans ((hstep.append_left _).trans List.perm_middle)

/-- Pages are turned away only for a name that came before. -/
theorem enterPages_eq_error_iff : ∀ {pages : List Page} {seen : List String}
    {nodes : List (NavTree Page)}, (∃ e, enterPages seen nodes pages = .error e) ↔
      ¬ ((pages.map Page.fileName).Nodup ∧ ∀ p ∈ pages, p.fileName ∉ seen) := by
  intro pages
  induction pages with
  | nil => intro seen nodes; simp [enterPages]
  | cons p rest ih =>
      intro seen nodes
      rw [enterPages, List.map_cons, List.nodup_cons, List.forall_mem_cons]
      split
      · next hseen =>
          rw [List.contains_iff_mem] at hseen
          simp [hseen]
      · next hseen =>
          rw [List.contains_iff_mem] at hseen
          rw [ih]
          refine not_congr ?_
          have hcons : (∀ q ∈ rest, q.fileName ∉ p.fileName :: seen) ↔
              p.fileName ∉ rest.map Page.fileName ∧ ∀ q ∈ rest, q.fileName ∉ seen := by
            simp only [List.mem_cons, not_or, List.mem_map, not_exists, not_and]
            exact ⟨fun h => ⟨fun q hq => (h q hq).1, fun q hq => (h q hq).2⟩,
              fun h q hq => ⟨h.1 q hq, h.2 q hq⟩⟩
          rw [hcons]
          tauto

theorem buildNavigation_eq_error_iff {pages : List Page} :
    (∃ e, buildNavigation pages = .error e) ↔ ¬ (pages.map Page.fileName).Nodup := by
  rw [buildNavigation, enterPages_eq_error_iff]
  simp

theorem buildNavigation_eq_ok {pages : List Page} {nodes : List (NavTree Page)}
    (h : buildNavigation pages = .ok nodes) :
    (NavTree.placedAll nodes).Perm (pages.map Page.leaf) := by
  simpa [NavTree.placedAll] using enterPages_eq_ok h

/-! ## Navigations of sound sites -/

section

variable {base : String} {site : Site} (hs : site.Sound base)

include hs

theorem Site.Sound.exists_navigation :
    ∃ nodes, buildNavigation site.pages = .ok nodes := by
  cases h : buildNavigation site.pages with
  | ok nodes => exact ⟨nodes, rfl⟩
  | error e => exact absurd hs.distinct (buildNavigation_eq_error_iff.1 ⟨e, h⟩)

/-- No two pages stand at one place. -/
theorem Site.Sound.distinct_places :
    (site.pages.map fun p => p.leaf.place).Nodup := by
  refine List.Nodup.of_map (fun place => groupPrefix place.1 ++ place.2) ?_
  rw [List.map_map]
  have hnames : site.pages.map ((fun place => groupPrefix place.1 ++ place.2) ∘
      fun p => p.leaf.place) = site.pages.map Page.fileName :=
    List.map_congr_left fun p hp => (hs.named p hp).fileName.symm
  rw [hnames]
  exact hs.distinct

end

end SchemaDocs
