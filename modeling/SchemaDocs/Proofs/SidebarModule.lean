import SchemaDocs.Proofs.FrontMatter
import SchemaDocs.Proofs.JsonRoundTrip
import SchemaDocs.Proofs.Navigation
import SchemaDocs.Site.Sidebar

/-!
# The sidebar module holds the navigation

A sidebar module is one assignment, and what it assigns is a JSON document. Read
back, the document is the navigation again: an object whose one key is the name
of the sidebar, with an item for each node of the tree, in the order of the
nodes and nested like them. `NavTree.ShownAs` says what the item of a node is.

A category without items would be a group without pages, and there are none:
a group comes into the tree together with a page that goes into it. The ids of
the documents follow the order in which the tree is read, and no two are the
same, because the pages of a tree have different names and all ids have the same
prefix in front of the name.
-/

namespace SchemaDocs

/-! ## Items -/

mutual

/-- The texts under a key, wherever it is in a value, in the order of the document. -/
def Value.textsUnder (key : String) : Value → List String
  | .list items => textsUnderItems key items
  | .object entries => textsUnderEntries key entries
  | _ => []

def textsUnderItems (key : String) : List Value → List String
  | [] => []
  | v :: rest => v.textsUnder key ++ textsUnderItems key rest

def textsUnderEntries (key : String) : List (String × Value) → List String
  | [] => []
  | (k, .text s) :: rest => if k = key then s :: textsUnderEntries key rest
    else textsUnderEntries key rest
  | (_, v) :: rest => v.textsUnder key ++ textsUnderEntries key rest

end

/-- What stands in front of the name of a page in its id: the prefix without the
slashes around it and one slash, if there is anything left of the prefix. -/
def idLead (idPrefix : String) : String :=
  if trimSlashes idPrefix = "" then "" else trimSlashes idPrefix ++ "/"

theorem docId_eq (idPrefix fileName : String) :
    docId idPrefix fileName = idLead idPrefix ++ fileName := by
  rw [docId, idLead]
  split
  · rw [String.empty_append]
  · rfl

namespace NavTree

variable {α : Type}

/-- The items of a sidebar: a document for a leaf, and for a group a category
with an item for each node in it. -/
inductive ShownAs (id : α → String) : NavTree α → Value → Prop
  | doc (label : String) (page : α) : ShownAs id (.leaf label page)
      (.object [("type", .text "doc"), ("id", .text (id page)), ("label", .text label)])
  | category (label : String) {children : List (NavTree α)} {items : List Value}
      (hitems : items ≠ []) (h : List.Forall₂ (ShownAs id) children items) :
      ShownAs id (.group label children)
        (.object [("type", .text "category"), ("label", .text label),
          ("items", .list items)])

/-- No group is empty. -/
inductive Populated : NavTree α → Prop
  | leaf (label : String) (page : α) : Populated (.leaf label page)
  | group (label : String) {children : List (NavTree α)} (hchildren : children ≠ [])
      (h : ∀ t ∈ children, Populated t) : Populated (.group label children)

/-! ## Groups have pages -/

/-- Nodes that may be the contents of a group. -/
def Filled (ts : List (NavTree α)) : Prop := ts ≠ [] ∧ ∀ t ∈ ts, t.Populated

theorem Filled.cons {t : NavTree α} {ts : List (NavTree α)} (h : t.Populated)
    (hts : ∀ u ∈ ts, u.Populated) : Filled (t :: ts) :=
  ⟨List.cons_ne_nil t ts, List.forall_mem_cons.2 ⟨h, hts⟩⟩

theorem enter_filled {label : String} {change : List (NavTree α) → List (NavTree α)}
    (hchange : ∀ ts, (∀ t ∈ ts, t.Populated) → Filled (change ts)) :
    ∀ ts, (∀ t ∈ ts, t.Populated) → Filled (enter label change ts) := by
  intro ts
  induction ts with
  | nil =>
      intro _
      obtain ⟨hne, hpopulated⟩ := hchange [] nofun
      exact .cons (.group label hne hpopulated) nofun
  | cons t rest ih =>
      intro h
      obtain ⟨ht, hrest⟩ := List.forall_mem_cons.1 h
      cases ht with
      | leaf l page => exact .cons (.leaf l page) (ih hrest).2
      | @group l children hne hchildren =>
          rw [enter]
          split
          · obtain ⟨hne, hpopulated⟩ := hchange children hchildren
            exact .cons (.group l hne hpopulated) hrest
          · exact .cons (.group l hne hchildren) (ih hrest).2

theorem insert_filled (label : String) (page : α) : ∀ (segments : List String)
    (ts : List (NavTree α)), (∀ t ∈ ts, t.Populated) →
    Filled (insert label page segments ts) := by
  intro segments
  induction segments with
  | nil =>
      intro ts h
      rw [insert]
      refine ⟨by simp, List.forall_mem_append.2 ⟨h, ?_⟩⟩
      exact List.forall_mem_singleton.2 (.leaf label page)
  | cons segment rest ih => exact enter_filled ih

end NavTree

theorem enterPages_populated : ∀ {pages : List Page} {seen : List String}
    {nodes nodes' : List (NavTree Page)}, (∀ t ∈ nodes, t.Populated) →
    enterPages seen nodes pages = .ok nodes' → ∀ t ∈ nodes', t.Populated := by
  intro pages
  induction pages with
  | nil =>
      intro seen nodes nodes' hnodes h
      cases h
      exact hnodes
  | cons p rest ih =>
      intro seen nodes nodes' hnodes h
      rw [enterPages] at h
      split at h
      · cases h
      · exact ih (NavTree.insert_filled p.slug p p.segments nodes hnodes).2 h

theorem buildNavigation_populated {pages : List Page} {nodes : List (NavTree Page)}
    (h : buildNavigation pages = .ok nodes) : ∀ t ∈ nodes, t.Populated := by
  have hempty : ∀ t ∈ ([] : List (NavTree Page)), t.Populated := nofun
  exact enterPages_populated hempty h

/-! ## The items of a tree -/

section

variable {α : Type} (idPrefix : String) (fileName : α → String)

mutual

theorem shownAs_sidebarItem : ∀ {t : NavTree α}, t.Populated →
    t.ShownAs (fun p => idLead idPrefix ++ fileName p)
      (sidebarItem idPrefix fileName t).toValue
  | .leaf label page, _ => by
      rw [sidebarItem, SidebarItem.toValue, docId_eq]
      exact .doc label page
  | .group label children, h => by
      cases h with
      | group _ hne hchildren =>
          rw [sidebarItem, SidebarItem.toValue]
          have hitems := forall₂_sidebarItems hchildren
          refine .category label (fun hnil => hne ?_) hitems
          rw [hnil] at hitems
          exact List.forall₂_nil_right_iff.1 hitems

theorem forall₂_sidebarItems : ∀ {ts : List (NavTree α)}, (∀ t ∈ ts, t.Populated) →
    List.Forall₂ (NavTree.ShownAs fun p => idLead idPrefix ++ fileName p) ts
      (sidebarValues (sidebarItems idPrefix fileName ts))
  | [], _ => by
      rw [sidebarItems, sidebarValues]
      exact .nil
  | t :: rest, h => by
      obtain ⟨ht, hrest⟩ := List.forall_mem_cons.1 h
      rw [sidebarItems, sidebarValues]
      exact .cons (shownAs_sidebarItem ht) (forall₂_sidebarItems hrest)

end

mutual

theorem textsUnder_sidebarItem : ∀ t : NavTree α,
    (sidebarItem idPrefix fileName t).toValue.textsUnder "id" =
      t.leaves.map fun l => idLead idPrefix ++ fileName l.2
  | .leaf label page => by
      rw [sidebarItem, SidebarItem.toValue, docId_eq]
      rfl
  | .group label children => by
      rw [sidebarItem, SidebarItem.toValue, NavTree.leaves,
        ← textsUnderItems_sidebarItems children]
      simp [Value.textsUnder, textsUnderEntries]

theorem textsUnderItems_sidebarItems : ∀ ts : List (NavTree α),
    textsUnderItems "id" (sidebarValues (sidebarItems idPrefix fileName ts)) =
      (NavTree.leavesAll ts).map fun l => idLead idPrefix ++ fileName l.2
  | [] => by
      rw [sidebarItems, sidebarValues]
      rfl
  | t :: rest => by
      rw [sidebarItems, sidebarValues, textsUnderItems, NavTree.leavesAll,
        List.map_append, textsUnder_sidebarItem t, textsUnderItems_sidebarItems rest]

end

end

/-! ## The document -/

mutual

theorem SidebarItem.textual : ∀ item : SidebarItem, item.toValue.Textual
  | .doc id label => by
      rw [SidebarItem.toValue]
      refine .object (show ["type", "id", "label"].Nodup by decide) ?_
      simp only [List.forall_mem_cons]
      exact ⟨.text _, .text _, .text _, nofun⟩
  | .category label items => by
      rw [SidebarItem.toValue]
      refine .object (show ["type", "label", "items"].Nodup by decide) ?_
      simp only [List.forall_mem_cons]
      exact ⟨.text _, .text _, .list (textual_sidebarValues items), nofun⟩

theorem textual_sidebarValues : ∀ items : List SidebarItem,
    ∀ v ∈ sidebarValues items, v.Textual
  | [] => by
      rw [sidebarValues]
      exact nofun
  | item :: rest => by
      rw [sidebarValues]
      exact List.forall_mem_cons.2 ⟨item.textual, textual_sidebarValues rest⟩

end

theorem textual_sidebarObject (name : String) (items : List SidebarItem) :
    (sidebarObject name items).Textual := by
  refine .object (by simp) ?_
  simp only [List.forall_mem_singleton]
  exact .list (textual_sidebarValues items)

/-! ## ASCII -/

/-- Characters that every encoding has. -/
def Ascii (cs : List Char) : Prop := ∀ c ∈ cs, c.toNat < 128

namespace Json

theorem ascii_quote (s : String) : Ascii (quote s).toList :=
  fun _ hc => Nat.lt_succ_of_lt (printableAscii_of_mem_quote hc).2

theorem ascii_newline (indent level : Nat) : Ascii (newline indent level).toList := by
  intro c hc
  rw [newline, String.toList_ofList] at hc
  rcases List.mem_cons.1 hc with rfl | hc
  · decide
  · rw [List.eq_of_mem_replicate hc]
    decide

theorem ascii_brackets : Ascii "[]".toList ∧ Ascii "\x7b\x7d".toList := by
  constructor
  · exact List.forall_mem_cons.2 ⟨by decide, List.forall_mem_singleton.2 (by decide)⟩
  · exact List.forall_mem_cons.2 ⟨by decide, List.forall_mem_singleton.2 (by decide)⟩

section

variable {indent level : Nat}

theorem ascii_writeItems {items : List Value}
    (h : ∀ v ∈ items, Ascii (write indent level v).toList) :
    Ascii (writeItems indent level items).toList := by
  induction items with
  | nil =>
      rw [writeItems]
      exact List.forall_mem_nil _
  | cons v rest ih =>
      obtain ⟨hv, hrest⟩ := List.forall_mem_cons.1 h
      rw [toList_writeItems]
      refine List.forall_mem_cons.2 ⟨by decide, ?_⟩
      simp only [List.forall_mem_append]
      exact ⟨ascii_newline indent level, hv, ih hrest⟩

theorem ascii_writeEntries {entries : List (String × Value)}
    (h : ∀ e ∈ entries, Ascii (write indent level e.2).toList) :
    Ascii (writeEntries indent level entries).toList := by
  induction entries with
  | nil =>
      rw [writeEntries]
      exact List.forall_mem_nil _
  | cons e rest ih =>
      obtain ⟨hv, hrest⟩ := List.forall_mem_cons.1 h
      rw [toList_writeEntries]
      simp only [Ascii, List.forall_mem_cons, List.forall_mem_append]
      exact ⟨by decide, ascii_newline indent level, ascii_quote e.1, by decide, by decide,
        hv,
        ih hrest⟩

end

theorem ascii_write {v : Value} (h : v.Textual) :
    ∀ indent level, Ascii (write indent level v).toList := by
  induction h with
  | text s =>
      intro indent level
      rw [write]
      exact ascii_quote s
  | @list items _ ih =>
      intro indent level
      cases items with
      | nil =>
          rw [write]
          exact ascii_brackets.1
      | cons v rest =>
          obtain ⟨hv, hrest⟩ := List.forall_mem_cons.1 ih
          rw [toList_write_list]
          simp only [Ascii, List.forall_mem_cons, List.forall_mem_append]
          exact ⟨by decide, ascii_newline indent _, hv indent _,
            ascii_writeItems fun w hw => hrest w hw indent _, ascii_newline indent level,
            by decide, List.forall_mem_nil _⟩
  | @object entries _ _ ih =>
      intro indent level
      cases entries with
      | nil =>
          rw [write]
          exact ascii_brackets.2
      | cons e rest =>
          obtain ⟨hv, hrest⟩ := List.forall_mem_cons.1 ih
          rw [toList_write_object]
          simp only [Ascii, List.forall_mem_cons, List.forall_mem_append]
          exact ⟨by decide, ascii_newline indent _, ascii_quote e.1, by decide, by decide,
            hv indent _, ascii_writeEntries fun w hw => hrest w hw indent _,
            ascii_newline indent level, by decide, List.forall_mem_nil _⟩

end Json

/-! ## The module -/

theorem leavesAll_names_nodup {pages : List Page} {nodes : List (NavTree Page)}
    (h : buildNavigation pages = .ok nodes) :
    ((NavTree.leavesAll nodes).map fun l => l.2.fileName).Nodup := by
  have hpages : (pages.map Page.fileName).Nodup := by
    by_contra hnd
    obtain ⟨e, he⟩ := buildNavigation_eq_error_iff.2 hnd
    rw [h] at he
    cases he
  have hleaves := (buildNavigation_eq_ok h).map fun l => l.page.fileName
  rw [NavTree.leavesAll_eq_placedAll, List.map_map]
  rw [List.map_map] at hleaves
  exact hleaves.nodup_iff.2 hpages

/-- A document that has a navigation in it, as an object whose one key is the
name of the sidebar. -/
structure SidebarDocument (name idPrefix : String) (nodes : List (NavTree Page))
    (document : String) (items : List Value) : Prop where
  ascii : ∀ c ∈ document.toList, c.toNat < 128
  parsed : Json.parse document = .ok (.object [(name, .list items)])
  /-- There is an item for each node, in the order of the nodes and nested like them. -/
  shown : List.Forall₂ (NavTree.ShownAs fun p => idLead idPrefix ++ p.fileName)
    nodes items
  /-- The ids are the names of the pages, in the order in which the tree is read. -/
  ids : textsUnderItems "id" items =
    (NavTree.leavesAll nodes).map fun l => idLead idPrefix ++ l.2.fileName
  distinct : (textsUnderItems "id" items).Nodup

/-- The module of a navigation is an assignment of such a document, whatever the
labels, the names, the prefix and the name of the sidebar are. -/
theorem sidebarModule_decodes {pages : List Page} {nodes : List (NavTree Page)}
    (h : buildNavigation pages = .ok nodes) (name idPrefix : String) :
    ∃ document items, sidebarModule name (sidebarItems idPrefix Page.fileName nodes) =
        "module.exports = " ++ document ++ ";\n" ∧
      SidebarDocument name idPrefix nodes document items := by
  have htextual := textual_sidebarObject name (sidebarItems idPrefix Page.fileName nodes)
  have hids := textsUnderItems_sidebarItems idPrefix Page.fileName nodes
  refine ⟨_, sidebarValues (sidebarItems idPrefix Page.fileName nodes), rfl, ?_⟩
  constructor
  case ascii => exact Json.ascii_write htextual 2 0
  case parsed => exact Json.parse_write htextual 2
  case shown =>
    exact forall₂_sidebarItems idPrefix Page.fileName (buildNavigation_populated h)
  case ids => exact hids
  case distinct =>
      have hinjective : Function.Injective (idLead idPrefix ++ ·) :=
        fun a b hab => (String.append_right_inj _).1 hab
      have hnames := (leavesAll_names_nodup h).map hinjective
      rw [List.map_map] at hnames
      rw [hids]
      exact hnames

/-- Pages on three levels, the last of which goes back into a group that was left,
and whose labels have a quote, a line end and a character of two code units. -/
def branching : List File := [
  { path := "x.proto", package := "a.😀" },
  { path := "a.proto" },
  { path := "say \"hi\"\n.proto", package := "a" }]

theorem sidebarModule_decodes_branching :
    ∃ site nodes document items, buildSite branching "" = .ok site ∧
      buildNavigation site.pages = .ok nodes ∧
      sidebarModule "\\docs" (sidebarItems "/ref/" Page.fileName nodes) =
        "module.exports = " ++ document ++ ";\n" ∧
      SidebarDocument "\\docs" "/ref/" nodes document items ∧
      textsUnderItems "id" items = ["ref/a/😀/x", "ref/a/say \"hi\"\n", "ref/a"] := by
  have hbuilt : ∃ site nodes, buildSite branching "" = .ok site ∧
      buildNavigation site.pages = .ok nodes ∧
      ((NavTree.leavesAll nodes).map fun l => idLead "/ref/" ++ l.2.fileName) =
        ["ref/a/😀/x", "ref/a/say \"hi\"\n", "ref/a"] :=
          ⟨_, _, rfl, rfl, by decide +kernel⟩
  obtain ⟨site, nodes, hsite, hnodes, hids⟩ := hbuilt
  obtain ⟨document, items, hmodule, h⟩ := sidebarModule_decodes hnodes "\\docs" "/ref/"
  exact ⟨site, nodes, document, items, hsite, hnodes, hmodule, h, h.ids.trans hids⟩

end SchemaDocs
