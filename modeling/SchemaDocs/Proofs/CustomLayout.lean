import SchemaDocs.Layout.Custom
import SchemaDocs.Proofs.CleanRendering

/-!
# Pages of custom templates

A custom template that keeps markup apart lets nothing on a page be read as
structure, whatever the names, types and descriptions in the file are. What a
page brings along is data, none of it markup, and calls are as deep as they
may nest: a macro is run with calls that nest one less deep.
-/

namespace SchemaDocs.Layout

open Template
open Text (Unstructured)

variable {k : Marking}

theorem outside_keeps : ∀ depth, (outside depth).Keeps k
  | 0 => fun _ _ _ => .throw _
  | depth + 1 => fun place args hargs => by
      refine Keeps.get.bind fun store hstore => ?_
      split
      · next closure hclosure =>
          exact apply_keeps (outside_keeps depth)
            (hstore.closures closure (Array.mem_of_getElem? hclosure)) hargs
      · exact .throw _

/-! ## What a page brings along -/

/-- Data without markup, and nothing that a call would change. -/
def Brought (item : Item) : Prop := item.Clean false ∧ item.Free

theorem Brought.mayStand {item : Item} (h : Brought item) (name : String) :
    MayStand k name item :=
  ⟨h.1.ofUnmarked, fun _ => h.2⟩

theorem stamp_brought {item : Item} (h : Brought item) :
    Keeps k (Template.stamp item) Brought :=
  (stamp_keeps h.1).mono fun _ hitem => ⟨hitem.1, hitem.2 h.2⟩

theorem bring_keeps (v : Value) : Keeps k (bring v) Brought := by
  refine stamp_brought ⟨Item.ofValue_clean v, ?_⟩
  cases v <;> trivial

theorem bringEntries_keeps {given : List (String × Item)}
    (hgiven : ∀ e ∈ given, Brought e.2)
    (entries : List (String × Value)) :
    Keeps k (bringEntries given entries) fun entries => ∀ e ∈ entries, Brought e.2 := by
  refine .mapM fun e _ => ?_
  obtain ⟨name, v⟩ := e
  dsimp only
  cases hlookup : given.lookup name with
  | none => exact (bring_keeps v).bind fun item hitem => .pure hitem
  | some item => exact .pure (hgiven _ (mem_of_lookup hlookup))

theorem brought_textKeys {entries : List (String × Item)}
    (h : ∀ e ∈ entries, Brought e.2) :
    Brought (.dict (textKeys entries)) := by
  refine ⟨Item.clean_dict.2 fun e he => ?_, trivial⟩
  obtain ⟨e, hmem, rfl⟩ := List.mem_map.1 he
  exact ⟨.text _, (h e hmem).1⟩

theorem bringSection_keeps {entities : Item} (h : Brought entities) (v : Value) :
    Keeps k (bringSection entities v) (Item.Clean false) := by
  rw [bringSection.eq_def]
  split
  · exact (bringEntries_keeps (by simpa using h) _).bind fun entries hentries =>
      .pure (brought_textKeys hentries).1
  · exact (bring_keeps v).mono fun _ => And.left

theorem brought_builtins : ∀ e ∈ builtins, Brought e.2 := by
  simp [builtins, Brought, Item.Free]

theorem pageItems_keeps (p : PageBindings) : Keeps k (pageItems p) (PageApart k) := by
  rw [pageItems]
  refine (bring_keeps _).bind fun messages hmessages => ?_
  refine (bring_keeps _).bind fun enums henums => ?_
  refine (bring_keeps _).bind fun services hservices => ?_
  have hsections : Keeps k ((p.sectionValues.zip [messages, enums, services]).mapM
      fun e => bringSection e.2 e.1) (Item.CleanAll false) := by
    refine .mapM fun e he => bringSection_keeps ?_ e.1
    have hmem := (List.of_mem_zip he).2
    simp only [List.mem_cons, List.not_mem_nil, or_false] at hmem
    rcases hmem with heq | heq | heq <;> rw [heq] <;> assumption
  refine hsections.bind fun sections hsections => ?_
  have hlist : Brought (.list sections) := ⟨Item.clean_list.2 hsections, trivial⟩
  refine (stamp_brought hlist).bind fun sections hsections => ?_
  have hgiven : ∀ e ∈ [("sections", sections), ("messages", messages), ("enums", enums),
      ("services", services)], Brought e.2 := by
    simp [hsections, hmessages, henums, hservices]
  refine (bringEntries_keeps hgiven p.entries).bind fun entries hentries => ?_
  refine (stamp_brought (brought_textKeys hentries)).bind fun page hpage =>
    .pure fun e he => ?_
  rw [List.cons_append] at he
  rcases List.mem_cons.1 he with rfl | he
  · exact hpage.mayStand _
  · exact ((List.mem_append.1 he).elim (hentries e) (brought_builtins e)).mayStand _

end Layout

open Template

/-! ## Pages -/

/-- A template that keeps markup apart lets nothing on a page be read as
structure. -/
theorem fill_unstructured {k : Marking} {t : Template} (h : Stmt.AllApart k t.body)
    (p : PageBindings) {out : String} (hfill : Layout.fill t p = .ok out) :
    Text.Unstructured out := by
  have hrun : Keeps k (do t.run (Layout.outside Layout.callDepth) (← Layout.pageItems p))
      fun result => Text.Unstructured result.1 :=
    (Layout.pageItems_keeps p).bind fun page hpage =>
      run_keeps (Layout.outside_keeps Layout.callDepth) h hpage
  rw [Layout.fill] at hfill
  exact (hrun.run' Store.apart_empty).map (fun _ hresult => hresult) out hfill

def bracketed : PageBindings where
  title := "a{b}.proto"
  path := "a{b}.proto"
  package := "p"
  description := "<i>|`"
  route := "/p"
  link := "/p/a-b"
  fileName := "p/a-b"
  slug := "a-b"
  dependencies := []
  messages := []
  enums := []
  services := []

/-- A macro that is called for some texts in turn, one of them a join. -/
def listing : Template where
  body := [
    .define ⟨"item", ["text"], false, false, false⟩ [("text", none)]
      [.text "* [", .print (.name "text"), .text "] "] [],
    .loop (.name "word")
      (.list [.name "title",
        .concat [.name "package", .const (.text ": "), .name "description"]])
      none
      [.print (.call (.name "item") [(.positional, .name "word")]),
        .print (.attr (.name "loop") "index"), .text "/"]
      [] ⟨true, [], []⟩]
  unset := ["item"]
  mentionsSelf := false

theorem fill_unstructured_listing :
    Layout.fill listing bracketed =
        .ok "* [a&#123;b&#125;.proto] 1/* [p: &lt;i&gt;&#124;&#96;] 2/" ∧
      Text.Unstructured "* [a&#123;b&#125;.proto] 1/* [p: &lt;i&gt;&#124;&#96;] 2/" := by
  have hapart : Stmt.AllApart ⟨["item"], ["item"], false⟩ listing.body := by
    simp [listing, Stmt.AllApart, Stmt.Apart, Expr.Apart, Expr.AllApart,
      Expr.ArgumentsApart, Expr.IsCalled, ParamsApart, Marking.Takes,
      Marking.allows, MacroInfo.taken, LoopInfo.taken,
      Target.names, Target.objects, Text.Unstructured, Text.structural]
  have hfill :=
    eq_ok_of_toOption (by decide +kernel : (Layout.fill listing bracketed).toOption =
      some "* [a&#123;b&#125;.proto] 1/* [p: &lt;i&gt;&#124;&#96;] 2/")
  exact ⟨hfill, fill_unstructured hapart bracketed hfill⟩

/-- A macro whose text is joined with the title of the page. -/
def joined : Template where
  body := [
    .define ⟨"m", [], false, false, false⟩ [] [.text "x"] [],
    .print (.concat [.call (.name "m") [], .name "title"])]
  unset := ["m"]
  mentionsSelf := false

/-- What meets markup in a join is markup too, and only escaped for HTML. -/
theorem fill_joined_structured :
    Layout.fill joined bracketed = .ok "xa{b}.proto" ∧
      ¬ Text.Unstructured "xa{b}.proto" :=
  ⟨eq_ok_of_toOption (by decide +kernel), by simp [Text.Unstructured, Text.structural]⟩

end SchemaDocs
