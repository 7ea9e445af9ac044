import SchemaDocs.Layout.Custom
import SchemaDocs.Proofs.FrontMatter
import SchemaDocs.Proofs.Links
import SchemaDocs.Proofs.OneLine
import SchemaDocs.Proofs.Unstructured

/-!
# The rows of tables

In the built-in layout every field, every value of an enum and every method is
a row of a table. A row is a bar, and then cells with a bar behind each, so it
stays what it is as long as no cell has a bar in it and none has a line end.

Bars are in no cell, because whatever comes from the schema is escaped. Line
ends are not taken out everywhere: a description is folded onto one line, but
a name, a type, its link and the group of a field stand as they are. So a row
is on one line exactly when these are, and `TableRow.Flat` says so.

`Tabled` says where the rows stand. It goes through a text piece by piece; each
piece ends with a line end, and is a row, the head of a table, or has no bar.
-/

namespace SchemaDocs

/-! ## Rows -/

/-- What a row of a table shows. -/
inductive TableRow
  | field (f : FieldBinding)
  | value (v : EnumValue)
  | method (m : MethodBinding)

namespace TableRow

def cells : TableRow → List String
  | .field f =>
    [Text.escapeMdx f.name, Layout.fieldType f, Text.escapeMdx f.label.text,
      Layout.cell f.description ++ Layout.oneofNote f.oneof]
  | .value v =>
    [Text.escapeMdx v.name, Text.escapeMdx (toString v.number), Layout.cell v.description]
  | .method m =>
    [Text.escapeMdx m.name, Layout.streamed m.clientStreaming m.request,
      Layout.streamed m.serverStreaming m.response, Layout.cell m.description]

/-- A bar, and every cell with a bar behind it. -/
def line (row : TableRow) : String :=
  "|" ++ Layout.each (fun c => " " ++ c ++ " |") row.cells

/-- How many bars a row has. -/
def bars : TableRow → Nat
  | .field _ => 5
  | .value _ => 4
  | .method _ => 5

end TableRow

/-! The rows of a page, in the order of its declarations. -/

def EnumBinding.rows (e : EnumBinding) : List TableRow := e.entries.map .value

def ServiceBinding.rows (s : ServiceBinding) : List TableRow := s.methods.map .method

mutual

def MessageBinding.rows : MessageBinding → List TableRow
  | ⟨_, _, _, fields, messages, enums⟩ =>
    fields.map .field ++ rowsAll messages ++ enums.flatMap EnumBinding.rows

def rowsAll : List MessageBinding → List TableRow
  | [] => []
  | m :: rest => m.rows ++ rowsAll rest

end

def PageBindings.rows (p : PageBindings) : List TableRow :=
  rowsAll p.messages ++ p.enums.flatMap EnumBinding.rows ++
    p.services.flatMap ServiceBinding.rows

/-! ## Characters that a text lacks -/

def Lacks (c : Char) (s : String) : Prop := c ∉ s.toList

instance (c : Char) (s : String) : Decidable (Lacks c s) :=
  inferInstanceAs (Decidable (¬ _))

section

variable {c : Char}

@[simp] theorem lacks_append {a b : String} :
    Lacks c (a ++ b) ↔ Lacks c a ∧ Lacks c b := by
  rw [Lacks, String.toList_append, List.mem_append, not_or]
  rfl

theorem lacks_empty : Lacks c "" := List.not_mem_nil

theorem lacks_each {α : Type} {render : α → String} {xs : List α} :
    Lacks c (Layout.each render xs) ↔ ∀ x ∈ xs, Lacks c (render x) := by
  induction xs with
  | nil => simp [Layout.each, lacks_empty]
  | cons x rest ih =>
      rw [List.forall_mem_cons, ← ih]
      exact lacks_append

theorem lacks_ite {p : Prop} [Decidable p] {a b : String} (ha : Lacks c a)
    (hb : Lacks c b) :
    Lacks c (if p then a else b) := by
  split
  · exact ha
  · exact hb

end

/-! ## Bars -/

theorem lacks_bar_escapeMdx (s : String) : Lacks '|' (Text.escapeMdx s) :=
  fun h => Text.Unstructured.escapeMdx s '|' h (by decide)

theorem lacks_bar_link (label : String) (href : Option String) :
    Lacks '|' (Layout.link label href) := by
  cases href with
  | none => exact lacks_bar_escapeMdx label
  | some href =>
      have hopen : Lacks '|' "[" := by decide
      have hmiddle : Lacks '|' "](" := by decide
      have hclose : Lacks '|' ")" := by decide
      simp only [Layout.link, lacks_append, lacks_bar_escapeMdx,
        hopen, hmiddle, hclose, and_self]

theorem lacks_bar_fieldType (f : FieldBinding) : Lacks '|' (Layout.fieldType f) := by
  have hopen : Lacks '|' "map&lt;" := by decide
  have hmiddle : Lacks '|' ", " := by decide
  have hclose : Lacks '|' "&gt;" := by decide
  rw [Layout.fieldType]
  split
  · simp only [Layout.typeRef, lacks_append, lacks_bar_link,
      hopen, hmiddle, hclose, and_self]
  · exact lacks_bar_link f.type.label f.type.href

theorem lacks_bar_oneofNote (oneof : Option Value) :
    Lacks '|' (Layout.oneofNote oneof) := by
  cases oneof with
  | none => exact lacks_empty
  | some v =>
      have hopen : Lacks '|' " (oneof " := by decide
      have hclose : Lacks '|' ")" := by decide
      simp only [Layout.oneofNote, lacks_append, lacks_bar_escapeMdx,
        hopen, hclose, and_self]

theorem lacks_bar_streamed (streaming : Bool) (t : TypeBinding) :
    Lacks '|' (Layout.streamed streaming t) :=
  lacks_append.2 ⟨lacks_ite (by decide) lacks_empty, lacks_bar_link t.label t.href⟩

namespace TableRow

/-- Whatever a row shows, no cell has a bar in it. -/
theorem lacks_bar_cells (row : TableRow) : ∀ c ∈ row.cells, Lacks '|' c := by
  cases row <;>
    simp only [cells, Layout.cell, List.forall_mem_cons, lacks_append,
      lacks_bar_escapeMdx, lacks_bar_fieldType, lacks_bar_oneofNote,
      lacks_bar_streamed, List.not_mem_nil,
      false_implies, implies_true, and_self]

theorem count_bar_each {cs : List String} (h : ∀ c ∈ cs, Lacks '|' c) :
    (Layout.each (fun c => " " ++ c ++ " |") cs).toList.count '|' = cs.length := by
  induction cs with
  | nil => rfl
  | cons c rest ih =>
      rw [List.forall_mem_cons] at h
      have hc : c.toList.count '|' = 0 := List.count_eq_zero.2 h.1
      have hcell : (" " ++ c ++ " |").toList.count '|' = 1 := by
        rw [String.toList_append, String.toList_append, List.count_append,
          List.count_append, hc]
        decide
      rw [Layout.each, List.foldr_cons, ← Layout.each, String.toList_append,
        List.count_append, hcell, ih h.2, List.length_cons, Nat.add_comm]

theorem count_bar_line (row : TableRow) : row.line.toList.count '|' = row.bars := by
  have hbar : ("|" : String).toList.count '|' = 1 := by decide
  rw [line, String.toList_append, List.count_append, hbar,
    count_bar_each row.lacks_bar_cells]
  cases row <;> rfl

end TableRow

/-! ## Line ends -/

/-- A character that is not reserved and stands in no entity is in an escaped text
if it is in the text. -/
theorem lacks_escapeMdx {c : Char} {s : String} (hc : c ∉ Text.mdxReserved)
    (hentity : ∀ e ∈ Text.mdxEntities, c ∉ e.toList) :
    Lacks c (Text.escapeMdx s) ↔ Lacks c s := by
  refine not_congr ?_
  rw [Text.escapeMdx, String.toList_ofList, Text.escapeMdxChars, List.mem_flatMap]
  constructor
  · rintro ⟨d, hd, h⟩
    rcases Text.escapeMdxChar_cases d with ⟨e, he, hentity'⟩ | ⟨-, hself⟩
    · rw [hentity'] at h
      exact absurd h (hentity e he)
    · rw [hself, List.mem_singleton] at h
      rwa [h]
  · intro h
    refine ⟨c, h, ?_⟩
    rw [Text.escapeMdxChar_of_notMem hc]
    exact List.mem_singleton_self c

theorem lacks_lineEnd_escapeMdx {s : String} :
    Lacks '\n' (Text.escapeMdx s) ↔ Lacks '\n' s :=
  lacks_escapeMdx (by decide) (by decide)

theorem lacks_lineEnd_cell (description : String) :
    Lacks '\n' (Layout.cell description) := by
  rw [Layout.cell, lacks_lineEnd_escapeMdx]
  exact fun h => absurd (Text.eq_space_of_mem_oneLine h (by decide)) (by decide)

theorem lacks_lineEnd_toString (n : Int) : Lacks '\n' (toString n) := by
  have hnat (m : Nat) : Lacks '\n' (toString m) :=
    fun h => absurd (isDigit_of_mem_toString h) (by decide)
  cases n with
  | ofNat m => exact hnat m
  | negSucc m => exact lacks_append.2 ⟨by decide, hnat (m + 1)⟩

theorem lacks_lineEnd_label (label : Label) : Lacks '\n' label.text := by
  cases label <;> decide

/-- Neither the name of a type nor its link has a line end. -/
def TypeBinding.Flat (t : TypeBinding) : Prop :=
  Lacks '\n' t.label ∧ ∀ href, t.href = some href → Lacks '\n' href

/-- The types that are shown for a field: for a map those of its keys and
values. -/
def FieldBinding.shownTypes (f : FieldBinding) : List TypeBinding :=
  match f.map with
  | some (key, value) => [key, value]
  | none => [f.type]

/-- A row without a line end in any text that is not folded onto one line. -/
def TableRow.Flat : TableRow → Prop
  | .field f =>
    Lacks '\n' f.name ∧ (∀ t ∈ f.shownTypes, t.Flat) ∧
      ∀ v, f.oneof = some v → Lacks '\n' v.display
  | .value v => Lacks '\n' v.name
  | .method m => Lacks '\n' m.name ∧ m.request.Flat ∧ m.response.Flat

theorem lacks_lineEnd_typeRef {t : TypeBinding} :
    Lacks '\n' (Layout.typeRef t) ↔ t.Flat := by
  obtain ⟨kind, label, href⟩ := t
  cases href with
  | none => simp [Layout.typeRef, Layout.link, TypeBinding.Flat, lacks_lineEnd_escapeMdx]
  | some href =>
      have hopen : Lacks '\n' "[" := by decide
      have hmiddle : Lacks '\n' "](" := by decide
      have hclose : Lacks '\n' ")" := by decide
      simp [Layout.typeRef, Layout.link, TypeBinding.Flat, lacks_lineEnd_escapeMdx, hopen,
        hmiddle, hclose]

theorem lacks_lineEnd_fieldType {f : FieldBinding} :
    Lacks '\n' (Layout.fieldType f) ↔ ∀ t ∈ f.shownTypes, t.Flat := by
  have hopen : Lacks '\n' "map&lt;" := by decide
  have hmiddle : Lacks '\n' ", " := by decide
  have hclose : Lacks '\n' "&gt;" := by decide
  rw [Layout.fieldType, FieldBinding.shownTypes]
  cases f.map with
  | some types => simp [lacks_lineEnd_typeRef, hopen, hmiddle, hclose]
  | none => simp [lacks_lineEnd_typeRef]

theorem lacks_lineEnd_oneofNote {oneof : Option Value} :
    Lacks '\n' (Layout.oneofNote oneof) ↔ ∀ v, oneof = some v → Lacks '\n' v.display := by
  cases oneof with
  | none => simp [Layout.oneofNote, lacks_empty]
  | some v =>
      have hopen : Lacks '\n' " (oneof " := by decide
      have hclose : Lacks '\n' ")" := by decide
      simp [Layout.oneofNote, lacks_lineEnd_escapeMdx, hopen, hclose]

theorem lacks_lineEnd_streamed {streaming : Bool} {t : TypeBinding} :
    Lacks '\n' (Layout.streamed streaming t) ↔ t.Flat := by
  rw [Layout.streamed, lacks_append, lacks_lineEnd_typeRef]
  exact and_iff_right (lacks_ite (by decide) lacks_empty)

namespace TableRow

theorem lacks_lineEnd_line_iff_cells (row : TableRow) :
    Lacks '\n' row.line ↔ ∀ c ∈ row.cells, Lacks '\n' c := by
  have hbar : Lacks '\n' "|" := by decide
  have hblank : Lacks '\n' " " := by decide
  have hend : Lacks '\n' " |" := by decide
  simp only [line, lacks_append, lacks_each, hbar, hblank, hend, true_and, and_true]

/-- A row is on one line exactly if what it shows beside descriptions is. -/
theorem lacks_lineEnd_line (row : TableRow) : Lacks '\n' row.line ↔ row.Flat := by
  rw [lacks_lineEnd_line_iff_cells]
  cases row with
  | field f =>
      simp only [cells, List.forall_mem_cons, lacks_append, lacks_lineEnd_escapeMdx,
        lacks_lineEnd_fieldType, lacks_lineEnd_label, lacks_lineEnd_cell,
        lacks_lineEnd_oneofNote, List.not_mem_nil, false_implies, implies_true, true_and,
        and_true, Flat]
  | value v =>
      simp only [cells, List.forall_mem_cons, lacks_lineEnd_escapeMdx,
        lacks_lineEnd_toString, lacks_lineEnd_cell, List.not_mem_nil,
        false_implies, implies_true, and_true, Flat]
  | method m =>
      simp only [cells, List.forall_mem_cons, lacks_lineEnd_escapeMdx,
        lacks_lineEnd_streamed, lacks_lineEnd_cell, List.not_mem_nil,
        false_implies, implies_true, and_true, Flat]

end TableRow

/-! ## Where the rows stand -/

/-- What stands above the rows of the tables. -/
def tableHeads : List String := [
  "| Name | Number | Description |\n| ---- | ------ | ----------- |",
  "| Field | Type | Label | Description |\n| ----- | ---- | ----- | ----------- |",
  "| Method | Request | Response | Description |\n| ------ | ------- | -------- | ----------- |"]

/-- A text in which some rows stand in their order. Every piece ends with a
line end, so each begins where a line begins, and a piece that is no row is the
head of a table or has no bar. -/
inductive Tabled : List TableRow → String → Prop
  | nil : Tabled [] ""
  | plain {rows : List TableRow} {s rest : String} (h : Lacks '|' s)
      (hrest : Tabled rows rest) : Tabled rows (s ++ "\n" ++ rest)
  | head {rows : List TableRow} {s rest : String} (h : s ∈ tableHeads)
      (hrest : Tabled rows rest) : Tabled rows (s ++ "\n" ++ rest)
  | row {row : TableRow} {rows : List TableRow} {rest : String}
      (hrest : Tabled rows rest) : Tabled (row :: rows) (row.line ++ "\n" ++ rest)

namespace Tabled

variable {rows others : List TableRow} {a b : String}

theorem append (ha : Tabled rows a) (hb : Tabled others b) :
    Tabled (rows ++ others) (a ++ b) := by
  induction ha with
  | nil => rwa [String.empty_append]
  | plain h _ ih =>
      rw [String.append_assoc]
      exact .plain h ih
  | head h _ ih =>
      rw [String.append_assoc]
      exact .head h ih
  | row _ ih =>
      rw [String.append_assoc]
      exact .row ih

theorem append_plain (ha : Tabled rows a) (hb : Tabled [] b) : Tabled rows (a ++ b) := by
  simpa using ha.append hb

theorem each {α : Type} {rowsOf : α → List TableRow} {render : α → String}
    (h : ∀ x, Tabled (rowsOf x) (render x)) :
    ∀ xs : List α, Tabled (xs.flatMap rowsOf) (Layout.each render xs) := by
  intro xs
  induction xs with
  | nil => exact .nil
  | cons x rest ih => exact (h x).append ih

/-- A part of the page with a title has the rows of what is in it. -/
theorem titled {α : Type} {xs : List α} {title body : String}
    (rowsOf : List α → List TableRow) (hnone : rowsOf [] = []) (htitle : Tabled [] title)
    (hbody : Tabled (rowsOf xs) body) :
    Tabled (rowsOf xs) (Layout.titled title xs.isEmpty body) := by
  rw [Layout.titled]
  split
  · next h =>
      rw [List.isEmpty_iff.1 h, hnone]
      exact .nil
  · exact htitle.append hbody

/-- A row without a line end is one of the lines of the text. -/
theorem line_mem_splitOn (h : Tabled rows a) {row : TableRow} (hrow : row ∈ rows)
    (hline : Lacks '\n' row.line) : row.line ∈ Text.splitOn '\n' a := by
  have hlines (s rest : String) :
      Text.splitOn '\n' (s ++ "\n" ++ rest) = Text.splitOn '\n' s ++
      Text.splitOn '\n' rest :=
    Text.splitOn_between '\n' s rest
  induction h with
  | nil => cases hrow
  | plain _ _ ih =>
      rw [hlines]
      exact List.mem_append_right _ (ih hrow)
  | head _ _ ih =>
      rw [hlines]
      exact List.mem_append_right _ (ih hrow)
  | row _ ih =>
      -- another row in front may be on several lines, this one is on one
      rw [hlines]
      rcases List.mem_cons.1 hrow with rfl | hrow
      · rw [Text.splitOn_of_notMem hline]
        exact List.mem_cons_self
      · exact List.mem_append_right _ (ih hrow)

end Tabled

/-! ## Pieces without rows -/

theorem tabled_line {s : String} (h : Lacks '|' s) : Tabled [] (s ++ "\n") := by
  simpa using Tabled.plain h .nil

theorem tabled_paragraph {s : String} (h : Lacks '|' s) : Tabled [] (s ++ "\n\n") := by
  have hend : ("\n\n" : String) = "\n" ++ "\n" := rfl
  rw [hend, ← String.append_assoc]
  exact (tabled_line h).append_plain (tabled_line lacks_empty)

theorem tabled_lineEnd : Tabled [] "\n" := tabled_line lacks_empty

theorem tabled_head {s : String} (h : s ∈ tableHeads) : Tabled [] (s ++ "\n") := by
  simpa using Tabled.head h .nil

theorem tabled_ite {p : Prop} [Decidable p] {s : String} (h : Tabled [] s) :
    Tabled [] (if p then "" else s) := by
  split
  · exact .nil
  · exact h

theorem lacks_bar_heading (level : Nat) : Lacks '|' (Layout.heading level) := by
  rw [Lacks, Layout.heading, String.toList_ofList]
  exact fun h => absurd (List.eq_of_mem_replicate h) (by decide)

theorem tabled_opening (level : Nat) (fullName name description : String) :
    Tabled [] (Layout.opening level fullName name description) := by
  have hopen : Lacks '|' "<a id=\"" := by decide
  have hclose : Lacks '|' "\"></a>\n\n" := by decide
  have hblank : Lacks '|' " " := by decide
  have hheading : Lacks '|' (Layout.anchor fullName ++ Layout.heading level ++ " " ++
      Text.escapeMdx name) := by
    simp only [Layout.anchor, lacks_append, lacks_bar_escapeMdx,
      lacks_bar_heading, hopen, hclose, hblank, and_self]
  exact (tabled_paragraph hheading).append_plain
    (tabled_ite (tabled_paragraph (lacks_bar_escapeMdx description)))

theorem tabled_dependency (d : DependencyBinding) : Tabled [] (Layout.dependency d) :=
  tabled_line (lacks_append.2 ⟨by decide, lacks_bar_link d.path d.href⟩)

/-! ## Tables -/

/-- A row as the layout puts it together. -/
def TableRow.laidOut : TableRow → String
  | .field f => Layout.fieldRow f
  | .value v => Layout.enumRow v
  | .method m => Layout.methodRow m

/-- The layout has one text between two cells: the bar behind the one and the
blank in front of the other. -/
theorem TableRow.laidOut_eq (row : TableRow) : row.laidOut = row.line ++ "\n" := by
  have hstart : ("| " : String) = "|" ++ " " := rfl
  have hbetween : (" | " : String) = " |" ++ " " := rfl
  have hend : (" |\n" : String) = " |" ++ "\n" := rfl
  cases row <;>
    simp only [laidOut, Layout.fieldRow, Layout.enumRow, Layout.methodRow, line, cells,
      Layout.each, List.foldr_cons, List.foldr_nil, hstart, hbetween,
      hend, String.append_assoc,
      String.empty_append]

theorem tabled_laidOut (row : TableRow) : Tabled [row] row.laidOut := by
  rw [row.laidOut_eq]
  have hrow : Tabled [row] (row.line ++ "\n" ++ "") := .row .nil
  rwa [String.append_empty] at hrow

/-- Behind what has no rows, a row for each item and an empty line. -/
theorem tabled_table {α : Type} {before : String} (hbefore : Tabled [] before)
    (row : α → TableRow) (xs : List α) :
    Tabled (xs.map row)
      (before ++ Layout.each (fun x => (row x).laidOut) xs ++ "\n") := by
  have hrows : Tabled (xs.map row) (Layout.each (fun x => (row x).laidOut) xs) := by
    rw [List.map_eq_flatMap]
    exact Tabled.each (fun x => tabled_laidOut (row x)) xs
  exact (hbefore.append hrows).append_plain tabled_lineEnd

theorem tabled_enum (level : Nat) (e : EnumBinding) :
    Tabled e.rows (Layout.enum level e) :=
  tabled_table ((tabled_opening level e.fullName e.name e.description).append_plain
    (tabled_head (s := tableHeads[0]) (by decide))) .value e.entries

theorem tabled_fieldTable (fields : List FieldBinding) :
    Tabled (fields.map .field) (Layout.fieldTable fields) := by
  rw [Layout.fieldTable]
  split
  · next h =>
      rw [List.isEmpty_iff.1 h]
      exact .nil
  · exact tabled_table (tabled_head (s := tableHeads[1]) (by decide)) .field fields

theorem tabled_service (level : Nat) (s : ServiceBinding) :
    Tabled s.rows (Layout.service level s) :=
  tabled_table ((tabled_opening level s.fullName s.name s.description).append_plain
    (tabled_head (s := tableHeads[2]) (by decide))) .method s.methods

/-! ## The page -/

theorem tabled_enums (level : Nat) (es : List EnumBinding) :
    Tabled (es.flatMap EnumBinding.rows)
      (Layout.each (fun e => Layout.enum level e ++ "\n") es) :=
  Tabled.each (fun e => (tabled_enum level e).append_plain tabled_lineEnd) es

theorem tabled_services (level : Nat) (ss : List ServiceBinding) :
    Tabled (ss.flatMap ServiceBinding.rows)
      (Layout.each (fun s => Layout.service level s ++ "\n") ss) :=
  Tabled.each (fun s => (tabled_service level s).append_plain tabled_lineEnd) ss

mutual

theorem tabled_message (level : Nat) : ∀ m : MessageBinding,
    Tabled m.rows (Layout.message level m)
  | ⟨name, fullName, description, fields, messages, enums⟩ => by
      rw [MessageBinding.rows, Layout.message]
      have hopening := tabled_opening level fullName name description
      have htable := hopening.append (tabled_fieldTable fields)
      exact (htable.append (tabled_nested (level + 1) messages)).append
        (tabled_enums (level + 1) enums)

theorem tabled_nested (level : Nat) : ∀ ms : List MessageBinding,
    Tabled (rowsAll ms) (Layout.nested level ms)
  | [] => .nil
  | m :: rest => by
      rw [rowsAll, Layout.nested]
      have hmessage := (tabled_message level m).append_plain tabled_lineEnd
      exact hmessage.append (tabled_nested level rest)

end

theorem tabled_sections (p : PageBindings) : Tabled p.rows (Layout.sections p) := by
  have hmessages :=
    Tabled.titled rowsAll rfl (tabled_paragraph (s := "## Messages") (by decide))
      (tabled_nested 3 p.messages)
  have henums := Tabled.titled (List.flatMap EnumBinding.rows) rfl
    (tabled_paragraph (s := "## Enums") (by decide)) (tabled_enums 3 p.enums)
  have hservices := Tabled.titled (List.flatMap ServiceBinding.rows) rfl
    (tabled_paragraph (s := "## Services") (by decide)) (tabled_services 3 p.services)
  exact (hmessages.append henums).append hservices

/-- What stands above the sections has no rows. -/
theorem tabled_body (p : PageBindings) : Tabled p.rows (Layout.body p) := by
  have htitle : Tabled [] ("\n# " ++ Text.escapeMdx p.title ++ "\n\n") :=
    tabled_paragraph (lacks_append.2 ⟨by decide, lacks_bar_escapeMdx p.title⟩)
  have hpackage : Tabled [] ("Package: **" ++ Text.escapeMdx p.package ++ "**\n\n") := by
    have hstart : Lacks '|' "Package: **" := by decide
    have hstars : Lacks '|' "**" := by decide
    -- the stars stand in one text with the end of the paragraph
    have hend : ("**\n\n" : String) = "**" ++ "\n\n" := rfl
    rw [hend, ← String.append_assoc]
    exact tabled_paragraph
      (lacks_append.2 ⟨lacks_append.2 ⟨hstart, lacks_bar_escapeMdx p.package⟩, hstars⟩)
  have hdescription : Tabled [] (Text.escapeMdx p.description ++ "\n\n") :=
    tabled_paragraph (lacks_bar_escapeMdx p.description)
  have hlist : Tabled [] (Layout.each Layout.dependency p.dependencies) := by
    have hnone : p.dependencies.flatMap (fun _ => ([] : List TableRow)) = [] :=
      List.flatMap_eq_nil_iff.2 fun _ _ => rfl
    exact hnone ▸ Tabled.each tabled_dependency p.dependencies
  have himports : Tabled [] (Layout.titled "Imports:\n\n" p.dependencies.isEmpty
      (Layout.each Layout.dependency p.dependencies ++ "\n")) :=
    Tabled.titled (fun _ => []) rfl
      (tabled_paragraph (s := "Imports:") (by decide)) (hlist.append_plain tabled_lineEnd)
  exact (((htitle.append_plain (tabled_ite hpackage)).append_plain
    (tabled_ite hdescription)).append_plain himports).append (tabled_sections p)

/-! ## What has a row -/

/-- A page shows a field of a message at whatever depth, a value of an enum, or
a method of a service. -/
inductive PageBindings.Shows (p : PageBindings) : TableRow → Prop
  | field {m : MessageBinding} {f : FieldBinding} (hm : p.HasMessage m)
      (hf : f ∈ m.fields) : Shows p (.field f)
  | nestedValue {m : MessageBinding} {e : EnumBinding} {v : EnumValue}
    (hm : p.HasMessage m)
      (he : e ∈ m.enums) (hv : v ∈ e.entries) : Shows p (.value v)
  | value {e : EnumBinding} {v : EnumValue} (he : e ∈ p.enums)
      (hv : v ∈ e.entries) : Shows p (.value v)
  | method {s : ServiceBinding} {x : MethodBinding} (hs : s ∈ p.services)
      (hx : x ∈ s.methods) : Shows p (.method x)

/-- The rows of a message, without those of the messages nested in it. -/
def MessageBinding.ownRows (m : MessageBinding) : List TableRow :=
  m.fields.map .field ++ m.enums.flatMap EnumBinding.rows

/-- What is collected from a message and the messages in it is what these have
of their own, at whatever depth. -/
theorem MessageBinding.mem_iff_nested {α : Type} {collect own : MessageBinding → List α}
    (h : ∀ (m : MessageBinding) (x : α),
      x ∈ collect m ↔ x ∈ own m ∨ ∃ b ∈ m.messages, x ∈ collect b)
    (m : MessageBinding) {x : α} :
    x ∈ collect m ↔ ∃ n, Nested MessageBinding.messages n m ∧ x ∈ own n := by
  induction m using MessageBinding.nestedInduction with
  | step m ih =>
      rw [h m x]
      constructor
      · rintro (hown | ⟨b, hb, hx⟩)
        · exact ⟨m, .refl m, hown⟩
        · obtain ⟨n, hn, hown⟩ := (ih b hb).1 hx
          exact ⟨n, .deeper hb hn, hown⟩
      · rintro ⟨n, hn, hown⟩
        rcases nested_iff.1 hn with rfl | ⟨b, hb, hn⟩
        · exact Or.inl hown
        · exact Or.inr ⟨b, hb, (ih b hb).2 ⟨n, hn, hown⟩⟩

theorem rowsAll_eq (ms : List MessageBinding) :
    rowsAll ms = ms.flatMap MessageBinding.rows := by
  induction ms with
  | nil => rfl
  | cons m rest ih => rw [rowsAll, ih, List.flatMap_cons]

theorem MessageBinding.mem_rows {m : MessageBinding} {row : TableRow} :
    row ∈ m.rows ↔ ∃ n, Nested MessageBinding.messages n m ∧ row ∈ n.ownRows := by
  refine MessageBinding.mem_iff_nested (fun m row => ?_) m
  cases m
  simp only [rows, ownRows, rowsAll_eq, List.mem_append, List.mem_flatMap, or_right_comm]

/-- The rows of a page are what it shows. -/
theorem PageBindings.mem_rows {p : PageBindings} {row : TableRow} :
    row ∈ p.rows ↔ p.Shows row := by
  simp only [PageBindings.rows, rowsAll_eq, List.mem_append, List.mem_flatMap,
    MessageBinding.mem_rows, MessageBinding.ownRows, EnumBinding.rows,
    ServiceBinding.rows, List.mem_map]
  constructor
  · rintro ((⟨top, htop, m, hm, ⟨f, hf, rfl⟩ | ⟨e, he, v, hv, rfl⟩⟩ |
      ⟨e, he, v, hv, rfl⟩) | ⟨s, hs, x, hx, rfl⟩)
    · exact .field ⟨top, htop, hm⟩ hf
    · exact .nestedValue ⟨top, htop, hm⟩ he hv
    · exact .value he hv
    · exact .method hs hx
  · intro h
    cases h with
    | field hm hf =>
        obtain ⟨top, htop, hm⟩ := hm
        exact Or.inl (Or.inl ⟨top, htop, _, hm, Or.inl ⟨_, hf, rfl⟩⟩)
    | nestedValue hm he hv =>
        obtain ⟨top, htop, hm⟩ := hm
        exact Or.inl (Or.inl ⟨top, htop, _, hm, Or.inr ⟨_, he, _, hv, rfl⟩⟩)
    | value he hv => exact Or.inl (Or.inr ⟨_, he, _, hv, rfl⟩)
    | method hs hx => exact Or.inr ⟨_, hs, _, hx, rfl⟩

/-! ## Tables of a page -/

/-- Behind the front matter of a text everything that a page shows is a row of a
table, and on a line of its own if nothing in it breaks the line. -/
structure PageBindings.TabledIn (p : PageBindings) (text : String) : Prop where
  tabled : Tabled p.rows (behindFrontMatter text)
  line : ∀ row : TableRow, p.Shows row → row.Flat →
    row.line ∈ Text.splitOn '\n' (behindFrontMatter text)

theorem PageBindings.tabledIn_page (p : PageBindings) : p.TabledIn (Layout.page p) := by
  have htabled : Tabled p.rows (behindFrontMatter (Layout.page p)) := by
    rw [behindFrontMatter_page]
    exact tabled_body p
  refine ⟨htabled, fun row hshows hflat => ?_⟩
  exact htabled.line_mem_splitOn (PageBindings.mem_rows.2 hshows)
    (row.lacks_lineEnd_line.2 hflat)

/-- Behind the front matter of a page in the built-in layout everything that
the page shows is a row of a table. A row has the bars of its cells and no
other, and it is one line of the text exactly if the names, types and groups
in it have no line end. -/
theorem layOut_builtIn_tabled (p : PageBindings) :
    ∃ text, Layout.Style.builtIn.layOut p = .ok text ∧
      Tabled p.rows (behindFrontMatter text) ∧
      ∀ row : TableRow, (row ∈ p.rows ↔ p.Shows row) ∧
        row.line.toList.count '|' = row.bars ∧ (Lacks '\n' row.line ↔ row.Flat) ∧
        (p.Shows row → row.Flat →
          row.line ∈ Text.splitOn '\n' (behindFrontMatter text)) := by
  have h := p.tabledIn_page
  exact ⟨Layout.page p, rfl, h.tabled, fun row => ⟨PageBindings.mem_rows,
    row.count_bar_line, row.lacks_lineEnd_line, h.line row⟩⟩

/-- A field whose name has a line end. -/
def broken : Value := .object [("files", .list [.object [
  ("path", .text "a.proto"), ("package", .text "p"),
  ("messages", .list [.object [
    ("name", .text "M"),
    ("fields", .list [.object [("name", .text "a\nb"), ("type", .text "int32")]])]])]])]

/-- The row of the field is on two lines. -/
theorem row_broken :
    ∃ schema r site p, Accepted broken (.text "") schema r site ∧ p ∈ site.pages ∧
      ∃ row, (p.bind site.links).Shows row ∧ row.line = "| a\nb | int32 | optional |  |" ∧
        ¬ Lacks '\n' row.line := by
  have hrow : ∃ schema r site p f, Accepted broken (.text "") schema r site ∧
    p ∈ site.pages ∧
      (p.bind site.links).rows = [.field f] ∧
      (TableRow.field f).line = "| a\nb | int32 | optional |  |" :=
    ⟨_, _, _, _, _, ⟨rfl, rfl, rfl⟩, List.mem_cons_self, rfl, rfl⟩
  obtain ⟨schema, r, site, p, f, h, hp, hrows, hline⟩ := hrow
  refine ⟨schema, r, site, p, h, hp, .field f, ?_, hline, ?_⟩
  · rw [← PageBindings.mem_rows, hrows]
    exact List.mem_cons_self
  · rw [hline]
    decide

end SchemaDocs
