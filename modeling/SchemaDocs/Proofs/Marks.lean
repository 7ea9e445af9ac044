import SchemaDocs.Proofs.TableRows

/-!
# The anchors and links of a page

The built-in layout writes two things that something else on a page, or on
another, has to find again: the anchor of a declaration, with its full name as
the value of an attribute, and a link, with a label in brackets and the place
that it leads to in parentheses. `Mark` is one of these, and `marks` lists
those of a page: a link for every import and every type that leads somewhere,
and an anchor for every declaration, in the order of the page.

`Marked` says where they stand. It goes through a text piece by piece; a piece
is a mark, or a text of the schema, escaped, or a text of the layout in which
no anchor and no link starts. So beside the marks the layout writes no anchor
and no link. All texts of the layout are known, and `Marked` goes along with
putting texts behind each other, so there is one lemma for each piece of the
layout, along the nesting of messages.
-/

namespace SchemaDocs

/-! ## Marks -/

/-- The anchor of a declaration, or a link. -/
inductive Mark
  | anchor (fullName : String)
  | link (label href : String)
deriving DecidableEq, Repr

/-- A mark as the layout writes it. -/
def Mark.text : Mark → String
  | .anchor fullName => "<a id=\"" ++ Text.escapeMdx fullName ++ "\"></a>"
  | .link label href => "[" ++ Text.escapeMdx label ++ "](" ++ Text.escapeMdx href ++ ")"

/-- Without a place to lead to, a label is no link. -/
def linkMarks (label : String) (href : Option String) : List Mark :=
  href.toList.map (.link label)

/-! The marks of a page, in the order of its declarations. -/

def TypeBinding.marks (t : TypeBinding) : List Mark := linkMarks t.label t.href

def FieldBinding.marks (f : FieldBinding) : List Mark :=
  f.shownTypes.flatMap TypeBinding.marks

def EnumBinding.marks (e : EnumBinding) : List Mark := [.anchor e.fullName]

def MethodBinding.marks (m : MethodBinding) : List Mark :=
  m.request.marks ++ m.response.marks

def ServiceBinding.marks (s : ServiceBinding) : List Mark :=
  .anchor s.fullName :: s.methods.flatMap MethodBinding.marks

def DependencyBinding.marks (d : DependencyBinding) : List Mark := linkMarks d.path d.href

mutual

def MessageBinding.marks : MessageBinding → List Mark
  | ⟨_, fullName, _, fields, messages, enums⟩ =>
    .anchor fullName :: fields.flatMap FieldBinding.marks ++ marksAll messages ++
      enums.flatMap EnumBinding.marks

def marksAll : List MessageBinding → List Mark
  | [] => []
  | m :: rest => m.marks ++ marksAll rest

end

def PageBindings.marks (p : PageBindings) : List Mark :=
  p.dependencies.flatMap DependencyBinding.marks ++
    (marksAll p.messages ++ p.enums.flatMap EnumBinding.marks ++
      p.services.flatMap ServiceBinding.marks)

/-! ## Where the marks stand -/

/-- No anchor and no link starts in a text. -/
def Unmarked (s : String) : Prop := Lacks '<' s ∧ Lacks '[' s

instance (s : String) : Decidable (Unmarked s) := inferInstanceAs (Decidable (_ ∧ _))

/-- A text in which some marks stand in their order, between texts of the schema
and texts of the layout. -/
inductive Marked : List Mark → String → Prop
  | nil : Marked [] ""
  | schema {marks : List Mark} {rest : String} (s : String)
      (hrest : Marked marks rest) : Marked marks (Text.escapeMdx s ++ rest)
  | layout {marks : List Mark} {s rest : String} (h : Unmarked s)
      (hrest : Marked marks rest) : Marked marks (s ++ rest)
  | mark {marks : List Mark} {rest : String} (m : Mark)
      (hrest : Marked marks rest) : Marked (m :: marks) (m.text ++ rest)

namespace Marked

variable {marks others : List Mark} {a b : String}

theorem append (ha : Marked marks a) (hb : Marked others b) :
    Marked (marks ++ others) (a ++ b) := by
  induction ha with
  | nil => rwa [String.empty_append]
  | schema s _ ih =>
      rw [String.append_assoc]
      exact .schema s ih
  | layout h _ ih =>
      rw [String.append_assoc]
      exact .layout h ih
  | mark m _ ih =>
      rw [String.append_assoc]
      exact .mark m ih

theorem append_plain (ha : Marked marks a) (hb : Marked [] b) :
    Marked marks (a ++ b) := by
  simpa using ha.append hb

/-- A text of the layout behind what has marks. -/
theorem append_layout (ha : Marked marks a) (hb : Unmarked b) :
    Marked marks (a ++ b) := by
  have hlayout : Marked [] (b ++ "") := .layout hb .nil
  rw [String.append_empty] at hlayout
  exact ha.append_plain hlayout

/-- A text of the schema behind what has marks. -/
theorem append_schema (ha : Marked marks a) (s : String) :
    Marked marks (a ++ Text.escapeMdx s) := by
  have hschema : Marked [] (Text.escapeMdx s ++ "") := .schema s .nil
  rw [String.append_empty] at hschema
  exact ha.append_plain hschema

theorem each {α : Type} {marksOf : α → List Mark} {render : α → String}
    (h : ∀ x, Marked (marksOf x) (render x)) :
    ∀ xs : List α, Marked (xs.flatMap marksOf) (Layout.each render xs) := by
  intro xs
  induction xs with
  | nil => exact .nil
  | cons x rest ih => exact (h x).append ih

/-- A part of the page with a title has the marks of what is in it. -/
theorem titled {α : Type} {xs : List α} {body : String} (title : String)
    (marksOf : List α → List Mark) (hnone : marksOf [] = [])
    (htitle : Unmarked title) (hbody : Marked (marksOf xs) body) :
    Marked (marksOf xs) (Layout.titled title xs.isEmpty body) := by
  rw [Layout.titled]
  split
  · next h =>
      rw [List.isEmpty_iff.1 h, hnone]
      exact .nil
  · exact .layout htitle hbody

end Marked

theorem marked_layout {s : String} (h : Unmarked s) : Marked [] s := by
  simpa using Marked.nil.append_layout h

theorem marked_schema (s : String) : Marked [] (Text.escapeMdx s) := by
  simpa using Marked.nil.append_schema s

theorem marked_mark (m : Mark) : Marked [m] m.text := by
  have hmark : Marked [m] (m.text ++ "") := .mark m .nil
  rwa [String.append_empty] at hmark

theorem marked_ite {p : Prop} [Decidable p] {s : String} (h : Marked [] s) :
    Marked [] (if p then "" else s) := by
  split
  · exact .nil
  · exact h

/-! ## Pieces of the layout -/

theorem marked_link (label : String) (href : Option String) :
    Marked (linkMarks label href) (Layout.link label href) := by
  cases href with
  | none => exact marked_schema label
  | some href => exact marked_mark (.link label href)

theorem marked_typeRef (t : TypeBinding) : Marked t.marks (Layout.typeRef t) :=
  marked_link t.label t.href

theorem marked_fieldType (f : FieldBinding) : Marked f.marks (Layout.fieldType f) := by
  rw [FieldBinding.marks, FieldBinding.shownTypes, Layout.fieldType]
  cases f.map with
  | none => simpa using marked_typeRef f.type
  | some types =>
      obtain ⟨key, value⟩ := types
      have hkey :=
        (marked_layout (s := "map&lt;") (by decide)).append (marked_typeRef key)
      have hvalue :=
        (hkey.append_layout (b := ", ") (by decide)).append (marked_typeRef value)
      simpa using hvalue.append_layout (b := "&gt;") (by decide)

theorem unmarked_heading (level : Nat) : Unmarked (Layout.heading level) := by
  have hlacks {c : Char} (hc : c ≠ '#') : Lacks c (Layout.heading level) := by
    intro h
    rw [Layout.heading, String.toList_ofList] at h
    exact hc (List.eq_of_mem_replicate h)
  exact ⟨hlacks (by decide), hlacks (by decide)⟩

theorem marked_opening (level : Nat) (fullName name description : String) :
    Marked [.anchor fullName] (Layout.opening level fullName name description) := by
  have hanchor : Marked [.anchor fullName] (Layout.anchor fullName) := by
    -- the end of the anchor stands in one text with the empty line below it
    have hend : ("\"></a>\n\n" : String) = "\"></a>" ++ "\n\n" := rfl
    rw [Layout.anchor, hend, ← String.append_assoc]
    exact (marked_mark (.anchor fullName)).append_layout (by decide)
  have hheading :=
    (hanchor.append_layout (unmarked_heading level)).append_layout (b := " ")
      (by decide)
  have hname := (hheading.append_schema name).append_layout (b := "\n\n") (by decide)
  have hdescription := (marked_schema description).append_layout (b := "\n\n") (by decide)
  exact hname.append_plain (marked_ite hdescription)

theorem marked_dependency (d : DependencyBinding) :
    Marked d.marks (Layout.dependency d) :=
  ((marked_layout (s := "- ") (by decide)).append
    (marked_link d.path d.href)).append_layout (by decide)

/-! ## Rows and tables -/

theorem marked_oneofNote (oneof : Option Value) : Marked [] (Layout.oneofNote oneof) := by
  cases oneof with
  | none => exact .nil
  | some v =>
      exact ((marked_layout (s := " (oneof ") (by decide)).append_schema
        v.display).append_layout (by decide)

theorem marked_enumRow (v : EnumValue) : Marked [] (Layout.enumRow v) := by
  have hname :=
    ((marked_layout (s := "| ") (by decide)).append_schema v.name).append_layout
      (b := " | ") (by decide)
  have hnumber :=
    (hname.append_schema (toString v.number)).append_layout (b := " | ") (by decide)
  exact (hnumber.append_schema (Text.oneLine v.description)).append_layout (by decide)

theorem marked_fieldRow (f : FieldBinding) : Marked f.marks (Layout.fieldRow f) := by
  have hname :=
    ((marked_layout (s := "| ") (by decide)).append_schema f.name).append_layout
      (b := " | ") (by decide)
  have htype := (hname.append (marked_fieldType f)).append_layout (b := " | ") (by decide)
  have hlabel := (htype.append_schema f.label.text).append_layout (b := " | ") (by decide)
  have hdescription := hlabel.append_schema (Text.oneLine f.description)
  exact (hdescription.append_plain (marked_oneofNote f.oneof)).append_layout (by decide)

theorem marked_streamed (streaming : Bool) (t : TypeBinding) :
    Marked t.marks (Layout.streamed streaming t) := by
  have hstream : Marked [] (if streaming then "stream " else "") := by
    split
    · exact marked_layout (by decide)
    · exact .nil
  exact hstream.append (marked_typeRef t)

theorem marked_methodRow (m : MethodBinding) : Marked m.marks (Layout.methodRow m) := by
  have hname :=
    ((marked_layout (s := "| ") (by decide)).append_schema m.name).append_layout
      (b := " | ") (by decide)
  have hrequest :=
    (hname.append (marked_streamed m.clientStreaming m.request)).append_layout
      (b := " | ") (by decide)
  have hresponse :=
    (hrequest.append (marked_streamed m.serverStreaming m.response)).append_layout
      (b := " | ") (by decide)
  exact (hresponse.append_schema (Text.oneLine m.description)).append_layout (by decide)

theorem marked_enum (level : Nat) (e : EnumBinding) :
    Marked e.marks (Layout.enum level e) := by
  have hrows : Marked [] (Layout.each Layout.enumRow e.entries) := by
    have hnone : e.entries.flatMap (fun _ => ([] : List Mark)) = [] :=
      List.flatMap_eq_nil_iff.2 fun _ _ => rfl
    exact hnone ▸ Marked.each marked_enumRow e.entries
  have hhead := (marked_opening level e.fullName e.name e.description).append_layout
    (b := Layout.valueTableHead) (by decide)
  exact (hhead.append_plain hrows).append_layout (by decide)

theorem marked_fieldTable (fields : List FieldBinding) :
    Marked (fields.flatMap FieldBinding.marks) (Layout.fieldTable fields) := by
  rw [Layout.fieldTable]
  split
  · next h =>
      rw [List.isEmpty_iff.1 h]
      exact .nil
  · have hhead := marked_layout (s := Layout.fieldTableHead) (by decide)
    exact (hhead.append (Marked.each marked_fieldRow fields)).append_layout (by decide)

theorem marked_service (level : Nat) (s : ServiceBinding) :
    Marked s.marks (Layout.service level s) := by
  have hhead := (marked_opening level s.fullName s.name s.description).append_layout
    (b := Layout.methodTableHead) (by decide)
  exact (hhead.append (Marked.each marked_methodRow s.methods)).append_layout (by decide)

/-! ## The page -/

theorem marked_enums (level : Nat) (es : List EnumBinding) :
    Marked (es.flatMap EnumBinding.marks)
      (Layout.each (fun e => Layout.enum level e ++ "\n") es) :=
  Marked.each (fun e => (marked_enum level e).append_layout (by decide)) es

theorem marked_services (level : Nat) (ss : List ServiceBinding) :
    Marked (ss.flatMap ServiceBinding.marks)
      (Layout.each (fun s => Layout.service level s ++ "\n") ss) :=
  Marked.each (fun s => (marked_service level s).append_layout (by decide)) ss

mutual

theorem marked_message (level : Nat) : ∀ m : MessageBinding,
    Marked m.marks (Layout.message level m)
  | ⟨name, fullName, description, fields, messages, enums⟩ => by
      rw [MessageBinding.marks, Layout.message]
      have hopening := marked_opening level fullName name description
      have htable := hopening.append (marked_fieldTable fields)
      exact (htable.append (marked_nested (level + 1) messages)).append
        (marked_enums (level + 1) enums)

theorem marked_nested (level : Nat) : ∀ ms : List MessageBinding,
    Marked (marksAll ms) (Layout.nested level ms)
  | [] => .nil
  | m :: rest => by
      rw [marksAll, Layout.nested]
      have hmessage := (marked_message level m).append_layout (b := "\n") (by decide)
      exact hmessage.append (marked_nested level rest)

end

theorem marked_sections (p : PageBindings) :
    Marked (marksAll p.messages ++ p.enums.flatMap EnumBinding.marks ++
      p.services.flatMap ServiceBinding.marks) (Layout.sections p) := by
  have hmessages := Marked.titled "## Messages\n\n" marksAll rfl (by decide)
    (marked_nested 3 p.messages)
  have henums := Marked.titled "## Enums\n\n" (List.flatMap EnumBinding.marks) rfl
    (by decide) (marked_enums 3 p.enums)
  have hservices := Marked.titled "## Services\n\n"
    (List.flatMap ServiceBinding.marks) rfl (by decide) (marked_services 3 p.services)
  exact (hmessages.append henums).append hservices

/-- Everything behind the front matter is a mark, a text of the schema or a text
of the layout. -/
theorem marked_body (p : PageBindings) : Marked p.marks (Layout.body p) := by
  have htitle :=
    ((marked_layout (s := "\n# ") (by decide)).append_schema p.title).append_layout
      (b := "\n\n") (by decide)
  have hpackage := ((marked_layout (s := "Package: **") (by decide)).append_schema
    p.package).append_layout (b := "**\n\n") (by decide)
  have hdescription :=
    (marked_schema p.description).append_layout (b := "\n\n") (by decide)
  have himports := Marked.titled "Imports:\n\n" (List.flatMap DependencyBinding.marks)
    rfl (by decide)
    ((Marked.each marked_dependency p.dependencies).append_layout (b := "\n") (by decide))
  exact (((htitle.append_plain (marked_ite hpackage)).append_plain
    (marked_ite hdescription)).append himports).append (marked_sections p)

/-! ## What has a mark -/

/-- A type that a page shows: of a field, for a map those of its keys and its
values, or of what a method takes or gives. -/
inductive PageBindings.ShowsType (p : PageBindings) : TypeBinding → Prop
  | field {m : MessageBinding} {f : FieldBinding} {t : TypeBinding} (hm : p.HasMessage m)
      (hf : f ∈ m.fields) (ht : t ∈ f.shownTypes) : ShowsType p t
  | request {s : ServiceBinding} {x : MethodBinding} (hs : s ∈ p.services)
      (hx : x ∈ s.methods) : ShowsType p x.request
  | response {s : ServiceBinding} {x : MethodBinding} (hs : s ∈ p.services)
      (hx : x ∈ s.methods) : ShowsType p x.response

/-- A page has an anchor for every declaration, and a link for every type that
it shows and for every import, if these lead somewhere. -/
inductive PageBindings.Emits (p : PageBindings) : Mark → Prop
  | anchor {kind : EntityKind} {fullName : String} (h : p.HasAnchor kind fullName) :
      Emits p (.anchor fullName)
  | type {t : TypeBinding} {href : String} (h : p.ShowsType t)
    (hhref : t.href = some href) :
      Emits p (.link t.label href)
  | imported {d : DependencyBinding} {href : String} (h : d ∈ p.dependencies)
      (hhref : d.href = some href) : Emits p (.link d.path href)

theorem mem_linkMarks {m : Mark} {label : String} {href : Option String} :
    m ∈ linkMarks label href ↔ ∃ place, href = some place ∧ m = .link label place := by
  simp only [linkMarks, List.mem_map, Option.mem_toList, eq_comm (a := m)]

/-- The marks of a message, without those of the messages nested in it. -/
def MessageBinding.ownMarks (m : MessageBinding) : List Mark :=
  .anchor m.fullName :: m.fields.flatMap FieldBinding.marks ++
    m.enums.flatMap EnumBinding.marks

theorem marksAll_eq (ms : List MessageBinding) :
    marksAll ms = ms.flatMap MessageBinding.marks := by
  induction ms with
  | nil => rfl
  | cons m rest ih => rw [marksAll, ih, List.flatMap_cons]

theorem MessageBinding.mem_marks {m : MessageBinding} {mark : Mark} :
    mark ∈ m.marks ↔ ∃ n, Nested MessageBinding.messages n m ∧ mark ∈ n.ownMarks := by
  refine MessageBinding.mem_iff_nested (fun m mark => ?_) m
  cases m
  simp only [marks, ownMarks, marksAll_eq, List.mem_append, List.mem_flatMap,
    or_right_comm]

theorem MessageBinding.mem_ownMarks {m : MessageBinding} {mark : Mark} :
    mark ∈ m.ownMarks ↔ mark = .anchor m.fullName ∨
      (∃ f ∈ m.fields, ∃ t ∈ f.shownTypes, mark ∈ t.marks) ∨
      ∃ e ∈ m.enums, mark = .anchor e.fullName := by
  simp only [ownMarks, FieldBinding.marks, EnumBinding.marks,
    List.cons_append, List.mem_cons, List.mem_append, List.mem_flatMap,
    List.not_mem_nil, or_false]

theorem ServiceBinding.mem_marks {s : ServiceBinding} {mark : Mark} :
    mark ∈ s.marks ↔ mark = .anchor s.fullName ∨
      ∃ x ∈ s.methods, mark ∈ x.request.marks ∨ mark ∈ x.response.marks := by
  simp only [marks, MethodBinding.marks, List.mem_cons, List.mem_flatMap, List.mem_append]

namespace PageBindings

variable {p : PageBindings} {mark : Mark}

/-- The marks of a page, by the part of the page that has them. -/
theorem mem_marks_parts :
    mark ∈ p.marks ↔ (∃ d ∈ p.dependencies, mark ∈ d.marks) ∨
      (∃ m, p.HasMessage m ∧ mark ∈ m.ownMarks) ∨
      (∃ e ∈ p.enums, mark = .anchor e.fullName) ∨ ∃ s ∈ p.services, mark ∈ s.marks := by
  have hmessages :
      mark ∈ marksAll p.messages ↔ ∃ m, p.HasMessage m ∧ mark ∈ m.ownMarks := by
    simp only [marksAll_eq, List.mem_flatMap, MessageBinding.mem_marks, HasMessage]
    constructor
    · rintro ⟨top, htop, m, hm, hmark⟩
      exact ⟨m, ⟨top, htop, hm⟩, hmark⟩
    · rintro ⟨m, ⟨top, htop, hm⟩, hmark⟩
      exact ⟨top, htop, m, hm, hmark⟩
  simp only [marks, EnumBinding.marks, List.mem_append, hmessages, List.mem_flatMap,
    List.mem_singleton, or_assoc]

theorem HasMessage.emits {m : MessageBinding} (hm : p.HasMessage m)
    (h : mark ∈ m.ownMarks) :
    p.Emits mark := by
  rcases MessageBinding.mem_ownMarks.1 h with rfl | ⟨f, hf, t, ht, hmark⟩ | ⟨e, he, rfl⟩
  · exact .anchor (.message hm)
  · obtain ⟨href, hhref, rfl⟩ := mem_linkMarks.1 hmark
    exact .type (.field hm hf ht) hhref
  · exact .anchor (.nestedEnum hm he)

theorem emits_of_service {s : ServiceBinding} (hs : s ∈ p.services) (h : mark ∈ s.marks) :
    p.Emits mark := by
  rcases ServiceBinding.mem_marks.1 h with rfl | ⟨x, hx, hmark | hmark⟩
  · exact .anchor (.service hs)
  · obtain ⟨href, hhref, rfl⟩ := mem_linkMarks.1 hmark
    exact .type (.request hs hx) hhref
  · obtain ⟨href, hhref, rfl⟩ := mem_linkMarks.1 hmark
    exact .type (.response hs hx) hhref

theorem HasAnchor.mem_marks {kind : EntityKind} {name : String}
    (h : p.HasAnchor kind name) :
    .anchor name ∈ p.marks := by
  rw [mem_marks_parts]
  cases h with
  | message hm =>
    exact Or.inr (Or.inl ⟨_, hm, MessageBinding.mem_ownMarks.2 (Or.inl rfl)⟩)
  | nestedEnum hm he =>
      exact Or.inr
        (Or.inl ⟨_, hm, MessageBinding.mem_ownMarks.2 (Or.inr (Or.inr ⟨_, he, rfl⟩))⟩)
  | enum he => exact Or.inr (Or.inr (Or.inl ⟨_, he, rfl⟩))
  | service hs =>
      exact Or.inr (Or.inr (Or.inr ⟨_, hs, ServiceBinding.mem_marks.2 (Or.inl rfl)⟩))

theorem ShowsType.mem_marks {t : TypeBinding} (h : p.ShowsType t)
    (hmark : mark ∈ t.marks) :
    mark ∈ p.marks := by
  rw [mem_marks_parts]
  cases h with
  | field hm hf ht =>
      exact Or.inr (Or.inl ⟨_, hm,
        MessageBinding.mem_ownMarks.2 (Or.inr (Or.inl ⟨_, hf, t, ht, hmark⟩))⟩)
  | request hs hx =>
      exact Or.inr (Or.inr (Or.inr ⟨_, hs,
        ServiceBinding.mem_marks.2 (Or.inr ⟨_, hx, Or.inl hmark⟩)⟩))
  | response hs hx =>
      exact Or.inr (Or.inr (Or.inr ⟨_, hs,
        ServiceBinding.mem_marks.2 (Or.inr ⟨_, hx, Or.inr hmark⟩)⟩))

/-- The marks of a page are what it emits. -/
theorem mem_marks : mark ∈ p.marks ↔ p.Emits mark := by
  constructor
  · intro h
    rcases mem_marks_parts.1 h with ⟨d, hd, hmark⟩ | ⟨m, hm, hmark⟩ |
      ⟨e, he, rfl⟩ | ⟨s, hs, hmark⟩
    · obtain ⟨href, hhref, rfl⟩ := mem_linkMarks.1 hmark
      exact .imported hd hhref
    · exact hm.emits hmark
    · exact .anchor (.enum he)
    · exact emits_of_service hs hmark
  · intro h
    cases h with
    | anchor h => exact h.mem_marks
    | type h hhref => exact h.mem_marks (mem_linkMarks.2 ⟨_, hhref, rfl⟩)
    | imported hd hhref =>
        exact mem_marks_parts.2 (Or.inl ⟨_, hd, mem_linkMarks.2 ⟨_, hhref, rfl⟩⟩)

end PageBindings

end SchemaDocs
