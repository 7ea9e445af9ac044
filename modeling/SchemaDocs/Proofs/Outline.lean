import SchemaDocs.Layout.Custom
import SchemaDocs.Proofs.Escaping
import SchemaDocs.Proofs.FrontMatter

/-!
# The outline of a page

Below its front matter a page in the built-in layout announces everything that
its file declares: with an anchor, and with a heading below it. `File.outline`
lists what is to be announced, a message before what is nested in it and that
in its order, each with how deep it is nested. `Outlined` says that a text
announces exactly that, one after the other, and that no tag stands between.

Every piece of the layout is one of two kinds. Most are inert: they are put
together from fixed texts and escaped ones, and no tag can start in them. The
others open a declaration and are inert behind it. Inert texts may be put in
front of an outlined one and outlined ones behind each other, so the layout is
gone through once, along the nesting of messages.
-/

namespace SchemaDocs

/-! ## What is announced -/

/-- A declaration as a page announces it. -/
structure OutlineItem where
  depth : Nat
  fullName : String
  name : String
deriving DecidableEq, Repr

/-- The anchor and the heading of a declaration. -/
def OutlineItem.opening (item : OutlineItem) : String :=
  "<a id=\"" ++ Text.escapeMdx item.fullName ++ "\"></a>\n\n" ++
    String.ofList (List.replicate (min 6 (3 + item.depth)) '#') ++ " " ++
    Text.escapeMdx item.name ++ "\n"

def EnumDef.outlineItem (depth : Nat) (e : EnumDef) : OutlineItem :=
  ⟨depth, e.fullName, e.name⟩

def Service.outlineItem (s : Service) : OutlineItem := ⟨0, s.fullName, s.name⟩

mutual

/-- A message, then the messages nested in it, then its enums. -/
def Message.outline (depth : Nat) : Message → List OutlineItem
  | ⟨name, fullName, _, messages, enums, _, _⟩ =>
    ⟨depth, fullName, name⟩ ::
      (outlineAll (depth + 1) messages ++ enums.map (EnumDef.outlineItem (depth + 1)))

def outlineAll (depth : Nat) : List Message → List OutlineItem
  | [] => []
  | m :: rest => m.outline depth ++ outlineAll depth rest

end

def File.outline (f : File) : List OutlineItem :=
  outlineAll 0 f.messages ++ f.enums.map (EnumDef.outlineItem 0) ++
    f.services.map Service.outlineItem

/-- A text that announces some declarations, with texts of a kind before,
between and behind them. -/
inductive Outlined (between : String → Prop) : List OutlineItem → String → Prop
  | plain {s : String} (h : between s) : Outlined between [] s
  | item {item : OutlineItem} {items : List OutlineItem} {before after : String}
      (hbefore : between before) (hafter : Outlined between items after) :
      Outlined between (item :: items) (before ++ item.opening ++ after)

/-- A text without a tag. -/
def Tagless (s : String) : Prop := '<' ∉ s.toList ∧ '>' ∉ s.toList

/-- What starts an expression or a piece of code. -/
def codeStarts : List Char := ['{', '}', '`']

/-- A text in which no tag starts, no expression and no piece of code. -/
def Inert (s : String) : Prop := Text.Escaped ('<' :: '>' :: codeStarts) s.toList

/-! ## Inert texts -/

section

variable {a b : String}

theorem Inert.append (ha : Inert a) (hb : Inert b) : Inert (a ++ b) := by
  rw [Inert, String.toList_append]
  exact Text.Escaped.append ha hb

/-- A text of the layout itself. -/
theorem inert_ofList {cs : List Char}
    (h : cs.all fun c => c ≠ '&' ∧ c ∉ '<' :: '>' :: codeStarts) :
    Inert (String.ofList cs) := by
  rw [Inert, String.toList_ofList]
  exact Text.Escaped.of_all h

theorem inert_empty : Inert "" := .nil

theorem inert_lineEnd : Inert "\n" := inert_ofList (by decide)

theorem inert_escapeMdx (s : String) : Inert (Text.escapeMdx s) := by
  rw [Inert, Text.escapeMdx, String.toList_ofList]
  exact (Text.Escaped.escapeMdxChars s.toList).mono (by decide)

theorem inert_ite {p : Prop} [Decidable p] (ha : Inert a) (hb : Inert b) :
    Inert (if p then a else b) := by
  split
  · exact ha
  · exact hb

theorem inert_each {α : Type} {render : α → String} (h : ∀ x, Inert (render x)) :
    ∀ xs : List α, Inert (Layout.each render xs) := by
  intro xs
  induction xs with
  | nil => exact inert_empty
  | cons x rest ih => exact (h x).append ih

end

/-! ## Outlined texts -/

namespace Outlined

variable {items others : List OutlineItem} {a b : String}

theorem inert_append (ha : Inert a) (hb : Outlined Inert items b) :
    Outlined Inert items (a ++ b) := by
  cases hb with
  | plain h => exact .plain (ha.append h)
  | item hbefore hafter =>
      rw [← String.append_assoc, ← String.append_assoc]
      exact .item (ha.append hbefore) hafter

theorem append (ha : Outlined Inert items a) (hb : Outlined Inert others b) :
    Outlined Inert (items ++ others) (a ++ b) := by
  induction ha with
  | plain h => exact hb.inert_append h
  | item hbefore _ ih =>
      rw [String.append_assoc]
      exact .item hbefore ih

theorem append_inert (ha : Outlined Inert items a) (hb : Inert b) :
    Outlined Inert items (a ++ b) := by
  simpa using ha.append (.plain hb)

/-- Declarations that are bound and laid out one by one. -/
theorem each {α β : Type} {item : α → OutlineItem} {bound : α → β}
    {render : β → String} (h : ∀ x, Outlined Inert [item x] (render (bound x))) :
    ∀ xs : List α, Outlined Inert (xs.map item) (Layout.each render (xs.map bound)) := by
  intro xs
  induction xs with
  | nil => exact .plain inert_empty
  | cons x rest ih => exact (h x).append ih

end Outlined

/-! ## The pieces of the layout -/

theorem inert_link (label : String) (href : Option String) :
    Inert (Layout.link label href) := by
  cases href with
  | none => exact inert_escapeMdx label
  | some href =>
      rw [Layout.link]
      exact ((((inert_ofList (by decide)).append (inert_escapeMdx label)).append
        (inert_ofList (by decide))).append (inert_escapeMdx href)).append
        (inert_ofList (by decide))

theorem inert_typeRef (t : TypeBinding) : Inert (Layout.typeRef t) :=
  inert_link t.label t.href

/-- The angle brackets around the types of a map are written as entities. -/
theorem inert_fieldType (f : FieldBinding) : Inert (Layout.fieldType f) := by
  have hopen : Inert "map&lt;" :=
    .char (by decide) (by decide) (.char (by decide) (by decide)
      (.char (by decide) (by decide) (.entity (e := "&lt;") (by decide) .nil)))
  have hclose : Inert "&gt;" := .entity (e := "&gt;") (by decide) .nil
  rw [Layout.fieldType]
  split
  · next key value _ =>
      exact (((hopen.append (inert_typeRef key)).append
        (inert_ofList (by decide))).append (inert_typeRef value)).append hclose
  · exact inert_typeRef f.type

theorem inert_cell (description : String) : Inert (Layout.cell description) :=
  inert_escapeMdx _

/-! A row of a table is cells between bars. -/

theorem Inert.rowStart {a : String} (h : Inert a) : Inert ("| " ++ a) :=
  (inert_ofList (by decide)).append h

theorem Inert.bar {a b : String} (ha : Inert a) (hb : Inert b) :
    Inert (a ++ " | " ++ b) :=
  (ha.append (inert_ofList (by decide))).append hb

theorem Inert.rowEnd {a : String} (h : Inert a) : Inert (a ++ " |\n") :=
  h.append (inert_ofList (by decide))

theorem inert_enumRow (v : EnumValue) : Inert (Layout.enumRow v) :=
  (((inert_escapeMdx v.name).rowStart.bar (inert_escapeMdx _)).bar
    (inert_cell v.description)).rowEnd

theorem inert_oneofNote (oneof : Option Value) : Inert (Layout.oneofNote oneof) := by
  cases oneof with
  | none => exact inert_empty
  | some v =>
      exact ((inert_ofList (by decide)).append (inert_escapeMdx v.display)).append
        (inert_ofList (by decide))

theorem inert_fieldRow (f : FieldBinding) : Inert (Layout.fieldRow f) :=
  (((((inert_escapeMdx f.name).rowStart.bar (inert_fieldType f)).bar
    (inert_escapeMdx f.label.text)).bar (inert_cell f.description)).append
    (inert_oneofNote f.oneof)).rowEnd

theorem inert_fieldTable (fields : List FieldBinding) :
    Inert (Layout.fieldTable fields) :=
  inert_ite inert_empty (((inert_ofList (by decide)).append
    (inert_each inert_fieldRow fields)).append (inert_ofList (by decide)))

theorem inert_streamed (streaming : Bool) (t : TypeBinding) :
    Inert (Layout.streamed streaming t) :=
  (inert_ite (inert_ofList (by decide)) inert_empty).append (inert_typeRef t)

theorem inert_methodRow (m : MethodBinding) : Inert (Layout.methodRow m) :=
  ((((inert_escapeMdx m.name).rowStart.bar (inert_streamed _ m.request)).bar
    (inert_streamed _ m.response)).bar (inert_cell m.description)).rowEnd

/-- What opens a declaration announces it. -/
theorem outlined_opening (item : OutlineItem) (description : String) :
    Outlined Inert [item]
      (Layout.opening (3 + item.depth) item.fullName item.name description) := by
  have hrest : Inert ("\n" ++ (if description = "" then ""
      else Text.escapeMdx description ++ "\n\n")) :=
    (inert_ofList (by decide)).append
      (inert_ite inert_empty ((inert_escapeMdx _).append (inert_ofList (by decide))))
  have heq : Layout.opening (3 + item.depth) item.fullName item.name description =
      "" ++ item.opening ++ ("\n" ++ (if description = "" then ""
        else Text.escapeMdx description ++ "\n\n")) := by
    have hend : ("\n\n" : String) = "\n" ++ "\n" := rfl
    simp only [Layout.opening, Layout.anchor, Layout.heading, OutlineItem.opening,
      Nat.min_comm 6, hend, String.append_assoc, String.empty_append]
  rw [heq]
  exact .item inert_empty (.plain hrest)

theorem outlined_enum (depth : Nat) (e : EnumDef) :
    Outlined Inert [e.outlineItem depth] (Layout.enum (3 + depth) (bindEnum e)) := by
  have hopening := outlined_opening (e.outlineItem depth) e.description
  exact ((hopening.append_inert (inert_ofList (by decide))).append_inert
    (inert_each inert_enumRow e.values)).append_inert (inert_ofList (by decide))

theorem outlined_enums (depth : Nat) (es : List EnumDef) :
    Outlined Inert (es.map (EnumDef.outlineItem depth))
      (Layout.each (fun e => Layout.enum (3 + depth) e ++ "\n") (es.map bindEnum)) :=
  Outlined.each (fun e => (outlined_enum depth e).append_inert
    (inert_ofList (by decide))) es

theorem outlined_service (links : LinkTable) (s : Service) :
    Outlined Inert [s.outlineItem] (Layout.service 3 (bindService links s)) := by
  have hopening := outlined_opening s.outlineItem s.description
  exact ((hopening.append_inert (inert_ofList (by decide))).append_inert
    (inert_each inert_methodRow _)).append_inert (inert_ofList (by decide))

theorem outlined_services (links : LinkTable) (ss : List Service) :
    Outlined Inert (ss.map Service.outlineItem)
      (Layout.each (fun s => Layout.service 3 s ++ "\n") (ss.map (bindService links))) :=
  Outlined.each (fun s => (outlined_service links s).append_inert
    (inert_ofList (by decide))) ss

section

variable (links : LinkTable)

mutual

theorem outlined_message (depth : Nat) : ∀ m : Message,
    Outlined Inert (m.outline depth) (Layout.message (3 + depth) (bindMessage links m))
  | ⟨name, fullName, fields, messages, enums, description, _⟩ => by
      rw [Message.outline, bindMessage, Layout.message]
      have hopening := outlined_opening ⟨depth, fullName, name⟩ description
      have htable := hopening.append_inert
        (inert_fieldTable (fields.map (bindField links)))
      have hnested := outlined_nested (depth + 1) messages
      have henums := outlined_enums (depth + 1) enums
      exact (htable.append hnested).append henums

theorem outlined_nested (depth : Nat) : ∀ ms : List Message,
    Outlined Inert (outlineAll depth ms)
      (Layout.nested (3 + depth) (bindMessages links ms))
  | [] => .plain inert_empty
  | m :: rest => by
      rw [outlineAll, bindMessages, Layout.nested]
      have hmessage := outlined_message depth m
      have hend := hmessage.append_inert inert_lineEnd
      exact hend.append (outlined_nested depth rest)

end

end

/-! ## The page -/

/-- A part of the page with a title is announced by what is in it. -/
theorem Outlined.titled {items : List OutlineItem} {title body : String}
    {isEmpty : Bool} (htitle : Inert title) (hbody : Outlined Inert items body)
    (hempty : isEmpty = true → items = []) :
    Outlined Inert items (Layout.titled title isEmpty body) := by
  rw [Layout.titled]
  split
  · next h =>
      rw [hempty h]
      exact .plain inert_empty
  · exact hbody.inert_append htitle

theorem inert_dependency (d : DependencyBinding) : Inert (Layout.dependency d) :=
  ((inert_ofList (by decide)).append (inert_link d.path d.href)).append
    (inert_ofList (by decide))

theorem outlined_sections (links : LinkTable) (p : Page) :
    Outlined Inert p.file.outline (Layout.sections (p.bind links)) := by
  have hmessages := outlined_nested links 0 p.file.messages
  have henums := outlined_enums 0 p.file.enums
  have hservices := outlined_services links p.file.services
  rw [Layout.sections, File.outline]
  refine ((hmessages.titled (inert_ofList (by decide)) ?_).append
    (henums.titled (inert_ofList (by decide)) ?_)).append
    (hservices.titled (inert_ofList (by decide)) ?_)
  · cases hms : p.file.messages with
    | nil => exact fun _ => rfl
    | cons m rest => simp [Page.bind, hms, bindMessages]
  · simp [Page.bind]
  · simp [Page.bind]

theorem outlined_body (links : LinkTable) (p : Page) :
    Outlined Inert p.file.outline (Layout.body (p.bind links)) := by
  have htitle : Inert ("\n# " ++ Text.escapeMdx (p.bind links).title ++ "\n\n") :=
    ((inert_ofList (by decide)).append (inert_escapeMdx _)).append
      (inert_ofList (by decide))
  have hpackage : Inert (if (p.bind links).package = "" then ""
      else "Package: **" ++ Text.escapeMdx (p.bind links).package ++ "**\n\n") :=
    inert_ite inert_empty (((inert_ofList (by decide)).append
      (inert_escapeMdx _)).append (inert_ofList (by decide)))
  have hdescription : Inert (if (p.bind links).description = "" then ""
      else Text.escapeMdx (p.bind links).description ++ "\n\n") :=
    inert_ite inert_empty ((inert_escapeMdx _).append (inert_ofList (by decide)))
  have himports : Inert (Layout.titled "Imports:\n\n"
      (p.bind links).dependencies.isEmpty
      (Layout.each Layout.dependency (p.bind links).dependencies ++ "\n")) :=
    inert_ite inert_empty ((inert_ofList (by decide)).append
      ((inert_each inert_dependency _).append (inert_ofList (by decide))))
  exact (outlined_sections links p).inert_append
    (((htitle.append hpackage).append hdescription).append himports)

/-! ## What can be read off an outlined text -/

section

variable {items : List OutlineItem} {s : String}

theorem Inert.tagless (h : Inert s) : Tagless s :=
  ⟨Text.Escaped.notMem h (by decide) (by decide) (by decide),
    Text.Escaped.notMem h (by decide) (by decide) (by decide)⟩

theorem Outlined.mono {between between' : String → Prop}
    (h : Outlined between items s) (hsub : ∀ t, between t → between' t) :
    Outlined between' items s := by
  induction h with
  | plain hs => exact .plain (hsub _ hs)
  | item hbefore _ ih => exact .item (hsub _ hbefore) ih

/-- An anchor is a tag, but nothing else starts in it. -/
theorem OutlineItem.escaped_opening (item : OutlineItem) :
    Text.Escaped codeStarts item.opening.toList := by
  have hname (s : String) : Text.Escaped codeStarts (Text.escapeMdx s).toList := by
    rw [Text.escapeMdx, String.toList_ofList]
    exact (Text.Escaped.escapeMdxChars s.toList).mono (by decide)
  have hhashes (n : Nat) : Text.Escaped codeStarts (List.replicate n '#') := by
    refine .of_forall fun c hc => ?_
    rw [List.eq_of_mem_replicate hc]
    decide
  simp only [OutlineItem.opening, String.toList_append, String.toList_ofList]
  exact ((((((Text.Escaped.of_all (by decide)).append (hname _)).append
    (.of_all (by decide))).append (hhashes _)).append (.of_all (by decide))).append
    (hname _)).append (.of_all (by decide))

theorem Outlined.escaped (h : Outlined Inert items s) :
    Text.Escaped codeStarts s.toList := by
  induction h with
  | plain hs => exact hs.mono (by decide)
  | @item item _ _ _ hbefore _ ih =>
      rw [String.toList_append, String.toList_append]
      exact ((hbefore.mono (by decide)).append item.escaped_opening).append ih

end

/-- Behind the front matter of a text no expression and no code starts, every
ampersand starts an entity, and all tags are those of the anchors in an
outline. -/
structure SafelyOutlined (outline : List OutlineItem) (text : String) : Prop where
  code : ∀ c ∈ codeStarts, c ∉ (behindFrontMatter text).toList
  ampersands : Text.AmpersandsEscaped (behindFrontMatter text).toList
  outlined : Outlined Tagless outline (behindFrontMatter text)

theorem safelyOutlined_page (links : LinkTable) (p : Page) :
    SafelyOutlined p.file.outline (Layout.page (p.bind links)) := by
  have hbody := behindFrontMatter_page (p.bind links)
  have h := outlined_body links p
  constructor
  case code =>
      have hmdx : codeStarts.all fun c => c ∈ Text.mdxReserved ∧ c ≠ '&' := by decide
      intro c hc
      obtain ⟨hreserved, hamp⟩ := of_decide_eq_true (List.all_eq_true.1 hmdx c hc)
      rw [hbody]
      exact h.escaped.notMem hc hreserved hamp
  case ampersands =>
      rw [hbody]
      exact h.escaped.ampersands
  case outlined =>
      rw [hbody]
      exact h.mono fun _ => Inert.tagless

/-- Whatever texts are in its file, a page in the built-in layout has nothing
behind its front matter that starts an expression or a piece of code, every
ampersand starts an entity, and all tags are those of the anchors in its
outline, which announce every declaration of the file once and in order. -/
theorem layOut_builtIn_outlined (links : LinkTable) (p : Page) :
    ∃ text, Layout.Style.builtIn.layOut (p.bind links) = .ok text ∧
      (∀ c ∈ codeStarts, c ∉ (behindFrontMatter text).toList) ∧
      Text.AmpersandsEscaped (behindFrontMatter text).toList ∧
      Outlined Tagless p.file.outline (behindFrontMatter text) := by
  have h := safelyOutlined_page links p
  exact ⟨Layout.page (p.bind links), rfl, h.code, h.ampersands, h.outlined⟩

end SchemaDocs
