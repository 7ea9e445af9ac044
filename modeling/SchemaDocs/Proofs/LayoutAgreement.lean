import SchemaDocs.Proofs.Delimiters
import SchemaDocs.Proofs.Isolation
import SchemaDocs.Proofs.Mirroring
import SchemaDocs.Proofs.Outcome
import SchemaDocs.Proofs.Outline
import SchemaDocs.Proofs.PageText
import SchemaDocs.Proofs.TableRows
import SchemaDocs.Proofs.Titles

/-!
# The built-in layout as a template

The text of the template behind the built-in layout can be given as a custom
template, and then every page gets the same text as before. A rendering has limits
that the built-in layout does not have: calls nest only so deep, a loop goes round
only so often, and a number is shown only if it is not too long. Within these limits
the two generations are the same, and they fail in the same way before the first
page is laid out. So what is known of the built-in layout is known of the template's
text: how a generation ends, and what the text of a page is made of.
-/

namespace SchemaDocs

open Template (Item roundLimit)

/-! ## Trees of limited depth -/

/-- Children nest at most to a depth. -/
def NestedWithin {α : Type} (children : α → List α) : (depth : Nat) → α → Prop
  | 0, _ => False
  | depth + 1, a => ∀ b ∈ children a, NestedWithin children depth b

theorem nestedWithin_map {α β : Type} {children : α → List α} {children' : β → List β}
    {f : α → β} (hf : ∀ a, children' (f a) = (children a).map f) :
    ∀ {depth : Nat} {a : α}, NestedWithin children depth a →
    NestedWithin children' depth (f a)
  | depth + 1, a, h => by
      intro b hb
      rw [hf] at hb
      obtain ⟨c, hc, rfl⟩ := List.mem_map.1 hb
      exact nestedWithin_map hf (h c hc)

instance NestedWithin.decidable {α : Type} (children : α → List α) :
    (depth : Nat) → (a : α) → Decidable (NestedWithin children depth a)
  | 0, _ => .isFalse id
  | depth + 1, a =>
    have (b : α) : Decidable (NestedWithin children depth b) := decidable children depth b
    inferInstanceAs (Decidable (∀ b ∈ children a, NestedWithin children depth b))

theorem MessageBinding.presentable_of : ∀ {depth : Nat} {m : MessageBinding},
    NestedWithin MessageBinding.messages depth m →
    (∀ k, Nested MessageBinding.messages k m → k.OwnPresentable) → m.Presentable depth
  | depth + 1, m, hdepth, hown => by
      refine ⟨hown m (.refl m), fun n hn => ?_⟩
      exact presentable_of (hdepth n hn) fun k hk => hown k (.deeper hn hk)

/-! ## Limits of a file -/

@[mk_iff]
structure EnumDef.Modest (e : EnumDef) : Prop where
  size : e.values.length < roundLimit
  numbers : ∀ v ∈ e.values, (Item.int v.number).isShowable

instance (e : EnumDef) : Decidable e.Modest := decidable_of_iff' _ (EnumDef.modest_iff e)

@[mk_iff]
structure Message.Modest (m : Message) : Prop where
  fieldCount : m.fields.length < roundLimit
  groups : ∀ x ∈ m.fields, ∀ v ∈ x.oneof, (Item.ofValue v).isShowable
  messageCount : m.messages.length < roundLimit
  enumCount : m.enums.length < roundLimit
  enums : ∀ e ∈ m.enums, e.Modest

instance (m : Message) : Decidable m.Modest := decidable_of_iff' _ (Message.modest_iff m)

/-- A rendering can go over everything that the file has, and show it. -/
@[mk_iff]
structure File.Modest (f : File) : Prop where
  dependencyCount : f.dependencies.length < roundLimit
  messageCount : f.messages.length < roundLimit
  depth : ∀ m ∈ f.messages, NestedWithin Message.messages Layout.messageDepth m
  messages : ∀ m ∈ f.allMessages, m.Modest
  enumCount : f.enums.length < roundLimit
  enums : ∀ e ∈ f.enums, e.Modest
  serviceCount : f.services.length < roundLimit
  services : ∀ svc ∈ f.services, svc.methods.length < roundLimit

instance (f : File) : Decidable f.Modest := decidable_of_iff' _ (File.modest_iff f)

/-! ## Fields of what was loaded -/

section

variable {P : Field → Prop} (hP : ∀ place v x, Load.field place v = .ok x → P x)

include hP

theorem fields_of_message {path : String} : ∀ {fuel : Nat} {scope : String} {v : Value}
    {m : Message}, Load.message fuel path scope v = .ok m →
    ∀ k : Message, k.Within m → ∀ x ∈ k.fields, P x
  | fuel + 1, scope, v, m, h => by
      simp only [Load.message, bind_eq_ok_iff, pure, Except.pure, Except.ok.injEq] at h
      obtain ⟨r, -, name, -, fs, -, fields, hfields, ms, -, messages, hmessages,
        es, -, enums, -, description, -, rfl⟩ := h
      intro k hk
      cases hk with
      | refl => exact forall_of_mapM hfields fun v x hx => hP _ v x hx
      | deeper hn hk =>
          have hinside :=
            forall_of_mapM hmessages fun _ _ hload => fields_of_message hload
          exact hinside _ hn k hk

theorem fields_of_file {i : Nat} {v : Value} {f : File} (h : Load.file i v = .ok f) :
    ∀ m, f.HasMessage m → ∀ x ∈ m.fields, P x := by
  simp only [Load.file_eq, bind_eq_ok_iff, pure, Except.pure, Except.ok.injEq] at h
  obtain ⟨r, -, path, -, package, -, -, -, -, -, ms, -, messages, hmessages,
    es, -, enums, -, ss, -, services, -, -, -, rfl⟩ := h
  rintro m ⟨top, htop, hm⟩
  have hinside := forall_of_mapM hmessages fun _ _ hload => fields_of_message hP hload
  exact hinside top htop m hm

theorem fields_of_files {records : List Value} : ∀ {i : Nat} {files : List File},
    Load.files i records = .ok files →
    ∀ f ∈ files, ∀ m, f.HasMessage m → ∀ x ∈ m.fields, P x := by
  induction records with
  | nil =>
      rintro i files ⟨⟩
      exact fun f hf => nomatch hf
  | cons v rest ih =>
      intro i files h
      simp only [Load.files, bind_eq_ok_iff, pure, Except.pure, Except.ok.injEq] at h
      obtain ⟨f, hf, fs, hfs, rfl⟩ := h
      exact List.forall_mem_cons.2 ⟨fields_of_file hP hf, ih hfs⟩

/-- What holds of a field however it is read holds of all fields of a schema. -/
theorem fields_of_load {raw routeBase : Value} {schema : Schema}
    (h : Schema.load raw routeBase = .ok schema) :
    ∀ f ∈ schema.files, ∀ m, f.HasMessage m → ∀ x ∈ m.fields, P x := by
  obtain ⟨records, -, hfiles⟩ := files_of_load h
  exact fields_of_files hP hfiles

end

/-- The name of a group is not an empty value. -/
theorem group_isFalsy {place : Place} {v : Value} {x : Field}
    (h : Load.field place v = .ok x) :
    ∀ group ∈ x.oneof, group.isFalsy = false := by
  simp only [Load.field, bind_eq_ok_iff, pure, Except.pure, Except.ok.injEq] at h
  obtain ⟨r, -, name, -, type, -, label, -, map, -, number, -, description, -, rfl⟩ := h
  intro group hgroup
  have honeof : Load.oneof r = some group := hgroup
  rw [Load.oneof] at honeof
  split at honeof
  · cases honeof
  · split at honeof
    · cases honeof
    · next hfalsy =>
        cases honeof
        exact Bool.eq_false_iff.2 hfalsy

/-! ## Filling and binding -/

section

variable (index : Index) {links : LinkTable}

theorem EnumDef.Modest.bind {e : EnumDef} (h : e.Modest) : (bindEnum e).Presentable :=
  ⟨h.size, h.numbers⟩

theorem bindType_presentable (name : String) (ref : Option TypeRef) :
    (bindType links name ref).Presentable := by
  rw [bindType.eq_def]
  split
  · exact nofun
  · next entity file kind =>
      intro hhref
      obtain ⟨link, -, hlink⟩ := Option.map_eq_some_iff.1 hhref
      simpa using congrArg String.toList hlink
  · exact nofun
  · exact nofun

theorem bindField_presentable {x : Field}
    (hgroup : ∀ group ∈ x.oneof, group.isFalsy = false ∧
      (Item.ofValue group).isShowable) :
    (bindField links x).Presentable where
  type := bindType_presentable _ _
  map key value hmap := by
    obtain ⟨m, -, hm⟩ := Option.map_eq_some_iff.1 hmap
    cases hm
    exact ⟨bindType_presentable _ _, bindType_presentable _ _⟩
  oneof := hgroup

theorem Index.fillField_oneof (scope : String) (x : Field) :
    (index.fillField scope x).oneof = x.oneof := by
  rw [Index.fillField]
  split <;> rfl

theorem Message.Modest.bind {m : Message} (hm : m.Modest)
    (hgroups : ∀ x ∈ m.fields, ∀ group ∈ x.oneof, group.isFalsy = false) :
    (bindMessage links (index.fillMessage m)).OwnPresentable := by
  constructor
  case fieldCount =>
      rw [bindMessage_fields, index.fillMessage_fields, List.length_map, List.length_map]
      exact hm.fieldCount
  case fields =>
      rw [bindMessage_fields, index.fillMessage_fields, List.map_map, List.forall_mem_map]
      refine fun x hx => bindField_presentable fun group hgroup => ?_
      rw [index.fillField_oneof] at hgroup
      exact ⟨hgroups x hx group hgroup, hm.groups x hx group hgroup⟩
  case messageCount =>
      rw [bindMessage_messages, index.fillMessage_messages, List.length_map,
        List.length_map]
      exact hm.messageCount
  case enumCount =>
      rw [bindMessage_enums, index.fillMessage_enums, List.length_map]
      exact hm.enumCount
  case enums =>
      rw [bindMessage_enums, index.fillMessage_enums, List.forall_mem_map]
      exact fun e he => (hm.enums e he).bind

theorem Service.bind_presentable {svc : Service} (h : svc.methods.length < roundLimit) :
    (bindService links svc).Presentable where
  size := by
    rw [bindService, List.length_map]
    exact h
  methods := by
    rw [bindService, List.forall_mem_map]
    exact fun m _ => ⟨bindType_presentable _ _, bindType_presentable _ _⟩

theorem Page.bind_presentable {p : Page} {f : File} (hfile : p.file = index.fillFile f)
    (hf : f.Modest) (hlinks : ∀ path, links.find? path ≠ some "")
    (hgroups : ∀ m, f.HasMessage m →
      ∀ x ∈ m.fields, ∀ group ∈ x.oneof, group.isFalsy = false) :
    (p.bind links).Presentable Layout.messageDepth := by
  have hmessages : (p.bind links).messages =
      f.messages.map fun m => bindMessage links (index.fillMessage m) := by
    rw [Page.bind, hfile, bindMessages_eq_map, Index.fillFile, index.fillMessages_eq_map,
      List.map_map]
    rfl
  have hchildren (m : Message) : (bindMessage links (index.fillMessage m)).messages =
      m.messages.map fun n => bindMessage links (index.fillMessage n) := by
    rw [bindMessage_messages, index.fillMessage_messages, List.map_map]
    rfl
  constructor
  case dependencyCount =>
      rw [Page.bind, hfile, List.length_map]
      exact hf.dependencyCount
  case dependencies =>
      rw [Page.bind, List.forall_mem_map]
      exact fun path _ => hlinks path
  case messageCount =>
      rw [hmessages, List.length_map]
      exact hf.messageCount
  case messages =>
      rw [hmessages, List.forall_mem_map]
      intro m hm
      refine MessageBinding.presentable_of (nestedWithin_map hchildren (hf.depth m hm)) ?_
      intro k hk
      obtain ⟨n, hn, rfl⟩ := (nested_map_iff hchildren).1 hk
      have hwithin : f.HasMessage n := ⟨m, hm, hn⟩
      exact (hf.messages n (File.mem_allMessages.2 hwithin)).bind index
        (hgroups n hwithin)
  case enumCount =>
      rw [Page.bind, hfile, List.length_map]
      exact hf.enumCount
  case enums =>
      rw [Page.bind, hfile, List.forall_mem_map]
      exact fun e he => (hf.enums e he).bind
  case serviceCount =>
      rw [Page.bind, hfile, List.length_map, Index.fillFile, List.length_map]
      exact hf.serviceCount
  case services =>
      rw [Page.bind, hfile, List.forall_mem_map, Index.fillFile, List.forall_mem_map]
      intro svc hsvc
      refine Service.bind_presentable ?_
      rw [Index.fillService, List.length_map]
      exact hf.services svc hsvc

end

/-! ## The pages of a generation -/

theorem Site.Sound.find?_ne {base : String} {site : Site} (h : site.Sound base)
    (path : String) :
    site.links.find? path ≠ some "" := by
  intro hempty
  rw [h.links, Option.map_eq_some_iff] at hempty
  obtain ⟨p, hp, hlink⟩ := hempty
  have hmem : p ∈ site.pages := List.mem_reverse.1 (List.mem_of_find?_eq_some hp)
  rw [(h.named p hmem).link] at hlink
  simpa using congrArg String.toList hlink

theorem Accepted.presentable {raw routeBase : Value} {schema : Schema} {r : Resolution}
    {site : Site} (h : Accepted raw routeBase schema r site)
    (hmodest : ∀ f ∈ schema.files, f.Modest) :
    ∀ p ∈ site.pages, (p.bind site.links).Presentable Layout.messageDepth := by
  intro p hp
  obtain ⟨f, hf, hfile⟩ := h.file_of_page hp
  have hgroups := fields_of_load (fun _ _ _ => group_isFalsy) h.load
  exact Page.bind_presentable _ hfile (hmodest f hf) h.sound.find?_ne (hgroups f hf)

theorem layOutPage_builtIn (links : LinkTable) (p : Page) :
    layOutPage .builtIn links p = .ok (p.laidOut links) := rfl

theorem layOutPage_pageTemplate {links : LinkTable} {p : Page}
    (h : (p.bind links).Presentable Layout.messageDepth) :
    layOutPage (.custom Layout.pageTemplate) links p = .ok (p.laidOut links) := by
  rw [layOutPage, Layout.Style.layOut, Layout.fill_pageTemplate h]
  rfl

theorem layOutSite_pageTemplate {site : Site} (unresolved : List UnresolvedReference)
    (h : ∀ p ∈ site.pages, (p.bind site.links).Presentable Layout.messageDepth) :
    layOutSite (.custom Layout.pageTemplate) site unresolved =
      layOutSite .builtIn site unresolved := by
  rw [layOutSite, layOutSite, mapM_eq_map fun p hp => layOutPage_pageTemplate (h p hp),
    mapM_eq_map fun p _ => layOutPage_builtIn site.links p]

/-- Within the limits of a rendering the text behind the built-in layout can be given as a
template, and nothing changes. -/
theorem generate_pageSource {raw routeBase : Value}
    (hmodest : ∀ schema, Schema.load raw routeBase = .ok schema →
      ∀ f ∈ schema.files, f.Modest) :
    generate raw routeBase (some Layout.pageSource) = generate raw routeBase none := by
  have hcustom : Layout.Style.ofSource (some Layout.pageSource) =
      .ok (.custom Layout.pageTemplate) := by
    rw [Layout.Style.ofSource, Layout.compile_pageSource]
    rfl
  have hplain : Layout.Style.ofSource none = .ok .builtIn := rfl
  rw [generate, generate, hcustom, hplain]
  refine bind_congr_ok fun schema hload => ?_
  refine bind_congr_ok fun r hresolve => ?_
  refine bind_congr_ok fun site hsite => ?_
  rw [mapError_eq_ok_iff] at hload hresolve hsite
  have h : Accepted raw routeBase schema r site := ⟨hload, hresolve, hsite⟩
  exact layOutSite_pageTemplate r.unresolved (h.presentable (hmodest schema hload))

/-- Messages and an enum in a message, a field in a group, and a service. -/
def nestedShapes : Value := .object [("files", .list [
  .object [
    ("path", .text "a.proto"), ("package", .text "p"),
    ("messages", .list [.object [
      ("name", .text "Outer"),
      ("messages", .list [.object [("name", .text "Inner")]]),
      ("fields", .list [.object [
        ("name", .text "inner"), ("type", .text "Inner"), ("oneof", .text "kind")]]),
      ("enums", .list [.object [
        ("name", .text "State"),
        ("values", .list [.object [("name", .text "ON"), ("number", .int 1)]])]])]]),
    ("services", .list [.object [
      ("name", .text "S"),
      ("methods", .list [.object [
        ("name", .text "Get"), ("input_type", .text "Outer"),
        ("output_type", .text "Outer.Inner")]])]])]])]

theorem generate_pageSource_nestedShapes :
    generate nestedShapes .null (some Layout.pageSource) =
      generate nestedShapes .null none := by
  refine generate_pageSource fun schema h => ?_
  cases h
  decide +kernel

/-! ## What is known of the template's text -/

theorem text_of_generate {raw routeBase : Value} {g : Generation}
    (h : generate raw routeBase none = .ok g) :
    ∀ d ∈ g.documents, d.text = Layout.page (d.page.bind g.links) := by
  obtain ⟨schema, r, site, style, -, ⟨⟩, hlaid⟩ := generate_eq_ok_iff.1 h
  obtain ⟨documents, ⟨-, htexts⟩, nodes, -, rfl⟩ := layOutSite_eq_ok_iff.1 hlaid
  intro d hd
  exact (Except.ok.inj (htexts d hd)).symm

/-- A generation with the template's text ends as one in the built-in layout. -/
theorem ends_pageSource {raw : Value} {base : String}
    (hmodest : ∀ schema, Schema.load raw (.text base) = .ok schema →
      ∀ f ∈ schema.files, f.Modest) :
    Ends raw base (failure? raw (.text base) (some Layout.pageSource)) := by
  rw [failure?, generate_pageSource hmodest]
  exact ends_builtIn raw base

/-- Every page of such a generation has its title in the front matter, and behind
it the anchors, the rows and the links of the built-in layout. -/
theorem documents_pageSource {raw routeBase : Value} {g : Generation}
    (hmodest : ∀ schema, Schema.load raw routeBase = .ok schema →
      ∀ f ∈ schema.files, f.Modest)
    (h : generate raw routeBase (some Layout.pageSource) = .ok g) :
    ∀ d ∈ g.documents, Titled d.page.file.path d.text ∧
      SafelyOutlined d.page.file.outline d.text ∧
      (d.page.bind g.links).TabledIn d.text ∧
      Marked (d.page.bind g.links).marks (behindFrontMatter d.text) := by
  intro d hd
  rw [generate_pageSource hmodest] at h
  rw [text_of_generate h d hd]
  exact ⟨titled_page _, safelyOutlined_page _ _, PageBindings.tabledIn_page _,
    marked_page _⟩

end SchemaDocs
