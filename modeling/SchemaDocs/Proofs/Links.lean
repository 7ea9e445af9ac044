import SchemaDocs.Proofs.Stages

/-!
# No link is dead

A page shows types, each with a link or without one, and it has an anchor for
every declaration of its file: the full name is the anchor. The two are made
apart from each other. A type knows the path of a file and a full name, the
table of links knows the pages, and the anchors follow from what was loaded.

They meet as follows. What a type refers to is declared in the file whose path
it knows; that file has one page, and the table leads there, as long as no two
files have one path; the page has the anchor, because it shows everything that
its file declares; and no other page has it, because no full name is declared
twice.
-/

namespace SchemaDocs

/-! ## What is on a page -/

/-- What holds of a message on a page as soon as it holds of all messages nested
in it holds of every message. -/
@[elab_as_elim]
theorem MessageBinding.nestedInduction {P : MessageBinding → Prop}
    (step : ∀ m : MessageBinding, (∀ n ∈ m.messages, P n) → P m) (m : MessageBinding) :
    P m := by
  match m with
  | ⟨name, fullName, description, fields, messages, enums⟩ =>
      refine step _ fun n hn => ?_
      exact MessageBinding.nestedInduction step n
termination_by sizeOf m
decreasing_by
  have := List.sizeOf_lt_of_mem hn
  simp only [MessageBinding.mk.sizeOf_spec] at this ⊢
  omega

/-- A message on a page, at whatever depth it is nested. -/
def PageBindings.HasMessage (p : PageBindings) (m : MessageBinding) : Prop :=
  ∃ top ∈ p.messages, Nested MessageBinding.messages m top

/-- A type that a page shows: of a field, of the keys or the values of a map,
or of what a method takes or gives. -/
inductive PageBindings.HasType (p : PageBindings) : TypeBinding → Prop
  | field {m : MessageBinding} {f : FieldBinding} (hm : p.HasMessage m)
      (hf : f ∈ m.fields) : HasType p f.type
  | key {m : MessageBinding} {f : FieldBinding} {t : TypeBinding × TypeBinding}
      (hm : p.HasMessage m) (hf : f ∈ m.fields) (ht : f.map = some t) : HasType p t.1
  | value {m : MessageBinding} {f : FieldBinding} {t : TypeBinding × TypeBinding}
      (hm : p.HasMessage m) (hf : f ∈ m.fields) (ht : f.map = some t) : HasType p t.2
  | request {s : ServiceBinding} {x : MethodBinding} (hs : s ∈ p.services)
      (hx : x ∈ s.methods) : HasType p x.request
  | response {s : ServiceBinding} {x : MethodBinding} (hs : s ∈ p.services)
      (hx : x ∈ s.methods) : HasType p x.response

/-- A page has an anchor, for a declaration of a kind. -/
inductive PageBindings.HasAnchor (p : PageBindings) : EntityKind → String → Prop
  | message {m : MessageBinding} (hm : p.HasMessage m) :
      HasAnchor p .message m.fullName
  | nestedEnum {m : MessageBinding} {e : EnumBinding} (hm : p.HasMessage m)
      (he : e ∈ m.enums) : HasAnchor p .enum e.fullName
  | enum {e : EnumBinding} (he : e ∈ p.enums) : HasAnchor p .enum e.fullName
  | service {s : ServiceBinding} (hs : s ∈ p.services) :
      HasAnchor p .service s.fullName

/-- A type on a page leads to the one anchor it means, a message or an enum on
one page of the site, or it is none of these and leads nowhere. -/
inductive TypeBinding.Live (site : Site) (t : TypeBinding) : Prop
  | leads {kind : EntityKind} {q : Page} (hkind : t.kind = kind.typeKind)
      (htype : kind = .message ∨ kind = .enum) (hq : q ∈ site.pages)
      (hhref : t.href = some (q.link ++ "#" ++ t.label))
      (hanchor : (q.bind site.links).HasAnchor kind t.label)
      (hunique : ∀ q' ∈ site.pages, ∀ kind',
        (q'.bind site.links).HasAnchor kind' t.label → q' = q ∧ kind' = kind) :
      Live site t
  | plain (hkind : t.kind = .scalar ∨ t.kind = .unresolved)
      (hhref : t.href = none) : Live site t

/-! ## Binding a page -/

theorem bindMessages_eq_map (links : LinkTable) (ms : List Message) :
    bindMessages links ms = ms.map (bindMessage links) := by
  induction ms with
  | nil => rfl
  | cons m rest ih => rw [bindMessages, ih, List.map_cons]

section

variable (links : LinkTable)

theorem bindMessage_fullName (m : Message) :
    (bindMessage links m).fullName = m.fullName := by
  cases m
  rw [bindMessage]

theorem bindMessage_fields (m : Message) :
    (bindMessage links m).fields = m.fields.map (bindField links) := by
  cases m
  rw [bindMessage]

theorem bindMessage_messages (m : Message) :
    (bindMessage links m).messages = m.messages.map (bindMessage links) := by
  cases m
  rw [bindMessage, bindMessages_eq_map]

theorem bindMessage_enums (m : Message) :
    (bindMessage links m).enums = m.enums.map bindEnum := by
  cases m
  rw [bindMessage]

variable {links} {p : Page}

theorem Page.hasMessage_bind {b : MessageBinding} :
    (p.bind links).HasMessage b ↔ ∃ m, p.file.HasMessage m ∧ b = bindMessage links m := by
  simp only [PageBindings.HasMessage, Page.bind, bindMessages_eq_map, File.HasMessage]
  constructor
  · rintro ⟨_, htop, hb⟩
    obtain ⟨top, ht, rfl⟩ := List.mem_map.1 htop
    obtain ⟨m, hm, rfl⟩ := (nested_map_iff (bindMessage_messages links)).1 hb
    exact ⟨m, ⟨top, ht, hm⟩, rfl⟩
  · rintro ⟨m, ⟨top, ht, hm⟩, rfl⟩
    exact ⟨bindMessage links top, List.mem_map_of_mem ht,
      (nested_map_iff (bindMessage_messages links)).2 ⟨m, hm, rfl⟩⟩

/-- A page has the anchors of what its file declares. -/
theorem Page.hasAnchor_bind {kind : EntityKind} {name : String} :
    (p.bind links).HasAnchor kind name ↔ p.file.Declares kind name := by
  constructor
  · intro h
    cases h with
    | message hb =>
        obtain ⟨m, hm, rfl⟩ := Page.hasMessage_bind.1 hb
        rw [bindMessage_fullName]
        exact .message hm
    | nestedEnum hb he =>
        obtain ⟨m, hm, rfl⟩ := Page.hasMessage_bind.1 hb
        rw [bindMessage_enums] at he
        obtain ⟨e, hmem, rfl⟩ := List.mem_map.1 he
        exact .nestedEnum (e := e) hm hmem
    | enum hb =>
        obtain ⟨e, he, rfl⟩ := List.mem_map.1 hb
        exact .enum (e := e) he
    | service hb =>
        obtain ⟨s, hs, rfl⟩ := List.mem_map.1 hb
        exact .service (s := s) hs
  · intro h
    cases h with
    | @message m hm =>
        rw [← bindMessage_fullName links m]
        exact .message (Page.hasMessage_bind.2 ⟨m, hm, rfl⟩)
    | @nestedEnum m e hm he =>
        have hb : bindEnum e ∈ (bindMessage links m).enums := by
          rw [bindMessage_enums]
          exact List.mem_map_of_mem he
        exact .nestedEnum (e := bindEnum e) (Page.hasMessage_bind.2 ⟨m, hm, rfl⟩) hb
    | @enum e he => exact .enum (e := bindEnum e) (List.mem_map_of_mem he)
    | @service s hs =>
        exact .service (s := bindService links s) (List.mem_map_of_mem hs)

theorem Page.field_of_bind {b : MessageBinding} {f : FieldBinding}
    (hb : (p.bind links).HasMessage b) (hf : f ∈ b.fields) :
    ∃ m x, p.file.HasMessage m ∧ x ∈ m.fields ∧ f = bindField links x := by
  obtain ⟨m, hm, rfl⟩ := Page.hasMessage_bind.1 hb
  rw [bindMessage_fields] at hf
  obtain ⟨x, hx, rfl⟩ := List.mem_map.1 hf
  exact ⟨m, x, hm, hx, rfl⟩

theorem Page.method_of_bind {b : ServiceBinding} {c : MethodBinding}
    (hb : b ∈ (p.bind links).services) (hc : c ∈ b.methods) :
    ∃ s ∈ p.file.services, ∃ x ∈ s.methods, c = bindMethod links x := by
  obtain ⟨s, hs, rfl⟩ := List.mem_map.1 hb
  obtain ⟨x, hx, rfl⟩ := List.mem_map.1 hc
  exact ⟨s, hs, x, hx, rfl⟩

/-- A type is bound from what some name denotes. -/
def TypeBinding.BoundFrom (files : List File) (links : LinkTable)
    (t : TypeBinding) : Prop :=
  ∃ scope name ref, Denotes files scope name ref ∧ t = bindType links name (some ref)

/-- Beside a slot that is filled the name no longer matters. -/
theorem Refers.boundFrom {files : List File} {scope name beside : String}
    {slot : Option TypeRef} (h : Refers files scope name slot) :
    (bindType links beside slot).BoundFrom files links := by
  obtain ⟨ref, rfl, href⟩ := h
  exact ⟨scope, name, ref, (href ref).2 rfl, by cases ref <;> rfl⟩

theorem Page.boundFrom_of_hasType {files : List File} (hp : p.file.Follows files)
    {t : TypeBinding} (ht : (p.bind links).HasType t) :
    t.BoundFrom files links := by
  cases ht with
  | field hb hf =>
      obtain ⟨m, x, hm, hx, rfl⟩ := Page.field_of_bind hb hf
      have hrefers := hp.fields m hm x hx
      cases hmap : x.map with
      | none => exact (hrefers.plain hmap).boundFrom
      | some k =>
          have hvalue := hrefers.value k hmap
          rw [← hrefers.repeated k hmap] at hvalue
          exact hvalue.boundFrom
  | key hb hf hpair =>
      obtain ⟨m, x, hm, hx, rfl⟩ := Page.field_of_bind hb hf
      obtain ⟨k, hmap, rfl⟩ := Option.map_eq_some_iff.1 hpair
      exact ((hp.fields m hm x hx).key k hmap).boundFrom
  | value hb hf hpair =>
      obtain ⟨m, x, hm, hx, rfl⟩ := Page.field_of_bind hb hf
      obtain ⟨k, hmap, rfl⟩ := Option.map_eq_some_iff.1 hpair
      exact ((hp.fields m hm x hx).value k hmap).boundFrom
  | request hb hc =>
      obtain ⟨s, hs, x, hx, rfl⟩ := Page.method_of_bind hb hc
      exact (hp.methods s hs x hx).request.boundFrom
  | response hb hc =>
      obtain ⟨s, hs, x, hx, rfl⟩ := Page.method_of_bind hb hc
      exact (hp.methods s hs x hx).response.boundFrom

end

/-! ## Where links lead -/

namespace Accepted

variable {raw routeBase : Value} {schema : Schema} {r : Resolution} {site : Site}
  (h : Accepted raw routeBase schema r site)
  (hpaths : (schema.files.map File.path).Nodup)

include h hpaths

/-- The table of links leads to the page of a file. -/
theorem find?_link {p : Page} (hp : p ∈ site.pages) :
    site.links.find? p.file.path = some p.link :=
  h.sound.find?_path (by rwa [h.map_path]) hp

/-- A type that some name denotes is live. -/
theorem live_of_boundFrom {t : TypeBinding}
    (ht : t.BoundFrom schema.files site.links) : t.Live site := by
  obtain ⟨scope, name, ref, hden, rfl⟩ := ht
  have hresolved {entity path : String} {kind : EntityKind}
      (hd : TypeDeclared schema.files entity path kind) :
      (bindType site.links name (some (.resolved entity path kind))).Live site := by
    obtain ⟨⟨f, hf, rfl, hdeclares⟩, hservice⟩ := hd
    obtain ⟨q, hq, hfile⟩ := h.page_of_file hf
    have hlink := h.find?_link hpaths hq
    rw [hfile, Index.fillFile_path] at hlink
    have hanchor : q.file.Declares kind entity := by
      rwa [hfile, Index.fillFile_declares]
    refine .leads rfl ?_ hq ?_ (Page.hasAnchor_bind.2 hanchor) fun q' hq' kind' hk => ?_
    · cases kind with
      | message => exact Or.inl rfl
      | enum => exact Or.inr rfl
      | service => exact absurd rfl hservice
    · simp only [bindType, hlink, Option.map_some]
    · exact h.declares_unique hpaths hq' hq (Page.hasAnchor_bind.1 hk) hanchor
  cases hden with
  | primitive hp => exact .plain (Or.inl rfl) rfl
  | absolute hp hn hd => exact hresolved hd
  | absoluteUnknown hp hn hd => exact .plain (Or.inr rfl) rfl
  | relative hp hn hk hd inner => exact hresolved hd
  | relativeUnknown hp hn hd => exact .plain (Or.inr rfl) rfl

omit hpaths in
theorem dependency_href_iff {path : String} :
    site.links.find? path ≠ none ↔ path ∈ schema.files.map File.path := by
  rw [← h.map_path, ne_eq, h.sound.find?_eq_none_iff]
  simp

end Accepted

/-- On the pages of an accepted description in which no two files have one
path, every type is live, and an import leads to the page of the file it names
if there is one, and nowhere else. -/
theorem no_dead_links {raw routeBase : Value} {schema : Schema} {r : Resolution}
    {site : Site} (h : Accepted raw routeBase schema r site)
    (hpaths : (schema.files.map File.path).Nodup) :
    ∀ p ∈ site.pages,
      (∀ t, (p.bind site.links).HasType t → t.Live site) ∧
      ∀ d ∈ (p.bind site.links).dependencies,
        (d.href ≠ none ↔ d.path ∈ schema.files.map File.path) ∧
        ∀ q ∈ site.pages, q.file.path = d.path → d.href = some q.link := by
  intro p hp
  constructor
  · intro t ht
    exact h.live_of_boundFrom hpaths
      (Page.boundFrom_of_hasType (h.page_follows hp) ht)
  · intro d hd
    obtain ⟨path, hpath, rfl⟩ := List.mem_map.1 hd
    refine ⟨h.dependency_href_iff, fun q hq hqp => ?_⟩
    subst hqp
    exact h.find?_link hpaths hq

theorem no_dead_links_crossed :
    ∃ schema r site, Accepted crossed (.text "docs") schema r site ∧
      (schema.files.map File.path).Nodup ∧
      ∀ p ∈ site.pages,
        (∀ t, (p.bind site.links).HasType t → t.Live site) ∧
        ∀ d ∈ (p.bind site.links).dependencies,
          (d.href ≠ none ↔ d.path ∈ schema.files.map File.path) ∧
          ∀ q ∈ site.pages, q.file.path = d.path → d.href = some q.link := by
  have haccepted : ∃ schema r site, Accepted crossed (.text "docs") schema r site ∧
      (schema.files.map File.path).Nodup :=
    ⟨_, _, _, ⟨rfl, rfl, rfl⟩, by decide⟩
  obtain ⟨schema, r, site, h, hpaths⟩ := haccepted
  exact ⟨schema, r, site, h, hpaths, no_dead_links h hpaths⟩

end SchemaDocs
