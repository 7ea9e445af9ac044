import SchemaDocs.Proofs.Changes
import SchemaDocs.Proofs.OrderIndependence

/-!
# What the stages read of a file

Redacting a file takes away all that is only shown: descriptions, the values
of enums, and of fields their numbers, labels, groups and defaults. Names,
types and the way they nest stay.

Redaction is a change that goes with every stage behind loading. So the stages
tell two lists of files apart only as far as their redactions differ.
-/

namespace SchemaDocs

/-! ## Redacting -/

def Field.redacted (f : Field) : Field :=
  { f with number := none, label := .optional, oneof := none, defaultValue := none,
           description := "" }

def EnumDef.redacted (e : EnumDef) : EnumDef := { e with values := [], description := "" }

mutual

def Message.redacted : Message → Message
  | ⟨name, fullName, fields, messages, enums, _, filePath⟩ =>
    ⟨name, fullName, fields.map Field.redacted, redactedMessages messages,
      enums.map EnumDef.redacted, "", filePath⟩

def redactedMessages : List Message → List Message
  | [] => []
  | m :: rest => m.redacted :: redactedMessages rest

end

def Method.redacted (m : Method) : Method := { m with description := "" }

def Service.redacted (s : Service) : Service :=
  { s with methods := s.methods.map Method.redacted, description := "" }

def File.redacted (f : File) : File :=
  { f with
    messages := redactedMessages f.messages
    enums := f.enums.map EnumDef.redacted
    services := f.services.map Service.redacted
    description := "" }

def Page.redacted (p : Page) : Page := { p with file := p.file.redacted }

def Site.redacted (s : Site) : Site := { s with pages := s.pages.map Page.redacted }

theorem redactedMessages_eq_map (ms : List Message) :
    redactedMessages ms = ms.map Message.redacted := by
  induction ms with
  | nil => rfl
  | cons m rest ih => rw [redactedMessages, ih, List.map_cons]

/-! ## Redacting is a change -/

def redacting : Change where
  field := Field.redacted
  values _ := []
  text _ := ""
  field_name _ := rfl
  field_typeName _ _ := rfl
  field_filled _ _ _ _ := rfl

theorem Message.redacted_eq : Message.redacted = redacting.message := by
  funext m
  induction m using Message.nestedInduction with
  | step m ih =>
      obtain ⟨name, fullName, fields, messages, enums, description, path⟩ := m
      rw [Message.redacted, Change.message, redactedMessages_eq_map,
        redacting.messageAll_eq_map, List.map_congr_left ih]
      rfl

theorem File.redacted_eq : File.redacted = redacting.file := by
  funext f
  rw [File.redacted, redactedMessages_eq_map, Message.redacted_eq]
  rfl

theorem Page.redacted_eq : Page.redacted = redacting.page := by
  funext p
  rw [Page.redacted, File.redacted_eq]
  rfl

theorem Site.redacted_eq : Site.redacted = redacting.site := by
  funext s
  rw [Site.redacted, Page.redacted_eq]
  rfl

/-! ## The stages -/

theorem map_key_redacted (files : List File) :
    (declarations (files.map File.redacted)).map Declaration.key =
      (declarations files).map Declaration.key := by
  rw [File.redacted_eq, redacting.declarations_files, Change.index, List.map_map]
  refine List.map_congr_left fun d _ => ?_
  simp only [Function.comp_apply, Declaration.key, Change.declaration_fullName,
    Change.declaration_kind, Change.declaration_file]

theorem buildSite_redacted (files : List File) (base : String) :
    buildSite (files.map File.redacted) base =
      (buildSite files base).map Site.redacted := by
  rw [File.redacted_eq, Site.redacted_eq]
  exact redacting.buildSite_files files base

theorem buildNavigation_redacted (pages : List Page) :
    buildNavigation (pages.map Page.redacted) =
      (buildNavigation pages).map (NavTree.mapAll Page.redacted) := by
  rw [Page.redacted_eq]
  exact redacting.buildNavigation_pages pages

end SchemaDocs
