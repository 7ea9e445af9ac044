import SchemaDocs.Layout.Custom
import SchemaDocs.Proofs.FrontMatter
import SchemaDocs.Proofs.JsonRoundTrip

/-!
# Titles

The front matter of a page is four lines, and the second has the path of the
file for its title. Whatever is in the path, the title is quoted on one line, so
that these are four lines and no more, and it is read back as the path. That
takes that it stands there as it was quoted: had it been escaped like the texts
of the body, the path would not come out of it.
-/

namespace SchemaDocs

/-- A text begins with the four lines of a front matter. The title in them is
printable ASCII, and read as a text it is the path. -/
def Titled (path text : String) : Prop :=
  ∃ title body,
    text = Text.lines ["---", "title: " ++ title, "hide_title: true", "---"] ++ body ∧
    Text.splitOn '\n' text = ["---", "title: " ++ title, "hide_title: true", "---"] ++
      Text.splitOn '\n' body ∧
    (∀ c ∈ title.toList, PrintableAscii c) ∧
    Json.parse title = .ok (.text path)

theorem titled_page (p : PageBindings) : Titled p.title (Layout.page p) := by
  refine ⟨Json.quote p.title, Layout.body p, ?_, splitOn_page p,
    fun c => printableAscii_of_mem_quote, ?_⟩
  · rw [Layout.page, lines_frontMatter]
    rfl
  · have hread := Json.parse_write (.text p.title) 0
    rwa [Json.write] at hread

/-- A page in the built-in layout begins with the four lines of its front
matter, whatever the path of its file. The title in them is printable ASCII, and
read as a text it is the path. -/
theorem layOut_builtIn_titled (links : LinkTable) (p : Page) :
    ∃ text title body, Layout.Style.builtIn.layOut (p.bind links) = .ok text ∧
      text = Text.lines ["---", "title: " ++ title, "hide_title: true", "---"] ++ body ∧
      Text.splitOn '\n' text = ["---", "title: " ++ title, "hide_title: true", "---"] ++
        Text.splitOn '\n' body ∧
      (∀ c ∈ title.toList, PrintableAscii c) ∧
      Json.parse title = .ok (.text p.file.path) := by
  obtain ⟨title, body, h⟩ := titled_page (p.bind links)
  exact ⟨Layout.page (p.bind links), title, body, rfl, h⟩

/-- A path that would end the front matter, or a text, if it were not quoted. -/
example : Layout.frontMatter "a\n---\n\"😀\\" =
    "---\ntitle: \"a\\n---\\n\\\"\\ud83d\\ude00\\\\\"\nhide_title: true\n---\n" := by
  decide

end SchemaDocs
