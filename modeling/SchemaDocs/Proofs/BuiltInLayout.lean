import SchemaDocs.Proofs.SourceTrees
import SchemaDocs.Proofs.TameEvaluation

/-!
# The built-in layout as a dialect

What other templates may use are the two templates of the built-in layout. That
they call nothing but their macros is a matter of their trees, and checked on
these. The macros call each other, and the page calls them as parts of what it
imports.
-/

namespace SchemaDocs

namespace Layout

open Template (Dialect layoutMacros)

variable {calculates : Bool}

def macrosDialect : Dialect where
  called := layoutMacros
  macros := layoutMacros
  aliases := []

def pageDialect : Dialect where
  called := []
  macros := layoutMacros
  aliases := ["docs"]

theorem macrosTemplate_isLayout : macrosTemplate.IsLayout :=
  ⟨macrosDialect, by decide +kernel, fun _ => id, by decide +kernel⟩

theorem pageTemplate_isLayout : pageTemplate.IsLayout :=
  ⟨pageDialect, by decide +kernel, fun _ => id, by decide +kernel⟩

/-- What a name finds is a template that others may use, or the name is refused. -/
theorem findBuiltIn_meets (name : String) :
    Meets (Template.RenderError.Contained calculates)
      (findBuiltIn name) Template.IsLayout := by
  rw [findBuiltIn]
  refine .ite (.error (.own rfl)) ?_
  split
  · next t hlookup =>
      have hmem := mem_of_lookup hlookup
      simp only [builtIn, List.mem_cons, Prod.mk.injEq, List.not_mem_nil, or_false]
        at hmem
      rcases hmem with ⟨-, ht⟩ | ⟨-, ht⟩
      · rw [compile_macrosSource, Except.ok.injEq] at ht
        exact .ok (ht ▸ macrosTemplate_isLayout)
      · rw [compile_pageSource, Except.ok.injEq] at ht
        exact .ok (ht ▸ pageTemplate_isLayout)
  · exact .error (.own rfl)

end Layout

end SchemaDocs
