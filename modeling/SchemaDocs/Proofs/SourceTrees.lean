import SchemaDocs.Layout.Custom
import SchemaDocs.Proofs.Failure

/-!
# The built-in templates as trees

The texts of the built-in templates are read and prepared to statements. Here
these are written out, and it is checked that they are what the texts compile to.
What is shown of the built-in templates is shown of their trees.
-/

namespace SchemaDocs

theorem Text.toList_lines : ∀ ls : List String,
    (Text.lines ls).toList = ls.flatMap fun l => l.toList ++ ['\n']
  | [] => rfl
  | l :: rest => by
      rw [Text.lines, List.foldr_cons, String.toList_append,
        String.toList_append, ← Text.lines, Text.toList_lines rest, List.flatMap_cons]
      rfl

namespace Template

/-! ## Telling that trees are the same -/

mutual

/-- Are two expressions the same? Only for what the built-in templates are made of. -/
def Expr.agrees : Expr → Expr → Bool
  | .const (.text s), .const (.text t) => s == t
  | .const (.int m), .const (.int n) => m == n
  | .name s, .name t => s == t
  | .list es, .list es' => Expr.agreesAll es es'
  | .attr e s, .attr e' t => e.agrees e' && s == t
  | .call f args, .call f' args' => f.agrees f' && Expr.agreesArguments args args'
  | .filter e s args, .filter e' t args' =>
    e.agrees e' && s == t && Expr.agreesArguments args args'
  | .arithmetic op l r, .arithmetic op' l' r' => op == op' && l.agrees l' && r.agrees r'
  | .compare e links, .compare e' links' => e.agrees e' && Expr.agreesLinks links links'
  | _, _ => false
termination_by structural e => e

def Expr.agreesAll : List Expr → List Expr → Bool
  | [], [] => true
  | e :: rest, e' :: rest' => e.agrees e' && Expr.agreesAll rest rest'
  | _, _ => false

def Expr.agreesArguments : List (ArgumentKind × Expr) → List (ArgumentKind × Expr) → Bool
  | [], [] => true
  | (kind, e) :: rest, (kind', e') :: rest' =>
    kind == kind' && e.agrees e' && Expr.agreesArguments rest rest'
  | _, _ => false

def Expr.agreesLinks : List (Item.CompareOp × Expr) → List (Item.CompareOp × Expr) → Bool
  | [], [] => true
  | (op, e) :: rest, (op', e') :: rest' =>
    op == op' && e.agrees e' && Expr.agreesLinks rest rest'
  | _, _ => false

end

mutual

theorem Expr.eq_of_agrees {e e' : Expr} (h : e.agrees e') : e = e' := by
  rw [Expr.agrees.eq_def] at h
  split at h
  · rw [beq_iff_eq.1 h]
  · rw [beq_iff_eq.1 h]
  · rw [beq_iff_eq.1 h]
  · rw [Expr.eq_of_agreesAll h]
  · obtain ⟨he, hs⟩ := Bool.and_eq_true_iff.1 h
    rw [Expr.eq_of_agrees he, beq_iff_eq.1 hs]
  · obtain ⟨hf, hargs⟩ := Bool.and_eq_true_iff.1 h
    rw [Expr.eq_of_agrees hf, Expr.eq_of_agreesArguments hargs]
  · obtain ⟨h, hargs⟩ := Bool.and_eq_true_iff.1 h
    obtain ⟨he, hs⟩ := Bool.and_eq_true_iff.1 h
    rw [Expr.eq_of_agrees he, beq_iff_eq.1 hs, Expr.eq_of_agreesArguments hargs]
  · obtain ⟨h, hr⟩ := Bool.and_eq_true_iff.1 h
    obtain ⟨hop, hl⟩ := Bool.and_eq_true_iff.1 h
    rw [beq_iff_eq.1 hop, Expr.eq_of_agrees hl, Expr.eq_of_agrees hr]
  · obtain ⟨he, hlinks⟩ := Bool.and_eq_true_iff.1 h
    rw [Expr.eq_of_agrees he, Expr.eq_of_agreesLinks hlinks]
  · cases h

theorem Expr.eq_of_agreesAll {es es' : List Expr} (h : Expr.agreesAll es es') :
    es = es' := by
  rw [Expr.agreesAll.eq_def] at h
  split at h
  · rfl
  · obtain ⟨he, hrest⟩ := Bool.and_eq_true_iff.1 h
    rw [Expr.eq_of_agrees he, Expr.eq_of_agreesAll hrest]
  · cases h

theorem Expr.eq_of_agreesArguments {es es' : List (ArgumentKind × Expr)}
    (h : Expr.agreesArguments es es') : es = es' := by
  rw [Expr.agreesArguments.eq_def] at h
  split at h
  · rfl
  · obtain ⟨h, hrest⟩ := Bool.and_eq_true_iff.1 h
    obtain ⟨hkind, he⟩ := Bool.and_eq_true_iff.1 h
    rw [beq_iff_eq.1 hkind, Expr.eq_of_agrees he, Expr.eq_of_agreesArguments hrest]
  · cases h

theorem Expr.eq_of_agreesLinks {es es' : List (Item.CompareOp × Expr)}
    (h : Expr.agreesLinks es es') : es = es' := by
  rw [Expr.agreesLinks.eq_def] at h
  split at h
  · rfl
  · obtain ⟨h, hrest⟩ := Bool.and_eq_true_iff.1 h
    obtain ⟨hop, he⟩ := Bool.and_eq_true_iff.1 h
    rw [beq_iff_eq.1 hop, Expr.eq_of_agrees he, Expr.eq_of_agreesLinks hrest]
  · cases h

end

mutual

/-- Are two statements the same? -/
def Stmt.agrees : Stmt → Stmt → Bool
  | .text s, .text t => s == t
  | .print e, .print e' => e.agrees e'
  | .branch e body otherwise, .branch e' body' otherwise' =>
    e.agrees e' && Stmt.agreesAll body body' && Stmt.agreesAll otherwise otherwise'
  | .loop (.name s) e none body otherwise info,
      .loop (.name t) e' none body' otherwise' info' =>
    s == t && e.agrees e' && Stmt.agreesAll body body' &&
      Stmt.agreesAll otherwise otherwise' &&
      info == info'
  | .define info params body unset, .define info' params' body' unset' =>
    info == info' && params.map Prod.fst == params'.map Prod.fst &&
      (params ++ params').all (·.2.isNone) && Stmt.agreesAll body body' && unset == unset'
  | .load e s use, .load e' t use' => e.agrees e' && s == t && use == use'
  | _, _ => false
termination_by structural s => s

def Stmt.agreesAll : List Stmt → List Stmt → Bool
  | [], [] => true
  | s :: rest, s' :: rest' => s.agrees s' && Stmt.agreesAll rest rest'
  | _, _ => false

end

theorem eq_of_noDefaults : ∀ {params params' : List (String × Option Expr)},
    params.map Prod.fst = params'.map Prod.fst → (params ++ params').all (·.2.isNone) →
    params = params' := by
  intro params params' hnames hnone
  have hplain : ∀ ps : List (String × Option Expr), ps.all (·.2.isNone) →
      ps = (ps.map Prod.fst).map fun name => (name, none) := by
    intro ps hps
    rw [List.map_map]
    refine (List.map_id ps).symm.trans (List.map_congr_left fun p hp => ?_)
    exact Prod.ext rfl (Option.isNone_iff_eq_none.1 (List.all_eq_true.1 hps p hp))
  rw [List.all_append, Bool.and_eq_true] at hnone
  rw [hplain params hnone.1, hplain params' hnone.2, hnames]

mutual

theorem Stmt.eq_of_agrees {s s' : Stmt} (h : s.agrees s') : s = s' := by
  rw [Stmt.agrees.eq_def] at h
  split at h
  · rw [beq_iff_eq.1 h]
  · rw [Expr.eq_of_agrees h]
  · simp only [Bool.and_eq_true] at h
    obtain ⟨⟨he, hbody⟩, hotherwise⟩ := h
    rw [Expr.eq_of_agrees he, Stmt.eq_of_agreesAll hbody, Stmt.eq_of_agreesAll hotherwise]
  · simp only [Bool.and_eq_true, beq_iff_eq] at h
    obtain ⟨⟨⟨⟨hs, he⟩, hbody⟩, hotherwise⟩, hinfo⟩ := h
    rw [hs, Expr.eq_of_agrees he, Stmt.eq_of_agreesAll hbody,
      Stmt.eq_of_agreesAll hotherwise, hinfo]
  · simp only [Bool.and_eq_true, beq_iff_eq] at h
    obtain ⟨⟨⟨⟨hinfo, hnames⟩, hnone⟩, hbody⟩, hunset⟩ := h
    rw [hinfo, eq_of_noDefaults hnames hnone, Stmt.eq_of_agreesAll hbody, hunset]
  · simp only [Bool.and_eq_true, beq_iff_eq] at h
    obtain ⟨⟨he, hs⟩, huse⟩ := h
    rw [Expr.eq_of_agrees he, hs, huse]
  · cases h

theorem Stmt.eq_of_agreesAll {ss ss' : List Stmt} (h : Stmt.agreesAll ss ss') :
    ss = ss' := by
  rw [Stmt.agreesAll.eq_def] at h
  split at h
  · rfl
  · obtain ⟨hs, hrest⟩ := Bool.and_eq_true_iff.1 h
    rw [Stmt.eq_of_agrees hs, Stmt.eq_of_agreesAll hrest]
  · cases h

end

/-! ## Macros -/

/-- A macro that takes its parameters and nothing else. -/
structure PlainMacro where
  name : String
  params : List String
  body : List Stmt

def PlainMacro.info (m : PlainMacro) : MacroInfo :=
  ⟨m.name, m.params, false, false, false⟩

/-- What defines the macro. -/
def PlainMacro.definition (m : PlainMacro) : Stmt :=
  .define m.info (m.params.map fun name => (name, none)) m.body []

end Template

namespace Layout

open Template (Expr Stmt PlainMacro parse)

/-! ## Checking what a text compiles to -/

/-- Does a text compile to a template? It is given by its characters. -/
def compilesTo (t : Template) (cs : List Char) : Bool :=
  let cs := Template.normalizeNewlines cs
  match parse (Template.scan cs.length (cs.length + 1) .data 1 true none cs) with
  | .error _ => false
  | .ok body =>
    match Stmt.prepareAll false (Template.ofStatements body).body with
    | .error _ => false
    | .ok body' =>
      Stmt.agreesAll body' t.body && (Template.ofStatements body).unset == t.unset &&
        (Template.ofStatements body).mentionsSelf == t.mentionsSelf

theorem compile_of_compilesTo {t : Template} {source : String}
    (h : compilesTo t source.toList) :
    Template.compile source = .ok t := by
  change (match parse (Template.tokens source) with | .error _ => false | .ok body => _) =
    true at h
  rw [Template.compile]
  cases hparse : parse (Template.tokens source) with
  | error e =>
      rw [hparse] at h
      cases h
  | ok body =>
      rw [hparse] at h
      rw [ok_bind_eq]
      change (match Stmt.prepareAll false (Template.ofStatements body).body with
        | .error _ => false | .ok body' => _) = true at h
      cases hprepare : Stmt.prepareAll false (Template.ofStatements body).body with
      | error e =>
          rw [hprepare] at h
          cases h
      | ok body' =>
          rw [hprepare] at h
          simp only [Bool.and_eq_true, beq_iff_eq] at h
          obtain ⟨⟨hbody, hunset⟩, hself⟩ := h
          simp only [hprepare, ok_bind_eq, Stmt.eq_of_agreesAll hbody, hunset, hself]
          rfl

/-! ## The macros -/

/-- What stands under a label of a name. -/
def part (name label : String) : Expr := .attr (.name name) label

def plainCall (f : Expr) (args : List Expr) : Expr :=
  .call f (args.map fun e => (.positional, e))

/-- A loop over the items of a list. -/
def loopOver (name : String) (items : Expr) (body : List Stmt) : Stmt :=
  .loop (.name name) items none body [] {}

def headingTree : PlainMacro where
  name := "heading"
  params := ["level"]
  body := [
    .print (.arithmetic .mul (.const (.text "#"))
      (.filter (.list [.name "level", .const (.int 6)]) "min" []))]

/-- What writes a text, as a link if there is an address for it. -/
def linkTree (name label : String) : Stmt :=
  .branch (part name "href")
    [.text "[", .print (part name label), .text "](", .print (part name "href"),
      .text ")"]
    [.print (part name label)]

def typeRefTree : PlainMacro where
  name := "type_ref"
  params := ["t"]
  body := [linkTree "t" "label"]

def typeTree (e : Expr) : Stmt := .print (plainCall (.name "type_ref") [e])

def fieldTypeTree : PlainMacro where
  name := "field_type"
  params := ["f"]
  body := [.branch (part "f" "map")
    [.text "map&lt;", typeTree (.attr (part "f" "map") "key"), .text ", ",
      typeTree (.attr (part "f" "map") "value"), .text "&gt;"]
    [typeTree (part "f" "type")]]

/-- What writes a description, if there is one. -/
def descriptionTree (e : Expr) : Stmt := .branch e [.print e, .text "\n\n"] []

def openingTree (name : String) : List Stmt := [
  .text "<a id=\"", .print (part name "anchor"), .text "\"></a>\n\n",
  .print (plainCall (.name "heading") [.name "level"]), .text " ",
  .print (part name "name"),
  .text "\n\n", descriptionTree (part name "description")]

def cellTree (name : String) : Stmt :=
  .print (.filter (part name "description") "oneline" [])

def enumRowTree : List Stmt := [
  .text "| ", .print (part "v" "name"), .text " | ", .print (part "v" "number"),
  .text " | ", cellTree "v", .text " |\n"]

def enumTree : PlainMacro where
  name := "enum"
  params := ["e", "level"]
  body := openingTree "e" ++ [
    .text valueTableHead,
    loopOver "v" (part "e" "entries") enumRowTree, .text "\n"]

def fieldRowTree : List Stmt := [
  .text "| ", .print (part "f" "name"), .text " | ",
  .print (plainCall (.name "field_type") [.name "f"]), .text " | ",
  .print (part "f" "label"), .text " | ", cellTree "f",
  .branch (part "f" "oneof") [.text " (oneof ", .print (part "f" "oneof"), .text ")"] [],
  .text " |\n"]

def fieldTableTree : Stmt :=
  .branch (part "m" "fields") [
    .text fieldTableHead,
    loopOver "f" (part "m" "fields") fieldRowTree, .text "\n"] []

/-- What writes a nested declaration by a macro. -/
def nestedTree (macroName : String) : List Stmt := [
  .print (plainCall (.name macroName)
    [.name "nested", .arithmetic .add (.name "level") (.const (.int 1))]),
  .text "\n"]

def messageTree : PlainMacro where
  name := "message"
  params := ["m", "level"]
  body := openingTree "m" ++ [
    fieldTableTree, loopOver "nested" (part "m" "messages") (nestedTree "message"),
    loopOver "nested" (part "m" "enums") (nestedTree "enum")]

def streamedTree (flag type : String) : List Stmt :=
  [.branch (part "m" flag) [.text "stream "] [], typeTree (part "m" type)]

def methodRowTree : List Stmt :=
  [.text "| ", .print (part "m" "name"), .text " | "] ++
    streamedTree "client_streaming" "request" ++ [.text " | "] ++
    streamedTree "server_streaming" "response" ++
    [.text " | ", cellTree "m", .text " |\n"]

def serviceTree : PlainMacro where
  name := "service"
  params := ["s", "level"]
  body := openingTree "s" ++ [
    .text methodTableHead,
    loopOver "m" (part "s" "methods") methodRowTree, .text "\n"]

def macroTrees : List PlainMacro :=
  [headingTree, typeRefTree, fieldTypeTree, enumTree, messageTree, serviceTree]

/-- Definitions of macros, with a line end between them. -/
def definitions (macros : List PlainMacro) : List Stmt :=
  (macros.map PlainMacro.definition).intersperse (.text "\n")

def macrosTemplate : Template where
  body := definitions macroTrees
  unset := macroTrees.reverse.map PlainMacro.name
  mentionsSelf := false

set_option maxRecDepth 20000 in
theorem macrosSource_compilesTo : compilesTo macrosTemplate macrosSource.toList := by
  rw [macrosSource, Text.toList_lines]
  simp only [headingMacro, typeMacros, enumMacro, messageMacro,
    serviceMacro, openingLines, List.flatMap_cons, List.flatMap_nil,
    List.append_nil, List.cons_append, List.nil_append,
    String.toList_append, String.reduceToList]
  decide +kernel

/-! ## The page -/

/-- What writes an entity by a macro of the imported template. -/
def entityTree (macroName : String) : List Stmt :=
  [.print (plainCall (.attr (.name "docs") macroName) [.name "entity", .const (.int 3)]),
    .text "\n"]

def isKind (kind : String) : Expr :=
  .compare (part "section" "kind") [(.eq, .const (.text kind))]

def sectionTree : List Stmt := [
  .branch (part "section" "entities") [
    .text "## ", .print (part "section" "title"), .text "\n\n",
    loopOver "entity" (part "section" "entities") [
      .branch (isKind "message") (entityTree "message")
        [.branch (isKind "enum") (entityTree "enum") (entityTree "service")]]] []]

def dependencyTree : List Stmt := [.text "- ", linkTree "dep" "path", .text "\n"]

def frontMatterTree : List Stmt := [
  .text "---\ntitle: ", .print (.filter (.name "title") "yaml_str" []),
  .text "\nhide_title: true\n---\n\n# ",
  .print (.name "title"), .text "\n\n"]

def pageTree : List Stmt := frontMatterTree ++ [
  .branch (.name "package") [.text "Package: **", .print (.name "package"),
    .text "**\n\n"] [],
  descriptionTree (.name "description"),
  .branch (.name "dependencies") [
    .text "Imports:\n\n", loopOver "dep" (.name "dependencies") dependencyTree,
    .text "\n"] [],
  loopOver "section" (.name "sections") sectionTree]

def pageTemplate : Template where
  body := .load (.const (.text "macros.mdx.j2")) "docs" ⟨false, false⟩ :: pageTree
  unset := ["docs"]
  mentionsSelf := false

set_option maxRecDepth 20000 in
theorem pageSource_compilesTo : compilesTo pageTemplate pageSource.toList := by
  rw [pageSource, Text.toList_lines]
  simp only [List.flatMap_cons, List.flatMap_nil, List.append_nil, List.cons_append,
    List.nil_append, String.toList_append, String.reduceToList]
  decide +kernel

theorem compile_macrosSource : Template.compile macrosSource = .ok macrosTemplate :=
  compile_of_compilesTo macrosSource_compilesTo

theorem compile_pageSource : Template.compile pageSource = .ok pageTemplate :=
  compile_of_compilesTo pageSource_compilesTo

end Layout

end SchemaDocs
