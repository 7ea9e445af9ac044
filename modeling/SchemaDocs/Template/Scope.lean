import SchemaDocs.Template.Store

/-!
# Scopes of a rendering

Every frame has a scope, which knows its place in the store, and sees the scopes
of the frames around it. A macro keeps the places of the scopes around its
definition, so it sees what they hold when it is called and not what they held
when it was defined. A name that no scope holds is looked up in the page.
-/

namespace SchemaDocs.Template

/-- What an expression sees: the page, and the places of its scopes, the
innermost first. -/
structure View where
  page : List (String × Item)
  scopes : List Nat

/-- The item of a name. An unset name hides the page. -/
def View.find (view : View) (store : Store) (name : String) : Item :=
  let missing : Item := .undefined (.unbound name) none
  store.refresh (match store.find? view.scopes name with
    | some found => found.getD missing
    | none => (view.page.lookup name).getD missing)

/-- The page with everything that is set in the scopes put over it. -/
def View.flatten (view : View) (store : Store) : List (String × Item) :=
  view.scopes.flatMap (fun place =>
    (store.scope place).filterMap fun (name, item) =>
      item.map fun item => (name, item)) ++ view.page

end SchemaDocs.Template
