import SchemaDocs.Proofs.TameItems
import SchemaDocs.Template.Filter
import SchemaDocs.Template.Operation

/-!
# Tame operations

Filters, tests, comparisons and joins give tame items for tame ones, and all
that they fail with is contained: undefined values, values of the wrong kind, and
arguments that do not fit. The whole part of infinity is the exception, which is
why the filter that takes it counts as calculating.
-/

namespace SchemaDocs.Template

open Item (Tame TameAll TameEntries tame_list tame_tuple tame_dict
  tameAll_nil tameAll_cons
  tameAll_append tameEntries_cons)
open RenderError (Contained)

variable {calculates constant : Bool}

/-! ## Arguments -/

structure Arguments.Tame (calculates constant : Bool) (args : Arguments) : Prop where
  positional : TameAll calculates constant args.positional
  named : ∀ e ∈ args.named, e.2.Tame calculates constant

namespace Arguments.Tame

variable {args : Arguments} {item : Item}

theorem none : Arguments.none.Tame calculates constant :=
  ⟨tameAll_nil, fun _ he => nomatch he⟩

theorem behind (h : args.Tame calculates constant)
    (hitem : item.Tame calculates constant) :
    (args.behind item).Tame calculates constant :=
  ⟨tameAll_cons.2 ⟨hitem, h.positional⟩, h.named⟩

theorem addNamed (h : args.Tame calculates constant) {key : String}
    {kept : List (String × Item)}
    (hkept : kept ⊆ args.named) (hitem : item.Tame calculates constant) :
    Arguments.Tame calculates constant { args with named := kept ++ [(key, item)] } := by
  refine ⟨h.positional, fun e he => ?_⟩
  rcases List.mem_append.1 he with he | he
  · exact h.named e (hkept he)
  · rw [List.mem_singleton.1 he]
    exact hitem

theorem addNames {function : String} : ∀ {entries : List (Item × Item)},
    TameEntries calculates constant entries → ∀ {args : Arguments},
      args.Tame calculates constant →
        Meets (Contained calculates) (Arguments.addNames function args entries)
          (Arguments.Tame calculates constant)
  | [], _, _, hargs => .ok hargs
  | (key, item) :: rest, hentries, args, hargs => by
      obtain ⟨⟨-, hitem⟩, hrest⟩ := tameEntries_cons.1 hentries
      rw [Arguments.addNames.eq_def]
      dsimp only
      split
      · exact .ite (.error (.call _))
          (addNames hrest (hargs.addNamed (List.Subset.refl _) hitem))
      · exact .error (.call _)

theorem add {function : String} (h : args.Tame calculates constant) (kind : ArgumentKind)
    (hitem : item.Tame calculates constant) :
    Meets (Contained calculates) (args.add function kind item)
      (Arguments.Tame calculates constant) := by
  rw [Arguments.add.eq_def]
  split
  · exact .ok ⟨tameAll_append.2 ⟨h.positional, by simpa using hitem⟩, h.named⟩
  · exact .ok (h.addNamed List.filter_sublist.subset hitem)
  · have helements := Item.elements_meets hitem
    split
    · next items heq =>
        exact .ok ⟨tameAll_append.2 ⟨h.positional, helements.ensures items heq⟩, h.named⟩
    · exact .error (.call _)
    · next heq => exact .error (helements.of_error heq)
  · split
    · exact addNames (tame_dict.1 hitem).2 h
    · exact .error (.undefined _)
    · exact .error (.call _)

end Arguments.Tame

/-- The arguments that parameters were given, some of which have none. -/
def TameBound (calculates constant : Bool) (bound : List (Option Item)) : Prop :=
  ∀ item, some item ∈ bound → item.Tame calculates constant

namespace TameBound

variable {bound : List (Option Item)}

theorem argumentOr (h : TameBound calculates constant bound) (i : Nat) {default : Item}
    (hdefault : default.Tame calculates constant) :
    (argumentOr default bound i).Tame calculates constant := by
  rw [Template.argumentOr]
  cases hi : bound[i]?.join with
  | none => exact hdefault
  | some item => exact h item (List.mem_of_getElem? (Option.join_eq_some_iff.1 hi))

theorem drop (h : TameBound calculates constant bound) (n : Nat) :
    TameBound calculates constant (bound.drop n) :=
  fun item hitem => h item (List.mem_of_mem_drop hitem)

theorem headD (h : TameBound calculates constant bound) :
    ((bound.headD none).getD .null).Tame calculates constant := by
  cases bound with
  | nil => exact .null
  | cons first rest =>
      cases first with
      | none => exact .null
      | some item => exact h item List.mem_cons_self

end TameBound

namespace Declared

variable (f : Declared) {args : Arguments}

theorem place_meets {bound : List (Option Item)} (h : TameBound calculates constant bound)
    (key : String) {item : Item} (hitem : item.Tame calculates constant) :
    Meets (Contained calculates) (f.place args bound key item)
      (TameBound calculates constant) := by
  rw [place]
  split
  · dsimp only
    split
    · exact .error (.call _)
    · refine .ok fun other hother => ?_
      rcases List.mem_or_eq_of_mem_set hother with hmem | heq
      · exact h other hmem
      · cases heq
        exact hitem
  · exact .ite (.error (.call _)) (.error (.call _))

theorem placeAll_meets : ∀ {named : List (String × Item)},
    (∀ e ∈ named, e.2.Tame calculates constant) → ∀ {bound : List (Option Item)},
      TameBound calculates constant bound →
        Meets (Contained calculates) (f.placeAll args bound named)
          (TameBound calculates constant)
  | [], _, _, h => .ok h
  | (key, item) :: rest, hnamed, _, h => by
      obtain ⟨hitem, hrest⟩ := List.forall_mem_cons.1 hnamed
      rw [placeAll]
      exact (f.place_meets h key hitem).bind fun bound hbound =>
        placeAll_meets hrest hbound

theorem bind_meets (h : args.Tame calculates constant) :
    Meets (Contained calculates) (f.bind args) (TameBound calculates constant) := by
  have hgiven :
      TameBound calculates constant ((args.positional.take f.params.length).map some ++
        List.replicate (f.params.length -
          ((args.positional.take f.params.length).map some).length) none) := by
    intro item hitem
    rcases List.mem_append.1 hitem with hmem | hmem
    · obtain ⟨item', hitem', heq⟩ := List.mem_map.1 hmem
      cases heq
      exact h.positional item (List.mem_of_mem_take hitem')
    · cases (List.mem_replicate.1 hmem).2
  rw [bind]
  refine (f.placeAll_meets h.named hgiven).bind fun bound hbound => ?_
  exact .ite (.error (.call _)) (.ite (.pure hbound) (.error (.call _)))

end Declared

/-! ## Comparisons -/

namespace Item

variable {item : Item}

mutual

/-- An order fails on what has none, and like a comparison. -/
theorem ordered_meets (op : CompareOp) : ∀ (fuel : Nat) (a b : Item),
    Meets (Contained calculates) (ordered op fuel a b) fun _ => True := by
  intro fuel a b
  rw [ordered.eq_def]
  split
  · exact .error (.undefined _)
  · exact .error (.undefined _)
  · exact .error .tooDeep
  · split
    · exact .ok trivial
    split
    · exact .ok trivial
    split
    · exact .ok trivial
    · exact orderedItems_meets op _ _ _
    · exact orderedItems_meets op _ _ _
    · exact .error (.own rfl)

theorem orderedItems_meets (op : CompareOp) : ∀ (fuel : Nat) (xs ys : List Item),
    Meets (Contained calculates) (orderedItems op fuel xs ys) fun _ => True
  | fuel, x :: xs, y :: ys => by
      rw [orderedItems]
      exact (sameInside_meets x y).bind fun same _ =>
        .ite (orderedItems_meets op fuel xs ys) (ordered_meets op fuel x y)
  | _, [], _ => by
      rw [orderedItems]
      · exact .ok trivial
      · simp
  | _, _ :: _, [] => by
      rw [orderedItems]
      · exact .ok trivial
      · simp

end

theorem holdsItem_meets (part : Item) (items : List Item) :
    Meets (Contained calculates) (holdsItem part items) fun _ => True := by
  induction items with
  | nil => exact .ok trivial
  | cons item rest ih =>
      rw [holdsItem]
      exact (sameInside_meets item part).bind fun same _ => .ite (.pure trivial) ih

theorem isSome_lookUp_meets (entries : List (Item × Item)) (key : Item) :
    Meets (Contained calculates) (do return (← lookUp entries key).isSome) fun _ =>
      True :=
  (lookUp_meets (fun _ => True) key (by simp)).bind fun _ _ => .pure trivial

theorem holdsPair_meets (entries : List (Item × Item)) (part : Item) :
    Meets (Contained calculates) (holdsPair entries part) fun _ => True := by
  rw [holdsPair.eq_def]
  split
  · refine (lookUp_meets (fun _ => True) _ (by simp)).bind fun found _ => ?_
    cases found with
    | none => exact .pure trivial
    | some found => exact sameInside_meets _ _
  · exact .ok trivial

theorem containsOctets_meets (octets : List UInt8) (part : Item) :
    Meets (Contained calculates) (containsOctets octets part) fun _ => True := by
  rw [containsOctets.eq_def]
  split
  · exact .ite (.ok trivial) (.error (.own rfl))
  · exact .ok trivial
  · exact .error (.own rfl)

theorem containsText_meets (s : String) (part : Item) :
    Meets (Contained calculates) (containsText s part) fun _ => True := by
  rw [containsText]
  split
  · exact .ok trivial
  · exact .error (.own rfl)

theorem contains_meets (whole part : Item) :
    Meets (Contained calculates) (whole.contains part) fun _ => True := by
  rw [contains.eq_def]
  split
  case h_1 => exact orElse_meets trivial
  case h_2 | h_3 => exact containsText_meets _ part
  case h_4 => exact containsOctets_meets _ part
  case h_5 | h_6 => exact isSome_lookUp_meets _ part
  case h_7 | h_8 | h_11 => exact holdsItem_meets part _
  case h_9 =>
    split
    · exact .ok trivial
    · exact holdsItem_meets part _
  case h_10 => exact holdsPair_meets _ part
  all_goals exact .error (.own rfl)

theorem compareWith_meets (op : CompareOp) (a b : Item) :
    Meets (Contained calculates) (compareWith op a b) (Tame calculates constant) := by
  cases op with
  | eq | ne => exact (same_meets a b).map fun _ _ => .bool _
  | isIn | notIn => exact (contains_meets b a).map fun _ _ => .bool _
  | lt | le | gt | ge => exact (ordered_meets _ _ a b).map fun _ _ => .bool _

/-! ## Signs and joins -/

theorem eq_float_of_number? {item : Item} {x : Binary64}
    (h : item.number? = some (.float x)) :
    item = .float x := by
  cases item with
  | float y =>
      cases h
      rfl
  | _ => cases h

/-- The sign of a number makes no difference to its digits. -/
theorem unwritable?_neg (x : Binary64) :
    (Item.float x.neg).unwritable? = (Item.float x).unwritable? := by
  cases x <;> rfl

theorem negate_meets (h : item.Tame calculates constant) :
    Meets (Contained calculates) item.negate (Tame calculates constant) := by
  rw [negate.eq_def]
  split
  · exact .error (.undefined _)
  · split
    · exact .ok (.int _)
    · next x hx =>
        obtain rfl := eq_float_of_number? hx
        cases h with
        | float h => exact .ok (.float fun hconstant => unwritable?_neg x ▸ h hconstant)
    · exact .error (.own rfl)

theorem positive_meets (h : item.Tame calculates constant) :
    Meets (Contained calculates) item.positive (Tame calculates constant) := by
  rw [positive.eq_def]
  split
  · exact .error (.undefined _)
  · split
    · exact .ok (.int _)
    · next x hx => exact .ok (eq_float_of_number? hx ▸ h)
    · exact .error (.own rfl)

theorem joinResults_meets : ∀ {results : List (Except RenderError String)},
    (∀ r ∈ results, Meets (Contained calculates) r fun _ => True) →
      Meets (Contained calculates) (joinResults results) fun _ => True
  | [], _ => .ok trivial
  | r :: rest, h => by
      obtain ⟨hr, hrest⟩ := List.forall_mem_cons.1 h
      rw [joinResults]
      exact hr.bind fun _ _ => (joinResults_meets hrest).bind fun _ _ => .pure trivial

theorem concat_meets (items : List Item) :
    Meets (Contained calculates) (concat items) (Tame calculates constant) := by
  rw [concat]
  refine .ite ?_ ?_
  · refine (joinResults_meets ?_).bind fun s _ => .pure (.markup s)
    simp only [List.mem_map]
    rintro _ ⟨item, -, rfl⟩
    split
    · exact .ok trivial
    · exact (display_meets _).map fun _ _ => trivial
  · refine (joinResults_meets ?_).bind fun s _ => .pure (.text s)
    simp only [List.mem_map]
    rintro _ ⟨item, -, rfl⟩
    exact display_meets item

end Item

/-! ## Filters and tests -/

namespace Item

variable {item : Item}

theorem markSafe_meets (item : Item) :
    Meets (Contained calculates) item.markSafe (Tame calculates constant) :=
  (display_meets item).map fun s _ => .markup s

theorem foldLines_meets (item : Item) :
    Meets (Contained calculates) item.foldLines (Tame calculates constant) := by
  rw [foldLines.eq_def]
  split
  · exact .ok (.text _)
  · exact (display_meets _).map fun s _ => .text _

theorem quoteText_meets (item : Item) :
    Meets (Contained calculates) item.quoteText (Tame calculates constant) := by
  rw [quoteText.eq_def]
  split
  · exact .ok (.markup _)
  · exact (display_meets _).map fun s _ => .markup _

theorem upper_meets (item : Item) :
    Meets (Contained calculates) item.upper (Tame calculates constant) := by
  rw [upper.eq_def]
  split
  · exact .ok (.markup _)
  · exact (display_meets _).map fun s _ => .text _

theorem length_meets (h : item.Tame calculates constant) :
    Meets (Contained calculates) item.length (Tame calculates constant) := by
  rw [length]
  split
  · next hn => exact counted_meets (length?_meets h hn) _
  · exact .error (.own rfl)

theorem toInt_meets {fallback : Item} (h : fallback.Tame true constant)
    (item base : Item) :
    Meets (Contained true) (item.toInt fallback base) (Tame true constant) := by
  have hgetD (found : Option Int) :
      ((found.map Item.int).getD fallback).Tame true constant := by
    cases found with
    | none => exact h
    | some n => exact .int n
  rw [toInt.eq_def]
  split
  · exact .ok (hgetD _)
  · exact .error (.undefined _)
  · exact .error (.arithmetic rfl)
  · split
    · exact .ok (.int _)
    · exact .ok (hgetD _)

theorem replaceMissing_meets {replacement onFalse : Item}
    (h : item.Tame calculates constant)
    (hreplacement : replacement.Tame calculates constant)
    (hasked : onFalse.Tame calculates constant) :
    Meets (Contained calculates) (item.replaceMissing replacement onFalse)
      (Tame calculates constant) := by
  rw [replaceMissing.eq_def]
  split
  · exact .pure hreplacement
  · refine (truthy_meets hasked).bind fun asked _ => .ite ?_ (.pure h)
    refine (truthy_meets h).bind fun holds _ => .pure ?_
    cases holds
    · exact hreplacement
    · exact h

theorem sortKey_meets (caseSensitive : Bool) (path : List Item)
    (h : item.Tame calculates constant) :
    Meets (Contained calculates) (sortKey caseSensitive path item) fun _ => True := by
  rw [sortKey]
  refine Meets.bind (.foldlM h fun key _ item hitem => element_meets hitem key)
    fun found _ => ?_
  exact .pure trivial

/-- The least item is one of those that are compared. -/
theorem least_meets {caseSensitive : Item} (h : item.Tame calculates constant)
    (hsensitive : caseSensitive.Tame calculates constant) (path : Item) :
    Meets (Contained calculates) (item.least caseSensitive path)
      (Tame calculates constant) := by
  rw [least]
  refine (elements_meets h).bind fun items hitems => ?_
  split
  · exact .pure (.undefined _ _)
  · next first rest =>
      obtain ⟨hfirst, hrest⟩ := tameAll_cons.1 hitems
      refine (truthy_meets hsensitive).bind fun sensitive _ => ?_
      refine (sortKey_meets sensitive _ hfirst).bind fun key _ => ?_
      refine Meets.bind (.foldlM hfirst ?_) fun found
        (hfound : found.1.Tame calculates constant) => .pure hfound
      rintro item hitem ⟨found, foundKey⟩ hfound
      refine (sortKey_meets sensitive _ (hrest item hitem)).bind fun itemKey _ => ?_
      refine (ordered_meets _ _ _ _).bind fun less _ => .pure ?_
      split
      · exact hrest item hitem
      · exact hfound

end Item

namespace NamedFunction

variable {path name item : String} {args : Arguments}

/-- A declared function is tame if what it does with its arguments is. -/
theorem declare_meets {before options : List String}
    {run : Item → List (Option Item) → Except RenderError Item}
    (hrun : ∀ item options, item.Tame calculates constant →
      TameBound calculates constant options →
      Meets (Contained calculates) (run item options) (Tame calculates constant))
    (h : args.Tame calculates constant) :
    Meets (Contained calculates) ((declare path name before item options run).apply args)
      (Tame calculates constant) := by
  have hnulls :
      TameAll calculates constant (before.map fun _ => Item.null) := by simp [TameAll]
  have hargs : Arguments.Tame calculates constant
      { args with positional := before.map (fun _ => Item.null) ++ args.positional } :=
    ⟨tameAll_append.2 ⟨hnulls, h.positional⟩, h.named⟩
  refine (Declared.bind_meets _ hargs).bind fun bound hbound => ?_
  exact hrun _ _ (hbound.drop _).headD ((hbound.drop _).drop 1)

theorem simple_meets {run : Item → Except RenderError Item}
    (hrun : ∀ item, item.Tame calculates constant →
      Meets (Contained calculates) (run item) (Tame calculates constant))
    (h : args.Tame calculates constant) :
    Meets (Contained calculates) ((simple path name item run).apply args)
      (Tame calculates constant) :=
  declare_meets (fun item _ hitem _ => hrun item hitem) h

end NamedFunction

open NamedFunction (declare_meets simple_meets)

theorem lengthFunction_meets {args : Arguments} (h : args.Tame calculates constant) :
    Meets (Contained calculates) (lengthFunction.apply args)
      (Tame calculates constant) := by
  refine .guarded (.call _) ?_
  split
  · next item hpositional =>
      exact Item.length_meets (h.positional item (hpositional ▸ List.mem_cons_self))
  · exact .error (.call _)

theorem applyFilter_meets {name : String} (hname : (calculates || name != "int") = true)
    {args : Arguments} (h : args.Tame calculates constant) :
    Meets (Contained calculates) (applyFilter name args) (Tame calculates constant) := by
  have hdefault : Meets (Contained calculates) (defaultFunction.apply args)
      (Tame calculates constant) :=
    declare_meets (fun item options hitem hoptions => Item.replaceMissing_meets hitem
      (hoptions.argumentOr 0 (.text _)) (hoptions.argumentOr 1 (.bool _))) h
  rw [applyFilter]
  split
  · next f hf =>
      have hmem := mem_of_lookup hf
      simp only [filters, List.mem_cons, Prod.mk.injEq, List.not_mem_nil, or_false]
        at hmem
      rcases hmem with ⟨-, rfl⟩ | ⟨-, rfl⟩ | ⟨-, rfl⟩ | ⟨-, rfl⟩ | ⟨-, rfl⟩ | ⟨-, rfl⟩ |
        ⟨hint, rfl⟩ | ⟨-, rfl⟩ | ⟨-, rfl⟩ | ⟨-, rfl⟩
      · exact simple_meets (fun item _ => item.markSafe_meets) h
      · exact simple_meets (fun item _ => item.foldLines_meets) h
      · exact simple_meets (fun item _ => item.quoteText_meets) h
      · exact simple_meets (fun item _ => item.upper_meets) h
      · exact lengthFunction_meets h
      · exact lengthFunction_meets h
      · have hcalculates : calculates = true := by simpa [hint] using hname
        subst hcalculates
        exact declare_meets (fun item options _ hoptions =>
          Item.toInt_meets (hoptions.argumentOr 0 (.int _)) item _) h
      · exact hdefault
      · exact hdefault
      · exact declare_meets (fun item options hitem hoptions =>
          Item.least_meets hitem (hoptions.argumentOr 0 (.bool _)) _) h
  · exact .error (.own rfl)

/-- A test gives a truth value. -/
theorem applyTest_meets (name : String) {args : Arguments}
    (h : args.Tame calculates constant) :
    Meets (Contained calculates) (applyTest name args) (Tame calculates constant) := by
  have hanswer {name item : String} (holds : Item → Bool) : Meets (Contained calculates)
      ((NamedFunction.simple "jinja2.tests." name item fun item =>
        .ok (.bool (holds item))).apply args) (Tame calculates constant) :=
    simple_meets (fun item _ => .ok (.bool _)) h
  rw [applyTest]
  split
  · next f hf =>
      have hmem := mem_of_lookup hf
      simp only [tests, testFunction, List.mem_cons, Prod.mk.injEq, List.not_mem_nil,
        or_false] at hmem
      rcases hmem with ⟨-, rfl⟩ | ⟨-, rfl⟩ | ⟨-, rfl⟩ <;> exact hanswer _
  · exact .error (.own rfl)

end SchemaDocs.Template
