import SchemaDocs.Proofs.CleanItems
import SchemaDocs.Template.Filter
import SchemaDocs.Template.Method.Change
import SchemaDocs.Template.Operation

/-!
# Clean operations

Filters, tests, operators and the functions that make collections give clean
items for clean ones. Two filters declare what they are given to be markup and
are left out. And three operators put texts together: they escape plain text
for HTML only where it meets markup, so of them it is only known that they give
no markup when they are given none.
-/

namespace SchemaDocs.Template

open Item (Clean CleanAll CleanEntries clean_markup clean_list
  clean_tuple clean_dict cleanAll_nil
  cleanAll_cons cleanAll_append cleanEntries_nil cleanEntries_cons)
open Text (Unstructured)

variable {marked : Bool}

/-! ## Arguments -/

structure Arguments.Clean (marked : Bool) (args : Arguments) : Prop where
  positional : CleanAll marked args.positional
  named : ∀ e ∈ args.named, e.2.Clean marked

namespace Arguments.Clean

variable {args : Arguments} {item : Item}

theorem none : Arguments.none.Clean marked := ⟨cleanAll_nil, fun _ he => nomatch he⟩

theorem behind (h : args.Clean marked) (hitem : item.Clean marked) :
    (args.behind item).Clean marked :=
  ⟨cleanAll_cons.2 ⟨hitem, h.positional⟩, h.named⟩

theorem mono {other : Bool} (h : args.Clean marked) (hle : marked = true → other = true) :
    args.Clean other :=
  ⟨fun item hitem => (h.positional item hitem).mono hle,
    fun e he => (h.named e he).mono hle⟩

theorem addNamed (h : args.Clean marked) {key : String} {kept : List (String × Item)}
    (hkept : kept ⊆ args.named) (hitem : item.Clean marked) :
    Arguments.Clean marked { args with named := kept ++ [(key, item)] } := by
  refine ⟨h.positional, fun e he => ?_⟩
  rcases List.mem_append.1 he with he | he
  · exact h.named e (hkept he)
  · rw [List.mem_singleton.1 he]
    exact hitem

theorem addNames {function : String} : ∀ {entries : List (Item × Item)},
    CleanEntries marked entries → ∀ {args : Arguments}, args.Clean marked →
      Ensures (Arguments.addNames function args entries) (Arguments.Clean marked)
  | [], _, _, hargs => .ok hargs
  | (key, item) :: rest, hentries, args, hargs => by
      obtain ⟨⟨-, hitem⟩, hrest⟩ := cleanEntries_cons.1 hentries
      rw [Arguments.addNames.eq_def]
      dsimp only
      split
      · exact .ite (.error _) (addNames hrest (hargs.addNamed (List.Subset.refl _) hitem))
      · exact .error _

theorem add {function : String} (h : args.Clean marked) (kind : ArgumentKind)
    (hitem : item.Clean marked) :
    Ensures (args.add function kind item) (Arguments.Clean marked) := by
  rw [Arguments.add.eq_def]
  split
  · exact .ok ⟨cleanAll_append.2 ⟨h.positional, by simpa using hitem⟩, h.named⟩
  · exact .ok (h.addNamed List.filter_sublist.subset hitem)
  · have helements := Item.elements_clean hitem
    split
    · next items heq =>
        exact .ok ⟨cleanAll_append.2 ⟨h.positional, helements items heq⟩, h.named⟩
    · exact .error _
    · exact .error _
  · split
    · exact addNames (clean_dict.1 hitem) h
    · exact .error _
    · exact .error _

end Arguments.Clean

/-- The arguments that parameters were given, some of which have none. -/
def CleanBound (marked : Bool) (bound : List (Option Item)) : Prop :=
  ∀ item, some item ∈ bound → item.Clean marked

namespace CleanBound

variable {bound : List (Option Item)}

theorem argumentOr (h : CleanBound marked bound) (i : Nat) {default : Item}
    (hdefault : default.Clean marked) : (argumentOr default bound i).Clean marked := by
  rw [Template.argumentOr]
  cases hi : bound[i]?.join with
  | none => exact hdefault
  | some item => exact h item (List.mem_of_getElem? (Option.join_eq_some_iff.1 hi))

theorem drop (h : CleanBound marked bound) (n : Nat) : CleanBound marked (bound.drop n) :=
  fun item hitem => h item (List.mem_of_mem_drop hitem)

theorem headD (h : CleanBound marked bound) :
    ((bound.headD none).getD .null).Clean marked := by
  cases bound with
  | nil => exact .null
  | cons first rest =>
      cases first with
      | none => exact .null
      | some item => exact h item List.mem_cons_self

end CleanBound

namespace Declared

variable (f : Declared) {args : Arguments}

theorem place_clean {bound : List (Option Item)} (h : CleanBound marked bound)
    (key : String)
    {item : Item} (hitem : item.Clean marked) :
    Ensures (f.place args bound key item) (CleanBound marked) := by
  rw [place]
  split
  · dsimp only
    split
    · exact .error _
    · refine .ok fun other hother => ?_
      rcases List.mem_or_eq_of_mem_set hother with hmem | heq
      · exact h other hmem
      · cases heq
        exact hitem
  · exact .ite (.error _) (.error _)

theorem placeAll_clean :
    ∀ {named : List (String × Item)}, (∀ e ∈ named, e.2.Clean marked) →
    ∀ {bound : List (Option Item)}, CleanBound marked bound →
      Ensures (f.placeAll args bound named) (CleanBound marked)
  | [], _, _, h => .ok h
  | (key, item) :: rest, hnamed, _, h => by
      obtain ⟨hitem, hrest⟩ := List.forall_mem_cons.1 hnamed
      rw [placeAll]
      exact (f.place_clean h key hitem).bind fun bound hbound =>
        placeAll_clean hrest hbound

theorem bind_clean (h : args.Clean marked) :
    Ensures (f.bind args) (CleanBound marked) := by
  have hgiven : CleanBound marked ((args.positional.take f.params.length).map some ++
      List.replicate (f.params.length -
        ((args.positional.take f.params.length).map some).length) none) := by
    intro item hitem
    rcases List.mem_append.1 hitem with hmem | hmem
    · obtain ⟨item', hitem', heq⟩ := List.mem_map.1 hmem
      cases heq
      exact h.positional item (List.mem_of_mem_take hitem')
    · cases (List.mem_replicate.1 hmem).2
  rw [bind]
  refine (f.placeAll_clean h.named hgiven).bind fun bound hbound => ?_
  exact .ite (.after _ (.ite (.pure hbound) (.after _ (.pure hbound))))
    (.ite (.pure hbound) (.after _ (.pure hbound)))

end Declared

/-! ## Filters and tests -/

namespace Item

variable {item : Item}

theorem foldLines_clean (item : Item) : Ensures item.foldLines (Clean marked) := by
  rw [foldLines.eq_def]
  split
  · exact .ok (.text _)
  · exact (Ensures.trivial _).map fun s _ => .text _

theorem upper_clean (h : item.Clean marked) : Ensures item.upper (Clean marked) := by
  rw [upper.eq_def]
  split
  · obtain ⟨hmarked, h⟩ := clean_markup.1 h
    exact .ok (.markup hmarked h.upper)
  · exact (Ensures.trivial _).map fun s _ => .text _

theorem length_clean (item : Item) : Ensures item.length (Clean marked) := by
  rw [length]
  split
  · exact (Ensures.trivial _).map fun n _ => .int _
  · exact .error _

theorem toInt_clean {fallback : Item} (h : fallback.Clean marked) (item base : Item) :
    Ensures (item.toInt fallback base) (Clean marked) := by
  have hgetD (found : Option Int) :
      ((found.map Item.int).getD fallback).Clean marked := by
    cases found with
    | none => exact h
    | some n => exact .int n
  rw [toInt.eq_def]
  split
  · exact .ok (hgetD _)
  · exact .error _
  · exact .error _
  · split
    · exact .ok (.int _)
    · exact .ok (hgetD _)

theorem replaceMissing_clean {replacement : Item} (h : item.Clean marked)
    (hreplacement : replacement.Clean marked) (onFalse : Item) :
    Ensures (item.replaceMissing replacement onFalse) (Clean marked) := by
  rw [replaceMissing.eq_def]
  split
  · exact .pure hreplacement
  · refine .behind fun asked => .ite ?_ (.pure h)
    refine .behind fun holds => .pure ?_
    cases holds
    · exact hreplacement
    · exact h

/-- The least item is one of those that are compared, whatever they are
compared by. -/
theorem least_clean (h : item.Clean marked) (caseSensitive path : Item) :
    Ensures (item.least caseSensitive path) (Clean marked) := by
  rw [least]
  refine (elements_clean h).bind fun items hitems => ?_
  split
  · exact .pure (.undefined _ _)
  · next first rest =>
      obtain ⟨hfirst, hrest⟩ := cleanAll_cons.1 hitems
      refine .behind fun sensitive => .behind fun key => ?_
      refine Ensures.bind (.foldlM hfirst ?_) fun found (hfound : found.1.Clean marked) =>
        .pure hfound
      rintro item hitem ⟨found, foundKey⟩ hfound
      refine .behind fun itemKey => ?_
      refine .behind fun less => .pure ?_
      split
      · exact hrest item hitem
      · exact hfound

end Item

namespace NamedFunction

variable {path name item : String} {args : Arguments}

/-- A declared function is clean if what it does with its arguments is. -/
theorem declare_clean {before options : List String}
    {run : Item → List (Option Item) → Except RenderError Item}
    (hrun : ∀ item options, item.Clean marked → CleanBound marked options →
      Ensures (run item options) (Clean marked)) (h : args.Clean marked) :
    Ensures ((declare path name before item options run).apply args) (Clean marked) := by
  have hnulls : CleanAll marked (before.map fun _ => Item.null) := by simp [CleanAll]
  have hargs : Arguments.Clean marked
      { args with positional := before.map (fun _ => Item.null) ++ args.positional } :=
    ⟨cleanAll_append.2 ⟨hnulls, h.positional⟩, h.named⟩
  refine (Declared.bind_clean _ hargs).bind fun bound hbound => ?_
  exact hrun _ _ (hbound.drop _).headD ((hbound.drop _).drop 1)

theorem simple_clean {run : Item → Except RenderError Item}
    (hrun : ∀ item, item.Clean marked → Ensures (run item) (Clean marked))
    (h : args.Clean marked) :
    Ensures ((simple path name item run).apply args) (Clean marked) :=
  declare_clean (fun item _ hitem _ => hrun item hitem) h

end NamedFunction

open NamedFunction (declare_clean simple_clean)

theorem lengthFunction_clean (args : Arguments) :
    Ensures (lengthFunction.apply args) (Clean marked) := by
  refine .guarded ?_
  split
  · exact Item.length_clean _
  · exact .error _

/-- Only two filters make markup of what is none. -/
theorem applyFilter_clean {name : String} (hsafe : name ≠ "safe")
    (hyaml : name ≠ "yaml_str")
    {args : Arguments} (h : args.Clean marked) :
    Ensures (applyFilter name args) (Clean marked) := by
  have hdefault : Ensures (defaultFunction.apply args) (Clean marked) :=
    declare_clean (fun item options hitem hoptions =>
      Item.replaceMissing_clean hitem (hoptions.argumentOr 0 (.text _)) _) h
  rw [applyFilter]
  split
  · next f hf =>
      have hmem := mem_of_lookup hf
      simp only [filters, List.mem_cons, Prod.mk.injEq, List.not_mem_nil,
        or_false, hsafe, hyaml, false_and, false_or] at hmem
      rcases hmem with ⟨-, rfl⟩ | ⟨-, rfl⟩ | ⟨-, rfl⟩ | ⟨-, rfl⟩ | ⟨-, rfl⟩ | ⟨-, rfl⟩ |
        ⟨-, rfl⟩ | ⟨-, rfl⟩
      · exact simple_clean (fun item _ => item.foldLines_clean) h
      · exact simple_clean (fun item hitem => Item.upper_clean hitem) h
      · exact lengthFunction_clean args
      · exact lengthFunction_clean args
      · exact declare_clean (fun item options _ hoptions =>
          Item.toInt_clean (hoptions.argumentOr 0 (.int _)) item _) h
      · exact hdefault
      · exact hdefault
      · exact declare_clean (fun item options hitem _ => Item.least_clean hitem _ _) h
  · exact .error _

/-- A test gives a truth value. -/
theorem applyTest_clean (name : String) (args : Arguments) :
    Ensures (applyTest name args) (Clean marked) := by
  have hanswer {name item : String} (holds : Item → Bool) :
      Ensures ((NamedFunction.simple "jinja2.tests." name item fun item =>
        .ok (.bool (holds item))).apply args) (Clean marked) :=
    .behind fun bound => .ok (.bool _)
  rw [applyTest]
  split
  · next f hf =>
      have hmem := mem_of_lookup hf
      simp only [tests, testFunction, List.mem_cons, Prod.mk.injEq, List.not_mem_nil,
        or_false] at hmem
      rcases hmem with ⟨-, rfl⟩ | ⟨-, rfl⟩ | ⟨-, rfl⟩ <;> exact hanswer _
  · exact .error _

/-! ## Operators -/

namespace Item

variable {a b : Item}

theorem powerOfFloats_clean (x y : Binary64) :
    Ensures (powerOfFloats x y) (Clean marked) := by
  unfold powerOfFloats
  refine .ite (.error _) ?_
  split
  · exact .error _
  · exact .ok (.float _)

theorem applyFloats_clean (op : ArithmeticOp) (x y : Binary64) :
    Ensures (applyFloats op x y) (Clean marked) := by
  have hquotient (fault : RenderError) (z : Binary64) :
      Ensures (if y.isZero then .error fault else .ok (.float z)) (Clean marked) :=
    .ite (.error _) (.ok (.float _))
  cases op with
  | add | sub | mul => exact .ok (.float _)
  | div | floorDiv | mod => exact hquotient _ _
  | pow => exact powerOfFloats_clean x y

theorem divideInts_clean (m n : Int) : Ensures (divideInts m n) (Clean marked) := by
  rw [divideInts]
  refine .ite (.error _) ?_
  split
  · exact .error _
  · exact .ok (.float _)

theorem applyInts_clean (op : ArithmeticOp) (m n : Int) :
    Ensures (applyInts op m n) (Clean marked) := by
  cases op with
  | add | sub | mul => exact .ok (.int _)
  | div => exact divideInts_clean m n
  | floorDiv | mod => exact .ite (.error _) (.ok (.int _))
  | pow =>
      refine .ite (.ok (.int _)) (.behind fun x => ?_)
      exact .behind fun y => powerOfFloats_clean x y

theorem applyNumbers_clean (op : ArithmeticOp) (x y : Number) :
    Ensures (applyNumbers op x y) (Clean marked) := by
  rw [applyNumbers.eq_def]
  split
  · exact applyInts_clean op _ _
  · refine .behind fun x => .behind fun y => ?_
    exact applyFloats_clean op x y

theorem flatten_replicate_subset {α : Type} (n : Nat) (xs : List α) :
    (List.replicate n xs).flatten ⊆ xs := by
  intro x hx
  obtain ⟨copy, hcopy, hx⟩ := List.mem_flatten.1 hx
  exact (List.mem_replicate.1 hcopy).2 ▸ hx

theorem repeated?_clean {n : Nat} {item found : Item} (h : item.Clean marked)
    (hfound : item.repeated? n = some found) : found.Clean marked := by
  rw [repeated?.eq_def] at hfound
  split at hfound <;> cases hfound
  · exact .text _
  · exact clean_list.2 ((clean_list.1 h).subset (flatten_replicate_subset n _))
  · exact clean_tuple.2 ((clean_tuple.1 h).subset (flatten_replicate_subset n _))
  · exact .bytes _

theorem multiplySequences_clean (ha : a.Clean marked) (hb : b.Clean marked) :
    Ensures (multiplySequences a b) (Clean marked) := by
  have hsequence : (if a.isSequence then (a, b) else (b, a)).1.Clean marked := by
    split
    · exact ha
    · exact hb
  rw [multiplySequences]
  dsimp only
  split
  · refine .behind fun n => .pure ?_
    cases hrepeated : (if a.isSequence then (a, b) else (b, a)).1.repeated? n with
    | none => exact .null
    | some repeated => exact repeated?_clean hsequence hrepeated
  · exact .error _

theorem repeatMarkup_clean {s : String} (h : (Item.markup s).Clean marked)
    (other : Item) :
    Ensures (repeatMarkup s other) (Clean marked) := by
  obtain ⟨hmarked, h⟩ := clean_markup.1 h
  rw [repeatMarkup]
  split
  · exact .behind fun n =>
      .pure (.markup hmarked (h.of_subset (flatten_replicate_subset n _)))
  · exact .error _

/-- The operators that put texts together. -/
def ArithmeticOp.joins : ArithmeticOp → Bool
  | .add => true
  | .mod => true
  | _ => false

def isMarkup : Item → Bool
  | .markup _ => true
  | _ => false

theorem isMarkup_eq_false (h : a.Clean false) : a.isMarkup = false := by
  cases h with
  | markup hmarked _ => cases hmarked
  | _ => rfl

theorem addSequences_unmarked (ha : a.Clean false) (hb : b.Clean false) :
    Ensures (addSequences a b) (Clean false) := by
  have hplain : (a.isMarkup || b.isMarkup) ≠ true := by
    simp [isMarkup_eq_false ha, isMarkup_eq_false hb]
  rw [addSequences.eq_def]
  dsimp only
  split
  case h_1 => exact .ok (.text _)
  case h_2 =>
    split
    · next heq _ _ => exact absurd heq hplain
    · exact .error _
  case h_3 =>
    exact .ok (clean_list.2 (cleanAll_append.2 ⟨clean_list.1 ha, clean_list.1 hb⟩))
  case h_5 =>
    exact .ok (clean_tuple.2 (cleanAll_append.2 ⟨clean_tuple.1 ha, clean_tuple.1 hb⟩))
  case h_7 => exact .ok (.bytes _)
  case h_9 =>
    split
    · next heq _ _ => exact absurd heq hplain
    · exact .error _
  all_goals exact .error _

/-- Operators keep to what is clean, those that put texts together as long as
there is no markup. -/
theorem arithmetic_clean {op : ArithmeticOp} (hop : op.joins → marked = false)
    (ha : a.Clean marked) (hb : b.Clean marked) :
    Ensures (arithmetic op a b) (Clean marked) := by
  have hformat (medium : Percent.Medium) (format : List Char) {make : List Char → Item}
      (hmake : ∀ cs, (make cs).Clean marked) :
      Ensures (formatted medium format b make) (Clean marked) :=
    (Ensures.trivial _).map fun cs _ => hmake cs
  rw [arithmetic.eq_def]
  split
  case h_1 => exact hformat _ _ fun cs => .text _
  case h_2 =>
    have hmarked := (clean_markup.1 ha).1
    rw [hop rfl] at hmarked
    cases hmarked
  case h_3 => exact hformat _ _ fun cs => .bytes _
  case h_4 => exact repeatMarkup_clean ha _
  case h_6 => exact repeatMarkup_clean hb _
  case h_8 =>
    split
    · exact applyNumbers_clean _ _ _
    · split
      · have hmarked := hop rfl
        subst hmarked
        exact addSequences_unmarked ha hb
      · exact .ite (multiplySequences_clean ha hb) (.error _)
      · exact .error _
  all_goals exact .error _

/-- A join of plain texts is a plain text. -/
theorem concat_unmarked {items : List Item} (h : CleanAll false items) :
    Ensures (concat items) (Clean false) := by
  rw [concat]
  split
  · next hany =>
      obtain ⟨item, hitem, hmarkup⟩ := List.any_eq_true.1 hany
      exact nomatch (isMarkup_eq_false (h item hitem)).symm.trans hmarkup
  · exact .behind fun s => .pure (.text s)

theorem negate_clean (item : Item) : Ensures item.negate (Clean marked) := by
  rw [negate.eq_def]
  split
  · exact .error _
  · split
    · exact .ok (.int _)
    · exact .ok (.float _)
    · exact .error _

theorem positive_clean (item : Item) : Ensures item.positive (Clean marked) := by
  rw [positive.eq_def]
  split
  · exact .error _
  · split
    · exact .ok (.int _)
    · exact .ok (.float _)
    · exact .error _

/-! ## Making collections -/

theorem putEntry_clean {entries : List (Item × Item)} (h : CleanEntries marked entries)
    {key item : Item} (hkey : key.Clean marked) (hitem : item.Clean marked) :
    Ensures (putEntry entries key item) (CleanEntries marked) := by
  rw [putEntry]
  refine .behind fun found => ?_
  split
  · refine .pure fun e he => ?_
    rcases List.mem_append.1 he with he | he
    · exact h e he
    · rw [List.mem_singleton.1 he]
      exact ⟨hkey, hitem⟩
  · refine .mapM fun e he => .behind fun same => .pure ?_
    split
    · exact ⟨(h e he).1, hitem⟩
    · exact h e he

theorem putAll_clean {entries more : List (Item × Item)} (h : CleanEntries marked entries)
    (hmore : CleanEntries marked more) :
    Ensures (more.foldlM (fun entries e => putEntry entries e.1 e.2) entries)
      (CleanEntries marked) :=
  .foldlM h fun e he _ hentries => putEntry_clean hentries (hmore e he).1 (hmore e he).2

theorem ofPairs_clean {pairs : List (Item × Item)} (h : CleanEntries marked pairs) :
    Ensures (ofPairs pairs) (Clean marked) :=
  (putAll_clean cleanEntries_nil h).bind fun _ hentries => .pure (clean_dict.2 hentries)

end Item

variable {item : Item} {args : Arguments}

theorem pairOf_clean (h : item.Clean marked) (index : Nat) :
    Ensures (pairOf index item) fun pair =>
      pair.1.Clean marked ∧ pair.2.Clean marked := by
  have helements := Item.elements_clean h
  rw [pairOf]
  split
  · next heq =>
      have hboth := helements _ heq
      simp only [cleanAll_cons] at hboth
      exact .ok ⟨hboth.1, hboth.2.1⟩
  all_goals exact .error _

theorem pairsFrom_clean :
    ∀ {items : List Item} {entries : List (Item × Item)} {index : Nat},
    CleanAll marked items → CleanEntries marked entries →
      Ensures (pairsFrom entries index items) (CleanEntries marked)
  | [], _, _, _, hentries => .ok hentries
  | item :: rest, entries, index, hitems, hentries => by
      obtain ⟨hitem, hrest⟩ := cleanAll_cons.1 hitems
      rw [pairsFrom]
      refine (pairOf_clean hitem index).bind fun pair hpair => ?_
      exact (Item.putEntry_clean hentries hpair.1 hpair.2).bind fun entries hentries =>
        pairsFrom_clean hrest hentries

theorem entriesOf_clean (h : item.Clean marked) :
    Ensures (entriesOf item) (CleanEntries marked) := by
  rw [entriesOf.eq_def]
  split
  · exact .ok (clean_dict.1 h)
  · exact (Item.elements_clean h).bind fun items hitems =>
      pairsFrom_clean hitems cleanEntries_nil

theorem dictWith_clean {function : String} {entries : List (Item × Item)}
    (hentries : CleanEntries marked entries) (h : args.Clean marked) :
    Ensures (dictWith function entries args) (CleanEntries marked) := by
  have hput (more : List (Item × Item)) (hmore : CleanEntries marked more) :
      Ensures (do
        let entries ← more.foldlM (fun entries e => Item.putEntry entries e.1 e.2) entries
        args.named.foldlM (fun entries e => Item.putEntry entries (.text e.1) e.2)
          entries)
      (CleanEntries marked) :=
    (Item.putAll_clean hentries hmore).bind fun entries hentries => .foldlM hentries
      fun e he _ hentries => Item.putEntry_clean hentries (.text e.1) (h.named e he)
  rw [dictWith]
  split
  · exact hput [] cleanEntries_nil
  · next item hpositional =>
      have hitem := h.positional item (hpositional ▸ List.mem_cons_self)
      exact (entriesOf_clean hitem).bind hput
  · exact .error _

theorem recordMembers_clean (kind : RecordKind) (h : args.Clean marked) :
    Ensures (recordMembers kind args) (CleanEntries marked) := by
  rw [recordMembers.eq_def]
  split
  · exact dictWith_clean cleanEntries_nil h
  · split
    · exact .error _
    · exact .error _
    · exact .ok (by simp [h.positional])
  · refine (Declared.bind_clean _ (h.behind .null)).bind fun bound hbound => .pure ?_
    have hseparator : ((argument? bound 1).getD (.text ", ")).Clean marked :=
      hbound.argumentOr 1 (.text _)
    simp [hseparator]

theorem makeRange_clean (args : Arguments) : Ensures (makeRange args) (Clean marked) := by
  refine .guarded ?_
  split
  · exact .error _
  · exact .behind fun stop => .pure (.range _ _ _)
  · refine .behind fun start => ?_
    exact .behind fun stop => .pure (.range _ _ _)
  · refine .behind fun start => .behind fun stop => ?_
    refine .behind fun step => ?_
    exact .ite (.after _ (.pure (.range _ _ _))) (.pure (.range _ _ _))
  · exact .error _

theorem makeOf_clean (type : String) (h : args.Clean marked) :
    Ensures (makeOf type args) (Clean marked) := by
  rw [makeOf.eq_def]
  split
  · exact makeRange_clean args
  · exact (dictWith_clean cleanEntries_nil h).map fun entries hentries =>
      clean_dict.2 hentries
  · exact .error _

end SchemaDocs.Template
