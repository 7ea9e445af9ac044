import Mathlib.Data.List.Basic
import SchemaDocs.Schema.Walk

/-!
# The walk visits every message of a tree once

`visit` keeps a list of messages still to be visited and knows nothing of the
tree they came from. What it returns is nevertheless the pre-order of that
list, read as a forest: taking the first message and putting its nested ones
in front of the rest is exactly how the pre-order of a forest unfolds. The
fuel is bookkeeping, and any amount that covers the number of messages in the
forest gives the same answer.

The other half of the file is about where a message is. `Nested` is the
relation of a tree to its subtrees, at every depth and with no order in it; a
function that goes with the children carries it along. The pre-order of a
message lists what is nested in it. Most of what is said about a schema is
said of the messages of its files in this sense, so this is the view that the
other proofs use, and none of them opens the walk again.
-/

namespace SchemaDocs

/-- What holds of a message as soon as it holds of all messages nested in it
holds of every message. -/
@[elab_as_elim]
theorem Message.nestedInduction {P : Message → Prop}
    (step : ∀ m : Message, (∀ n ∈ m.messages, P n) → P m) (m : Message) : P m := by
  match m with
  | ⟨name, fullName, fields, messages, enums, description, filePath⟩ =>
      refine step _ fun n hn => ?_
      exact Message.nestedInduction step n
termination_by sizeOf m
decreasing_by
  have := List.sizeOf_lt_of_mem hn
  simp only [Message.mk.sizeOf_spec] at this ⊢
  omega

/-! ## Unfolding the forest -/

theorem Message.preorder_eq (m : Message) :
    m.preorder = m :: preorderAll m.messages := by
  cases m
  rw [Message.preorder]

theorem Message.count_eq (m : Message) :
    m.count = countMessages m.messages + 1 := by
  cases m
  rw [Message.count]

theorem preorderAll_append (ms ns : List Message) :
    preorderAll (ms ++ ns) = preorderAll ms ++ preorderAll ns := by
  induction ms with
  | nil => rfl
  | cons m rest ih =>
      rw [List.cons_append, preorderAll, preorderAll, ih, List.append_assoc]

theorem countMessages_append (ms ns : List Message) :
    countMessages (ms ++ ns) = countMessages ms + countMessages ns := by
  induction ms with
  | nil => simp [countMessages]
  | cons m rest ih =>
      rw [List.cons_append, countMessages, countMessages, ih]
      omega

theorem preorderAll_eq_flatMap (ms : List Message) :
    preorderAll ms = ms.flatMap Message.preorder := by
  induction ms with
  | nil => rfl
  | cons m rest ih => rw [preorderAll, List.flatMap_cons, ih]

/-- A change of messages that goes with what is nested in them goes with the
pre-order. -/
theorem Message.preorder_map {g : Message → Message}
    (hg : ∀ m, (g m).messages = m.messages.map g) (m : Message) :
    (g m).preorder = m.preorder.map g := by
  induction m using Message.nestedInduction with
  | step m ih =>
      rw [Message.preorder_eq, Message.preorder_eq m, List.map_cons,
        hg, preorderAll_eq_flatMap, preorderAll_eq_flatMap, List.flatMap_map,
        List.map_flatMap, List.flatMap_congr ih]

theorem preorderAll_map {g : Message → Message}
    (hg : ∀ m, (g m).messages = m.messages.map g) (ms : List Message) :
    preorderAll (ms.map g) = (preorderAll ms).map g := by
  rw [preorderAll_eq_flatMap, preorderAll_eq_flatMap, List.flatMap_map, List.map_flatMap]
  exact List.flatMap_congr fun m _ => m.preorder_map hg

/-- The walk with a list still to be visited is the pre-order of that list.
The head of the list is what is paid for: its nested messages go in front of
the rest, and together they are one message fewer than before. -/
theorem visit_eq_preorderAll : ∀ {fuel : Nat} {ms : List Message},
    countMessages ms ≤ fuel → visit fuel ms = preorderAll ms := by
  intro fuel
  induction fuel with
  | zero =>
      intro ms h
      cases ms with
      | nil => rfl
      | cons m rest =>
          rw [countMessages, Message.count_eq] at h
          omega
  | succ fuel ih =>
      intro ms h
      cases ms with
      | nil => rfl
      | cons m rest =>
          rw [countMessages, Message.count_eq] at h
          have hle : countMessages (m.messages ++ rest) ≤ fuel := by
            rw [countMessages_append]
            omega
          rw [visit, ih hle, preorderAll_append, preorderAll,
            Message.preorder_eq, List.cons_append]

theorem Message.walk_eq_preorder (m : Message) : m.walk = m.preorder := by
  have hle : countMessages [m] ≤ m.count := by
    simp [countMessages]
  rw [Message.walk, visit_eq_preorderAll hle, preorderAll, preorderAll,
    List.append_nil]

theorem File.allMessages_eq (f : File) :
    f.allMessages = preorderAll f.messages := by
  rw [File.allMessages, preorderAll_eq_flatMap,
    show Message.walk = Message.preorder from funext Message.walk_eq_preorder]

/-! ## Nesting -/

/-- The first is the second, or is found among its children at some depth. -/
inductive Nested {α : Type} (children : α → List α) : α → α → Prop
  | refl (a : α) : Nested children a a
  | deeper {a b c : α} (hb : b ∈ children c) (ha : Nested children a b) :
      Nested children a c

theorem nested_iff {α : Type} {children : α → List α} {a c : α} :
    Nested children a c ↔ a = c ∨ ∃ b ∈ children c, Nested children a b := by
  constructor
  · intro h
    cases h with
    | refl => exact Or.inl rfl
    | deeper hb ha => exact Or.inr ⟨_, hb, ha⟩
  · rintro (rfl | ⟨b, hb, ha⟩)
    · exact .refl a
    · exact .deeper hb ha

/-- A function under which children go to children takes what is nested in a
tree to what is nested in its image. -/
theorem nested_map_iff {α β : Type} {children : α → List α}
    {children' : β → List β} {f : α → β}
    (hf : ∀ a, children' (f a) = (children a).map f) {a : α} {b : β} :
    Nested children' b (f a) ↔ ∃ c, Nested children c a ∧ b = f c := by
  constructor
  · intro h
    generalize ht : f a = t at h
    induction h generalizing a with
    | refl => exact ⟨a, .refl a, ht.symm⟩
    | deeper hb _ ih =>
        rw [← ht, hf] at hb
        obtain ⟨d, hd, rfl⟩ := List.mem_map.1 hb
        obtain ⟨c, hc, rfl⟩ := ih rfl
        exact ⟨c, .deeper hd hc, rfl⟩
  · rintro ⟨c, hc, rfl⟩
    induction hc with
    | refl => exact .refl _
    | deeper hb _ ih =>
        refine .deeper ?_ ih
        rw [hf]
        exact List.mem_map_of_mem hb

/-- A message is within itself and within whatever it is nested in. -/
abbrev Message.Within : Message → Message → Prop := Nested Message.messages

/-- A message of a file, at whatever depth it is nested. -/
def File.HasMessage (f : File) (m : Message) : Prop :=
  ∃ top ∈ f.messages, m.Within top

theorem Message.mem_preorder {k m : Message} :
    k ∈ m.preorder ↔ k.Within m := by
  induction m using Message.nestedInduction with
  | step m ih =>
      rw [Message.preorder_eq, List.mem_cons, preorderAll_eq_flatMap,
        List.mem_flatMap, Message.Within, nested_iff]
      exact or_congr Iff.rfl (exists_congr fun n =>
        and_congr_right fun hn => ih n hn)

theorem mem_preorderAll {k : Message} {ms : List Message} :
    k ∈ preorderAll ms ↔ ∃ m ∈ ms, k.Within m := by
  rw [preorderAll_eq_flatMap, List.mem_flatMap]
  exact exists_congr fun m => and_congr_right fun _ => Message.mem_preorder

theorem File.mem_allMessages {f : File} {m : Message} :
    m ∈ f.allMessages ↔ f.HasMessage m := by
  rw [File.allMessages_eq, mem_preorderAll]
  rfl

end SchemaDocs
