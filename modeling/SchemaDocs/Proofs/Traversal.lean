import Mathlib.Logic.Relation
import SchemaDocs.Proofs.Walk

/-!
# The loop of the walk, and the places it comes to

The walk is a loop over a stack: the message on top is taken off and visited,
and its nested messages are put on in reverse, so that the first of them is on
top. A `Tour` is such a loop under way. What it will have visited in the end can
be told at any time, as what it has visited followed by the pre-order of what is
on the stack, read from the top; a turn does not change that. And a turn leaves
one message fewer to visit, so there is no endless tour, and all that is left at
the end is the pre-order of the message at which it started.

That each message of the tree is visited once is a matter of places, since two
messages of a tree may well be alike. A place is a path of child numbers, and
`Message.at?` follows it without regard to any order. The walk lists what stands
at the places of the tree, each place once, in the lexicographic order of the
paths.
-/

namespace SchemaDocs

/-! ## The loop -/

/-- A walk under way: the messages on the stack, the top at the end, and the
messages visited so far. -/
structure Tour where
  stack : List Message
  visited : List Message

namespace Tour

/-- One turn of the loop. The message on top is taken off and visited, and its
nested messages are put on in reverse. -/
inductive Turn : Tour → Tour → Prop
  | visit (rest visited : List Message) (top : Message) :
      Turn ⟨rest ++ [top], visited⟩ ⟨rest ++ top.messages.reverse, visited ++ [top]⟩

/-- A number of turns, one after the other. -/
abbrev Leads : Tour → Tour → Prop := Relation.ReflTransGen Turn

/-- The messages still to be visited, the next one first. -/
def pending (t : Tour) : List Message := t.stack.reverse

/-- What will have been visited when nothing is pending. -/
def outlook (t : Tour) : List Message := t.visited ++ preorderAll t.pending

variable {t u : Tour}

/-- All that a turn does, seen from the top of the stack. -/
theorem Turn.pending_eq (h : Turn t u) : ∃ top rest, t.pending = top :: rest ∧
    u.pending = top.messages ++ rest ∧ u.visited = t.visited ++ [top] := by
  cases h with
  | visit rest visited top =>
      refine ⟨top, rest.reverse, ?_, ?_, rfl⟩
      · rw [pending, List.reverse_append, List.reverse_singleton, List.singleton_append]
      · rw [pending, List.reverse_append, List.reverse_reverse]

theorem Turn.outlook_eq (h : Turn t u) : u.outlook = t.outlook := by
  obtain ⟨top, rest, ht, hu, hvisited⟩ := h.pending_eq
  rw [outlook, outlook, ht, hu, hvisited, preorderAll_append, preorderAll,
    Message.preorder_eq, List.append_assoc, List.singleton_append, List.cons_append]

theorem Turn.count_lt (h : Turn t u) :
    countMessages u.pending < countMessages t.pending := by
  obtain ⟨top, rest, ht, hu, -⟩ := h.pending_eq
  rw [ht, hu, countMessages_append, countMessages, Message.count_eq]
  omega

/-- No tour goes on for ever. -/
theorem turn_wellFounded : WellFounded fun u t => Turn t u :=
  Subrelation.wf Turn.count_lt
    (InvImage.wf (fun t : Tour => countMessages t.pending) Nat.lt_wfRel.wf)

theorem exists_turn {stack : List Message} (h : stack ≠ []) (visited : List Message) :
    ∃ u, Turn ⟨stack, visited⟩ u := by
  rw [← List.dropLast_append_getLast h]
  exact ⟨_, .visit _ visited _⟩

theorem Leads.outlook_eq (h : Leads t u) : u.outlook = t.outlook := by
  induction h with
  | refl => rfl
  | tail _ hturn ih => rw [hturn.outlook_eq, ih]

theorem exists_leads_end (t : Tour) : ∃ visited, Leads t ⟨[], visited⟩ := by
  induction t using turn_wellFounded.induction with
  | h t ih =>
      obtain ⟨stack, visited⟩ := t
      by_cases hend : stack = []
      · subst hend
        exact ⟨visited, .refl⟩
      · obtain ⟨u, hturn⟩ := exists_turn hend visited
        obtain ⟨all, hrest⟩ := ih u hturn
        exact ⟨all, .head hturn hrest⟩

/-- A tour comes to an end, and there is one list that it can end with. -/
theorem leads_end_iff {visited : List Message} :
    Leads t ⟨[], visited⟩ ↔ visited = t.outlook := by
  have hend (all : List Message) (h : Leads t ⟨[], all⟩) : all = t.outlook := by
    have hsame : all ++ [] = t.outlook := h.outlook_eq
    rw [← hsame, List.append_nil]
  constructor
  · exact hend visited
  · rintro rfl
    obtain ⟨all, hall⟩ := exists_leads_end t
    rwa [← hend all hall]

end Tour

/-! ## Places -/

/-- The message at the end of a path of child numbers. -/
def Message.at? (m : Message) : List Nat → Option Message
  | [] => some m
  | i :: path => m.messages[i]?.bind (·.at? path)

mutual

/-- The paths to the messages of a tree, in the order of the pre-order. -/
def Message.paths : Message → List (List Nat)
  | ⟨_, _, _, messages, _, _, _⟩ => [] :: pathsFrom 0 messages

/-- The paths into messages that are numbered from `i` on. -/
def pathsFrom (i : Nat) : List Message → List (List Nat)
  | [] => []
  | m :: rest => m.paths.map (i :: ·) ++ pathsFrom (i + 1) rest

end

theorem Message.paths_eq (m : Message) : m.paths = [] :: pathsFrom 0 m.messages := by
  cases m
  rw [Message.paths]

theorem Message.at?_cons {m n : Message} {i : Nat} (h : m.messages[i]? = some n)
    (path : List Nat) : m.at? (i :: path) = n.at? path := by
  rw [Message.at?, h, Option.bind_some]

theorem mem_pathsFrom {path : List Nat} {ms : List Message} {i : Nat} :
    path ∈ pathsFrom i ms ↔
      ∃ j n rest, path = (i + j) :: rest ∧ ms[j]? = some n ∧ rest ∈ n.paths := by
  induction ms generalizing i with
  | nil => simp [pathsFrom]
  | cons m ms ih =>
      rw [pathsFrom, List.mem_append, List.mem_map, ih]
      constructor
      · rintro (⟨rest, hrest, rfl⟩ | ⟨j, n, rest, rfl, hn, hrest⟩)
        · exact ⟨0, m, rest, rfl, rfl, hrest⟩
        · exact ⟨j + 1, n, rest, by rw [Nat.add_right_comm, Nat.add_assoc], hn, hrest⟩
      · rintro ⟨j, n, rest, rfl, hn, hrest⟩
        cases j with
        | zero =>
            obtain rfl := Option.some.inj hn
            exact Or.inl ⟨rest, hrest, rfl⟩
        | succ j =>
            exact Or.inr ⟨j, n, rest, by rw [Nat.add_right_comm, Nat.add_assoc],
              hn, hrest⟩

/-- The paths are those that lead to a message. -/
theorem Message.mem_paths {m : Message} {path : List Nat} :
    path ∈ m.paths ↔ (m.at? path).isSome = true := by
  induction path generalizing m with
  | nil => simp [Message.paths_eq, Message.at?]
  | cons i path ih =>
      rw [Message.paths_eq, List.mem_cons, mem_pathsFrom]
      constructor
      · rintro (h | ⟨j, n, rest, hpath, hn, hrest⟩)
        · cases h
        · rw [Nat.zero_add] at hpath
          obtain ⟨rfl, rfl⟩ := List.cons.inj hpath
          rw [Message.at?_cons hn]
          exact ih.1 hrest
      · intro h
        cases hn : m.messages[i]? with
        | none => rw [Message.at?, hn] at h; cases h
        | some n =>
            rw [Message.at?_cons hn] at h
            exact Or.inr ⟨i, n, path, by rw [Nat.zero_add], hn, ih.2 h⟩

theorem pairwise_pathsFrom {ms : List Message} (h : ∀ m ∈ ms, m.paths.Pairwise (· < ·))
    (i : Nat) : (pathsFrom i ms).Pairwise (· < ·) := by
  induction ms generalizing i with
  | nil => exact .nil
  | cons m ms ih =>
      rw [List.forall_mem_cons] at h
      rw [pathsFrom, List.pairwise_append, List.pairwise_map]
      refine ⟨h.1.imp fun hlt => List.cons_lt_cons_iff.2 (.inr ⟨rfl, hlt⟩),
        ih h.2 (i + 1), ?_⟩
      intro p hp q hq
      obtain ⟨p, -, rfl⟩ := List.mem_map.1 hp
      obtain ⟨j, -, q, rfl, -, -⟩ := mem_pathsFrom.1 hq
      exact List.cons_lt_cons_iff.2 (.inl (by omega))

/-- The paths come in lexicographic order, a path before those that go on from
it, and so no path comes twice. -/
theorem Message.pairwise_paths (m : Message) : m.paths.Pairwise (· < ·) := by
  induction m using Message.nestedInduction with
  | step m ih =>
      rw [Message.paths_eq, List.pairwise_cons]
      refine ⟨fun path hpath => ?_, pairwise_pathsFrom ih 0⟩
      obtain ⟨j, -, rest, rfl, -, -⟩ := mem_pathsFrom.1 hpath
      exact List.nil_lt_cons _ _

/-- What the paths into the messages from the one numbered `i` on lead to. -/
theorem map_at?_pathsFrom {m : Message} {ms : List Message} {i : Nat}
    (h : ∀ n ∈ ms, n.paths.map n.at? = n.preorder.map some)
    (hms : m.messages.drop i = ms) :
    (pathsFrom i ms).map m.at? = (preorderAll ms).map some := by
  induction ms generalizing i with
  | nil => rfl
  | cons n ms ih =>
      rw [List.forall_mem_cons] at h
      have hn : m.messages[i]? = some n := by
        rw [← List.head?_drop, hms, List.head?_cons]
      have hrest : m.messages.drop (i + 1) = ms := by
        rw [← List.tail_drop, hms, List.tail_cons]
      have hinto : m.at? ∘ (i :: ·) = n.at? := funext (Message.at?_cons hn)
      rw [pathsFrom, preorderAll, List.map_append, List.map_append,
        List.map_map, hinto, h.1, ih h.2 hrest]

/-- The pre-order lists what the paths lead to. -/
theorem Message.map_at?_paths (m : Message) :
    m.paths.map m.at? = m.preorder.map some := by
  induction m using Message.nestedInduction with
  | step m ih =>
      rw [Message.paths_eq, Message.preorder_eq, List.map_cons, List.map_cons,
        map_at?_pathsFrom ih List.drop_zero, Message.at?]

/-! ## The walk -/

/-- However deep and wide a tree is, the loop over the stack comes to an end and
has then visited what the walk lists: the message itself, and then what the walks
of its nested messages list, one after the other. That is one message for each
place in the tree, in the lexicographic order of the places. -/
theorem Message.walk_tours (m : Message) :
    (WellFounded fun u t => Tour.Turn t u) ∧
    (∀ visited, Tour.Leads ⟨[m], []⟩ ⟨[], visited⟩ ↔ visited = m.walk) ∧
    m.walk = m :: m.messages.flatMap Message.walk ∧
    m.walk.map some = m.paths.map m.at? ∧
    m.paths.Pairwise (· < ·) ∧ ∀ path, path ∈ m.paths ↔ (m.at? path).isSome = true := by
  refine ⟨Tour.turn_wellFounded, fun visited => ?_, ?_, ?_, m.pairwise_paths,
    fun path => Message.mem_paths⟩
  · have houtlook : Tour.outlook ⟨[m], []⟩ = m.preorder := List.append_nil m.preorder
    rw [Tour.leads_end_iff, houtlook, Message.walk_eq_preorder]
  · rw [Message.walk_eq_preorder, Message.preorder_eq, preorderAll_eq_flatMap,
      show Message.walk = Message.preorder from funext Message.walk_eq_preorder]
  · rw [Message.walk_eq_preorder, Message.map_at?_paths]

end SchemaDocs
