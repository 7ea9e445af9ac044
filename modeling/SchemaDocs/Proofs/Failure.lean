import Mathlib.Data.List.Perm.Basic

/-!
# Steps that may fail

A chain of steps gives a value when all of its steps do, and otherwise the
error of the first that fails. What a chain gives is taken apart with these
lemmas, one step at a time.

Where it only matters what a step can give, and not when it fails, `Ensures`
says so, and there is a law for each way of putting steps together. `Alongside`
is about two chains: they fail together, and what they give is related.
-/

namespace SchemaDocs

variable {ε δ α β : Type}

theorem bind_eq_ok_iff {x : Except ε α} {f : α → Except ε β} {b : β} :
    x >>= f = .ok b ↔ ∃ a, x = .ok a ∧ f a = .ok b := by
  cases x with
  | error e => simp [bind, Except.bind]
  | ok a => simp [bind, Except.bind]

theorem bind_eq_error_iff {x : Except ε α} {f : α → Except ε β} {e : ε} :
    x >>= f = .error e ↔ x = .error e ∨ ∃ a, x = .ok a ∧ f a = .error e := by
  cases x with
  | error e => simp [bind, Except.bind]
  | ok a => simp [bind, Except.bind]

theorem mapError_eq_ok_iff {x : Except ε α} {f : ε → δ} {a : α} :
    x.mapError f = .ok a ↔ x = .ok a := by
  cases x with
  | error e => simp [Except.mapError]
  | ok a => simp [Except.mapError]

theorem ok_bind_eq (a : α) (f : α → Except ε β) : (Except.ok a >>= f) = f a := rfl

/-- Chains that begin with the same step are the same if they go on in the same way. -/
theorem bind_congr_ok {x : Except ε α} {f g : α → Except ε β}
    (h : ∀ a, x = .ok a → f a = g a) :
    x >>= f = x >>= g := by
  cases x with
  | error e => rfl
  | ok a => exact h a rfl

theorem throw_bind_eq (e : ε) (f : α → Except ε β) :
    (throw e : Except ε α) >>= f = .error e := rfl

/-- A check that refuses what has a property. -/
theorem refuse_eq_ok_iff {c : Prop} [Decidable c] {e : ε} {rest : Except ε α} {a : α} :
    (if c then .error e else rest) = .ok a ↔ ¬ c ∧ rest = .ok a := by
  by_cases hc : c
  · simp [hc]
  · simp [hc]

/-- A check that demands a property. -/
theorem demand_eq_ok_iff {c : Prop} [Decidable c] {e : ε} {rest : Except ε α} {a : α} :
    (if c then rest else .error e) = .ok a ↔ c ∧ rest = .ok a := by
  by_cases hc : c
  · simp [hc]
  · simp [hc]

theorem eq_ok_of_toOption {x : Except ε α} {a : α} (h : x.toOption = some a) :
    x = .ok a := by
  cases x with
  | error e => cases h
  | ok b => rw [Option.some.inj h]

theorem mapM_eq_ok_iff {f : α → Except ε β} : ∀ {xs : List α} {ys : List β},
    xs.mapM f = .ok ys ↔ List.Forall₂ (fun x y => f x = .ok y) xs ys := by
  intro xs
  induction xs with
  | nil =>
      intro ys
      rw [List.mapM_nil, List.forall₂_nil_left_iff]
      simp [pure, Except.pure, eq_comm]
  | cons x rest ih =>
      intro ys
      rw [List.mapM_cons, List.forall₂_cons_left_iff]
      simp only [bind_eq_ok_iff, ih, pure, Except.pure, Except.ok.injEq]
      constructor
      · rintro ⟨y, hy, zs, hzs, rfl⟩
        exact ⟨y, zs, hy, hzs, rfl⟩
      · rintro ⟨y, zs, hy, hzs, rfl⟩
        exact ⟨y, hy, zs, hzs, rfl⟩

theorem mapM_eq_map {f : α → Except ε β} {g : α → β} {xs : List α}
    (h : ∀ x ∈ xs, f x = .ok (g x)) : xs.mapM f = .ok (xs.map g) := by
  rw [mapM_eq_ok_iff, List.forall₂_map_right_iff, List.forall₂_same]
  exact h

/-- A step that always gives something related to what it is given. -/
theorem exists_mapM {γ : Type} {f : α → Except ε β} {g : α → γ} {R : β → γ → Prop} :
    ∀ {xs : List α}, (∀ x ∈ xs, ∃ b, f x = .ok b ∧ R b (g x)) →
    ∃ bs, xs.mapM f = .ok bs ∧ List.Forall₂ R bs (xs.map g)
  | [], _ => ⟨[], rfl, .nil⟩
  | x :: rest, h => by
      rw [List.forall_mem_cons] at h
      obtain ⟨b, hb, hx⟩ := h.1
      obtain ⟨bs, hbs, hrest⟩ := exists_mapM h.2
      refine ⟨b :: bs, ?_, .cons hx hrest⟩
      rw [List.mapM_cons]
      exact bind_eq_ok_iff.2 ⟨b, hb, bind_eq_ok_iff.2 ⟨bs, hbs, rfl⟩⟩

/-- A step that succeeds on every entry does so in any order. -/
theorem mapM_perm {f : α → Except ε β} {xs xs' : List α} {ys : List β}
    (hperm : xs'.Perm xs) (h : xs.mapM f = .ok ys) :
    ∃ ys', xs'.mapM f = .ok ys' ∧ ys'.Perm ys := by
  obtain ⟨ys', hys', hperm'⟩ := List.perm_comp_forall₂ hperm (mapM_eq_ok_iff.1 h)
  exact ⟨ys', mapM_eq_ok_iff.2 hys', hperm'⟩

/-! ## When steps succeed -/

theorem exists_bind_eq_ok_iff {x : Except ε α} {f : α → Except ε β} :
    (∃ b, x >>= f = .ok b) ↔ ∃ a, x = .ok a ∧ ∃ b, f a = .ok b := by
  simp only [bind_eq_ok_iff]
  rw [exists_comm]
  simp only [exists_and_left]

theorem exists_pure_eq_ok (a : α) : ∃ b, (pure a : Except ε α) = .ok b := ⟨a, rfl⟩

/-- A step that gives something whenever the one before it does. -/
theorem exists_bind_eq_ok_iff_of_total {x : Except ε α} {f : α → Except ε β}
    (h : ∀ a, ∃ b, f a = .ok b) : (∃ b, x >>= f = .ok b) ↔ ∃ a, x = .ok a := by
  rw [exists_bind_eq_ok_iff]
  exact exists_congr fun a => and_iff_left (h a)

theorem exists_mapM_eq_ok_iff {f : α → Except ε β} {xs : List α} :
    (∃ ys, xs.mapM f = .ok ys) ↔ ∀ x ∈ xs, ∃ y, f x = .ok y := by
  induction xs with
  | nil => simp [pure, Except.pure]
  | cons x rest ih =>
      rw [List.mapM_cons, exists_bind_eq_ok_iff, List.forall_mem_cons, ← ih]
      simp only [exists_bind_eq_ok_iff_of_total fun _ => exists_pure_eq_ok _,
        exists_and_right]

/-! ## What steps give -/

/-- Whatever a step gives is good. -/
def Ensures (x : Except ε α) (good : α → Prop) : Prop := ∀ a, x = .ok a → good a

namespace Ensures

variable {good : α → Prop} {fine : β → Prop} {x : Except ε α}

theorem ok {a : α} (h : good a) : Ensures (.ok a : Except ε α) good := by
  rintro _ ⟨⟩
  exact h

theorem pure {a : α} (h : good a) : Ensures (Pure.pure a : Except ε α) good := ok h

theorem error (e : ε) : Ensures (.error e : Except ε α) good := by
  rintro _ ⟨⟩

theorem trivial (x : Except ε α) : Ensures x fun _ => True := fun _ _ => True.intro

theorem bind {f : α → Except ε β} (hx : Ensures x good)
    (hf : ∀ a, good a → Ensures (f a) fine) : Ensures (x >>= f) fine := by
  intro b hb
  obtain ⟨a, ha, hb⟩ := bind_eq_ok_iff.1 hb
  exact hf a (hx a ha) b hb

theorem map {f : α → β} (hx : Ensures x good) (hf : ∀ a, good a → fine (f a)) :
    Ensures (x.map f) fine := by
  cases x with
  | error e => exact error e
  | ok a => exact ok (hf a (hx a rfl))

theorem of_toOption {p : α → Bool} (h : x.toOption.any p) : Ensures x (p · = true) := by
  rintro a rfl
  exact h

/-- Behind a step of which nothing is asked. -/
theorem behind {f : α → Except ε β} (hf : ∀ a, Ensures (f a) fine) :
    Ensures (x >>= f) fine :=
  (trivial x).bind fun a _ => hf a

/-- Behind a step that only may fail. -/
theorem after (x : Except ε α) {y : Except ε β} (hy : Ensures y fine) :
    Ensures (x >>= fun _ => y) fine :=
  behind fun _ => hy

theorem ite {p : Prop} [Decidable p] {y : Except ε α} (hx : Ensures x good)
    (hy : Ensures y good) : Ensures (if p then x else y) good := by
  split
  · exact hx
  · exact hy

/-- A check that fails or not, before a step. -/
theorem guarded {p : Prop} [Decidable p] {y : Except ε β} (hy : Ensures y fine) :
    Ensures (if p then y else x >>= fun _ => y) fine :=
  .ite hy (.after x hy)

theorem mapM {f : α → Except ε β} : ∀ {xs : List α}, (∀ x ∈ xs, Ensures (f x) fine) →
    Ensures (xs.mapM f) fun ys => ∀ y ∈ ys, fine y
  | [], _ => pure (by simp)
  | x :: rest, h => by
      rw [List.mapM_cons]
      refine (h x List.mem_cons_self).bind fun y hy => ?_
      have hrest := mapM fun z hz => h z (List.mem_cons_of_mem x hz)
      exact hrest.bind fun ys hys => pure (List.forall_mem_cons.2 ⟨hy, hys⟩)

theorem foldlM {f : β → α → Except ε β} : ∀ {xs : List α} {b : β}, fine b →
    (∀ x ∈ xs, ∀ b, fine b → Ensures (f b x) fine) → Ensures (xs.foldlM f b) fine
  | [], _, hb, _ => pure hb
  | x :: rest, b, hb, h => by
      rw [List.foldlM_cons]
      exact (h x List.mem_cons_self b hb).bind fun b' hb' =>
        foldlM hb' fun y hy => h y (List.mem_cons_of_mem x hy)

end Ensures

/-! ## Two chains side by side -/

/-- Both give something, and what they give is related, or both fail, and so
are their errors. -/
inductive Alongside (E : ε → δ → Prop) (R : α → β → Prop) : Except ε α → Except δ β → Prop
  | ok {a : α} {b : β} (h : R a b) : Alongside E R (.ok a) (.ok b)
  | error {e : ε} {d : δ} (h : E e d) : Alongside E R (.error e) (.error d)

namespace Alongside

variable {γ κ : Type} {E : ε → δ → Prop} {R : α → β → Prop} {S : γ → κ → Prop}
  {x : Except ε α} {y : Except δ β}

theorem mono {E' : ε → δ → Prop} {R' : α → β → Prop} (h : Alongside E R x y)
    (hE : ∀ e d, E e d → E' e d) (hR : ∀ a b, R a b → R' a b) : Alongside E' R' x y := by
  cases h with
  | ok h => exact .ok (hR _ _ h)
  | error h => exact .error (hE _ _ h)

theorem imp {R' : α → β → Prop} (h : Alongside E R x y) (hR : ∀ a b, R a b → R' a b) :
    Alongside E R' x y :=
  h.mono (fun _ _ he => he) hR

/-- What two chains give is what they give. -/
theorem attach (h : Alongside E R x y) :
    Alongside E (fun a b => R a b ∧ x = .ok a ∧ y = .ok b) x y := by
  cases h with
  | ok h => exact .ok ⟨h, rfl, rfl⟩
  | error h => exact .error h

theorem mapError {ε' δ' : Type} {E' : ε' → δ' → Prop} {f : ε → ε'} {g : δ → δ'}
    (h : Alongside E R x y) (hE : ∀ e d, E e d → E' (f e) (g d)) :
    Alongside E' R (x.mapError f) (y.mapError g) := by
  cases h with
  | ok h => exact .ok h
  | error h => exact .error (hE _ _ h)

theorem bind {f : α → Except ε γ} {g : β → Except δ κ} (hx : Alongside E R x y)
    (hf : ∀ a b, R a b → Alongside E S (f a) (g b)) :
    Alongside E S (x >>= f) (y >>= g) := by
  cases hx with
  | ok h => exact hf _ _ h
  | error h => exact .error h

theorem same {E : ε → ε → Prop} {R : α → α → Prop} (hE : ∀ e, E e e) (hR : ∀ a, R a a)
    (x : Except ε α) : Alongside E R x x := by
  cases x with
  | error e => exact .error (hE e)
  | ok a => exact .ok (hR a)

theorem of_eq {E : ε → ε → Prop} {R : α → α → Prop} (hE : ∀ e, E e e) (hR : ∀ a, R a a)
    {x y : Except ε α} (h : y = x) : Alongside E R x y :=
  h ▸ same hE hR y

/-- Behind one and the same step. -/
theorem behind (x : Except ε α) {f : α → Except ε γ} {g : α → Except ε κ}
    (h : ∀ a, Alongside Eq S (f a) (g a)) : Alongside Eq S (x >>= f) (x >>= g) := by
  cases x with
  | error e => exact .error rfl
  | ok a => exact h a

theorem mapM {f : α → Except ε γ} {g : β → Except δ κ} {xs : List α} {ys : List β}
    (h : List.Forall₂ R xs ys) (hf : ∀ a b, R a b → Alongside E S (f a) (g b)) :
    Alongside E (List.Forall₂ S) (xs.mapM f) (ys.mapM g) := by
  induction h with
  | nil => exact ok .nil
  | cons hab _ ih =>
      rw [List.mapM_cons, List.mapM_cons]
      exact (hf _ _ hab).bind fun c k hck => ih.bind fun cs ks h => ok (.cons hck h)

theorem eq {x y : Except ε α} (h : Alongside Eq Eq x y) : x = y := by
  cases h with
  | ok h => rw [h]
  | error h => rw [h]

/-- Two chains that are the same once seen in some way. -/
theorem of_map_eq {x y : Except ε α} {g : α → γ} (h : y.map g = x.map g) :
    Alongside Eq (fun a b => g b = g a) x y := by
  cases x with
  | error e =>
      cases y with
      | error d => exact .error (Except.error.inj h).symm
      | ok b => cases h
  | ok a =>
      cases y with
      | error d => cases h
      | ok b => exact .ok (Except.ok.inj h)

end Alongside

end SchemaDocs
