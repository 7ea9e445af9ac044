import SchemaDocs.Proofs.Failure

/-!
# What steps give and how they fail

`Ensures` says what a step can give, whenever it gives something. Where it also
matters how a step fails, `Meets` says both: what is given is good, and what it
fails with is allowed.

`Stays` is the same for a step that works on a state, which is in order before
and is in order after it. Both have one law for each way to put steps together,
so that the proof about a function follows its text.
-/

namespace SchemaDocs

variable {ε δ σ α β : Type}

/-- What a step gives is good, and what it fails with is allowed. -/
def Meets (allowed : ε → Prop) (x : Except ε α) (good : α → Prop) : Prop :=
  match x with
  | .ok a => good a
  | .error e => allowed e

namespace Meets

variable {allowed : ε → Prop} {good : α → Prop} {fine : β → Prop} {x : Except ε α}

theorem ok {a : α} (h : good a) : Meets allowed (.ok a) good := h

theorem pure {a : α} (h : good a) : Meets allowed (Pure.pure a) good := h

theorem error {e : ε} (h : allowed e) : Meets allowed (.error e : Except ε α) good := h

theorem throw {e : ε} (h : allowed e) : Meets allowed (throw e : Except ε α) good := h

theorem trivial (x : Except ε α) : Meets (fun _ => True) x fun _ => True := by
  cases x with
  | ok a => exact True.intro
  | error e => exact True.intro

theorem ensures (h : Meets allowed x good) : Ensures x good := by
  rintro a rfl
  exact h

theorem of_error (h : Meets allowed x good) {e : ε} (he : x = .error e) : allowed e := by
  subst he
  exact h

theorem and {other : α → Prop} (hx : Meets allowed x good) (h : Ensures x other) :
    Meets allowed x fun a => good a ∧ other a := by
  cases x with
  | ok a => exact ⟨hx, h a rfl⟩
  | error e => exact hx

theorem mono {other : α → Prop} (hx : Meets allowed x good) (h : ∀ a, good a → other a) :
    Meets allowed x other := by
  cases x with
  | ok a => exact h a hx
  | error e => exact hx

/-- A contract that allows more. -/
theorem allow {possible : ε → Prop} (hx : Meets allowed x good)
    (h : ∀ e, allowed e → possible e) : Meets possible x good := by
  cases x with
  | ok a => exact hx
  | error e => exact h e hx

theorem bind {f : α → Except ε β} (hx : Meets allowed x good)
    (hf : ∀ a, good a → Meets allowed (f a) fine) : Meets allowed (x >>= f) fine := by
  cases x with
  | ok a => exact hf a hx
  | error e => exact hx

theorem map {f : α → β} (hx : Meets allowed x good) (hf : ∀ a, good a → fine (f a)) :
    Meets allowed (x.map f) fine := by
  cases x with
  | ok a => exact hf a hx
  | error e => exact hx

theorem mapError {possible : δ → Prop} {f : ε → δ} (hx : Meets allowed x good)
    (hf : ∀ e, allowed e → possible (f e)) : Meets possible (x.mapError f) good := by
  cases x with
  | ok a => exact hx
  | error e => exact hf e hx

theorem ite {p : Prop} [Decidable p] {y : Except ε α} (hx : Meets allowed x good)
    (hy : Meets allowed y good) : Meets allowed (if p then x else y) good := by
  split
  · exact hx
  · exact hy

/-- Behind a check that may fail. -/
theorem guarded {p : Prop} [Decidable p] {e : ε} {y : Except ε β} (he : allowed e)
    (hy : Meets allowed y fine) :
    Meets allowed (if p then y else (.error e : Except ε α) >>= fun _ => y) fine :=
  .ite hy he

theorem mapM {f : α → Except ε β} :
    ∀ {xs : List α}, (∀ x ∈ xs, Meets allowed (f x) fine) →
    Meets allowed (xs.mapM f) fun ys => ∀ y ∈ ys, fine y
  | [], _ => pure (by simp)
  | x :: rest, h => by
      rw [List.mapM_cons]
      refine (h x List.mem_cons_self).bind fun y hy => ?_
      have hrest := mapM fun z hz => h z (List.mem_cons_of_mem x hz)
      exact hrest.bind fun ys hys => pure (List.forall_mem_cons.2 ⟨hy, hys⟩)

theorem foldlM {f : β → α → Except ε β} : ∀ {xs : List α} {b : β}, fine b →
    (∀ x ∈ xs, ∀ b, fine b → Meets allowed (f b x) fine) →
    Meets allowed (xs.foldlM f b) fine
  | [], _, hb, _ => pure hb
  | x :: rest, b, hb, h => by
      rw [List.foldlM_cons]
      exact (h x List.mem_cons_self b hb).bind fun b' hb' =>
        foldlM hb' fun y hy => h y (List.mem_cons_of_mem x hy)

end Meets

-- To unfold a contract would be to run the step that it is about.
attribute [irreducible] Meets

/-! ## Steps on a state -/

/-- From a state in order a step leads to a state in order, or it fails with
something that is allowed. -/
def Stays (inv : σ → Prop) (allowed : ε → Prop) (x : StateT σ (Except ε) α) : Prop :=
  ∀ s, inv s → Meets allowed (x s) fun result => inv result.2

namespace Stays

variable {inv : σ → Prop} {allowed : ε → Prop} {x : StateT σ (Except ε) α}

theorem pure (a : α) : Stays inv allowed (Pure.pure a : StateT σ (Except ε) α) :=
  fun _ hs => .ok hs

theorem throw {e : ε} (h : allowed e) :
    Stays inv allowed (throw e : StateT σ (Except ε) α) :=
  fun _ _ => .error h

theorem bind {f : α → StateT σ (Except ε) β} (hx : Stays inv allowed x)
    (hf : ∀ a, Stays inv allowed (f a)) : Stays inv allowed (x >>= f) :=
  fun s hs => (hx s hs).bind fun result h => hf result.1 result.2 h

theorem ite {p : Prop} [Decidable p] {y : StateT σ (Except ε) α}
    (hx : Stays inv allowed x)
    (hy : Stays inv allowed y) : Stays inv allowed (if p then x else y) := by
  split
  · exact hx
  · exact hy

/-- A choice of what comes first. -/
theorem iteBind {p : Prop} [Decidable p] {y : StateT σ (Except ε) α}
    {f : α → StateT σ (Except ε) β} (hx : Stays inv allowed x) (hy : Stays inv allowed y)
    (hf : ∀ a, Stays inv allowed (f a)) :
    Stays inv allowed (if p then x >>= f else y >>= f) :=
  .ite (hx.bind hf) (hy.bind hf)

/-- A step that leaves the state as it is. -/
theorem lift {y : Except ε α} (h : Meets allowed y fun _ => True) :
    Stays inv allowed fun s => y.map (·, s) :=
  fun _ hs => h.map fun _ _ => hs

/-- What follows may rely on the state being in order. -/
theorem get_bind {f : σ → StateT σ (Except ε) α}
    (hf : ∀ s, inv s → Stays inv allowed (f s)) :
    Stays inv allowed (MonadState.get >>= f) :=
  fun s hs => hf s hs s hs

theorem get : Stays inv allowed (get : StateT σ (Except ε) σ) :=
  fun _ hs => .ok hs

theorem set {s : σ} (h : inv s) : Stays inv allowed (set s : StateT σ (Except ε) PUnit) :=
  fun _ _ => .ok h

theorem mapM {f : α → StateT σ (Except ε) β} (hf : ∀ a, Stays inv allowed (f a)) :
    ∀ {xs : List α}, Stays inv allowed (xs.mapM f)
  | [] => by
      rw [List.mapM_nil]
      exact .pure _
  | x :: rest => by
      rw [List.mapM_cons]
      exact (hf x).bind fun _ => (mapM hf).bind fun _ => .pure _

theorem run' (hx : Stays inv allowed x) {s : σ} (hs : inv s) :
    Meets allowed (x.run' s) fun _ => True :=
  (hx s hs).map fun _ _ => trivial

end Stays

end SchemaDocs
