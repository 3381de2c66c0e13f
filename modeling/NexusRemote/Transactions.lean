import Mathlib

/-!
# Transactions

A transaction runs its statements on a copy of the database. Each of them may
fail, and what the earlier ones have done stays in the copy. The copy replaces
the database when the last statement, the commit, succeeds; a transaction that
ends in any other way is dropped, and its copy with it.

The rules below follow the statements: that a fault only makes a transaction
fail, that one which cannot succeed fails, and which errors it can end in.
-/

namespace Transactions

variable {σ ε α β : Type}

/-- Statements that work on a copy of a database of type `σ`. -/
abbrev Tx (σ ε α : Type) := ExceptT ε (StateM σ) α

/-- The result of a transaction's statements, and the copy as they leave it. -/
def exec (x : Tx σ ε α) (s : σ) : Except ε α × σ := x.run.run s

/-- A statement. It may fail for reasons of its own, before it does anything. -/
def statement (fault : Option ε) (action : σ → Except ε (α × σ)) : Tx σ ε α :=
  ExceptT.mk fun s =>
    match fault with
    | some e => (.error e, s)
    | none =>
      match action s with
      | .ok (a, t) => (.ok a, t)
      | .error e => (.error e, s)

/-- A computation that does not touch the database. -/
def compute (x : Except ε α) : Tx σ ε α := ExceptT.mk (pure x)

/-- Returns early with an error. -/
def refuse (c : Prop) [Decidable c] (e : ε) : Tx σ ε Unit := compute (if c then .error e else .ok ())

def transaction (body : Tx σ ε α) (s : σ) : Except ε α × σ :=
  match exec body s with
  | (.ok a, t) => (.ok a, t)
  | (.error e, _) => (.error e, s)

/-! ## The outcome of the statements

Of a transaction that fails the copy does not matter. What is left is a result
with a database, or an error, and the statements compose as such.
-/

def outcome (x : Tx σ ε α) (s : σ) : Except ε (α × σ) :=
  match exec x s with
  | (.ok a, t) => .ok (a, t)
  | (.error e, _) => .error e

@[simp] theorem outcome_pure (a : α) (s : σ) : outcome (pure a : Tx σ ε α) s = .ok (a, s) := rfl

@[simp] theorem outcome_bind (x : Tx σ ε α) (f : α → Tx σ ε β) (s : σ) :
    outcome (x >>= f) s =
      match outcome x s with
      | .ok (a, t) => outcome (f a) t
      | .error e => .error e := by
  simp only [outcome, exec, ExceptT.run_bind, StateT.run_bind]
  rcases x.run.run s with ⟨_ | a, t⟩ <;> rfl

@[simp] theorem outcome_statement (action : σ → Except ε (α × σ)) (s : σ) :
    outcome (statement none action) s = action s := by
  have hexec : exec (statement none action) s =
      match action s with
      | .ok (a, t) => (.ok a, t)
      | .error e => (.error e, s) := rfl
  rw [outcome, hexec]
  rcases action s with _ | ⟨a, t⟩ <;> rfl

@[simp] theorem outcome_fault (e : ε) (action : σ → Except ε (α × σ)) (s : σ) :
    outcome (statement (some e) action) s = .error e := rfl

@[simp] theorem outcome_compute (x : Except ε α) (s : σ) :
    outcome (compute x) s = x.map fun a => (a, s) := by
  cases x <;> rfl

@[simp] theorem outcome_refuse (c : Prop) [Decidable c] (e : ε) (s : σ) :
    outcome (refuse c e) s = if c then .error e else .ok ((), s) := by
  unfold refuse
  split <;> rfl

/-! ## Committing and rolling back -/

theorem transaction_eq (body : Tx σ ε α) (s : σ) :
    transaction body s =
      match outcome body s with
      | .ok (a, t) => (.ok a, t)
      | .error e => (.error e, s) := by
  unfold transaction outcome
  rcases exec body s with ⟨_ | a, t⟩ <;> rfl

theorem transaction_ok (body : Tx σ ε α) (s t : σ) (a : α) :
    transaction body s = (.ok a, t) ↔ outcome body s = .ok (a, t) := by
  rw [transaction_eq]
  rcases outcome body s with _ | ⟨b, u⟩ <;> simp

/-- A transaction that fails leaves the database as it was. -/
theorem transaction_error (body : Tx σ ε α) (s : σ) (e : ε) (h : (transaction body s).1 = .error e) :
    (transaction body s).2 = s := by
  rw [transaction_eq] at h ⊢
  rcases houtcome : outcome body s with _ | ⟨b, u⟩
  · rfl
  · rw [houtcome] at h
    cases h

/-! ## Faults -/

/-- `x` does what `y` does, or fails. -/
def OrFails (x y : Tx σ ε α) : Prop := ∀ s a t, outcome x s = .ok (a, t) → outcome y s = .ok (a, t)

theorem OrFails.refl (x : Tx σ ε α) : OrFails x x := fun _ _ _ h => h

theorem OrFails.bind {x y : Tx σ ε α} {f g : α → Tx σ ε β} (hxy : OrFails x y)
    (hfg : ∀ a, OrFails (f a) (g a)) : OrFails (x >>= f) (y >>= g) := by
  intro s b u h
  rw [outcome_bind] at h ⊢
  rcases hx : outcome x s with _ | ⟨a, t⟩
  · rw [hx] at h
    cases h
  · rw [hx] at h
    rw [hxy s a t hx]
    exact hfg a t b u h

/-- A fault only makes a statement fail. -/
theorem statement_orFails (fault : Option ε) (action : σ → Except ε (α × σ)) :
    OrFails (statement fault action) (statement none action) := by
  intro s a t h
  cases fault with
  | none => exact h
  | some e => cases h

/-- `x` succeeds on no database. -/
def Fails (x : Tx σ ε α) : Prop := ∀ s a t, outcome x s ≠ .ok (a, t)

theorem Fails.bind {x : Tx σ ε α} (h : Fails x) (f : α → Tx σ ε β) : Fails (x >>= f) := by
  intro s b u hok
  rw [outcome_bind] at hok
  rcases hx : outcome x s with _ | ⟨a, t⟩
  · rw [hx] at hok
    cases hok
  · exact h s a t hx

theorem Fails.after (x : Tx σ ε α) {f : α → Tx σ ε β} (h : ∀ a, Fails (f a)) : Fails (x >>= f) := by
  intro s b u hok
  rw [outcome_bind] at hok
  rcases hx : outcome x s with _ | ⟨a, t⟩
  · rw [hx] at hok
    cases hok
  · rw [hx] at hok
    exact h a t b u hok

theorem statement_fails (e : ε) (action : σ → Except ε (α × σ)) : Fails (statement (some e) action) := by
  intro s a t h
  cases h

/-! ## Errors -/

/-- Every error of `x` has the property. -/
def Raises (P : ε → Prop) (x : Tx σ ε α) : Prop := ∀ s e, outcome x s = .error e → P e

variable {P : ε → Prop}

/-- An error comes from the first part, or is one that the second part raises. -/
theorem error_of_bind {x : Tx σ ε α} {f : α → Tx σ ε β} (hf : ∀ a, Raises P (f a)) {s : σ} {e : ε}
    (h : outcome (x >>= f) s = .error e) : outcome x s = .error e ∨ P e := by
  rw [outcome_bind] at h
  rcases houtcome : outcome x s with e' | ⟨a, t⟩
  · rw [houtcome] at h
    cases h
    exact .inl rfl
  · rw [houtcome] at h
    exact .inr (hf a t e h)

theorem Raises.bind {x : Tx σ ε α} {f : α → Tx σ ε β} (hx : Raises P x) (hf : ∀ a, Raises P (f a)) :
    Raises P (x >>= f) := by
  intro s e h
  rcases error_of_bind hf h with hfirst | he
  · exact hx s e hfirst
  · exact he

theorem pure_raises (a : α) : Raises P (pure a : Tx σ ε α) := by
  intro s e h
  cases h

theorem compute_raises (x : Except ε α) (hx : ∀ e, x = .error e → P e) :
    Raises P (compute x : Tx σ ε α) := by
  intro s e h
  rw [outcome_compute] at h
  cases x with
  | error e' =>
    cases h
    exact hx e rfl
  | ok a => cases h

theorem refuse_raises (c : Prop) [Decidable c] (e : ε) (he : P e) : Raises P (refuse c e : Tx σ ε Unit) := by
  refine compute_raises _ ?_
  intro e' h
  split at h
  · cases h
    exact he
  · cases h

theorem statement_raises (fault : Option ε) (action : σ → Except ε (α × σ))
    (hfault : ∀ e, fault = some e → P e) (haction : ∀ s e, action s = .error e → P e) :
    Raises P (statement fault action) := by
  intro s e h
  cases fault with
  | some e' =>
    cases h
    exact hfault e rfl
  | none =>
    rw [outcome_statement] at h
    exact haction s e h

end Transactions
