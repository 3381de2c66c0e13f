import Mathlib

/-!
# Infinite runs under a schedule

A schedule says whose turn it is at every moment. `run` is the state at every
moment, `Fair` says that everybody has a turn again and again. A run keeps a
simulation, and on a fair schedule it comes to rest where a rank that someone
can always lower leads it.
-/

namespace Schedules

open Filter

variable {σ τ ι : Type} (step : σ → ι → σ)

def run (s : σ) (schedule : ℕ → ι) : ℕ → σ
  | 0 => s
  | n + 1 => step (run s schedule n) (schedule n)

def Fair (schedule : ℕ → ι) : Prop := ∀ i, ∃ᶠ n in atTop, schedule n = i

theorem run_succ (s : σ) (schedule : ℕ → ι) (n : ℕ) :
    run step s schedule (n + 1) = step (run step s schedule n) (schedule n) := rfl

variable {step} {schedule : ℕ → ι} {s : σ}

/-- What one step carries from one machine to another, a run carries. -/
theorem run_simulates {next : τ → ι → τ} {R : τ → σ → Prop}
    (hstep : ∀ t s i, R t s → R (next t i) (step s i)) (t : τ) (h : R t s) (n : ℕ) :
    R (run next t schedule n) (run step s schedule n) := by
  induction n with
  | zero => exact h
  | succ n ih => exact hstep _ _ _ ih

/-- A state that no turn changes stays. -/
theorem run_stays {n : ℕ} (hrest : ∀ i, step (run step s schedule n) i = run step s schedule n) (m : ℕ)
    (hle : n ≤ m) : run step s schedule m = run step s schedule n := by
  induction m, hle using Nat.le_induction with
  | base => rfl
  | succ m hle ih => rw [run_succ, ih, hrest]

section Rank

variable {rank : σ → ℕ} (hmoves : ∀ s i, step s i = s ∨ rank (step s i) < rank s)
include hmoves

theorem run_eq_or_lower (n m : ℕ) (hle : n ≤ m) :
    run step s schedule m = run step s schedule n ∨
      rank (run step s schedule m) < rank (run step s schedule n) := by
  induction m, hle using Nat.le_induction with
  | base => exact .inl rfl
  | succ m hle ih =>
    rw [run_succ]
    rcases hmoves (run step s schedule m) (schedule m) with hsame | hlower
    · rwa [hsame]
    · rcases ih with hm | hm
      · exact .inr (hm ▸ hlower)
      · exact .inr (hlower.trans hm)

/-- If somebody's turn would lower the rank, then on a fair schedule it is lower some day. -/
theorem lower_of_fair (hfair : Fair schedule) (n : ℕ) (i : ι)
    (hi : rank (step (run step s schedule n) i) < rank (run step s schedule n)) :
    ∃ m, n < m ∧ rank (run step s schedule m) < rank (run step s schedule n) := by
  obtain ⟨m, hle, hm⟩ := (hfair i).forall_exists_of_atTop n
  have hcases : run step s schedule m = run step s schedule n ∨ _ := run_eq_or_lower hmoves n m hle
  rcases hcases with hsame | hlower
  · refine ⟨m + 1, by omega, ?_⟩
    rwa [run_succ, hsame, hm]
  · refine ⟨m, ?_, hlower⟩
    rcases Nat.lt_or_eq_of_le hle with hlt | rfl
    · exact hlt
    · exact absurd hlower (lt_irrefl _)

/-- On a fair schedule a run comes to rest, if until then somebody can lower the rank. -/
theorem exists_rest {Rest : σ → Prop} (hfair : Fair schedule)
    (hhelpful : ∀ n, ¬Rest (run step s schedule n) →
      ∃ i, rank (step (run step s schedule n) i) < rank (run step s schedule n)) :
    ∃ n, Rest (run step s schedule n) := by
  by_contra hnever
  rw [not_exists] at hnever
  -- The rank would fall forever.
  have hfalls : ∀ k n, rank (run step s schedule n) = k → False := by
    intro k
    induction k using Nat.strong_induction_on with
    | _ k ih =>
      intro n hk
      obtain ⟨i, hi⟩ := hhelpful n (hnever n)
      obtain ⟨m, -, hlower⟩ := lower_of_fair hmoves hfair n i hi
      exact ih _ (hk ▸ hlower) m rfl
  exact hfalls _ 0 rfl

end Rank

end Schedules
