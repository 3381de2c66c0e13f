import NexusRemote.Histories

/-!
# Steps that are made of moves

A step of a large machine often does several things in a row, each of them one
of a few kinds. `Leads Move s events t` says that moves lead from `s` to `t` and
that they leave the events behind, in this order. If every step of a machine is
a path, then every run is one, and what each move keeps is kept by every run.
-/

namespace Paths

open Mealy Histories

variable {σ ε ι : Type} {Move : σ → List ε → σ → Prop} {s t u : σ} {events later : List ε}

inductive Leads (Move : σ → List ε → σ → Prop) : σ → List ε → σ → Prop where
  | refl (s : σ) : Leads Move s [] s
  | tail {s t u : σ} {events later : List ε} (path : Leads Move s events t)
    (move : Move t later u) : Leads Move s (events ++ later) u

theorem Leads.single (move : Move s events t) : Leads Move s events t := by
  have h := (Leads.refl s).tail move
  rwa [List.nil_append] at h

theorem Leads.trans (first : Leads Move s events t) (second : Leads Move t later u) :
    Leads Move s (events ++ later) u := by
  induction second with
  | refl =>
    rw [List.append_nil]
    exact first
  | tail path move ih =>
    rw [← List.append_assoc]
    exact ih.tail move

/-- A move without events in front of a path. -/
theorem Leads.head (move : Move s [] t) (path : Leads Move t events u) : Leads Move s events u :=
  (Leads.single move).trans path

/-- A move without events at the end of a path. -/
theorem Leads.last (path : Leads Move s events t) (move : Move t [] u) : Leads Move s events u := by
  have h := path.tail move
  rwa [List.append_nil] at h

/-- What relates a log to the state, if one more move keeps it. -/
theorem Leads.keeps {R : List ε → σ → Prop}
    (hmove : ∀ log s events t, Move s events t → R log s → R (log ++ events) t)
    (path : Leads Move s events t) (log : List ε) (h : R log s) : R (log ++ events) t := by
  induction path with
  | refl =>
    rw [List.append_nil]
    exact h
  | tail path move ih =>
    rw [← List.append_assoc]
    exact hmove _ _ _ _ move ih

/-- A property of states that every move keeps, and one of events that every move from such a
state grants. -/
theorem Leads.safe {I : σ → Prop} {Q : ε → Prop}
    (hmove : ∀ s events t, Move s events t → I s → I t ∧ ∀ e ∈ events, Q e)
    (path : Leads Move s events t) (h : I s) : I t ∧ ∀ e ∈ events, Q e := by
  induction path with
  | refl => exact ⟨h, by simp⟩
  | tail path move ih =>
    obtain ⟨hmiddle, hevents⟩ := ih
    obtain ⟨hend, hlater⟩ := hmove _ _ _ move hmiddle
    exact ⟨hend, List.forall_mem_append.mpr ⟨hevents, hlater⟩⟩

variable {step : σ → ι → List ε × σ}

/-- A run of a machine whose steps are paths is a path. -/
theorem run_leads (hstep : ∀ s x, Leads Move s (step s x).1 (step s x).2) (s : σ) (xs : List ι) :
    Leads Move s (trace step s xs).flatten (after step s xs) :=
  log_invariant (fun _ s x path => path.trans (hstep s x)) s (.refl s) xs

end Paths
