import NexusRemote.Mealy

/-!
# What has happened since

The history of a run is the list of its inputs with the answers they got.
`since p h` is the part of a history after the last event that satisfies `p`,
all of it if there is none. A flag that one kind of event raises and another
lowers, or a counter that one kind resets, is described by what happened since.
-/

namespace Histories

open Mealy

section
variable {σ ι ο : Type} (step : σ → ι → ο × σ)

/-- The inputs of a run with what the machine answered. -/
def history (s : σ) (xs : List ι) : List (ι × ο) := xs.zip (trace step s xs)

@[simp] theorem history_nil (s : σ) : history step s [] = [] := rfl

@[simp] theorem history_cons (s : σ) (x : ι) (xs : List ι) :
    history step s (x :: xs) = (x, (step s x).1) :: history step (step s x).2 xs := rfl

theorem history_concat (s : σ) (xs : List ι) (x : ι) :
    history step s (xs ++ [x]) = history step s xs ++ [(x, (step (after step s xs) x).1)] := by
  induction xs generalizing s with
  | nil => rfl
  | cons y xs ih =>
    rw [List.cons_append, history_cons, ih, history_cons, after_cons, List.cons_append]

variable {step}

/-- What relates a history to the state it leads to, if one more step keeps it. -/
theorem history_invariant {R : List (ι × ο) → σ → Prop}
    (hstep : ∀ h s x, R h s → R (h ++ [(x, (step s x).1)]) (step s x).2)
    (s : σ) (hs : R [] s) (xs : List ι) : R (history step s xs) (after step s xs) := by
  induction xs using List.reverseRecOn with
  | nil => exact hs
  | append_singleton xs x ih =>
    rw [history_concat, after_concat]
    exact hstep _ _ x ih

end

/-! ## Logs -/

section
variable {σ ι ε : Type} {step : σ → ι → List ε × σ}

/-- What relates the events of a run to the state it leads to, if one more step keeps it. -/
theorem log_invariant {R : List ε → σ → Prop}
    (hstep : ∀ log s x, R log s → R (log ++ (step s x).1) (step s x).2)
    (s : σ) (hs : R [] s) (xs : List ι) : R (trace step s xs).flatten (after step s xs) := by
  induction xs using List.reverseRecOn with
  | nil => exact hs
  | append_singleton xs x ih =>
    rw [trace_concat, after_concat, List.flatten_append, List.flatten_singleton]
    exact hstep _ _ x ih

variable {Q : List ε → ε → Prop}

/-- Every event of a log stands in a relation to those before it. -/
def Along (Q : List ε → ε → Prop) (log : List ε) : Prop :=
  ∀ past e, past ++ [e] <+: log → Q past e

theorem along_nil : Along Q [] := by
  intro past e h
  simp at h

theorem along_concat (log : List ε) (e : ε) : Along Q (log ++ [e]) ↔ Along Q log ∧ Q log e := by
  constructor
  · intro h
    exact ⟨fun past e' hpast => h past e' (hpast.trans (List.prefix_append _ _)),
      h log e (List.prefix_refl _)⟩
  · rintro ⟨hlog, he⟩ past e' hpast
    rcases List.prefix_concat_iff.mp hpast with heq | hpast
    · obtain ⟨rfl, rfl⟩ : past = log ∧ e' = e := by simpa using List.append_inj' heq rfl
      exact he
    · exact hlog past e' hpast

/-- What one more event adds to a part of the log. -/
theorem filterMap_concat {β : Type} (f : ε → Option β) (log : List ε) (e : ε) :
    (log ++ [e]).filterMap f = log.filterMap f ++ (f e).toList := by
  rw [List.filterMap_append, List.filterMap_cons]
  cases f e <;> rfl

/-- Events that owe nothing to the past may follow any log. -/
theorem along_append (log events : List ε) (hlog : Along Q log)
    (hevents : ∀ past, ∀ e ∈ events, Q past e) : Along Q (log ++ events) := by
  induction events generalizing log with
  | nil => simpa using hlog
  | cons e events ih =>
    rw [List.append_cons]
    exact ih (log ++ [e]) ((along_concat log e).mpr ⟨hlog, hevents log e (by simp)⟩)
      fun past e' he' => hevents past e' (List.mem_cons_of_mem _ he')

end

/-! ## Since -/

section
variable {ε : Type} (q p : ε → Bool)

/-- The events after the last one that satisfies `p`. -/
def since (h : List ε) : List ε := h.rtakeWhile fun e => !p e

@[simp] theorem since_nil : since p [] = [] := List.rtakeWhile_nil _

@[simp] theorem since_concat (h : List ε) (e : ε) :
    since p (h ++ [e]) = if p e then [] else since p h ++ [e] := by
  rw [since, List.rtakeWhile_concat, since]
  cases p e <;> rfl

/-- No event satisfies `q` after the last one that satisfies `p`. -/
def QuietSince (h : List ε) : Prop := ∀ e ∈ since p h, q e = false

instance (h : List ε) : Decidable (QuietSince q p h) :=
  inferInstanceAs (Decidable (∀ e ∈ since p h, q e = false))

@[simp] theorem quietSince_nil : QuietSince q p [] := by simp [QuietSince]

@[simp] theorem quietSince_concat (h : List ε) (e : ε) :
    QuietSince q p (h ++ [e]) ↔ p e = true ∨ (q e = false ∧ QuietSince q p h) := by
  rw [QuietSince, since_concat]
  cases hp : p e with
  | true => simp
  | false =>
    simp only [Bool.false_eq_true, if_false, List.forall_mem_append, List.forall_mem_singleton,
      false_or, QuietSince]
    exact And.comm

/-- A flag that `p` raises and `q` lowers is up exactly if nothing has lowered it since. -/
theorem flag_concat (h : List ε) (e : ε) (flag : Bool) (hflag : flag = true ↔ QuietSince q p h) :
    (p e || (!q e && flag)) = true ↔ QuietSince q p (h ++ [e]) := by
  rw [quietSince_concat, ← hflag]
  simp

/-- How many events satisfy `q` after the last one that satisfies `p`. -/
def countSince (h : List ε) : Nat := (since p h).countP q

@[simp] theorem countSince_nil : countSince q p [] = 0 := by simp [countSince]

@[simp] theorem countSince_concat (h : List ε) (e : ε) :
    countSince q p (h ++ [e]) =
      if p e then 0 else countSince q p h + if q e then 1 else 0 := by
  rw [countSince, since_concat]
  cases p e with
  | true => rfl
  | false => simp [countSince, List.countP_singleton]

variable {q p}

/-- After an event of the kind `p` and then none of it, the history since is what came after. -/
theorem since_append_of_none (h : List ε) (later : List ε) (hp : ∀ e ∈ later, p e = false) :
    since p (h ++ later) = since p h ++ later := by
  induction later using List.reverseRecOn with
  | nil => simp
  | append_singleton later e ih =>
    have hlater : ∀ e ∈ later, p e = false := fun e he => hp e (by simp [he])
    rw [← List.append_assoc, since_concat, hp e (by simp), ih hlater]
    simp

end

end Histories
