import Mathlib

/-!
# Runs of deterministic machines with output

A machine is a step function from a state and an input to an output and the
next state. `after` is the state after a list of inputs and `trace` the list
of outputs. The rules below turn one-step facts into facts about whole runs:
an invariant, a property of every output, and a relation between every two
emitted values that is carried by what the state remembers. `accepted` are the
inputs to which a machine says yes.
-/

namespace Mealy

variable {σ ι ο ε : Type} (step : σ → ι → ο × σ)

def after (s : σ) : List ι → σ
  | [] => s
  | x :: xs => after (step s x).2 xs

def trace (s : σ) : List ι → List ο
  | [] => []
  | x :: xs => (step s x).1 :: trace (step s x).2 xs

@[simp] theorem after_nil (s : σ) : after step s [] = s := rfl
@[simp] theorem after_cons (s : σ) (x : ι) (xs : List ι) :
    after step s (x :: xs) = after step (step s x).2 xs := rfl
@[simp] theorem trace_nil (s : σ) : trace step s [] = [] := rfl
@[simp] theorem trace_cons (s : σ) (x : ι) (xs : List ι) :
    trace step s (x :: xs) = (step s x).1 :: trace step (step s x).2 xs := rfl

theorem after_append (s : σ) (xs ys : List ι) :
    after step s (xs ++ ys) = after step (after step s xs) ys := by
  induction xs generalizing s with
  | nil => rfl
  | cons x xs ih => simp [ih]

theorem trace_append (s : σ) (xs ys : List ι) :
    trace step s (xs ++ ys) = trace step s xs ++ trace step (after step s xs) ys := by
  induction xs generalizing s with
  | nil => rfl
  | cons x xs ih => simp [ih]

theorem after_concat (s : σ) (xs : List ι) (x : ι) :
    after step s (xs ++ [x]) = (step (after step s xs) x).2 := by
  rw [after_append, after_cons, after_nil]

theorem trace_concat (s : σ) (xs : List ι) (x : ι) :
    trace step s (xs ++ [x]) = trace step s xs ++ [(step (after step s xs) x).1] := by
  rw [trace_append, trace_cons, trace_nil]

variable {step} {Inv : σ → Prop} {Good : ι → Prop}

/-- What one step on good inputs preserves, a run on good inputs preserves. -/
theorem after_invariant (hstep : ∀ s x, Inv s → Good x → Inv (step s x).2)
    (s : σ) (xs : List ι) (hs : Inv s) (hx : ∀ x ∈ xs, Good x) : Inv (after step s xs) := by
  induction xs generalizing s with
  | nil => exact hs
  | cons x xs ih =>
    simp only [List.forall_mem_cons] at hx
    exact ih (step s x).2 (hstep s x hs hx.1) hx.2

/-- What every step preserves, every run preserves. -/
theorem after_always (hstep : ∀ s x, Inv s → Inv (step s x).2) (s : σ) (xs : List ι) (hs : Inv s) :
    Inv (after step s xs) :=
  after_invariant (fun s x h (_ : True) => hstep s x h) s xs hs (fun _ _ => trivial)

/-- If the inputs of a kind lower a rank and no other input raises it, a run with as many of them as
the rank brings it down to zero. -/
theorem after_rank_le (rank : σ → Nat) (p : ι → Bool) (hinv : ∀ s x, Inv s → Inv (step s x).2)
    (hrank : ∀ s x, Inv s → rank (step s x).2 ≤ rank s - if p x then 1 else 0)
    (s : σ) (xs : List ι) (hs : Inv s) : rank (after step s xs) ≤ rank s - xs.countP p := by
  induction xs generalizing s with
  | nil => exact Nat.le_refl _
  | cons x xs ih =>
    have hfirst := hrank s x hs
    have hrest := ih (step s x).2 (hinv s x hs)
    rw [after_cons, List.countP_cons]
    omega

/-- Every output of a run on good inputs has what one step guarantees. -/
theorem trace_forall {P : ο → Prop} (hstep : ∀ s x, Inv s → Good x → Inv (step s x).2)
    (hout : ∀ s x, Inv s → Good x → P (step s x).1)
    (s : σ) (xs : List ι) (hs : Inv s) (hx : ∀ x ∈ xs, Good x) :
    ∀ o ∈ trace step s xs, P o := by
  induction xs generalizing s with
  | nil => simp
  | cons x xs ih =>
    simp only [List.forall_mem_cons] at hx
    simp only [trace_cons, List.forall_mem_cons]
    exact ⟨hout s x hs hx.1, ih (step s x).2 (hstep s x hs hx.1) hx.2⟩

/-- Every output of a run has what one step from an invariant state guarantees. -/
theorem trace_always {P : ο → Prop} (hstep : ∀ s x, Inv s → Inv (step s x).2)
    (hout : ∀ s x, Inv s → P (step s x).1) (s : σ) (xs : List ι) (hs : Inv s) :
    ∀ o ∈ trace step s xs, P o :=
  trace_forall (fun s x h (_ : True) => hstep s x h) (fun s x h _ => hout s x h) s xs hs
    (fun _ _ => trivial)

/-- If one step keeps `P` exactly under the condition `C`, then `P` holds all along a
run exactly if every step of the run meets `C`. -/
theorem always_iff {P : σ → Prop} {C : σ → ι → Prop} (hinv : ∀ s x, Inv s → Inv (step s x).2)
    (hstep : ∀ s x, Inv s → P s → (P (step s x).2 ↔ C s x)) (s : σ) (xs : List ι) (hs : Inv s)
    (hp : P s) :
    (∀ ys, ys <+: xs → P (after step s ys)) ↔
      ∀ ys x, ys ++ [x] <+: xs → C (after step s ys) x := by
  induction xs generalizing s with
  | nil => simp [hp]
  | cons x xs ih =>
    have hfirst := hstep s x hs hp
    constructor
    · intro hall ys y hys
      have hnext : P (step s x).2 := hall [x] (by simp)
      cases ys with
      | nil =>
        obtain rfl : y = x := by simpa using hys
        exact hfirst.mp hnext
      | cons z ys =>
        obtain ⟨rfl, htail⟩ := List.cons_prefix_cons.mp hys
        refine (ih (step s z).2 (hinv s z hs) hnext).mp ?_ ys y htail
        intro ws hws
        exact hall (z :: ws) (by simpa using hws)
    · intro hall ys hys
      have hnext := hfirst.mpr (hall [] x (by simp))
      cases ys with
      | nil => exact hp
      | cons z ys =>
        obtain ⟨rfl, htail⟩ := List.cons_prefix_cons.mp hys
        refine (ih (step s z).2 (hinv s z hs) hnext).mpr ?_ ys htail
        intro ws y hws
        exact hall (z :: ws) y (by simpa using hws)

/-- A condition on the steps of a run is one on its first step and one on the rest. -/
theorem along_cons {C : σ → ι → Prop} (s : σ) (x : ι) (xs : List ι) :
    (∀ ys y, ys ++ [y] <+: x :: xs → C (after step s ys) y) ↔
      C s x ∧ ∀ ys y, ys ++ [y] <+: xs → C (after step (step s x).2 ys) y := by
  constructor
  · intro h
    refine ⟨h [] x (by simp), ?_⟩
    intro ys y hys
    exact h (x :: ys) y (by simpa using hys)
  · rintro ⟨hfirst, hrest⟩ ys y hys
    cases ys with
    | nil =>
      obtain rfl : y = x := by simpa using hys
      exact hfirst
    | cons z ys =>
      obtain ⟨rfl, htail⟩ := List.cons_prefix_cons.mp hys
      exact hrest ys y htail

theorem along_append {C : σ → ι → Prop} (s : σ) (xs xs' : List ι) :
    (∀ ys y, ys ++ [y] <+: xs ++ xs' → C (after step s ys) y) ↔
      (∀ ys y, ys ++ [y] <+: xs → C (after step s ys) y) ∧
        ∀ ys y, ys ++ [y] <+: xs' → C (after step (after step s xs) ys) y := by
  induction xs generalizing s with
  | nil => simp
  | cons x xs ih => rw [List.cons_append, along_cons, along_cons, ih, and_assoc, after_cons]

/-- An invariant that a step keeps under a condition on the state and the input holds after
every run whose steps all meet the condition. -/
theorem after_invariant_of {C : σ → ι → Prop} (hstep : ∀ s x, Inv s → C s x → Inv (step s x).2)
    (s : σ) (xs : List ι) (hs : Inv s) (hx : ∀ ys x, ys ++ [x] <+: xs → C (after step s ys) x) :
    Inv (after step s xs) := by
  induction xs generalizing s with
  | nil => exact hs
  | cons x xs ih =>
    obtain ⟨hfirst, hrest⟩ := (along_cons s x xs).mp hx
    exact ih (step s x).2 (hstep s x hs hfirst) hrest

/-- In a run whose steps all meet `D`, every output is as it should be exactly if every step meets
`C`, when that is so of each step. -/
theorem trace_iff_of {Q : ο → Prop} {C D : σ → ι → Prop}
    (hinv : ∀ s x, Inv s → D s x → Inv (step s x).2)
    (hstep : ∀ s x, Inv s → D s x → (Q (step s x).1 ↔ C s x)) (s : σ) (xs : List ι) (hs : Inv s)
    (hd : ∀ ys x, ys ++ [x] <+: xs → D (after step s ys) x) :
    (∀ o ∈ trace step s xs, Q o) ↔ ∀ ys x, ys ++ [x] <+: xs → C (after step s ys) x := by
  induction xs generalizing s with
  | nil => simp
  | cons x xs ih =>
    obtain ⟨hfirst, hrest⟩ := (along_cons s x xs).mp hd
    rw [along_cons, trace_cons, List.forall_mem_cons, hstep s x hs hfirst,
      ih (step s x).2 (hinv s x hs hfirst) hrest]

/-- `Past s e` says that `e` may have been emitted before `s`. If the past is
never forgotten, an emitted value enters it, and everything in the past is
related to the next emitted value, then all emitted values are related in
order. -/
theorem emitted_pairwise {emit : ο → Option ε} {Past : σ → ε → Prop} {R : ε → ε → Prop}
    (hstep : ∀ s x, Inv s → Good x → Inv (step s x).2)
    (hkeep : ∀ s x e, Inv s → Good x → Past s e → Past (step s x).2 e)
    (hnew : ∀ s x e, Inv s → Good x → emit (step s x).1 = some e →
      Past (step s x).2 e ∧ ∀ e', Past s e' → R e' e)
    (s : σ) (xs : List ι) (hs : Inv s) (hx : ∀ x ∈ xs, Good x) :
    ((trace step s xs).filterMap emit).Pairwise R ∧
      ∀ e' e, Past s e' → e ∈ (trace step s xs).filterMap emit → R e' e := by
  induction xs generalizing s with
  | nil => simp
  | cons x xs ih =>
    simp only [List.forall_mem_cons] at hx
    obtain ⟨hp, hr⟩ := ih (step s x).2 (hstep s x hs hx.1) hx.2
    cases he : emit (step s x).1 with
    | none =>
      rw [trace_cons, List.filterMap_cons_none he]
      exact ⟨hp, fun e' e h hm => hr e' e (hkeep s x e' hs hx.1 h) hm⟩
    | some e =>
      obtain ⟨hin, hnext⟩ := hnew s x e hs hx.1 he
      rw [trace_cons, List.filterMap_cons_some he, List.pairwise_cons]
      refine ⟨⟨fun f hf => hr e f hin hf, hp⟩, ?_⟩
      intro e' f h hm
      rcases List.mem_cons.mp hm with rfl | hm
      · exact hnext e' h
      · exact hr e' f (hkeep s x e' hs hx.1 h) hm

/-! ## Machines that say yes or no -/

section
variable {σ ι : Type} (step : σ → ι → Bool × σ)

/-- The inputs that the machine says yes to, in their order. -/
def accepted (s : σ) : List ι → List ι
  | [] => []
  | x :: xs =>
    if (step s x).1 then x :: accepted (step s x).2 xs else accepted (step s x).2 xs

@[simp] theorem accepted_nil (s : σ) : accepted step s [] = [] := rfl

theorem accepted_concat (s : σ) (xs : List ι) (x : ι) :
    accepted step s (xs ++ [x]) =
      if (step (after step s xs) x).1 then accepted step s xs ++ [x] else accepted step s xs := by
  induction xs generalizing s with
  | nil => rfl
  | cons y xs ih =>
    simp only [List.cons_append, accepted, ih, after_cons]
    split <;> split <;> rfl

end

end Mealy
