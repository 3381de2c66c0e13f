import NexusRemote.Mealy

/-!
# Computations that ask the outside

A computation may fail, and it asks questions of an outside that answers as it
likes. What the outside is going to say is a list of exchanges, each a question
with its answer, and every question takes the next of them. A computation that
asks when nothing is left, or asks something else than what is answered, has
not come back. So the exchanges that a finished computation has used are the
questions it has asked, in their order.

`Ensures m past Q R` says of every run of `m` that has come back how it ends:
with a value as `Q` says or an error as `R` says, where both also see all that
has been asked up to then. There is one rule for each way to build a
computation. A monitor is an automaton that reads what has been asked.
-/

namespace Dialogues

variable {ι : Type} {A : ι → Type} {ε α β : Type}

/-- A question and its answer. -/
abbrev Exchange (A : ι → Type) := Sigma A

def Dialogue (A : ι → Type) (ε α : Type) : Type :=
  List (Exchange A) → Option (Except ε α × List (Exchange A))

namespace Dialogue

/-- What a computation gives, and what is left of the exchanges. -/
def run (m : Dialogue A ε α) (future : List (Exchange A)) :
    Option (Except ε α × List (Exchange A)) := m future

instance : Monad (Dialogue A ε) where
  pure a := fun future => some (.ok a, future)
  bind m next := fun future =>
    match m future with
    | none => none
    | some (.error e, rest) => some (.error e, rest)
    | some (.ok a, rest) => next a rest

theorem bind_eq (m : Dialogue A ε α) (next : α → Dialogue A ε β) (future : List (Exchange A)) :
    (m >>= next).run future =
      match m.run future with
      | none => none
      | some (.error e, rest) => some (.error e, rest)
      | some (.ok a, rest) => (next a).run rest := rfl

def fail (e : ε) : Dialogue A ε α := fun future => some (.error e, future)

def ask [DecidableEq ι] (q : ι) : Dialogue A ε (A q)
  | [] => none
  | ⟨asked, answer⟩ :: rest => if h : asked = q then some (.ok (h ▸ answer), rest) else none

/-- The result of a computation as a value: this one does not fail. -/
def attempt (m : Dialogue A ε α) : Dialogue A ε (Except ε α) := fun future =>
  match m future with
  | none => none
  | some (result, rest) => some (.ok result, rest)

def ofExcept : Except ε α → Dialogue A ε α
  | .ok a => pure a
  | .error e => fail e

def orFail (value : Option α) (e : ε) : Dialogue A ε α :=
  match value with
  | some a => pure a
  | none => fail e

def failIf (c : Prop) [Decidable c] (e : ε) : Dialogue A ε Unit := if c then fail e else pure ()

end Dialogue

open Dialogue

/-- A value is as `Q` says, and an error as `R` says. -/
def Ends (Q : α → List (Exchange A) → Prop) (R : ε → List (Exchange A) → Prop) :
    Except ε α → List (Exchange A) → Prop
  | .ok a => Q a
  | .error e => R e

/-- How every run of `m` that has come back has ended. -/
def Ensures (m : Dialogue A ε α) (past : List (Exchange A)) (Q : α → List (Exchange A) → Prop)
    (R : ε → List (Exchange A) → Prop) : Prop :=
  ∀ future result rest, m.run future = some (result, rest) →
    ∃ used, future = used ++ rest ∧ Ends Q R result (past ++ used)

namespace Ensures

variable {m : Dialogue A ε α} {past : List (Exchange A)} {Q Q' : α → List (Exchange A) → Prop}
  {R R' : ε → List (Exchange A) → Prop}

theorem mono (h : Ensures m past Q R) (hQ : ∀ a log, Q a log → Q' a log)
    (hR : ∀ e log, R e log → R' e log) : Ensures m past Q' R' := by
  intro future result rest hrun
  obtain ⟨used, hused, hends⟩ := h future result rest hrun
  refine ⟨used, hused, ?_⟩
  cases result with
  | ok a => exact hQ a _ hends
  | error e => exact hR e _ hends

/-- A rule for computations that come back at once. -/
theorem of_eq {r : Except ε α} (heq : ∀ future, m.run future = some (r, future))
    (hends : Ends Q R r past) : Ensures m past Q R := by
  intro future result rest hrun
  rw [heq] at hrun
  cases hrun
  refine ⟨[], rfl, ?_⟩
  rw [List.append_nil]
  exact hends

theorem pure {a : α} (h : Q a past) : Ensures (Pure.pure a : Dialogue A ε α) past Q R :=
  of_eq (r := .ok a) (fun _ => rfl) h

theorem fail {e : ε} (h : R e past) : Ensures (Dialogue.fail e) past Q R :=
  of_eq (r := .error e) (fun _ => rfl) h

theorem ask [DecidableEq ι] {q : ι} {Q : A q → List (Exchange A) → Prop}
    (h : ∀ answer, Q answer (past ++ [⟨q, answer⟩])) : Ensures (Dialogue.ask q) past Q R := by
  intro future result rest hrun
  cases future with
  | nil => cases hrun
  | cons exchange future =>
    obtain ⟨asked, answer⟩ := exchange
    simp only [run, Dialogue.ask] at hrun
    split at hrun
    case isTrue heq =>
      subst heq
      cases hrun
      exact ⟨[⟨asked, answer⟩], rfl, h answer⟩
    case isFalse => cases hrun

theorem bind {next : α → Dialogue A ε β} {Q : β → List (Exchange A) → Prop}
    (h : Ensures m past (fun a log => Ensures (next a) log Q R) R) :
    Ensures (m >>= next) past Q R := by
  intro future result rest hrun
  rw [bind_eq] at hrun
  split at hrun
  case h_1 => cases hrun
  case h_2 e left hfirst =>
    cases hrun
    exact h future (.error e) rest hfirst
  case h_3 a left hfirst =>
    -- the two parts of the run have used one part of the exchanges each
    obtain ⟨used, rfl, hnext⟩ := h future (.ok a) left hfirst
    obtain ⟨more, rfl, hends⟩ := hnext left result rest hrun
    refine ⟨used ++ more, (List.append_assoc ..).symm, ?_⟩
    rw [← List.append_assoc]
    exact hends

/-- What the first part ensures is what the rest starts from. -/
theorem seq {next : α → Dialogue A ε β} {Q' : β → List (Exchange A) → Prop}
    (h : Ensures m past Q R) (hnext : ∀ a log, Q a log → Ensures (next a) log Q' R) :
    Ensures (m >>= next) past Q' R :=
  bind (h.mono hnext fun _ _ herror => herror)

theorem attempt {Q : Except ε α → List (Exchange A) → Prop}
    (h : Ensures m past (fun a => Q (.ok a)) (fun e => Q (.error e))) :
    Ensures (Dialogue.attempt m) past Q R' := by
  intro future result rest hrun
  simp only [run, Dialogue.attempt] at hrun
  split at hrun
  case h_1 => cases hrun
  case h_2 inner rest' hinner =>
    cases hrun
    obtain ⟨used, hused, hends⟩ := h future inner rest hinner
    refine ⟨used, hused, ?_⟩
    cases inner with
    | ok a => exact hends
    | error e => exact hends

theorem ofExcept {value : Except ε α} (h : Ends Q R value past) :
    Ensures (Dialogue.ofExcept value) past Q R := by
  cases value with
  | ok a => exact pure h
  | error e => exact fail h

theorem orFail {value : Option α} {e : ε} (hsome : ∀ a, value = some a → Q a past)
    (hnone : R e past) : Ensures (Dialogue.orFail value e) past Q R := by
  cases value with
  | some a => exact pure (hsome a rfl)
  | none => exact fail hnone

theorem failIf {c : Prop} [Decidable c] {e : ε} {Q : Unit → List (Exchange A) → Prop}
    (herror : R e past) (h : ¬c → Q () past) : Ensures (Dialogue.failIf c e) past Q R := by
  rw [Dialogue.failIf]
  split
  case isTrue => exact fail herror
  case isFalse hc => exact pure (h hc)

end Ensures

/-! ## Monitors -/

section
variable {τ : Type} (advance : τ → Exchange A → Option τ)

/-- An automaton reads what has been asked; it stops at an exchange that is out of order. -/
def monitor (start : τ) (log : List (Exchange A)) : Option τ := log.foldlM advance start

theorem monitor_concat (start : τ) (log : List (Exchange A)) (x : Exchange A) :
    monitor advance start (log ++ [x]) = (monitor advance start log).bind (advance · x) := by
  simp only [monitor, List.foldlM_append, List.foldlM_cons, List.foldlM_nil, bind_pure]
  rfl

end

end Dialogues
