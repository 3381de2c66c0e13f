import NexusRemote.Histories

/-!
# Release against credits

Items wait in the order in which they arrive, and each is released against one
credit. Arrivals and credits come independently. The log of a flow accounts for
both: what was released and what waits is what arrived, in its order, and a
credit that was granted is either left or has released an item.
-/

namespace CreditFlow

open Histories Mealy

inductive Event (α : Type) where
  | arrived (x : α)
  | granted
  | released (x : α)
  | idle

variable {α : Type}

namespace Event

def arrival : Event α → Option α
  | arrived x => some x
  | _ => none

def release : Event α → Option α
  | released x => some x
  | _ => none

def isGrant : Event α → Bool
  | granted => true
  | _ => false

end Event

def arrivedOf (log : List (Event α)) : List α := log.filterMap Event.arrival

def releasedOf (log : List (Event α)) : List α := log.filterMap Event.release

def grantsOf (log : List (Event α)) : Nat := log.countP Event.isGrant

@[simp] theorem arrivedOf_concat (log : List (Event α)) (e : Event α) :
    arrivedOf (log ++ [e]) = arrivedOf log ++ e.arrival.toList :=
  filterMap_concat _ log e

@[simp] theorem releasedOf_concat (log : List (Event α)) (e : Event α) :
    releasedOf (log ++ [e]) = releasedOf log ++ e.release.toList :=
  filterMap_concat _ log e

@[simp] theorem grantsOf_concat (log : List (Event α)) (e : Event α) :
    grantsOf (log ++ [e]) = grantsOf log + if e.isGrant then 1 else 0 := by
  rw [grantsOf, List.countP_append, List.countP_singleton, grantsOf]

structure Flow (α : Type) where
  waiting : List α
  credits : Nat

namespace Flow

inductive Step : Flow α → Event α → Flow α → Prop where
  | arrive (f : Flow α) (x : α) :
      Step f (.arrived x) { f with waiting := f.waiting ++ [x] }
  | grant (f : Flow α) : Step f .granted { f with credits := f.credits + 1 }
  | release (x : α) (rest : List α) (credits : Nat) :
      Step ⟨x :: rest, credits + 1⟩ (.released x) ⟨rest, credits⟩
  | idle (f : Flow α) : Step f .idle f

end Flow

structure Accounts (log : List (Event α)) (f : Flow α) : Prop where
  inOrder : arrivedOf log = releasedOf log ++ f.waiting
  paid : grantsOf log = (releasedOf log).length + f.credits

theorem Accounts.step {log : List (Event α)} {f f' : Flow α} {e : Event α} (h : Accounts log f)
    (hstep : f.Step e f') : Accounts (log ++ [e]) f' := by
  cases hstep with
  | arrive x =>
    constructor
    · simp [h.inOrder, Event.arrival, Event.release]
    · simpa [Event.release, Event.isGrant] using h.paid
  | grant =>
    constructor
    · simpa [Event.arrival, Event.release] using h.inOrder
    · simp only [grantsOf_concat, releasedOf_concat, Event.isGrant, Event.release, if_true,
        Option.toList_none, List.append_nil, h.paid]
      rw [Nat.add_assoc]
  | release x rest credits =>
    constructor
    · simpa [Event.arrival, Event.release] using h.inOrder
    · simp only [grantsOf_concat, releasedOf_concat, Event.isGrant, Event.release,
        Bool.false_eq_true, if_false, Option.toList_some, List.length_append,
        List.length_singleton, h.paid]
      omega
  | idle =>
    constructor
    · simpa [Event.arrival, Event.release] using h.inOrder
    · simpa [Event.release, Event.isGrant] using h.paid

/-- A machine that shows a flow at every step accounts for its run. -/
theorem accounts_of_flow {σ ι ο : Type} {step : σ → ι → ο × σ} (event : ι × ο → Event α)
    (flow : σ → Flow α)
    (hstep : ∀ s x, (flow s).Step (event (x, (step s x).1)) (flow (step s x).2))
    (s : σ) (hs : flow s = ⟨[], 0⟩) (xs : List ι) :
    Accounts ((history step s xs).map event) (flow (after step s xs)) := by
  have hinitial : Accounts [] (flow s) := by
    rw [hs]
    exact ⟨rfl, rfl⟩
  apply history_invariant (R := fun h s => Accounts (h.map event) (flow s)) _ s hinitial
  intro h s' x haccounts
  rw [List.map_append]
  exact haccounts.step (hstep s' x)

end CreditFlow
