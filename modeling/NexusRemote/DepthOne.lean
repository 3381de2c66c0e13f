import NexusRemote.Histories

/-!
# Queues of depth one

A queue that holds at most the newest value: a value accepted while another
waits displaces it, a taker empties it, and closing it discards what waits. The
events of such a queue account for every value it accepted, and what they say
about order is read off the events alone.
-/

namespace DepthOne

open Histories Mealy

/-- What a call on the queue came to. -/
inductive Event (α : Type) where
  | accepted (x : α)
  | refused
  | took (x : Option α)
  | cleared
  | closed

variable {α : Type}

namespace Event

def enters : Event α → Option α
  | accepted x => some x
  | _ => none

def leaves : Event α → Option α
  | took x => x
  | _ => none

def isCleared : Event α → Bool
  | cleared => true
  | _ => false

end Event

def acceptedOf (log : List (Event α)) : List α := log.filterMap Event.enters

def takenOf (log : List (Event α)) : List α := log.filterMap Event.leaves

@[simp] theorem acceptedOf_concat (log : List (Event α)) (e : Event α) :
    acceptedOf (log ++ [e]) = acceptedOf log ++ e.enters.toList :=
  filterMap_concat _ log e

@[simp] theorem takenOf_concat (log : List (Event α)) (e : Event α) :
    takenOf (log ++ [e]) = takenOf log ++ e.leaves.toList :=
  filterMap_concat _ log e

/-- How many values wait. -/
def waiting : Option α → Nat
  | none => 0
  | some _ => 1

@[simp] theorem waiting_none : waiting (none : Option α) = 0 := rfl

@[simp] theorem waiting_some (x : α) : waiting (some x) = 1 := rfl

@[simp] theorem waiting_eq_zero {slot : Option α} : waiting slot = 0 ↔ slot = none := by
  cases slot <;> simp

theorem waiting_le (slot : Option α) : waiting slot ≤ 1 := by
  cases slot <;> simp

/-- The value accepted last still waits: only refusals came after it. -/
def Waits (log : List (Event α)) (x : α) : Prop :=
  ∃ earlier later, log = earlier ++ Event.accepted x :: later ∧ ∀ e ∈ later, e = Event.refused

/-- A taker gets the value accepted last, unless it is gone already. -/
def TakesNewest (past : List (Event α)) : Event α → Prop
  | .took r => ∀ x, r = some x ↔ Waits past x
  | _ => True

/-- Once the queue is closed, nothing enters it or leaves it. -/
def QuietOnceClosed (past : List (Event α)) (e : Event α) : Prop :=
  Event.closed ∈ past → e.enters = none ∧ e.leaves = none

/-- The queue, with unbounded counts of what was displaced and what was discarded. -/
structure Cell (α : Type) where
  slot : Option α
  displaced : Nat
  discarded : Nat
  closed : Bool

namespace Cell

def empty : Cell α := ⟨none, 0, 0, false⟩

inductive Step : Cell α → Event α → Cell α → Prop where
  | accept (c : Cell α) (x : α) (hopen : c.closed = false) :
      Step c (.accepted x) { c with slot := some x, displaced := c.displaced + waiting c.slot }
  | refuse (c : Cell α) : Step c .refused c
  | take (c : Cell α) : Step c (.took c.slot) { c with slot := none }
  | clear (c : Cell α) :
      Step c .cleared { c with slot := none, discarded := c.discarded + waiting c.slot }
  | close (c : Cell α) :
      Step c .closed
        { c with slot := none, discarded := c.discarded + waiting c.slot, closed := true }

end Cell

/-! ## What the events say about the queue -/

@[simp] theorem waits_concat (log : List (Event α)) (e : Event α) (x : α) :
    Waits (log ++ [e]) x ↔ e = .accepted x ∨ (e = .refused ∧ Waits log x) := by
  constructor
  · rintro ⟨earlier, later, hlog, hlater⟩
    rcases later.eq_nil_or_concat with rfl | ⟨front, last, rfl⟩
    · exact .inl (by simpa using (List.append_inj' hlog rfl).2)
    · rw [List.concat_eq_append] at hlog hlater
      rw [← List.cons_append, ← List.append_assoc] at hlog
      obtain ⟨hfront, hlast⟩ := List.append_inj' hlog rfl
      obtain rfl : e = last := by simpa using hlast
      exact .inr ⟨hlater e (by simp), earlier, front, hfront,
        fun e' he' => hlater e' (List.mem_append_left _ he')⟩
  · rintro (rfl | ⟨rfl, earlier, later, rfl, hlater⟩)
    · exact ⟨log, [], rfl, by simp⟩
    · refine ⟨earlier, later ++ [.refused], by simp, ?_⟩
      simpa [or_imp, forall_and] using hlater

/-- The queue and the log of its events belong together. -/
structure Accounts (log : List (Event α)) (c : Cell α) : Prop where
  balance : (acceptedOf log).length =
    (takenOf log).length + c.displaced + waiting c.slot + c.discarded
  discarded : c.discarded ≤ log.countP Event.isCleared + if c.closed then 1 else 0
  closed : c.closed = true ↔ Event.closed ∈ log
  emptied : c.closed = true → c.slot = none
  inOrder : (takenOf log ++ c.slot.toList).Sublist (acceptedOf log)
  newest : ∀ x, c.slot = some x ↔ Waits log x
  takes : Along TakesNewest log
  quiet : Along QuietOnceClosed log

theorem accounts_empty : Accounts [] (Cell.empty : Cell α) where
  balance := rfl
  discarded := Nat.zero_le _
  closed := by simp [Cell.empty]
  emptied := fun _ => rfl
  inOrder := List.Sublist.refl _
  newest := by simp [Cell.empty, Waits]
  takes := along_nil
  quiet := along_nil

/-- What leaves the queue leaves it in the order of its entry. -/
theorem Accounts.taken_sublist {log : List (Event α)} {c : Cell α} (h : Accounts log c) :
    (takenOf log).Sublist (acceptedOf log) :=
  (List.sublist_append_left _ _).trans h.inOrder

/-- Nothing that waits is forgotten: emptying the queue unseen adds to the discarded values. -/
private theorem Accounts.emptyOut {log : List (Event α)} {c : Cell α} (h : Accounts log c)
    {e : Event α} (henters : e.enters = none) (hleaves : e.leaves = none) (he : e ≠ .refused)
    (htakes : TakesNewest log e) (closed : Bool)
    (hclosed : closed = true ↔ Event.closed ∈ log ++ [e])
    (hdiscarded : c.discarded + waiting c.slot ≤
      (log ++ [e]).countP Event.isCleared + if closed then 1 else 0) :
    Accounts (log ++ [e]) ⟨none, c.displaced, c.discarded + waiting c.slot, closed⟩ where
  balance := by
    rw [acceptedOf_concat, takenOf_concat, henters, hleaves]
    simpa [Nat.add_assoc, Nat.add_comm, Nat.add_left_comm] using h.balance
  discarded := hdiscarded
  closed := hclosed
  emptied := fun _ => rfl
  inOrder := by simpa [henters, hleaves] using h.taken_sublist
  newest := fun x => by
    have hx : e ≠ .accepted x := by
      rintro rfl
      simp [Event.enters] at henters
    simp [he, hx]
  takes := (along_concat _ _).mpr ⟨h.takes, htakes⟩
  quiet := (along_concat _ _).mpr ⟨h.quiet, fun _ => ⟨henters, hleaves⟩⟩

theorem Accounts.step {log : List (Event α)} {c c' : Cell α} {e : Event α} (h : Accounts log c)
    (hstep : c.Step e c') : Accounts (log ++ [e]) c' := by
  cases hstep with
  | accept x hopen =>
    have hlog : Event.closed ∉ log := fun hmem => by simpa [hopen] using h.closed.mpr hmem
    refine ⟨?_, ?_, ?_, ?_, ?_, ?_, ?_, ?_⟩
    · have hbalance := h.balance
      simp only [acceptedOf_concat, takenOf_concat, Event.enters, Event.leaves, Option.toList_some,
        Option.toList_none, List.append_nil, List.length_append, List.length_singleton,
        waiting_some]
      omega
    · simpa [List.countP_append, Event.isCleared] using h.discarded
    · simpa using h.closed
    · intro hclosed
      rw [hopen] at hclosed
      exact Bool.noConfusion hclosed
    · simpa [Event.enters, Event.leaves] using h.taken_sublist
    · simp
    · exact (along_concat _ _).mpr ⟨h.takes, trivial⟩
    · exact (along_concat _ _).mpr ⟨h.quiet, fun hmem => absurd hmem hlog⟩
  | refuse =>
    refine ⟨?_, ?_, ?_, h.emptied, ?_, ?_, ?_, ?_⟩
    · simpa [Event.enters, Event.leaves] using h.balance
    · simpa [List.countP_append, Event.isCleared] using h.discarded
    · simpa using h.closed
    · simpa [Event.enters, Event.leaves] using h.inOrder
    · simpa using h.newest
    · exact (along_concat _ _).mpr ⟨h.takes, trivial⟩
    · exact (along_concat _ _).mpr ⟨h.quiet, fun _ => ⟨rfl, rfl⟩⟩
  | take =>
    refine ⟨?_, ?_, ?_, fun _ => rfl, ?_, ?_, ?_, ?_⟩
    · have hbalance := h.balance
      cases hslot : c.slot <;> simp [Event.enters, Event.leaves, hslot] at hbalance ⊢ <;>
        omega
    · simpa [List.countP_append, Event.isCleared] using h.discarded
    · simpa using h.closed
    · simpa [Event.enters, Event.leaves] using h.inOrder
    · simp
    · exact (along_concat _ _).mpr ⟨h.takes, h.newest⟩
    · exact (along_concat _ _).mpr ⟨h.quiet, fun hmem => ⟨rfl, h.emptied (h.closed.mpr hmem)⟩⟩
  | clear =>
    refine h.emptyOut (e := .cleared) rfl rfl (by simp) trivial c.closed (by simpa using h.closed) ?_
    have hdiscarded := h.discarded
    have hwaiting := waiting_le c.slot
    simp only [List.countP_append, List.countP_singleton, Event.isCleared, if_true]
    omega
  | close =>
    refine h.emptyOut (e := .closed) rfl rfl (by simp) trivial true (by simp) ?_
    have hdiscarded := h.discarded
    simp only [List.countP_append, List.countP_singleton, Event.isCleared, Bool.false_eq_true,
      if_true, if_false]
    cases hclosed : c.closed with
    | false =>
      have hwaiting := waiting_le c.slot
      simp only [hclosed, Bool.false_eq_true, if_false] at hdiscarded
      omega
    | true =>
      simpa [hclosed, h.emptied hclosed] using hdiscarded

/-- A machine whose every step is one of the queue's accounts for what it accepted. -/
theorem accounts_of_simulation {σ ι ο : Type} {step : σ → ι → ο × σ} (event : ι × ο → Event α)
    {R : σ → Cell α → Prop}
    (hstep : ∀ s c x, R s c → ∃ c', c.Step (event (x, (step s x).1)) c' ∧ R (step s x).2 c')
    (s : σ) (hs : R s Cell.empty) (xs : List ι) :
    ∃ c, R (after step s xs) c ∧ Accounts ((history step s xs).map event) c := by
  refine history_invariant (R := fun h s' => ∃ c, R s' c ∧ Accounts (h.map event) c) ?_ s
    ⟨Cell.empty, hs, accounts_empty⟩ xs
  rintro h s' x ⟨c, hR, hc⟩
  obtain ⟨c', hc', hR'⟩ := hstep s' c x hR
  refine ⟨c', hR', ?_⟩
  rw [List.map_append]
  exact hc.step hc'

end DepthOne
