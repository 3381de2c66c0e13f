import NexusRemote.Mealy
import NexusRemote.ReplayWindow

/-!
# The replay window and the whole history

The window stores a bounded set of sequences. Its decisions are those of an
unbounded record of everything that it ever accepted.
-/

namespace ReplayHistory

open ReplayWindow ReplayWindow.NonceReplayWindow

/-- The sequences that were accepted by calls from the empty window on. -/
def history (values : List UInt64) : List UInt64 :=
  Mealy.accepted NonceReplayWindow.commitAuthenticated NonceReplayWindow.default values

/-- The highest sequence of a history. -/
def Highest (accepted : List UInt64) (highest : UInt64) : Prop :=
  highest ∈ accepted ∧ ∀ n ∈ accepted, n ≤ highest

/-- The unbounded rule: each sequence once, and none that lies 4096 or more below the highest. -/
def Fresh (accepted : List UInt64) (sequence : UInt64) : Prop :=
  sequence ∉ accepted ∧ (accepted = [] ∨ ∃ highest, Highest accepted highest ∧
    (highest < sequence ∨ highest.toNat - sequence.toNat < 4096))

/-- The window stores the highest sequence of the history and what lies close below it. -/
structure Represents (w : NonceReplayWindow) (accepted : List UInt64) : Prop where
  empty : w.highestSequence = none → accepted = []
  highest : ∀ h, w.highestSequence = some h → Highest accepted h
  stored : ∀ n, n ∈ w.acceptedSequences ↔
    n ∈ accepted ∧ ∃ h, w.highestSequence = some h ∧ h.toNat - n.toNat < 4096

theorem represents_default : Represents NonceReplayWindow.default [] where
  empty := fun _ => rfl
  highest := nofun
  stored := by simp [NonceReplayWindow.default]

theorem highest_unique {accepted : List UInt64} {h k : UInt64} (hh : Highest accepted h)
    (hk : Highest accepted k) : h = k := by
  have hle := hk.2 h hh.1
  have hge := hh.2 k hk.1
  rw [UInt64.le_iff_toNat_le] at hle hge
  exact UInt64.toNat_inj.mp (Nat.le_antisymm hle hge)

/-- What the window has forgotten has aged out, so both refuse the same sequences. -/
theorem Represents.spent_iff {w : NonceReplayWindow} {accepted : List UInt64}
    (h : Represents w accepted) (sequence : UInt64) :
    ¬w.Spent sequence ↔ Fresh accepted sequence := by
  rw [Spent, agedOut_iff, h.stored]
  cases hw : w.highestSequence with
  | none =>
    obtain rfl := h.empty hw
    simp [Fresh]
  | some top =>
    have htop := h.highest top hw
    have hfresh : Fresh accepted sequence ↔
        sequence ∉ accepted ∧ (top < sequence ∨ top.toNat - sequence.toNat < 4096) := by
      constructor
      · rintro ⟨hnew, rfl | ⟨top', htop', hclose⟩⟩
        · exact absurd htop.1 List.not_mem_nil
        · rw [highest_unique htop htop']
          exact ⟨hnew, hclose⟩
      · rintro ⟨hnew, hclose⟩
        exact ⟨hnew, .inr ⟨top, htop, hclose⟩⟩
    rw [hfresh, UInt64.lt_iff_toNat_lt]
    simp only [Option.some.injEq, exists_eq_left', not_or, not_and]
    constructor
    · rintro ⟨hstored, hrecent⟩
      refine ⟨fun hmem => hstored hmem (by omega), by omega⟩
    · rintro ⟨hnew, hclose⟩
      exact ⟨fun hmem => absurd hmem hnew, by omega⟩

/-- The highest sequence only rises, above everything in the history. -/
theorem Represents.le_raised {w : NonceReplayWindow} {accepted : List UInt64}
    (h : Represents w accepted) (sequence : UInt64) :
    ∀ n ∈ accepted ++ [sequence], n ≤ w.raised sequence := by
  intro n hn
  rcases List.mem_append.mp hn with hn | hn
  · cases hw : w.highestSequence with
    | none =>
      rw [h.empty hw] at hn
      cases hn
    | some top =>
      exact UInt64.le_trans ((h.highest top hw).2 n hn) (w.highest_le_raised sequence top hw)
  · rw [List.mem_singleton.mp hn]
    exact w.sequence_le_raised sequence

/-- What the window keeps of a sequence that is not above the highest one. -/
theorem mem_recorded (w : NonceReplayWindow) (sequence n : UInt64) (hle : n ≤ w.raised sequence) :
    n ∈ (w.recorded sequence).acceptedSequences ↔
      (n = sequence ∨ n ∈ w.acceptedSequences) ∧
        (w.raised sequence).toNat - n.toNat < 4096 := by
  have hclose : w.raised sequence - n < nonceReplayWindow ↔
      (w.raised sequence).toNat - n.toNat < 4096 := by
    rw [UInt64.lt_iff_toNat_lt, UInt64.toNat_sub_of_le _ _ hle]
    rfl
  rw [← hclose]
  simp only [NonceReplayWindow.recorded, Finset.mem_filter, Finset.mem_insert]

/-- What is close to the highest sequence now was close to it before. -/
theorem Represents.stored_of_close {w : NonceReplayWindow} {accepted : List UInt64}
    (h : Represents w accepted) (sequence n : UInt64) (hn : n ∈ accepted)
    (hclose : (w.raised sequence).toNat - n.toNat < 4096) : n ∈ w.acceptedSequences := by
  refine (h.stored n).mpr ⟨hn, ?_⟩
  cases hw : w.highestSequence with
  | none =>
    rw [h.empty hw] at hn
    cases hn
  | some top =>
    have hraise := w.highest_le_raised sequence top hw
    rw [UInt64.le_iff_toNat_le] at hraise
    exact ⟨top, rfl, by omega⟩

/-- Recording a sequence in the window and in the history. -/
theorem Represents.recorded {w : NonceReplayWindow} {accepted : List UInt64}
    (h : Represents w accepted) (sequence : UInt64) :
    Represents (w.recorded sequence) (accepted ++ [sequence]) := by
  have hle := h.le_raised sequence
  constructor
  · nofun
  · intro top htop
    obtain rfl : w.raised sequence = top := Option.some.inj htop
    refine ⟨?_, hle⟩
    rcases w.raised_cases sequence with hr | hr
    · rw [hr]
      simp
    · exact List.mem_append_left _ (h.highest _ hr).1
  · intro n
    have hhighest : (w.recorded sequence).highestSequence = some (w.raised sequence) := rfl
    simp only [hhighest, Option.some.injEq, exists_eq_left']
    constructor
    · intro hn
      have hmem : n ∈ accepted ++ [sequence] := by
        obtain rfl | hn := Finset.mem_insert.mp (Finset.mem_filter.mp hn).1
        · simp
        · exact List.mem_append_left _ ((h.stored n).mp hn).1
      exact ⟨hmem, ((mem_recorded w sequence n (hle n hmem)).mp hn).2⟩
    · rintro ⟨hmem, hclose⟩
      refine (mem_recorded w sequence n (hle n hmem)).mpr ⟨?_, hclose⟩
      rcases List.mem_append.mp hmem with hn | hn
      · exact .inr (h.stored_of_close sequence n hn hclose)
      · exact .inl (List.mem_singleton.mp hn)

/-- One call: the window and the history decide alike and stay together. -/
theorem Represents.commit {w : NonceReplayWindow} {accepted : List UInt64}
    (h : Represents w accepted) (sequence : UInt64) :
    ((w.commitAuthenticated sequence).1 = true ↔ Fresh accepted sequence) ∧
      Represents (w.commitAuthenticated sequence).2
        (if (w.commitAuthenticated sequence).1 then accepted ++ [sequence] else accepted) := by
  rcases hc : w.commitAuthenticated sequence with ⟨_ | _, w'⟩
  · obtain rfl := w.commit_false sequence w' hc
    refine ⟨?_, h⟩
    rw [← h.spent_iff sequence]
    simp only [Bool.false_eq_true, false_iff, not_not]
    by_contra hunspent
    rw [w'.commit_eq sequence hunspent] at hc
    cases hc
  · obtain ⟨hunspent, rfl⟩ := w.commit_true sequence w' hc
    exact ⟨by simpa using (h.spent_iff sequence).mp hunspent, h.recorded sequence⟩

theorem represents_run (values : List UInt64) :
    Represents (Mealy.after NonceReplayWindow.commitAuthenticated .default values)
      (history values) := by
  -- From the right: a call sees the history of the calls before it.
  induction values using List.reverseRecOn with
  | nil => exact represents_default
  | append_singleton values sequence ih =>
    rw [Mealy.after_concat, history, Mealy.accepted_concat]
    exact (ih.commit sequence).2

/-- The stored sequences lie in an interval of 4096. -/
theorem Represents.card_le {w : NonceReplayWindow} {accepted : List UInt64}
    (h : Represents w accepted) : w.acceptedSequences.card ≤ 4096 := by
  cases hw : w.highestSequence with
  | none =>
    have hempty : w.acceptedSequences = ∅ := by
      ext n
      simp [h.stored, hw]
    simp [hempty]
  | some top =>
    have hnear : ∀ n ∈ w.acceptedSequences, top.toNat - n.toNat ∈ Finset.range 4096 := by
      intro n hn
      obtain ⟨-, top', htop', hlt⟩ := (h.stored n).mp hn
      obtain rfl : top = top' := Option.some.inj (hw.symm.trans htop')
      exact Finset.mem_range.mpr hlt
    have hinj : Set.InjOn (fun n : UInt64 => top.toNat - n.toNat) w.acceptedSequences := by
      intro n hn k hk heq
      have hn := (h.highest top hw).2 n ((h.stored n).mp hn).1
      have hk := (h.highest top hw).2 k ((h.stored k).mp hk).1
      rw [UInt64.le_iff_toNat_le] at hn hk
      exact UInt64.toNat_inj.mp (by simp only at heq; omega)
    simpa using Finset.card_le_card_of_injOn _ hnear hinj

/-! ## Subtractions -/

/-- `a - b` on `u64`; below zero it panics. -/
def checkedSub (a b : UInt64) : Option UInt64 := if b ≤ a then some (a - b) else none

/-- `sequence <= highest && highest - sequence >= NONCE_REPLAY_WINDOW`; the right side is
evaluated only if the left side holds. -/
def agedOutChecked (w : NonceReplayWindow) (sequence : UInt64) : Option Bool :=
  match w.highestSequence with
  | some highest =>
    if sequence ≤ highest then (checkedSub highest sequence).map fun age => age ≥ nonceReplayWindow
    else some false
  | none => some false

/-- `retain(|accepted| highest - *accepted < NONCE_REPLAY_WINDOW)`. -/
def retainChecked (highest : UInt64) (accepted : Finset UInt64) : Option (Finset UInt64) :=
  if ∀ n ∈ accepted, (checkedSub highest n).isSome then
    some (accepted.filter fun n => highest - n < nonceReplayWindow)
  else none

/-- The call with every subtraction checked: its result and the two fields it leaves. -/
def commitAuthenticatedChecked (w : NonceReplayWindow) (sequence : UInt64) :
    Option (Bool × Option UInt64 × Finset UInt64) := do
  if sequence ∈ w.acceptedSequences then
    return (false, w.highestSequence, w.acceptedSequences)
  if ← agedOutChecked w sequence then
    return (false, w.highestSequence, w.acceptedSequences)
  let highest := w.raised sequence
  let retained ← retainChecked highest (insert sequence w.acceptedSequences)
  return (true, some highest, retained)

theorem agedOutChecked_eq (w : NonceReplayWindow) (sequence : UInt64) :
    agedOutChecked w sequence = some (w.agedOut sequence) := by
  unfold agedOutChecked agedOut
  cases w.highestSequence with
  | none => rfl
  | some highest =>
    by_cases hle : sequence ≤ highest
    · simp [hle, checkedSub]
    · simp [hle]

/-- No call subtracts a larger number from a smaller one. -/
theorem commitAuthenticatedChecked_eq (w : NonceReplayWindow) (sequence : UInt64) :
    commitAuthenticatedChecked w sequence = some ((w.commitAuthenticated sequence).1,
      (w.commitAuthenticated sequence).2.highestSequence,
      (w.commitAuthenticated sequence).2.acceptedSequences) := by
  have hretain : retainChecked (w.raised sequence) (insert sequence w.acceptedSequences) =
      some (w.recorded sequence).acceptedSequences := by
    refine if_pos ?_
    intro n hn
    have hle : n ≤ w.raised sequence := by
      rcases Finset.mem_insert.mp hn with rfl | hn
      · exact w.sequence_le_raised n
      · obtain ⟨h, hh, hle⟩ := w.le_highest n hn
        exact UInt64.le_trans hle (w.highest_le_raised sequence h hh)
    simp [checkedSub, hle]
  unfold commitAuthenticatedChecked commitAuthenticated
  by_cases hmem : sequence ∈ w.acceptedSequences
  · simp [hmem]
  · rw [agedOutChecked_eq]
    cases hage : w.agedOut sequence with
    | true => simp [hmem]
    | false =>
      simp only [hmem, if_false, Option.bind_eq_bind, Option.bind_some, hretain]
      rfl

/-- Each call accepts exactly what the unbounded rule accepts on the history of the calls
before it; the stored set stays within 4096 sequences, and no subtraction underflows. -/
theorem window_refines_history (values : List UInt64) (sequence : UInt64) :
    (((Mealy.after NonceReplayWindow.commitAuthenticated .default values).commitAuthenticated
      sequence).1 = true ↔ Fresh (history values) sequence) ∧
    (Mealy.after NonceReplayWindow.commitAuthenticated .default values).acceptedSequences.card ≤
      4096 ∧
    commitAuthenticatedChecked (Mealy.after NonceReplayWindow.commitAuthenticated .default values)
      sequence ≠ none := by
  have hrun := represents_run values
  refine ⟨(hrun.commit sequence).1, hrun.card_le, ?_⟩
  rw [commitAuthenticatedChecked_eq]
  exact Option.some_ne_none _

end ReplayHistory
