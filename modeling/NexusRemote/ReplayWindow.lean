import NexusRemote.BigEndian

/-!
# The nonce replay window (`apps/nexus-client/src/receiver.rs`)

Sequences are recorded after their frame has been authenticated. Values inside
a window of 4096 below the highest one may arrive in any order, each once;
older values are refused. A sequence is spent when the window refuses it, and
the window never forgets a spent sequence even though it stores only a bounded
set.
-/

namespace ReplayWindow

def nonceReplayWindow : UInt64 := 4096

/-- The stored sequences never exceed the highest one. -/
structure NonceReplayWindow where
  highestSequence : Option UInt64
  acceptedSequences : Finset UInt64
  le_highest : ∀ n ∈ acceptedSequences, ∃ h, highestSequence = some h ∧ n ≤ h

namespace NonceReplayWindow

def default : NonceReplayWindow := ⟨none, ∅, by simp⟩

variable (w : NonceReplayWindow)

/-- `sequence <= highest && highest - sequence >= NONCE_REPLAY_WINDOW`. -/
def agedOut (sequence : UInt64) : Bool :=
  match w.highestSequence with
  | some highest => sequence ≤ highest && highest - sequence ≥ nonceReplayWindow
  | none => false

/-- `self.highest_sequence.map_or(sequence, |known| known.max(sequence))`. -/
def raised (sequence : UInt64) : UInt64 :=
  match w.highestSequence with
  | some known => max known sequence
  | none => sequence

theorem sequence_le_raised (sequence : UInt64) : sequence ≤ w.raised sequence := by
  unfold raised
  split
  · rw [UInt64.le_iff_toNat_le, UInt64.toNat_max]
    omega
  · exact UInt64.le_refl sequence

theorem highest_le_raised (sequence h : UInt64) (hh : w.highestSequence = some h) :
    h ≤ w.raised sequence := by
  simp only [raised, hh]
  rw [UInt64.le_iff_toNat_le, UInt64.toNat_max]
  omega

theorem raised_cases (sequence : UInt64) :
    w.raised sequence = sequence ∨ w.highestSequence = some (w.raised sequence) := by
  unfold raised
  cases w.highestSequence with
  | none => exact .inl rfl
  | some known =>
    have hm : (max known sequence).toNat = max known.toNat sequence.toNat := UInt64.toNat_max ..
    by_cases hk : known.toNat ≤ sequence.toNat
    · left
      apply UInt64.toNat_inj.mp
      rw [hm]
      omega
    · right
      refine congrArg some (UInt64.toNat_inj.mp ?_)
      rw [hm]
      omega

/-- The window after `sequence` has been recorded. -/
def recorded (sequence : UInt64) : NonceReplayWindow where
  highestSequence := some (w.raised sequence)
  acceptedSequences := (insert sequence w.acceptedSequences).filter fun accepted =>
    w.raised sequence - accepted < nonceReplayWindow
  le_highest := by
    intro n hn
    refine ⟨_, rfl, ?_⟩
    rcases Finset.mem_insert.mp (Finset.mem_filter.mp hn).1 with rfl | hn
    · exact w.sequence_le_raised n
    · obtain ⟨h, hh, hle⟩ := w.le_highest n hn
      exact UInt64.le_trans hle (w.highest_le_raised sequence h hh)

def commitAuthenticated (sequence : UInt64) : Bool × NonceReplayWindow :=
  if sequence ∈ w.acceptedSequences then (false, w)
  else if w.agedOut sequence then (false, w)
  else (true, w.recorded sequence)

/-- The window refuses the sequence: it was accepted before or has aged out. -/
def Spent (sequence : UInt64) : Prop :=
  sequence ∈ w.acceptedSequences ∨ w.agedOut sequence = true

theorem agedOut_iff (sequence : UInt64) : w.agedOut sequence = true ↔
    ∃ h, w.highestSequence = some h ∧ sequence.toNat + 4096 ≤ h.toNat := by
  unfold agedOut
  cases hh : w.highestSequence with
  | none => simp
  | some h =>
    simp only [Bool.and_eq_true, decide_eq_true_eq, ge_iff_le, Option.some.injEq, exists_eq_left']
    constructor
    · rintro ⟨hle, hage⟩
      have hsub := UInt64.toNat_sub_of_le h sequence hle
      rw [UInt64.le_iff_toNat_le] at hle hage
      change 4096 ≤ _ at hage
      omega
    · intro hage
      have hle : sequence ≤ h := by rw [UInt64.le_iff_toNat_le]; omega
      have hsub := UInt64.toNat_sub_of_le h sequence hle
      refine ⟨hle, ?_⟩
      rw [UInt64.le_iff_toNat_le, hsub]
      change 4096 ≤ _
      omega

theorem commit_eq (sequence : UInt64) (h : ¬w.Spent sequence) :
    w.commitAuthenticated sequence = (true, w.recorded sequence) := by
  simp only [Spent, not_or] at h
  simp [commitAuthenticated, h.1, h.2]

theorem commit_true (sequence : UInt64) (w' : NonceReplayWindow)
    (h : w.commitAuthenticated sequence = (true, w')) :
    ¬w.Spent sequence ∧ w' = w.recorded sequence := by
  unfold commitAuthenticated at h
  split at h
  · simp at h
  · rename_i hm
    split at h
    · simp at h
    · rename_i ha
      simp only [Prod.mk.injEq, true_and] at h
      exact ⟨by simp [Spent, hm, ha], h.symm⟩

/-- A refused sequence leaves the window as it was. -/
theorem commit_false (sequence : UInt64) (w' : NonceReplayWindow)
    (h : w.commitAuthenticated sequence = (false, w')) : w' = w := by
  unfold commitAuthenticated at h
  split at h
  · exact (Prod.mk.inj h).2.symm
  · split at h
    · exact (Prod.mk.inj h).2.symm
    · simp at h

/-- A stored sequence stays stored or ages out, so it stays spent. -/
theorem spent_of_le (sequence n : UInt64) (hn : n ∈ insert sequence w.acceptedSequences)
    (hle : n ≤ w.raised sequence) : (w.recorded sequence).Spent n := by
  by_cases hlt : w.raised sequence - n < nonceReplayWindow
  · left
    exact Finset.mem_filter.mpr ⟨hn, hlt⟩
  · right
    rw [agedOut_iff]
    refine ⟨_, rfl, ?_⟩
    have hsub := UInt64.toNat_sub_of_le _ n hle
    rw [UInt64.le_iff_toNat_le] at hle
    rw [UInt64.lt_iff_toNat_lt, hsub] at hlt
    change ¬_ < 4096 at hlt
    omega

theorem recorded_spends (sequence : UInt64) : (w.recorded sequence).Spent sequence :=
  w.spent_of_le sequence sequence (Finset.mem_insert_self _ _) (w.sequence_le_raised sequence)

/-- Recording a sequence never makes a spent one acceptable again. -/
theorem recorded_keeps (sequence n : UInt64) (h : w.Spent n) : (w.recorded sequence).Spent n := by
  rcases h with hn | ha
  · obtain ⟨h, hh, hle⟩ := w.le_highest n hn
    exact w.spent_of_le sequence n (Finset.mem_insert_of_mem hn)
      (UInt64.le_trans hle (w.highest_le_raised sequence h hh))
  · obtain ⟨h, hh, hage⟩ := (w.agedOut_iff n).mp ha
    right
    rw [agedOut_iff]
    have hraise := w.highest_le_raised sequence h hh
    rw [UInt64.le_iff_toNat_le] at hraise
    exact ⟨_, rfl, by omega⟩

/-- A sequence above everything seen is acceptable. -/
theorem not_spent_of_above (sequence : UInt64)
    (h : ∀ k, w.highestSequence = some k → k < sequence) : ¬w.Spent sequence := by
  rintro (hn | ha)
  · obtain ⟨k, hk, hle⟩ := w.le_highest sequence hn
    have hlt := h k hk
    rw [UInt64.le_iff_toNat_le] at hle
    rw [UInt64.lt_iff_toNat_lt] at hlt
    omega
  · obtain ⟨k, hk, hage⟩ := (w.agedOut_iff sequence).mp ha
    have hlt := h k hk
    rw [UInt64.lt_iff_toNat_lt] at hlt
    omega

theorem raised_of_above (sequence : UInt64)
    (h : ∀ k, w.highestSequence = some k → k < sequence) : w.raised sequence = sequence := by
  rcases w.raised_cases sequence with hr | hr
  · exact hr
  · have hlt := h _ hr
    have hle := w.sequence_le_raised sequence
    rw [UInt64.lt_iff_toNat_lt] at hlt
    rw [UInt64.le_iff_toNat_le] at hle
    omega

end NonceReplayWindow

end ReplayWindow
