import NexusRemote.Mealy

/-!
# Copying a stream

A loop reads a chunk of a stream and writes all of it to another before it reads
the next. It ends when the source ends, when reading fails, or when writing
fails, which may be in the middle of a chunk. A chunk is accounted for when it
has been written in full. Beside the loop stands a ledger of what it has read
and written.
-/

namespace StreamCopy

variable {β : Type}

inductive Ending where
  /-- The source has ended, and the target is finished. -/
  | finished
  /-- Reading has failed, and the target is reset. -/
  | reset
  /-- Writing has failed. -/
  | broken
  deriving DecidableEq, Repr

inductive Phase (β : Type) where
  | reading
  /-- What is left to write of a chunk of this size. -/
  | writing (rest : List β) (size : Nat)
  | ended (ending : Ending)

structure Copy (β : Type) where
  phase : Phase β
  read : List β
  written : List β
  /-- The elements and the number of the chunks that have been accounted for. -/
  recorded : Nat
  chunks : Nat

def Copy.new : Copy β := ⟨.reading, [], [], 0, 0⟩

/-- What the loop waits for. -/
inductive Answer (β : Type) where
  | chunk (data : List β)
  | eof
  | readError
  /-- So many elements of the chunk have gone out. -/
  | wrote (count : Nat)
  | writeError

/-- The loop goes on with an answer, if it is one that it waits for. It accounts for a chunk by
giving its size. A chunk holds something, and no more than the buffer. -/
def step (limit : Nat) (c : Copy β) (answer : Answer β) : Option Nat × Copy β :=
  match c.phase, answer with
  | .reading, .chunk data =>
    if 0 < data.length ∧ data.length ≤ limit then
      (none, { c with phase := .writing data data.length, read := c.read ++ data })
    else (none, c)
  | .reading, .eof => (none, { c with phase := .ended .finished })
  | .reading, .readError => (none, { c with phase := .ended .reset })
  | .writing rest size, .wrote count =>
    if count < rest.length then
      (none, { c with
        phase := .writing (rest.drop count) size, written := c.written ++ rest.take count })
    else
      (some size, { c with
        phase := .reading
        written := c.written ++ rest
        recorded := c.recorded + size
        chunks := c.chunks + 1 })
  | .writing _ _, .writeError => (none, { c with phase := .ended .broken })
  | _, _ => (none, c)

/-! ## What a copy has done -/

/-- How the ledger stands in each phase. -/
def Balanced (limit : Nat) (c : Copy β) : Prop :=
  match c.phase with
  | .reading | .ended .finished | .ended .reset =>
    c.written = c.read ∧ c.recorded = c.read.length
  | .writing rest size =>
    c.written ++ rest = c.read ∧ c.recorded + size = c.read.length ∧ rest.length ≤ size ∧
      size ≤ limit
  | .ended .broken =>
    c.written <+: c.read ∧ c.recorded ≤ c.written.length ∧ c.read.length ≤ c.recorded + limit

theorem balanced_new (limit : Nat) : Balanced limit (Copy.new : Copy β) := ⟨rfl, rfl⟩

theorem step_balanced (limit : Nat) (c : Copy β) (answer : Answer β) (h : Balanced limit c) :
    Balanced limit (step limit c answer).2 := by
  obtain ⟨phase, read, written, recorded, chunks⟩ := c
  cases phase with
  | reading =>
    have hledger : written = read ∧ recorded = read.length := h
    cases answer with
    | chunk data =>
      simp only [step]
      split
      · rename_i hsize
        refine ⟨?_, ?_, Nat.le_refl _, hsize.2⟩
        · rw [hledger.1]
        · rw [hledger.2, List.length_append]
      · exact h
    | eof | readError => exact h
    | wrote | writeError => exact h
  | writing rest size =>
    have hledger : written ++ rest = read ∧ recorded + size = read.length ∧ rest.length ≤ size ∧
      size ≤ limit := h
    obtain ⟨hread, hrecorded, hrest, hsize⟩ := hledger
    cases answer with
    | wrote count =>
      simp only [step]
      split
      · refine ⟨?_, hrecorded, ?_, hsize⟩
        · rw [List.append_assoc, List.take_append_drop]
          exact hread
        · rw [List.length_drop]
          omega
      · exact ⟨hread, hrecorded⟩
    | writeError =>
      have hlength : written.length + rest.length = read.length := by
        rw [← hread, List.length_append]
      have hlow : recorded ≤ written.length := by omega
      have hhigh : read.length ≤ recorded + limit := by omega
      exact ⟨hread ▸ List.prefix_append written rest, hlow, hhigh⟩
    | chunk | eof | readError => exact h
  | ended ending => cases answer <;> exact h

/-- Whatever has happened, what was written is the beginning of what was read. -/
theorem Balanced.written_begins {limit : Nat} {c : Copy β} (h : Balanced limit c) :
    c.written <+: c.read := by
  obtain ⟨phase, read, written, recorded, chunks⟩ := c
  cases phase with
  | reading => exact h.1 ▸ List.prefix_refl _
  | writing rest size => exact h.1 ▸ List.prefix_append _ _
  | ended ending =>
    cases ending with
    | finished | reset => exact h.1 ▸ List.prefix_refl _
    | broken => exact h.1

/-- What is accounted for has been written, and at most one chunk that was written is not. -/
theorem Balanced.recorded_le {limit : Nat} {c : Copy β} (h : Balanced limit c) :
    c.recorded ≤ c.written.length ∧ c.written.length ≤ c.recorded + limit := by
  have hbegins := h.written_begins.length_le
  obtain ⟨phase, read, written, recorded, chunks⟩ := c
  cases phase with
  | reading =>
    obtain ⟨rfl, rfl⟩ : written = read ∧ recorded = read.length := h
    exact ⟨Nat.le_refl _, Nat.le_add_right _ _⟩
  | writing rest size =>
    obtain ⟨hread, hrecorded, hrest, hsize⟩ : written ++ rest = read ∧
      recorded + size = read.length ∧ rest.length ≤ size ∧ size ≤ limit := h
    have hlength : written.length + rest.length = read.length := by
      rw [← hread, List.length_append]
    simp only at hbegins ⊢
    omega
  | ended ending =>
    cases ending with
    | finished | reset =>
      obtain ⟨rfl, rfl⟩ : written = read ∧ recorded = read.length := h
      exact ⟨Nat.le_refl _, Nat.le_add_right _ _⟩
    | broken =>
      obtain ⟨-, hrecorded, hread⟩ : written <+: read ∧ recorded ≤ written.length ∧
        read.length ≤ recorded + limit := h
      simp only at hbegins ⊢
      omega

/-- A copy that was not broken off has passed on everything that it read. -/
theorem Balanced.complete {limit : Nat} {c : Copy β} (h : Balanced limit c)
    (hphase : c.phase = .ended .finished ∨ c.phase = .ended .reset) : c.written = c.read := by
  unfold Balanced at h
  rcases hphase with hphase | hphase <;> rw [hphase] at h <;> exact h.1

/-- A step accounts for what it adds to the ledger. -/
theorem step_recorded (limit : Nat) (c : Copy β) (answer : Answer β) :
    (step limit c answer).2.recorded = c.recorded + (step limit c answer).1.getD 0 ∧
      (step limit c answer).2.chunks = c.chunks + (step limit c answer).1.toList.length := by
  unfold step
  split
  case h_1 | h_4 => split <;> exact ⟨rfl, rfl⟩
  all_goals exact ⟨rfl, rfl⟩

end StreamCopy
