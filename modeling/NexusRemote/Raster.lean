import NexusRemote.Fragments

/-!
# Buffers filled row by row

A slice of a buffer is read or overwritten as a whole, and the access fails if
it does not lie inside. A loop that overwrites consecutive blocks of a buffer is
one overwrite by all of them; that rule carries loops over the rows of an image
and, inside a row, over its pixels. Index arithmetic fails where 64 bits do not
hold the result.
-/

namespace Raster

/-! ## Index arithmetic -/

def mul (a b : Nat) : Option Nat := if a * b < 2 ^ 64 then some (a * b) else none
def add (a b : Nat) : Option Nat := if a + b < 2 ^ 64 then some (a + b) else none
def sub (a b : Nat) : Option Nat := if b ≤ a then some (a - b) else none

theorem mul_of_lt {a b : Nat} (h : a * b < 2 ^ 64) : mul a b = some (a * b) := if_pos h
theorem add_of_lt {a b : Nat} (h : a + b < 2 ^ 64) : add a b = some (a + b) := if_pos h

theorem mul_eq_some_iff (a b c : Nat) : mul a b = some c ↔ a * b < 2 ^ 64 ∧ c = a * b := by
  rw [mul, Option.ite_none_right_eq_some, Option.some.injEq, eq_comm]

theorem add_eq_some_iff (a b c : Nat) : add a b = some c ↔ a + b < 2 ^ 64 ∧ c = a + b := by
  rw [add, Option.ite_none_right_eq_some, Option.some.injEq, eq_comm]

/-! ## Slices -/

variable {α β : Type}

/-- `n` elements from `start` on. -/
def slice (xs : List α) (start n : Nat) : Option (List α) :=
  if start + n ≤ xs.length then some ((xs.drop start).take n) else none

/-- The buffer with `src` in place of the elements from `start` on. -/
def blit (dst : List α) (start : Nat) (src : List α) : Option (List α) :=
  if start + src.length ≤ dst.length then
    some (dst.take start ++ src ++ dst.drop (start + src.length))
  else none

theorem blit_of_le {dst src : List α} {start : Nat} (h : start + src.length ≤ dst.length) :
    blit dst start src = some (dst.take start ++ src ++ dst.drop (start + src.length)) := if_pos h

theorem slice_of_le {xs : List α} {start n : Nat} (h : start + n ≤ xs.length) :
    slice xs start n = some ((xs.drop start).take n) := if_pos h

theorem blit_length {dst src d : List α} {start : Nat} (h : blit dst start src = some d) :
    d.length = dst.length := by
  rw [blit] at h
  split at h
  case isTrue hfit =>
    cases h
    simp only [List.length_append, List.length_take, List.length_drop]
    omega
  case isFalse => cases h

/-- Overwriting all of a buffer. -/
theorem blit_all {dst src : List α} (h : src.length = dst.length) : blit dst 0 src = some src := by
  rw [blit_of_le (by omega), Nat.zero_add, h, List.drop_length]
  simp

/-- Two overwrites one behind the other are one. -/
theorem blit_blit {dst : List α} {start : Nat} (a b : List α)
    (h : start + (a.length + b.length) ≤ dst.length) :
    ((blit dst start a).bind fun d => blit d (start + a.length) b) = blit dst start (a ++ b) := by
  have hstart : (dst.take start).length = start := by
    rw [List.length_take]
    omega
  have hfront : (dst.take start ++ a).length = start + a.length := by
    rw [List.length_append, hstart]
  rw [blit_of_le (by omega), Option.bind_some, blit_of_le, blit_of_le]
  · congr 1
    rw [List.take_left' hfront, ← List.drop_drop, List.drop_left' hfront, List.drop_drop,
      List.length_append, Nat.add_assoc]
    simp only [List.append_assoc]
  · rw [List.length_append]
    omega
  · simp only [List.length_append, hstart, List.length_drop]
    omega

theorem blit_cons {dst : List α} {start : Nat} (a : α) (l : List α)
    (h : start + (l.length + 1) ≤ dst.length) :
    blit dst start (a :: l) = (blit dst start [a]).bind fun d => blit d (start + 1) l :=
  (blit_blit [a] l (by rw [List.length_singleton]; omega)).symm

/-! ## Loops -/

/-- `for i in 0..n`. -/
def loop : Nat → (Nat → β → Option β) → β → Option β
  | 0, _, b => some b
  | n + 1, body, b => (loop n body b).bind (body n)

@[simp] theorem loop_zero (body : Nat → β → Option β) (b : β) : loop 0 body b = some b := rfl

/-- The blocks that a loop of `n` rounds writes. -/
def blocks (n : Nat) (f : Nat → List α) : List α := (List.range n).flatMap f

theorem blocks_succ (n : Nat) (f : Nat → List α) : blocks (n + 1) f = blocks n f ++ f n := by
  simp [blocks, List.range_succ]

theorem blocks_add (m n : Nat) (f : Nat → List α) :
    blocks (m + n) f = blocks m f ++ blocks n fun i => f (m + i) := by
  induction n with
  | zero => simp [blocks]
  | succ n ih => rw [← Nat.add_assoc, blocks_succ, ih, List.append_assoc, blocks_succ]

theorem blocks_congr {n : Nat} {f g : Nat → List α} (h : ∀ i < n, f i = g i) :
    blocks n f = blocks n g := by
  induction n with
  | zero => rfl
  | succ n ih => rw [blocks_succ, blocks_succ, ih fun i hi => h i (by omega), h n (by omega)]

theorem length_blocks {n k : Nat} {f : Nat → List α} (h : ∀ i < n, (f i).length = k) :
    (blocks n f).length = n * k := by
  induction n with
  | zero => simp [blocks]
  | succ n ih =>
    rw [blocks_succ, List.length_append, ih fun i hi => h i (by omega), h n (by omega), Nat.succ_mul]

/-- Writing consecutive blocks of one size, round by round, is writing them at once. -/
theorem loop_blit {n k start size : Nat} {f : Nat → List α} {body : Nat → List α → Option (List α)}
    {dst : List α} (hlen : ∀ i < n, (f i).length = k) (hdst : dst.length = size)
    (hfit : start + n * k ≤ size)
    (hbody : ∀ i < n, ∀ d, d.length = size → body i d = blit d (start + i * k) (f i)) :
    loop n body dst = blit dst start (blocks n f) := by
  induction n with
  | zero =>
    rw [blit_of_le (by simpa [blocks, hdst] using hfit)]
    simp [blocks]
  | succ n ih =>
    have hsucc : (n + 1) * k = n * k + k := Nat.succ_mul n k
    have hblocks : (blocks n f).length = n * k := length_blocks fun i hi => hlen i (by omega)
    have hlast : (f n).length = k := hlen n (by omega)
    rw [loop, ih (fun i hi => hlen i (by omega)) (by omega) (fun i hi => hbody i (by omega)),
      blocks_succ, ← blit_blit _ _ (by omega), hblocks]
    apply Option.bind_congr
    intro d hd
    exact hbody n (by omega) d ((blit_length hd).trans hdst)

/-- The same for a loop inside a loop. -/
theorem loop_loop_blit {n m k start size : Nat} {f : Nat → Nat → List α}
    {body : Nat → Nat → List α → Option (List α)} {dst : List α}
    (hlen : ∀ i < n, ∀ j < m, (f i j).length = k) (hdst : dst.length = size)
    (hfit : start + n * (m * k) ≤ size)
    (hbody : ∀ i < n, ∀ j < m, ∀ d, d.length = size →
      body i j d = blit d (start + i * (m * k) + j * k) (f i j)) :
    loop n (fun i => loop m (body i)) dst = blit dst start (blocks n fun i => blocks m (f i)) := by
  apply loop_blit (k := m * k)
  · intro i hi
    exact length_blocks (hlen i hi)
  · exact hdst
  · exact hfit
  · intro i hi d hd
    have hinside : (i + 1) * (m * k) ≤ n * (m * k) := Nat.mul_le_mul_right _ hi
    rw [Nat.succ_mul] at hinside
    exact loop_blit (hlen i hi) hd (by omega) (hbody i hi)

theorem mem_blocks {n : Nat} {f : Nat → List α} {x : α} : x ∈ blocks n f ↔ ∃ i < n, x ∈ f i := by
  simp [blocks]

/-- An element of a block. -/
theorem getElem?_blocks {n k i j : Nat} {f : Nat → List α} (h : ∀ i < n, (f i).length = k)
    (hi : i < n) (hj : j < k) : (blocks n f)[i * k + j]? = (f i)[j]? := by
  induction n with
  | zero => omega
  | succ n ih =>
    have hblocks : (blocks n f).length = n * k := length_blocks fun i hi => h i (by omega)
    rw [blocks_succ]
    rcases Nat.lt_or_ge i n with hlt | hge
    · have hinside : i * k + j < n * k := by
        calc i * k + j < i * k + k := by omega
          _ = (i + 1) * k := (Nat.succ_mul i k).symm
          _ ≤ n * k := Nat.mul_le_mul_right k hlt
      rw [List.getElem?_append_left (by omega)]
      exact ih (fun i hi => h i (by omega)) hlt
    · obtain rfl : i = n := by omega
      rw [List.getElem?_append_right (by omega), hblocks, Nat.add_sub_cancel_left]

theorem getElem?_blocks_blocks {n m k i j l : Nat} {f : Nat → Nat → List α}
    (h : ∀ i < n, ∀ j < m, (f i j).length = k) (hi : i < n) (hj : j < m) (hl : l < k) :
    (blocks n fun i => blocks m (f i))[i * (m * k) + (j * k + l)]? = (f i j)[l]? := by
  have hinside : (j + 1) * k ≤ m * k := Nat.mul_le_mul_right k hj
  rw [Nat.succ_mul] at hinside
  rw [getElem?_blocks (fun i hi => length_blocks (h i hi)) hi (by omega),
    getElem?_blocks (h i hi) hj hl]

/-- The beginning of a block, read from a buffer that starts with the blocks. -/
theorem slice_blocks {n k i m : Nat} {f : Nat → List α} {rest : List α}
    (h : ∀ i < n, (f i).length = k) (hi : i < n) (hm : m ≤ k) :
    slice (blocks n f ++ rest) (i * k) m = some ((f i).take m) := by
  induction n generalizing rest with
  | zero => omega
  | succ n ih =>
    have hblocks : (blocks n f).length = n * k := length_blocks fun i hi => h i (by omega)
    rw [blocks_succ, List.append_assoc]
    rcases Nat.lt_or_ge i n with hlt | hge
    · exact ih (fun i hi => h i (by omega)) hlt
    · obtain rfl : i = n := by omega
      have hlast : (f i).length = k := h i (by omega)
      rw [slice_of_le (by simp only [List.length_append, hblocks, hlast]; omega),
        List.drop_left' hblocks, List.take_append_of_le_length (by omega)]

/-- A list is the rows it is cut into. -/
theorem blocks_rows (n k : Nat) (xs : List α) (h : xs.length = n * k) :
    blocks n (fun i => (xs.drop (i * k)).take k) = xs := by
  rw [blocks, List.flatMap_def, Fragments.windows_flatten, List.take_of_length_le (by omega)]

end Raster
