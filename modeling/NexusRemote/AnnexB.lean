import Mathlib

/-!
# H.264 byte streams

In the byte stream format of H.264 (Annex B) a unit starts with the bytes
00 00 01 and a header byte: a zero bit, two bits of importance and five bits
of type. Streams are searched through their windows of a fixed width.
-/

namespace AnnexB

variable {α : Type}

/-- All stretches of `n` consecutive elements, in order. -/
def windows (n : Nat) (xs : List α) : List (List α) :=
  (List.range (xs.length + 1 - n)).map fun i => (xs.drop i).take n

/-- The windows of the width of `w` contain `w` exactly if it occurs. -/
theorem mem_windows_iff (w xs : List α) : w ∈ windows w.length xs ↔ w <:+: xs := by
  rw [windows, List.mem_map]
  constructor
  · rintro ⟨i, -, hi⟩
    rw [← hi]
    exact (List.take_prefix _ _).isInfix.trans (List.drop_suffix i xs).isInfix
  · rintro ⟨before, rest, hxs⟩
    refine ⟨before.length, ?_, ?_⟩
    · rw [List.mem_range, ← hxs]
      simp only [List.length_append]
      omega
    · rw [← hxs, List.append_assoc, List.drop_left, List.take_left]

theorem any_windows_iff [BEq α] [LawfulBEq α] (w xs : List α) :
    (windows w.length xs).any (fun v => v == w) = true ↔ w <:+: xs := by
  rw [← mem_windows_iff, List.any_eq_true]
  constructor
  · rintro ⟨v, hv, heq⟩
    obtain rfl : v = w := eq_of_beq heq
    exact hv
  · intro hw
    exact ⟨w, hw, BEq.refl w⟩

/-- The type of a sequence parameter set. -/
def spsType : Nat := 7

/-- The stream has a unit of type `t` whose forbidden bit is zero. -/
def HasUnit (t : Nat) (xs : List UInt8) : Prop :=
  ∃ b : UInt8, b.toNat < 128 ∧ b.toNat % 32 = t ∧ [0, 0, 1, b] <:+: xs

end AnnexB
