import Mathlib

/-!
# Counting in a sliding window

A limiter admits events at the times it reads from a clock. It keeps the times
it admitted and, at each reading, forgets those at the front that are as old as
the window is wide. If it admits only while it keeps fewer than the limit, then
no window of that width holds more than the limit, wherever it is placed.
-/

namespace SlidingWindow

variable {width : Nat}

/-- The time lies in the window of the given width that ends with `t`; the far end is open. -/
def inWindow (width t time : Nat) : Bool := decide (time ≤ t ∧ t < time + width)

def count (width t : Nat) (times : List Nat) : Nat := times.countP (inWindow width t)

/-- What is left at a reading of the clock. -/
def prune (width now : Nat) (times : List Nat) : List Nat :=
  times.dropWhile fun time => now - time ≥ width

/-- Of all the times only those were forgotten that had left the window at some reading. -/
def Keeps (width : Nat) (readings all kept : List Nat) : Prop :=
  ∃ old, all = old ++ kept ∧ ∀ time ∈ old, ∃ now ∈ readings, time + width ≤ now

theorem Keeps.nil : Keeps width [] [] [] := by
  refine ⟨[], rfl, ?_⟩
  intro time htime
  cases htime

/-- A reading may forget, and does not have to. -/
theorem Keeps.read {readings all kept : List Nat} (h : Keeps width readings all kept)
    (later : List Nat) : Keeps width (readings ++ later) all kept := by
  obtain ⟨old, hall, hold⟩ := h
  refine ⟨old, hall, ?_⟩
  intro time htime
  obtain ⟨now, hnow, hage⟩ := hold time htime
  exact ⟨now, List.mem_append_left later hnow, hage⟩

theorem Keeps.prune {readings all kept : List Nat} (h : Keeps width readings all kept)
    (now : Nat) (hwidth : 0 < width) :
    Keeps width (readings ++ [now]) all (prune width now kept) := by
  obtain ⟨old, hall, hold⟩ := h
  refine ⟨old ++ kept.takeWhile (fun time => now - time ≥ width), ?_, ?_⟩
  · rw [SlidingWindow.prune, List.append_assoc, List.takeWhile_append_dropWhile, hall]
  · intro time htime
    rcases List.mem_append.mp htime with hearlier | hnew
    · obtain ⟨reading, hreading, hage⟩ := hold time hearlier
      exact ⟨reading, List.mem_append_left _ hreading, hage⟩
    · have hage := List.mem_takeWhile_imp hnew
      refine ⟨now, by simp, ?_⟩
      simp only [ge_iff_le, decide_eq_true_eq] at hage
      omega

theorem Keeps.add {readings all kept : List Nat} (h : Keeps width readings all kept)
    (time : Nat) : Keeps width readings (all ++ [time]) (kept ++ [time]) := by
  obtain ⟨old, rfl, hold⟩ := h
  exact ⟨old, by simp, hold⟩

/-- What is in a window that ends later than every reading has been kept. -/
theorem Keeps.count_le {readings all kept : List Nat} (h : Keeps width readings all kept)
    (t : Nat) (ht : ∀ now ∈ readings, now ≤ t) : count width t all ≤ kept.length := by
  obtain ⟨old, rfl, hold⟩ := h
  have hgone : old.countP (inWindow width t) = 0 := by
    rw [List.countP_eq_zero]
    intro time htime
    obtain ⟨now, hnow, hage⟩ := hold time htime
    have hle := ht now hnow
    simp only [inWindow, decide_eq_true_eq, not_and, Nat.not_lt]
    omega
  rw [count, List.countP_append, hgone, Nat.zero_add]
  exact List.countP_le_length

/-- One more time is admitted while fewer than the limit are kept: the limit still holds for
every window. -/
theorem Keeps.count_add {readings all kept : List Nat} {limit now : Nat}
    (h : Keeps width readings all kept) (hnow : ∀ reading ∈ readings, reading ≤ now)
    (hroom : kept.length < limit) (hlimit : ∀ t, count width t all ≤ limit) (t : Nat) :
    count width t (all ++ [now]) ≤ limit := by
  have hconcat : count width t (all ++ [now]) =
      count width t all + if inWindow width t now then 1 else 0 := by
    simp [count, List.countP_append, List.countP_cons]
  rw [hconcat]
  by_cases hin : inWindow width t now = true
  · have hle : now ≤ t := (of_decide_eq_true hin).1
    have hkept := h.count_le t fun reading hreading => (hnow reading hreading).trans hle
    rw [if_pos hin]
    omega
  · rw [if_neg hin]
    exact hlimit t

end SlidingWindow
