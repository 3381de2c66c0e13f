import Mathlib

/-!
# Slices of a text by bytes

`&s[..n]` of a text in UTF-8: the first `n` bytes, if a character ends there.
Otherwise there is no such text, and the program that asks for it panics.
-/

namespace TextSlices

/-- The characters that fill the first `n` bytes. -/
def takeBytes : Nat → List Char → Option (List Char)
  | n, [] => if n = 0 then some [] else none
  | n, c :: cs =>
    if n = 0 then some []
    else if c.utf8Size ≤ n then (takeBytes (n - c.utf8Size) cs).map (c :: ·)
    else none

def sliceTo (s : String) (n : Nat) : Option String := (takeBytes n s.toList).map String.ofList

theorem utf8ByteSize_ofList_cons (c : Char) (cs : List Char) :
    (String.ofList (c :: cs)).utf8ByteSize = c.utf8Size + (String.ofList cs).utf8ByteSize := by
  rw [String.ofList_cons, String.utf8ByteSize_append, String.utf8ByteSize_singleton]

theorem takeBytes_zero (cs : List Char) : takeBytes 0 cs = some [] := by
  cases cs <;> rfl

theorem takeBytes_eq_some (n : Nat) (cs start : List Char) :
    takeBytes n cs = some start ↔ start <+: cs ∧ (String.ofList start).utf8ByteSize = n := by
  induction cs generalizing n start with
  | nil =>
    simp only [takeBytes, List.prefix_nil]
    constructor
    · intro h
      split at h
      · rename_i hn
        obtain rfl := Option.some.inj h
        exact ⟨rfl, by rw [hn]; rfl⟩
      · cases h
    · rintro ⟨rfl, rfl⟩
      rfl
  | cons c cs ih =>
    have hc := c.utf8Size_pos
    cases start with
    | nil =>
      have hempty : (String.ofList []).utf8ByteSize = 0 := rfl
      rw [hempty]
      constructor
      · intro h
        refine ⟨List.nil_prefix, ?_⟩
        by_contra hn
        simp only [takeBytes, if_neg (Ne.symm hn)] at h
        split at h
        · obtain ⟨rest, -, hrest⟩ := Option.map_eq_some_iff.mp h
          cases hrest
        · cases h
      · rintro ⟨-, rfl⟩
        exact takeBytes_zero _
    | cons d start =>
      rw [utf8ByteSize_ofList_cons, List.cons_prefix_cons]
      constructor
      · intro h
        simp only [takeBytes] at h
        split at h
        · cases h
        · split at h
          · rename_i hfits
            obtain ⟨rest, hrest, hcons⟩ := Option.map_eq_some_iff.mp h
            obtain ⟨rfl, rfl⟩ := List.cons.inj hcons
            obtain ⟨hstart, hsize⟩ := (ih _ _).mp hrest
            exact ⟨⟨rfl, hstart⟩, by omega⟩
          · cases h
      · rintro ⟨⟨rfl, hstart⟩, rfl⟩
        have hrest := (ih (String.ofList start).utf8ByteSize start).mpr ⟨hstart, rfl⟩
        have hpos : ¬d.utf8Size + (String.ofList start).utf8ByteSize = 0 := by omega
        simp only [takeBytes, if_neg hpos, Nat.le_add_right, if_true, Nat.add_sub_cancel_left, hrest,
          Option.map_some]

/-- The slice is the beginning of the text that has so many bytes. -/
theorem sliceTo_eq_some (s start : String) (n : Nat) :
    sliceTo s n = some start ↔ (∃ rest, s = start ++ rest) ∧ start.utf8ByteSize = n := by
  unfold sliceTo
  constructor
  · intro h
    obtain ⟨cs, hcs, rfl⟩ := Option.map_eq_some_iff.mp h
    obtain ⟨⟨rest, hrest⟩, hsize⟩ := (takeBytes_eq_some n _ cs).mp hcs
    refine ⟨⟨String.ofList rest, ?_⟩, hsize⟩
    rw [← String.ofList_append, hrest, String.ofList_toList]
  · rintro ⟨⟨rest, rfl⟩, hsize⟩
    refine Option.map_eq_some_iff.mpr ⟨start.toList, ?_, String.ofList_toList⟩
    refine (takeBytes_eq_some n _ _).mpr ⟨?_, by rwa [String.ofList_toList]⟩
    rw [String.toList_append]
    exact List.prefix_append _ _

end TextSlices
