import Mathlib

/-!
# UTF-16

Characters beyond 16 bits are written as a high and a low surrogate. `decode`
reads a list of code units and leaves out every surrogate that has no partner;
on well-formed lists nothing is left out, and `encode` gives the list back.
-/

namespace Utf16

def isHigh (u : UInt16) : Bool := 0xD800 ≤ u.toNat && u.toNat ≤ 0xDBFF
def isLow (u : UInt16) : Bool := 0xDC00 ≤ u.toNat && u.toNat ≤ 0xDFFF

/-- The character of a unit that is no surrogate. -/
def single (u : UInt16) : Char := Char.ofNat u.toNat

/-- The character of a surrogate pair. -/
def pair (high low : UInt16) : Char :=
  Char.ofNat (0x10000 + (high.toNat - 0xD800) * 0x400 + (low.toNat - 0xDC00))

def encodeChar (c : Char) : List UInt16 :=
  if c.toNat < 0x10000 then [UInt16.ofNat c.toNat]
  else
    [UInt16.ofNat (0xD800 + (c.toNat - 0x10000) / 0x400),
      UInt16.ofNat (0xDC00 + (c.toNat - 0x10000) % 0x400)]

def encode (cs : List Char) : List UInt16 := cs.flatMap encodeChar

/-- Decoding with unpaired surrogates left out. -/
def decode : List UInt16 → List Char
  | [] => []
  | [u] => if isHigh u || isLow u then [] else [single u]
  | u :: v :: us =>
    if isHigh u then
      if isLow v then pair u v :: decode us else decode (v :: us)
    else if isLow u then decode (v :: us)
    else single u :: decode (v :: us)

/-- Decoding that fails at the first unpaired surrogate. -/
def decodeStrict : List UInt16 → Option (List Char)
  | [] => some []
  | [u] => if isHigh u || isLow u then none else some [single u]
  | u :: v :: us =>
    if isHigh u then
      if isLow v then (decodeStrict us).map (pair u v :: ·) else none
    else if isLow u then none
    else (decodeStrict (v :: us)).map (single u :: ·)

/-- Every surrogate has its partner. -/
inductive WellFormed : List UInt16 → Prop where
  | nil : WellFormed []
  | single {u : UInt16} {us : List UInt16} (hhigh : isHigh u = false) (hlow : isLow u = false)
      (hus : WellFormed us) : WellFormed (u :: us)
  | pair {u v : UInt16} {us : List UInt16} (hu : isHigh u = true) (hv : isLow v = true)
      (hus : WellFormed us) : WellFormed (u :: v :: us)

variable {u v : UInt16} {us : List UInt16}

theorem not_low_of_high (h : isHigh u = true) : isLow u = false := by
  simp only [isHigh, isLow, Bool.and_eq_true, decide_eq_true_eq, Bool.and_eq_false_iff,
    decide_eq_false_iff_not] at h ⊢
  omega

theorem decode_single (hhigh : isHigh u = false) (hlow : isLow u = false) :
    decode (u :: us) = single u :: decode us := by
  cases us <;> simp [decode, hhigh, hlow]

theorem decode_low (hlow : isLow u = true) : decode (u :: us) = decode us := by
  have hhigh : isHigh u = false := by
    cases h : isHigh u with
    | false => rfl
    | true => rw [not_low_of_high h] at hlow; cases hlow
  cases us <;> simp [decode, hhigh, hlow]

theorem decode_pair (hu : isHigh u = true) (hv : isLow v = true) :
    decode (u :: v :: us) = pair u v :: decode us := by
  simp [decode, hu, hv]

/-- A high surrogate without a low one behind it is left out. -/
theorem decode_high (hu : isHigh u = true) (hv : isLow v = false) :
    decode (u :: v :: us) = decode (v :: us) := by
  simp [decode, hu, hv]

theorem toNat_single (hhigh : isHigh u = false) (hlow : isLow u = false) :
    u.toNat.isValidChar ∧ (single u).toNat = u.toNat := by
  have hlt := u.toNat_lt
  have hvalid : u.toNat.isValidChar := by
    simp only [isHigh, isLow, Bool.and_eq_false_iff, decide_eq_false_iff_not] at hhigh hlow
    rw [Nat.isValidChar]
    omega
  exact ⟨hvalid, by rw [single, Char.toNat_ofNat, if_pos hvalid]⟩

theorem toNat_pair (hu : isHigh u = true) (hv : isLow v = true) :
    (pair u v).toNat = 0x10000 + (u.toNat - 0xD800) * 0x400 + (v.toNat - 0xDC00) := by
  simp only [isHigh, isLow, Bool.and_eq_true, decide_eq_true_eq] at hu hv
  rw [pair, Char.toNat_ofNat, if_pos]
  rw [Nat.isValidChar]
  omega

theorem encodeChar_single (hhigh : isHigh u = false) (hlow : isLow u = false) :
    encodeChar (single u) = [u] := by
  have hlt := u.toNat_lt
  rw [encodeChar, (toNat_single hhigh hlow).2, if_pos (by omega), UInt16.ofNat_toNat]

theorem encodeChar_pair (hu : isHigh u = true) (hv : isLow v = true) :
    encodeChar (pair u v) = [u, v] := by
  have hvalue := toNat_pair hu hv
  simp only [isHigh, isLow, Bool.and_eq_true, decide_eq_true_eq] at hu hv
  have hhigh : 0xD800 + ((pair u v).toNat - 0x10000) / 0x400 = u.toNat := by omega
  have hlow : 0xDC00 + ((pair u v).toNat - 0x10000) % 0x400 = v.toNat := by omega
  rw [encodeChar, if_neg (by omega), hhigh, hlow, UInt16.ofNat_toNat, UInt16.ofNat_toNat]

/-- On a well-formed list decoding loses nothing. -/
theorem encode_decode (h : WellFormed us) : encode (decode us) = us := by
  induction h with
  | nil => rfl
  | single hhigh hlow hus ih =>
    rw [decode_single hhigh hlow, encode, List.flatMap_cons, encodeChar_single hhigh hlow, ← encode, ih]
    rfl
  | pair hu hv hus ih =>
    rw [decode_pair hu hv, encode, List.flatMap_cons, encodeChar_pair hu hv, ← encode, ih]
    rfl

end Utf16
