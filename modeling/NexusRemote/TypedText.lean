import NexusRemote.InputInjection
import NexusRemote.Mealy

/-!
# Typed text (`apps/nexus-client/src/window.rs`)

The window of the client receives typed characters as single UTF-16 code units
and keeps a high surrogate until its partner arrives. What it makes of them is
sent as text, and the host types the text by code units again.
-/

namespace TypedText

open InputEvents InputInjection Mealy Utf16

/-- `String::from_utf16` -/
def fromUtf16 (units : List UInt16) : Option String := (decodeStrict units).map String.ofList

/-- `char::from_u32` -/
def fromU32 (value : Nat) : Option Char := if value.isValidChar then some (Char.ofNat value) else none

def decodeUtf16Unit (pending : Option UInt16) (unit : UInt16) : Option String × Option UInt16 :=
  if 0xD800 ≤ unit.toNat ∧ unit.toNat ≤ 0xDBFF then (none, some unit)
  else if 0xDC00 ≤ unit.toNat ∧ unit.toNat ≤ 0xDFFF then
    match pending with
    | none => (none, none)
    | some high => (fromUtf16 [high, unit], none)
  -- a pending high surrogate is discarded
  else ((fromU32 unit.toNat).map fun character => String.ofList [character], none)

/-- The strings returned for a sequence of units, from an empty pending state. -/
def typed (units : List UInt16) : List String := (trace decodeUtf16Unit none units).filterMap id

/-! ## One unit -/

section

variable {pending : Option UInt16} {unit : UInt16}

theorem decodeUtf16Unit_high (h : isHigh unit = true) :
    decodeUtf16Unit pending unit = (none, some unit) := by
  simp only [isHigh, Bool.and_eq_true, decide_eq_true_eq] at h
  exact if_pos h

theorem decodeUtf16Unit_low_none (h : isLow unit = true) :
    decodeUtf16Unit none unit = (none, none) := by
  simp only [isLow, Bool.and_eq_true, decide_eq_true_eq] at h
  rw [decodeUtf16Unit, if_neg (by omega), if_pos h]

theorem decodeUtf16Unit_low_some {high : UInt16} (hhigh : isHigh high = true)
    (h : isLow unit = true) :
    decodeUtf16Unit (some high) unit = (some (String.ofList [pair high unit]), none) := by
  have hpair : fromUtf16 [high, unit] = some (String.ofList [pair high unit]) := by
    simp [fromUtf16, decodeStrict, hhigh, h]
  simp only [isLow, Bool.and_eq_true, decide_eq_true_eq] at h
  rw [decodeUtf16Unit, if_neg (by omega), if_pos h]
  simp only [hpair]

theorem decodeUtf16Unit_single (hhigh : isHigh unit = false) (hlow : isLow unit = false) :
    decodeUtf16Unit pending unit = (some (String.ofList [single unit]), none) := by
  have hvalid := (toNat_single hhigh hlow).1
  simp only [isHigh, isLow, Bool.and_eq_false_iff, decide_eq_false_iff_not] at hhigh hlow
  unfold decodeUtf16Unit
  rw [if_neg (by omega), if_neg (by omega), fromU32, if_pos hvalid, Option.map_some, single]

end

/-! ## Sequences of units -/

/-- The characters returned from a state on. -/
def characters (pending : Option UInt16) (units : List UInt16) : List Char :=
  ((trace decodeUtf16Unit pending units).filterMap id).flatMap String.toList

section

variable {pending next : Option UInt16} {unit : UInt16} {units : List UInt16}

theorem characters_cons_none (h : decodeUtf16Unit pending unit = (none, next)) :
    characters pending (unit :: units) = characters next units := by
  simp [characters, trace_cons, h]

theorem characters_cons_some {c : Char}
    (h : decodeUtf16Unit pending unit = (some (String.ofList [c]), next)) :
    characters pending (unit :: units) = c :: characters next units := by
  simp [characters, trace_cons, h]

end

/-- The pending surrogate stands for itself in front of the units that are still to come. -/
theorem characters_eq (pending : Option UInt16) (units : List UInt16)
    (hpending : ∀ high ∈ pending, isHigh high = true) :
    characters pending units = decode (pending.toList ++ units) := by
  induction units generalizing pending with
  | nil =>
    cases pending with
    | none => rfl
    | some high => simp [characters, decode, hpending high rfl]
  | cons unit units ih =>
    have hnone := ih none (by simp)
    rw [Option.toList_none, List.nil_append] at hnone
    cases hhigh : isHigh unit with
    | true =>
      rw [characters_cons_none (decodeUtf16Unit_high hhigh), ih (some unit) (by simpa using hhigh),
        Option.toList_some, List.singleton_append]
      cases pending with
      | none => rw [Option.toList_none, List.nil_append]
      | some high =>
        rw [Option.toList_some, List.singleton_append,
          decode_high (hpending high rfl) (not_low_of_high hhigh)]
    | false =>
      cases hlow : isLow unit with
      | true =>
        cases pending with
        | none =>
          rw [characters_cons_none (decodeUtf16Unit_low_none hlow), hnone, Option.toList_none,
            List.nil_append, decode_low hlow]
        | some high =>
          rw [characters_cons_some (decodeUtf16Unit_low_some (hpending high rfl) hlow), hnone,
            Option.toList_some, List.singleton_append, decode_pair (hpending high rfl) hlow]
      | false =>
        rw [characters_cons_some (decodeUtf16Unit_single hhigh hlow), hnone]
        cases pending with
        | none => rw [Option.toList_none, List.nil_append, decode_single hhigh hlow]
        | some high =>
          rw [Option.toList_some, List.singleton_append, decode_high (hpending high rfl) hlow,
            decode_single hhigh hlow]

theorem flatMap_typed (units : List UInt16) : (typed units).flatMap String.toList = decode units :=
  characters_eq none units (by simp)

/-- The two records of a code unit. -/
def keystroke (unit : UInt16) : List InputRecord := [.unicode unit false, .unicode unit true]

/-- Text arrives as it was typed: what the client returns is the decoded sequence without its
unpaired surrogates, and a well-formed sequence comes out of the host's records unit by unit. -/
theorem typed_text_survives (units : List UInt16) :
    String.join (typed units) = String.ofList (decode units) ∧
    (WellFormed units → ∀ monitor, ∃ records : List (List InputRecord),
      (typed units).map (fun text => InputInjection.translate (.text text) monitor) = records.map .ok ∧
      records.flatten = units.flatMap keystroke) := by
  constructor
  · rw [String.join_eq, ← List.flatMap_def, flatMap_typed]
  · intro hformed monitor
    refine ⟨(typed units).map fun text => (encode text.toList).flatMap keystroke, ?_, ?_⟩
    · rw [List.map_map]
      rfl
    · have hunits : (typed units).flatMap (fun text => encode text.toList) = units := by
        calc (typed units).flatMap (fun text => encode text.toList)
            = encode ((typed units).flatMap String.toList) := by
              simp only [encode, List.flatMap_assoc]
          _ = encode (decode units) := by rw [flatMap_typed]
          _ = units := encode_decode hformed
      rw [← List.flatMap_def, ← List.flatMap_assoc, hunits]

end TypedText
