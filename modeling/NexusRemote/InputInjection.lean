import NexusRemote.CursorControl
import NexusRemote.InputEvents
import NexusRemote.Utf16

/-!
# Input records at the host (`platform/windows/src/input.rs`)

The host translates an input event into records for the native interface: keys
by a table of scan codes, text by its UTF-16 code units, and mouse positions
into the absolute coordinates 0 to 65535 of the virtual desktop. Checked
arithmetic on 64-bit integers fails with the error of the function.
-/

namespace InputInjection

open CursorControl InputEvents

/-- Both ends belong to the desktop. -/
structure MonitorBounds where
  minX : Int32
  minY : Int32
  maxX : Int32
  maxY : Int32
  deriving DecidableEq

inductive InputRecord where
  | scanCode (scanCode : UInt16) (extended keyUp : Bool)
  | unicode (codeUnit : UInt16) (keyUp : Bool)
  | mouseMove (absoluteX absoluteY : UInt16)
  | mouseButton (button : MouseButton) (pressed : Bool)
  | mouseWheel (deltaX deltaY : Int32)
  deriving DecidableEq

/-! ## Keys -/

structure WindowsScanCode where
  value : UInt16
  extended : Bool
  deriving DecidableEq

def scanCode (value : UInt16) : WindowsScanCode := ⟨value, false⟩
def extendedScanCode (value : UInt16) : WindowsScanCode := ⟨value, true⟩

/-- The rows of the table that give one usage. -/
def hidUsages : List (UInt32 × WindowsScanCode) :=
  [(0x04, scanCode 0x1e), (0x05, scanCode 0x30), (0x06, scanCode 0x2e), (0x07, scanCode 0x20),
    (0x08, scanCode 0x12), (0x09, scanCode 0x21), (0x0a, scanCode 0x22), (0x0b, scanCode 0x23),
    (0x0c, scanCode 0x17), (0x0d, scanCode 0x24), (0x0e, scanCode 0x25), (0x0f, scanCode 0x26),
    (0x10, scanCode 0x32), (0x11, scanCode 0x31), (0x12, scanCode 0x18), (0x13, scanCode 0x19),
    (0x14, scanCode 0x10), (0x15, scanCode 0x13), (0x16, scanCode 0x1f), (0x17, scanCode 0x14),
    (0x18, scanCode 0x16), (0x19, scanCode 0x2f), (0x1a, scanCode 0x11), (0x1b, scanCode 0x2d),
    (0x1c, scanCode 0x15), (0x1d, scanCode 0x2c), (0x28, scanCode 0x1c), (0x29, scanCode 0x01),
    (0x2a, scanCode 0x0e), (0x2b, scanCode 0x0f), (0x2c, scanCode 0x39), (0x2d, scanCode 0x0c),
    (0x2e, scanCode 0x0d), (0x2f, scanCode 0x1a), (0x30, scanCode 0x1b), (0x31, scanCode 0x2b),
    (0x32, scanCode 0x2b), (0x33, scanCode 0x27), (0x34, scanCode 0x28), (0x35, scanCode 0x29),
    (0x36, scanCode 0x33), (0x37, scanCode 0x34), (0x38, scanCode 0x35), (0x39, scanCode 0x3a),
    (0x44, scanCode 0x57), (0x45, scanCode 0x58), (0x47, scanCode 0x46),
    (0x49, extendedScanCode 0x52), (0x4a, extendedScanCode 0x47), (0x4b, extendedScanCode 0x49),
    (0x4c, extendedScanCode 0x53), (0x4d, extendedScanCode 0x4f), (0x4e, extendedScanCode 0x51),
    (0x4f, extendedScanCode 0x4d), (0x50, extendedScanCode 0x4b), (0x51, extendedScanCode 0x50),
    (0x52, extendedScanCode 0x48), (0x53, scanCode 0x45), (0x54, extendedScanCode 0x35),
    (0x55, scanCode 0x37), (0x56, scanCode 0x4a), (0x57, scanCode 0x4e),
    (0x58, extendedScanCode 0x1c), (0x59, scanCode 0x4f), (0x5a, scanCode 0x50),
    (0x5b, scanCode 0x51), (0x5c, scanCode 0x4b), (0x5d, scanCode 0x4c), (0x5e, scanCode 0x4d),
    (0x5f, scanCode 0x47), (0x60, scanCode 0x48), (0x61, scanCode 0x49), (0x62, scanCode 0x52),
    (0x63, scanCode 0x53), (0x64, scanCode 0x56), (0x65, extendedScanCode 0x5d),
    (0xe0, scanCode 0x1d), (0xe1, scanCode 0x2a), (0xe2, scanCode 0x38),
    (0xe3, extendedScanCode 0x5b), (0xe4, extendedScanCode 0x1d), (0xe5, scanCode 0x36),
    (0xe6, extendedScanCode 0x38), (0xe7, extendedScanCode 0x5c)]

def mapHidUsage (usage : UInt32) : Except BackendErrorKind WindowsScanCode :=
  if 0x1e ≤ usage ∧ usage ≤ 0x27 then .ok (scanCode (usage - 0x1e + 0x02).toUInt16)
  else if 0x3a ≤ usage ∧ usage ≤ 0x43 then .ok (scanCode (usage - 0x3a + 0x3b).toUInt16)
  else
    match hidUsages.lookup usage with
    | some code => .ok code
    | none => .error .invalidInput

/-! ## Coordinates -/

def normalizeCoordinate (value minimum maximum : Int32) : Except BackendErrorKind UInt16 :=
  match i64 (maximum.toInt - minimum.toInt) with
  | none => .error .invalidInput
  | some range =>
    if range ≤ 0 then .error .invalidInput
    else
      match i64 (value.toInt - minimum.toInt) with
      | none => .error .invalidInput
      | some offset =>
        match i64 (offset * 65535) with
        | none => .error .invalidInput
        | some product =>
          -- the division truncates towards zero
          .ok (UInt16.ofNat (min (max (product.tdiv range) 0) 65535).toNat)

/-! ## Events -/

def translate (event : InputEvent) (monitor : MonitorBounds) :
    Except BackendErrorKind (List InputRecord) :=
  match event with
  | .key physicalCode _ action _ =>
    match mapHidUsage physicalCode with
    | .error err => .error err
    | .ok code => .ok [.scanCode code.value code.extended (action = .up)]
  | .text text =>
    .ok ((Utf16.encode text.toList).flatMap fun codeUnit =>
      [.unicode codeUnit false, .unicode codeUnit true])
  | .mouseMove x y =>
    match normalizeCoordinate x monitor.minX monitor.maxX with
    | .error err => .error err
    | .ok absoluteX =>
      match normalizeCoordinate y monitor.minY monitor.maxY with
      | .error err => .error err
      | .ok absoluteY => .ok [.mouseMove absoluteX absoluteY]
  | .mouseButton button pressed => .ok [.mouseButton button pressed]
  | .mouseWheel deltaX deltaY =>
    .ok ((if deltaY ≠ 0 then [.mouseWheel 0 deltaY] else []) ++
      (if deltaX ≠ 0 then [.mouseWheel deltaX 0] else []))

/-! ## What a coordinate becomes -/

/-- The place of an offset on a scale of 65535 steps; outside the range it is the nearer end. -/
def place (offset range : Int) : Int := min (max ((offset * 65535).tdiv range) 0) 65535

theorem normalizeCoordinate_eq {minimum maximum : Int32} (h : minimum.toInt < maximum.toInt)
    (value : Int32) :
    normalizeCoordinate value minimum maximum =
      .ok (UInt16.ofNat
        (place (value.toInt - minimum.toInt) (maximum.toInt - minimum.toInt)).toNat) := by
  have hminimum := minimum.le_toInt
  have hmaximum := maximum.toInt_lt
  have hvalue := value.le_toInt
  have hvalue' := value.toInt_lt
  have hminimum' := minimum.toInt_lt
  have hmaximum' := maximum.le_toInt
  rw [normalizeCoordinate, i64_of_mem (by omega)]
  simp only
  rw [if_neg (by omega), i64_of_mem (by omega)]
  simp only
  rw [i64_of_mem (by omega), place]

theorem toNat_of_ok {value minimum maximum : Int32} (h : minimum.toInt < maximum.toInt)
    {coordinate : UInt16} (hok : normalizeCoordinate value minimum maximum = .ok coordinate) :
    (coordinate.toNat : Int) =
      place (value.toInt - minimum.toInt) (maximum.toInt - minimum.toInt) := by
  rw [normalizeCoordinate_eq h, Except.ok.injEq] at hok
  rw [← hok, UInt16.toNat_ofNat', place]
  omega

section

variable {offset offset' range : Int}

theorem place_of_nonpos (hrange : 0 < range) (h : offset ≤ 0) : place offset range = 0 := by
  have hquotient : (offset * 65535).tdiv range ≤ 0 := by
    have hnonneg : 0 ≤ (-(offset * 65535)).tdiv range := Int.tdiv_nonneg (by omega) (by omega)
    rw [Int.neg_tdiv] at hnonneg
    omega
  rw [place]
  omega

theorem place_of_nonneg (hrange : 0 < range) (h : 0 ≤ offset) :
    place offset range = min (offset * 65535 / range) 65535 := by
  have hquotient : 0 ≤ offset * 65535 / range := Int.ediv_nonneg (by omega) (by omega)
  rw [place, Int.tdiv_eq_ediv_of_nonneg (by omega)]
  omega

theorem place_of_ge (hrange : 0 < range) (h : range ≤ offset) : place offset range = 65535 := by
  have hquotient : 65535 ≤ offset * 65535 / range := by
    apply (Int.le_ediv_iff_mul_le hrange).mpr
    rw [Int.mul_comm 65535 range]
    exact Int.mul_le_mul_of_nonneg_right h (by omega)
  rw [place_of_nonneg hrange (by omega)]
  omega

theorem place_mono (hrange : 0 < range) (h : offset ≤ offset') :
    place offset range ≤ place offset' range := by
  rcases Int.le_total offset 0 with hneg | hpos
  · rw [place_of_nonpos hrange hneg, place]
    omega
  · have hquotient : offset * 65535 / range ≤ offset' * 65535 / range :=
      Int.ediv_le_ediv hrange (by omega)
    rw [place_of_nonneg hrange hpos, place_of_nonneg hrange (by omega)]
    omega

/-- A range of at most 65535 leaves every pixel a step of its own. -/
theorem place_strict (hrange : 0 < range) (hsmall : range ≤ 65535) (hpos : 0 ≤ offset)
    (h : offset < offset') (hmax : offset' ≤ range) : place offset range < place offset' range := by
  have hstep : offset * 65535 / range + 1 ≤ offset' * 65535 / range := by
    apply (Int.le_ediv_iff_mul_le hrange).mpr
    have hfloor := Int.ediv_mul_le (offset * 65535) (Int.ne_of_gt hrange)
    calc (offset * 65535 / range + 1) * range = offset * 65535 / range * range + range := by ring
      _ ≤ offset * 65535 + 65535 := by omega
      _ ≤ offset' * 65535 := by omega
  have htop : offset' * 65535 / range ≤ 65535 := by
    apply Int.ediv_le_of_le_mul hrange
    rw [Int.mul_comm 65535 range]
    exact Int.mul_le_mul_of_nonneg_right hmax (by omega)
  rw [place_of_nonneg hrange hpos, place_of_nonneg hrange (by omega)]
  omega

end

/-- Absolute coordinates: total on a nonempty range, monotone, exact at both ends, and injective
where the range has no more pixels than the scale has steps. -/
theorem normalizeCoordinate_faithful (minimum maximum : Int32) :
    (minimum.toInt < maximum.toInt →
      (∀ value, ∃ coordinate, normalizeCoordinate value minimum maximum = .ok coordinate) ∧
      (∀ value value' p p', value.toInt ≤ value'.toInt →
        normalizeCoordinate value minimum maximum = .ok p →
        normalizeCoordinate value' minimum maximum = .ok p' → p.toNat ≤ p'.toNat) ∧
      (∀ value, value.toInt ≤ minimum.toInt →
        normalizeCoordinate value minimum maximum = .ok 0) ∧
      (∀ value, maximum.toInt ≤ value.toInt →
        normalizeCoordinate value minimum maximum = .ok 65535) ∧
      (maximum.toInt - minimum.toInt ≤ 65535 → ∀ value value' p p',
        minimum.toInt ≤ value.toInt → value.toInt < value'.toInt →
        value'.toInt ≤ maximum.toInt →
        normalizeCoordinate value minimum maximum = .ok p →
        normalizeCoordinate value' minimum maximum = .ok p' → p.toNat < p'.toNat)) ∧
    (maximum.toInt ≤ minimum.toInt → ∀ value, ∃ err,
      normalizeCoordinate value minimum maximum = .error err) := by
  constructor
  · intro h
    have hrange : 0 < maximum.toInt - minimum.toInt := by omega
    refine ⟨?_, ?_, ?_, ?_, ?_⟩
    · intro value
      exact ⟨_, normalizeCoordinate_eq h value⟩
    · intro value value' p p' hle hp hp'
      have hmono := place_mono hrange (Int.sub_le_sub_right hle minimum.toInt)
      rw [← toNat_of_ok h hp, ← toNat_of_ok h hp'] at hmono
      exact Int.ofNat_le.mp hmono
    · intro value hvalue
      rw [normalizeCoordinate_eq h, place_of_nonpos hrange (by omega)]
      rfl
    · intro value hvalue
      rw [normalizeCoordinate_eq h, place_of_ge hrange (by omega)]
      rfl
    · intro hsmall value value' p p' hmin hlt hmax hp hp'
      have hstrict := place_strict hrange hsmall (Int.sub_nonneg.mpr hmin)
        (Int.sub_lt_sub_right hlt minimum.toInt) (Int.sub_le_sub_right hmax minimum.toInt)
      rw [← toNat_of_ok h hp, ← toNat_of_ok h hp'] at hstrict
      exact Int.ofNat_lt.mp hstrict
  · intro h value
    have hminimum := minimum.toInt_lt
    have hmaximum := maximum.le_toInt
    rw [normalizeCoordinate, i64_of_mem (by omega)]
    exact ⟨.invalidInput, if_pos (by omega)⟩

end InputInjection
