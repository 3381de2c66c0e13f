import NexusRemote.ClientDecoder
import NexusRemote.HostMedia
import NexusRemote.Raster

/-!
# Planar images with padded rows (`platform/windows/src/codec.rs`, `apps/nexus-client/src/decoder.rs`)

An NV12 image is a plane of luma rows and, behind it, a plane of half as many
chroma rows of the same width. Drivers hand such images out with every row
padded to a pitch. The host takes the padding out of what it encodes, the client
out of what it decodes; both run the two loops of `copyPlanes`. A result `none`
is a panic: an index outside its slice or an overflow.
-/

namespace Nv12

open BigEndian HostMedia ClientDecoder Raster

/-! ## The loops -/

/-- One loop over the rows of a plane. -/
def copyPlane (source : Bytes) (sourceStart stride width rows destinationStart : Nat) :
    Bytes → Option Bytes :=
  loop rows fun row destination => do
    let sourceRow ← add sourceStart (← mul row stride)
    let destinationRow ← add destinationStart (← mul row width)
    let bytes ← Raster.slice source sourceRow width
    blit destination destinationRow bytes

/-- The luma rows, then the chroma rows, which follow the luma plane on both sides. -/
def copyPlanes (source : Bytes) (stride width height yLen outputLen : Nat) : Option Bytes := do
  let luma ← copyPlane source 0 stride width height 0 (List.replicate outputLen 0)
  let sourceUv ← mul height stride
  copyPlane source sourceUv stride width (height / 2) yLen luma

/-! ## The host -/

/-- The sizes of a BGRA frame and of its NV12 image; the host builds it with
`fromBgraDimensions` only, which checks what the last fields say. -/
structure Nv12Layout where
  width : Nat
  height : Nat
  bgraStride : Nat
  bgraLen : Nat
  yLen : Nat
  outputLen : Nat
  width_pos : 0 < width
  height_pos : 0 < height
  width_even : width % 2 = 0
  height_even : height % 2 = 0
  bgraStride_eq : bgraStride = width * 4
  bgraLen_eq : bgraLen = bgraStride * height
  bgraLen_lt : bgraLen < 2 ^ 64
  yLen_eq : yLen = width * height
  outputLen_eq : outputLen = yLen + yLen / 2

namespace Nv12Layout

def fromBgraDimensions (width height : UInt32) : Except CodecError Nv12Layout :=
  if hdims : width.toNat = 0 ∨ height.toNat = 0 ∨ width.toNat % 2 ≠ 0 ∨ height.toNat % 2 ≠ 0 then
    .error .invalidDimensions
  else
    match hstride : mul width.toNat 4 with
    | none => .error .invalidFrame
    | some bgraStride =>
      match hlen : mul bgraStride height.toNat with
      | none => .error .invalidFrame
      | some bgraLen =>
        match hy : mul width.toNat height.toNat with
        | none => .error .invalidFrame
        | some yLen =>
          match hout : add yLen (yLen / 2) with
          | none => .error .invalidFrame
          | some outputLen =>
            .ok {
              width := width.toNat, height := height.toNat
              bgraStride := bgraStride, bgraLen := bgraLen, yLen := yLen, outputLen := outputLen
              width_pos := by omega
              height_pos := by omega
              width_even := by omega
              height_even := by omega
              bgraStride_eq := ((mul_eq_some_iff _ _ _).mp hstride).2
              bgraLen_eq := ((mul_eq_some_iff _ _ _).mp hlen).2
              bgraLen_lt := by
                obtain ⟨hlt, rfl⟩ := (mul_eq_some_iff _ _ _).mp hlen
                exact hlt
              yLen_eq := ((mul_eq_some_iff _ _ _).mp hy).2
              outputLen_eq := ((add_eq_some_iff _ _ _).mp hout).2 }

/-- A frame of positive even sides whose BGRA form has a size has a layout. -/
theorem exists_of_even {width height : UInt32} (hwidth : 0 < width.toNat ∧ width.toNat % 2 = 0)
    (hheight : 0 < height.toNat ∧ height.toNat % 2 = 0)
    (hsize : width.toNat * 4 * height.toNat < 2 ^ 64) :
    ∃ layout, fromBgraDimensions width height = .ok layout ∧ layout.width = width.toNat ∧
      layout.height = height.toNat := by
  have hproduct : width.toNat * 4 * height.toNat = 4 * (width.toNat * height.toNat) := by ring
  unfold fromBgraDimensions
  split
  case isTrue h => omega
  case isFalse =>
    split
    case h_1 hnone =>
      rw [mul_of_lt (by have := width.toNat_lt; omega)] at hnone
      cases hnone
    case h_2 stride hstride =>
      obtain ⟨_, rfl⟩ := (mul_eq_some_iff _ _ _).mp hstride
      split
      case h_1 hnone => rw [mul_of_lt hsize] at hnone; cases hnone
      case h_2 =>
        split
        case h_1 hnone => rw [mul_of_lt (by omega)] at hnone; cases hnone
        case h_2 yLen hy =>
          obtain ⟨_, rfl⟩ := (mul_eq_some_iff _ _ _).mp hy
          split
          case h_1 hnone => rw [add_of_lt (by omega)] at hnone; cases hnone
          case h_2 => exact ⟨_, rfl, rfl, rfl⟩

theorem height_lt (layout : Nv12Layout) : layout.height < 2 ^ 62 := by
  have hlen := layout.bgraLen_lt
  rw [layout.bgraLen_eq, layout.bgraStride_eq] at hlen
  by_contra hlarge
  have : 1 * 4 * 2 ^ 62 ≤ layout.width * 4 * layout.height :=
    Nat.mul_le_mul (Nat.mul_le_mul_right 4 layout.width_pos) (by omega)
  omega

theorem yLen_lt (layout : Nv12Layout) : layout.yLen * 4 < 2 ^ 64 := by
  have hlen := layout.bgraLen_lt
  rw [layout.bgraLen_eq, layout.bgraStride_eq] at hlen
  rw [layout.yLen_eq, Nat.mul_right_comm]
  exact hlen

theorem outputLen_eq_rows (layout : Nv12Layout) :
    layout.outputLen = (layout.height + layout.height / 2) * layout.width := by
  rw [layout.outputLen_eq, layout.yLen_eq,
    Nat.mul_div_assoc _ (Nat.dvd_of_mod_eq_zero layout.height_even), ← Nat.mul_add, Nat.mul_comm]

end Nv12Layout

def copyPitchedNv12 (mapped : Bytes) (pitch : Nat) (layout : Nv12Layout) :
    Option (Except CodecError Bytes) :=
  if pitch < layout.width then some (.error .backendLost)
  else
    match add layout.height (layout.height / 2) with
    | none => some (.error .backendLost)
    | some mappedRows =>
      match mul pitch mappedRows with
      | none => some (.error .backendLost)
      | some requiredLen =>
        if mapped.length < requiredLen then some (.error .backendLost)
        else
          (copyPlanes mapped pitch layout.width layout.height layout.yLen layout.outputLen).map .ok

/-! ## The client -/

def maxSurfaceWidth : Nat := 7680
def maxSurfaceHeight : Nat := 4320
def maxSurfaceBytes : Nat := 64 * 1024 * 1024

inductive SurfaceFormat where
  | nv12
  | rgba8
  deriving DecidableEq, Repr

structure DecodedSurface where
  frameId : UInt32
  timestampUs : UInt64
  keyframe : Bool
  width : UInt32
  height : UInt32
  format : SurfaceFormat
  bytes : Bytes
  deriving DecidableEq, Repr

def validatedPixelCount (width height : UInt32) : Except DecoderError Nat :=
  if width.toNat = 0 ∨ height.toNat = 0 ∨ width.toNat > maxSurfaceWidth ∨
      height.toNat > maxSurfaceHeight ∨ width.toNat % 2 ≠ 0 ∨ height.toNat % 2 ≠ 0 then
    .error .invalidDimensions
  else
    match mul width.toNat height.toNat with
    | none => .error .invalidDimensions
    | some pixels => .ok pixels

def DecodedSurface.validate (s : DecodedSurface) : Except DecoderError Unit :=
  match validatedPixelCount s.width s.height with
  | .error err => .error err
  | .ok pixels =>
    match (match s.format with
      | .nv12 => add pixels (pixels / 2)
      | .rgba8 => mul pixels 4) with
    | none => .error .invalidDimensions
    | some expected =>
      if expected > maxSurfaceBytes ∨ s.bytes.length ≠ expected then .error .invalidSurface
      else .ok ()

def repackNv12 (source : Bytes) (stride : Nat) (width height : UInt32) :
    Option (Except DecoderError Bytes) :=
  match validatedPixelCount width height with
  | .error err => some (.error err)
  | .ok pixels =>
    if stride < width.toNat then some (.error .invalidSurface)
    else
      match add height.toNat (height.toNat / 2) with
      | none => some (.error .invalidDimensions)
      | some rows =>
        match mul stride rows with
        | none => some (.error .invalidDimensions)
        | some required =>
          if source.length < required then some (.error .invalidSurface)
          else
            match (add pixels (pixels / 2)).filter fun length => length ≤ maxSurfaceBytes with
            | none => some (.error .invalidDimensions)
            | some outputLen =>
              (copyPlanes source stride width.toNat height.toNat pixels outputLen).map .ok

/-! ## What the loops copy -/

/-- The first `width` bytes of a row of a pitched buffer. -/
def line (source : Bytes) (stride width row : Nat) : Bytes :=
  (source.drop (row * stride)).take width

def visible (source : Bytes) (stride width rows : Nat) : Bytes :=
  blocks rows (line source stride width)

/-- A row ends inside the buffer that holds all of them. -/
theorem row_end_le {row rows stride width : Nat} (hrow : row < rows) (hstride : width ≤ stride) :
    row * stride + width ≤ stride * rows := by
  calc row * stride + width ≤ row * stride + stride := by omega
    _ = (row + 1) * stride := (Nat.succ_mul row stride).symm
    _ ≤ rows * stride := Nat.mul_le_mul_right stride hrow
    _ = stride * rows := Nat.mul_comm rows stride

theorem length_line {source : Bytes} {stride width row rows : Nat} (hrow : row < rows)
    (hstride : width ≤ stride) (hsource : stride * rows ≤ source.length) :
    (line source stride width row).length = width := by
  have hend := row_end_le hrow hstride
  rw [line, List.length_take, List.length_drop]
  omega

theorem copyPlane_eq {source destination : Bytes} {first stride width rows destinationStart : Nat}
    (hstride : width ≤ stride) (hsource : stride * (first + rows) ≤ source.length)
    (hlarge : stride * (first + rows) < 2 ^ 64) (hsize : destination.length < 2 ^ 64)
    (hfit : destinationStart + rows * width ≤ destination.length) :
    copyPlane source (first * stride) stride width rows destinationStart destination =
      blit destination destinationStart
        (blocks rows fun row => line source stride width (first + row)) := by
  apply loop_blit (k := width)
  · intro row hrow
    exact length_line (show first + row < first + rows by omega) hstride hsource
  · rfl
  · exact hfit
  · intro row hrow d hd
    have hend := row_end_le (show first + row < first + rows by omega) hstride
    have hstart : first * stride + row * stride = (first + row) * stride := (Nat.add_mul _ _ _).symm
    have hinside := row_end_le hrow (Nat.le_refl width)
    rw [Nat.mul_comm width rows] at hinside
    rw [mul_of_lt (by omega), mul_of_lt (by omega)]
    simp only [Option.bind_eq_bind, Option.bind_some]
    rw [add_of_lt (by omega), Option.bind_some, add_of_lt (by omega), Option.bind_some, hstart,
      slice_of_le (by omega), Option.bind_some, line]

/-- On a buffer that holds all rows the loops collect their visible parts. -/
theorem copyPlanes_eq {source : Bytes} {stride width height : Nat} (hstride : width ≤ stride)
    (hsource : stride * (height + height / 2) ≤ source.length)
    (hlarge : stride * (height + height / 2) < 2 ^ 64) :
    copyPlanes source stride width height (height * width) ((height + height / 2) * width) =
      some (visible source stride width (height + height / 2)) := by
  have hsum : (height + height / 2) * width = height * width + height / 2 * width := Nat.add_mul _ _ _
  have hlines : (height + height / 2) * width ≤ stride * (height + height / 2) := by
    rw [Nat.mul_comm]
    exact Nat.mul_le_mul_right _ hstride
  have hbase : stride * height ≤ stride * (height + height / 2) :=
    Nat.mul_le_mul_left stride (by omega)
  have hcommute : height * stride = stride * height := Nat.mul_comm _ _
  have hzeros : (List.replicate ((height + height / 2) * width) (0 : UInt8)).length =
      (height + height / 2) * width := List.length_replicate
  have hluma : (blocks height (line source stride width)).length = height * width :=
    length_blocks fun row hrow => length_line hrow hstride (by omega)
  have hchroma : (blocks (height / 2) fun row => line source stride width (height + row)).length =
      height / 2 * width :=
    length_blocks fun row hrow =>
      length_line (show height + row < height + height / 2 by omega) hstride hsource
  have hzero : stride * (0 + height) = stride * height := by rw [Nat.zero_add]
  have hone : copyPlane source 0 stride width height 0
        (List.replicate ((height + height / 2) * width) 0) =
      blit (List.replicate ((height + height / 2) * width) 0) 0
        (blocks height (line source stride width)) := by
    simpa only [Nat.zero_mul, Nat.zero_add] using
      @copyPlane_eq source (List.replicate ((height + height / 2) * width) 0) 0 stride width height 0
        hstride (by omega) (by omega) (by omega) (by omega)
  have htwo : ∀ d, blit (List.replicate ((height + height / 2) * width) 0) 0
        (blocks height (line source stride width)) = some d →
      copyPlane source (height * stride) stride width (height / 2) (height * width) d =
        blit d (0 + (blocks height (line source stride width)).length)
          (blocks (height / 2) fun row => line source stride width (height + row)) := by
    intro d hd
    have hsize := (blit_length hd).trans hzeros
    rw [hluma, Nat.zero_add]
    exact copyPlane_eq hstride hsource hlarge (by omega) (by omega)
  rw [copyPlanes, hone, mul_of_lt (by omega)]
  simp only [Option.bind_eq_bind, Option.bind_some]
  rw [Option.bind_congr htwo, blit_blit _ _ (by omega), ← blocks_add, blit_all]
  · rfl
  · rw [hzeros, blocks_add, List.length_append, hchroma]
    omega

/-! ## Both sides -/

/-- The rows of a packed image, each followed by its padding. -/
def padded (packed : Bytes) (width rows : Nat) (padding : Nat → Bytes) : Bytes :=
  blocks rows fun row => line packed width width row ++ padding row

theorem visible_padded {packed trailing : Bytes} {stride width rows : Nat} {padding : Nat → Bytes}
    (hpacked : packed.length = rows * width) (hstride : width ≤ stride)
    (hpadding : ∀ row < rows, (padding row).length = stride - width) :
    visible (padded packed width rows padding ++ trailing) stride width rows = packed := by
  have hsize : packed.length = width * rows := hpacked.trans (Nat.mul_comm _ _)
  have hrows : ∀ row < rows,
      (line packed width width row ++ padding row).length = stride := by
    intro row hrow
    rw [List.length_append, length_line hrow (Nat.le_refl width) hsize.ge, hpadding row hrow]
    omega
  have hread : ∀ row < rows,
      line (padded packed width rows padding ++ trailing) stride width row =
        line packed width width row := by
    intro row hrow
    have hslice : Raster.slice (padded packed width rows padding ++ trailing) (row * stride) width =
        some ((line packed width width row ++ padding row).take width) :=
      slice_blocks hrows hrow hstride
    rw [List.take_left' (length_line hrow (Nat.le_refl width) hsize.ge), Raster.slice] at hslice
    exact Option.some.inj (Option.ite_none_right_eq_some.mp hslice).2
  rw [visible, blocks_congr hread]
  exact blocks_rows rows width packed hpacked

/-- What a routine that removes padding owes for images of one size: every padded image comes
back packed, no access is outside its slice, and a buffer that is too short or a pitch that is
too small is refused. -/
structure RemovesPadding {ε : Type} (width height : Nat)
    (copy : Bytes → Nat → Option (Except ε Bytes)) : Prop where
  restores : ∀ (packed trailing : Bytes) (pitch : Nat) (padding : Nat → Bytes),
    packed.length = width * height + width * height / 2 → width ≤ pitch →
    pitch * (height + height / 2) < 2 ^ 64 →
    (∀ row < height + height / 2, (padding row).length = pitch - width) →
    copy (padded packed width (height + height / 2) padding ++ trailing) pitch = some (.ok packed)
  inBounds : ∀ mapped pitch, copy mapped pitch ≠ none
  refusesShort : ∀ (mapped : Bytes) (pitch : Nat),
    mapped.length < pitch * (height + height / 2) → ∃ err, copy mapped pitch = some (.error err)
  refusesNarrow : ∀ (mapped : Bytes) (pitch : Nat),
    pitch < width → ∃ err, copy mapped pitch = some (.error err)

/-- The buffers that both sides turn down. -/
def Refused (mapped : Bytes) (pitch width height : Nat) : Prop :=
  pitch < width ∨ 2 ^ 64 ≤ pitch * (height + height / 2) ∨
    mapped.length < pitch * (height + height / 2)

/-- Every call either refuses its buffer or collects the visible parts of all rows. -/
structure CopiesRows {ε : Type} (width height : Nat)
    (copy : Bytes → Nat → Option (Except ε Bytes)) : Prop where
  refused : ∀ mapped pitch, Refused mapped pitch width height →
    ∃ err, copy mapped pitch = some (.error err)
  copied : ∀ mapped pitch, ¬Refused mapped pitch width height →
    copy mapped pitch = some (.ok (visible mapped pitch width (height + height / 2)))

namespace CopiesRows

variable {ε : Type} {width height : Nat} {copy : Bytes → Nat → Option (Except ε Bytes)}

theorem length_eq (h : CopiesRows width height copy) {mapped bytes : Bytes} {pitch : Nat}
    (hcopy : copy mapped pitch = some (.ok bytes)) :
    bytes.length = (height + height / 2) * width := by
  by_cases hrefused : Refused mapped pitch width height
  · obtain ⟨err, herr⟩ := h.refused mapped pitch hrefused
    rw [herr] at hcopy
    cases hcopy
  · rw [h.copied mapped pitch hrefused] at hcopy
    cases hcopy
    simp only [Refused, not_or, Nat.not_lt, Nat.not_le] at hrefused
    exact length_blocks fun row hrow => length_line hrow hrefused.1 hrefused.2.2

theorem removesPadding (h : CopiesRows width height copy) (heven : height % 2 = 0) :
    RemovesPadding width height copy where
  restores := by
    intro packed trailing pitch padding hpacked hpitch hfit hpadding
    have hsize : packed.length = (height + height / 2) * width := by
      rw [hpacked, Nat.mul_div_assoc _ (Nat.dvd_of_mod_eq_zero heven), ← Nat.mul_add, Nat.mul_comm]
    have hcover : packed.length = width * (height + height / 2) := hsize.trans (Nat.mul_comm _ _)
    have hbuffer : (padded packed width (height + height / 2) padding).length =
        (height + height / 2) * pitch := by
      apply length_blocks
      intro row hrow
      rw [List.length_append, length_line hrow (Nat.le_refl width) hcover.ge, hpadding row hrow]
      omega
    rw [h.copied, visible_padded hsize hpitch hpadding]
    rintro (h | h | h)
    · omega
    · omega
    · rw [List.length_append, hbuffer, Nat.mul_comm] at h
      omega
  inBounds := by
    intro mapped pitch
    by_cases hrefused : Refused mapped pitch width height
    · obtain ⟨err, herr⟩ := h.refused mapped pitch hrefused
      simp [herr]
    · simp [h.copied mapped pitch hrefused]
  refusesShort := fun mapped pitch hshort => h.refused mapped pitch (Or.inr (Or.inr hshort))
  refusesNarrow := fun mapped pitch hnarrow => h.refused mapped pitch (Or.inl hnarrow)

end CopiesRows

theorem copyPitchedNv12_copiesRows (layout : Nv12Layout) :
    CopiesRows layout.width layout.height fun mapped pitch =>
      copyPitchedNv12 mapped pitch layout := by
  have hrows : add layout.height (layout.height / 2) = some (layout.height + layout.height / 2) :=
    add_of_lt (by have := layout.height_lt; omega)
  have hyLen : layout.yLen = layout.height * layout.width := by
    rw [layout.yLen_eq, Nat.mul_comm]
  constructor
  · intro mapped pitch hrefused
    refine ⟨.backendLost, ?_⟩
    simp only [copyPitchedNv12, hrows]
    split
    case isTrue => rfl
    case isFalse hpitch =>
      split
      case h_1 => rfl
      case h_2 required hrequired =>
        obtain ⟨hlt, rfl⟩ := (mul_eq_some_iff _ _ _).mp hrequired
        rw [if_pos]
        rcases hrefused with h | h | h
        · exact absurd h hpitch
        · omega
        · exact h
  · intro mapped pitch hallowed
    simp only [Refused, not_or, Nat.not_lt, Nat.not_le] at hallowed
    obtain ⟨hpitch, hlarge, hlength⟩ := hallowed
    simp only [copyPitchedNv12, hrows]
    rw [if_neg (by omega), mul_of_lt hlarge]
    simp only
    rw [if_neg (by omega), hyLen, layout.outputLen_eq_rows, copyPlanes_eq hpitch hlength hlarge]
    rfl

/-- The sides the client accepts. -/
structure Displayable (width height : UInt32) : Prop where
  width_pos : 0 < width.toNat
  height_pos : 0 < height.toNat
  width_even : width.toNat % 2 = 0
  height_even : height.toNat % 2 = 0
  width_le : width.toNat ≤ maxSurfaceWidth
  height_le : height.toNat ≤ maxSurfaceHeight

namespace Displayable

variable {width height : UInt32}

theorem pixels_le (h : Displayable width height) :
    width.toNat * height.toNat ≤ maxSurfaceWidth * maxSurfaceHeight :=
  Nat.mul_le_mul h.width_le h.height_le

theorem validatedPixelCount_eq (h : Displayable width height) :
    validatedPixelCount width height = .ok (width.toNat * height.toNat) := by
  obtain ⟨hw, hh, hwe, hhe, hwl, hhl⟩ := h
  have hpixels := Nat.mul_le_mul hwl hhl
  simp only [maxSurfaceWidth, maxSurfaceHeight] at hwl hhl hpixels
  rw [validatedPixelCount, if_neg (by simp only [maxSurfaceWidth, maxSurfaceHeight]; omega),
    mul_of_lt (by omega)]

/-- The limits on the sides keep an NV12 image below the limit on its bytes. -/
theorem nv12Len_eq (h : Displayable width height) :
    add (width.toNat * height.toNat) (width.toNat * height.toNat / 2) =
        some (width.toNat * height.toNat + width.toNat * height.toNat / 2) ∧
      width.toNat * height.toNat + width.toNat * height.toNat / 2 ≤ maxSurfaceBytes := by
  have hpixels := h.pixels_le
  simp only [maxSurfaceWidth, maxSurfaceHeight] at hpixels
  refine ⟨add_of_lt (by omega), ?_⟩
  rw [maxSurfaceBytes]
  omega

theorem nv12Len_eq_rows (h : Displayable width height) :
    width.toNat * height.toNat + width.toNat * height.toNat / 2 =
      (height.toNat + height.toNat / 2) * width.toNat := by
  rw [Nat.mul_div_assoc _ (Nat.dvd_of_mod_eq_zero h.height_even), ← Nat.mul_add, Nat.mul_comm]

theorem repackNv12_copiesRows (h : Displayable width height) :
    CopiesRows width.toNat height.toNat fun source stride =>
      repackNv12 source stride width height := by
  have hrows : add height.toNat (height.toNat / 2) = some (height.toNat + height.toNat / 2) :=
    add_of_lt (by have := height.toNat_lt; omega)
  constructor
  · intro source stride hrefused
    simp only [repackNv12, h.validatedPixelCount_eq, hrows]
    split
    case isTrue => exact ⟨_, rfl⟩
    case isFalse hstride =>
      split
      case h_1 => exact ⟨_, rfl⟩
      case h_2 required hrequired =>
        obtain ⟨hlt, rfl⟩ := (mul_eq_some_iff _ _ _).mp hrequired
        rw [if_pos]
        · exact ⟨_, rfl⟩
        · rcases hrefused with h | h | h
          · exact absurd h hstride
          · omega
          · exact h
  · intro source stride hallowed
    simp only [Refused, not_or, Nat.not_lt, Nat.not_le] at hallowed
    obtain ⟨hstride, hlarge, hlength⟩ := hallowed
    simp only [repackNv12, h.validatedPixelCount_eq, hrows]
    rw [if_neg (by omega), mul_of_lt hlarge]
    simp only
    rw [if_neg (by omega), h.nv12Len_eq.1, Option.filter_some_pos (by simpa using h.nv12Len_eq.2)]
    simp only
    rw [h.nv12Len_eq_rows, Nat.mul_comm width.toNat height.toNat, copyPlanes_eq hstride hlength hlarge]
    rfl

end Displayable

/-- Whatever the client repacks has the size that its surface check asks for. -/
theorem validate_repacked {width height : UInt32} (h : Displayable width height) {source : Bytes}
    {stride : Nat} {bytes : Bytes} (hrepack : repackNv12 source stride width height = some (.ok bytes))
    (frameId : UInt32) (timestampUs : UInt64) (keyframe : Bool) :
    DecodedSurface.validate ⟨frameId, timestampUs, keyframe, width, height, .nv12, bytes⟩ = .ok () := by
  have hlength : bytes.length = width.toNat * height.toNat + width.toNat * height.toNat / 2 :=
    (h.repackNv12_copiesRows.length_eq hrepack).trans h.nv12Len_eq_rows.symm
  simp only [DecodedSurface.validate, h.validatedPixelCount_eq, h.nv12Len_eq.1]
  rw [if_neg]
  have hle := h.nv12Len_eq.2
  omega

/-- Both sides take the padding out of every image, at every pitch. -/
theorem padding_removed (width height : UInt32)
    (hwidth : 0 < width.toNat ∧ width.toNat % 2 = 0)
    (hheight : 0 < height.toNat ∧ height.toNat % 2 = 0) :
    (width.toNat * 4 * height.toNat < 2 ^ 64 →
      ∃ layout, Nv12Layout.fromBgraDimensions width height = .ok layout ∧
        RemovesPadding width.toNat height.toNat fun mapped pitch =>
          copyPitchedNv12 mapped pitch layout) ∧
    (width.toNat ≤ maxSurfaceWidth → height.toNat ≤ maxSurfaceHeight →
      (RemovesPadding width.toNat height.toNat fun source stride =>
        repackNv12 source stride width height) ∧
      ∀ source stride bytes frameId timestampUs keyframe,
        repackNv12 source stride width height = some (.ok bytes) →
        DecodedSurface.validate ⟨frameId, timestampUs, keyframe, width, height, .nv12, bytes⟩ =
          .ok ()) := by
  constructor
  · intro hsize
    obtain ⟨layout, hlayout, hlw, hlh⟩ := Nv12Layout.exists_of_even hwidth hheight hsize
    refine ⟨layout, hlayout, ?_⟩
    rw [← hlw, ← hlh]
    exact (copyPitchedNv12_copiesRows layout).removesPadding layout.height_even
  · intro hwl hhl
    have hshow : Displayable width height := ⟨hwidth.1, hheight.1, hwidth.2, hheight.2, hwl, hhl⟩
    refine ⟨hshow.repackNv12_copiesRows.removesPadding hheight.2, ?_⟩
    intro source stride bytes frameId timestampUs keyframe hrepack
    exact validate_repacked hshow hrepack frameId timestampUs keyframe

/-- Two by two pixels at pitch three: two luma rows and one chroma row, with a trailing byte. -/
theorem padding_removed_two_by_two :
    ∃ layout, Nv12Layout.fromBgraDimensions 2 2 = .ok layout ∧
      copyPitchedNv12 [1, 2, 0, 3, 4, 0, 5, 6, 0, 9] 3 layout = some (.ok [1, 2, 3, 4, 5, 6]) ∧
      repackNv12 [1, 2, 0, 3, 4, 0, 5, 6, 0, 9] 3 2 2 = some (.ok [1, 2, 3, 4, 5, 6]) := by
  obtain ⟨hhost, hclient⟩ := padding_removed 2 2 (by decide) (by decide)
  obtain ⟨layout, hlayout, hcopy⟩ := hhost (by decide)
  refine ⟨layout, hlayout, ?_, ?_⟩
  · exact hcopy.restores [1, 2, 3, 4, 5, 6] [9] 3 (fun _ => [0]) (by decide) (by decide) (by decide)
      (by decide)
  · exact (hclient (by decide) (by decide)).1.restores [1, 2, 3, 4, 5, 6] [9] 3 (fun _ => [0])
      (by decide) (by decide) (by decide) (by decide)

end Nv12
