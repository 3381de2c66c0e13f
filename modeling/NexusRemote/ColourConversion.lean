import NexusRemote.Nv12

/-!
# Colours (`platform/windows/src/codec.rs`, `apps/nexus-client/src/renderer.rs`)

The host turns captured BGRA frames into NV12 for the encoder, the client turns
decoded NV12 surfaces back into BGRA for the screen. Both compute with 32-bit
integers; `none` is a panic, here also the overflow of one of these.
-/

namespace ColourConversion

open BigEndian HostMedia ClientDecoder Raster Nv12

/-! ## 32-bit arithmetic -/

def i32 (x : Int) : Option Int := if -2 ^ 31 ≤ x ∧ x < 2 ^ 31 then some x else none

/-- The terms added one after the other. -/
def i32Sum (acc : Int) : List Int → Option Int
  | [] => some acc
  | term :: terms => do i32Sum (← i32 (acc + (← i32 term))) terms

/-- `value.clamp(0, 255) as u8` -/
def clampByte (value : Int) : UInt8 := UInt8.ofNat (min (max value 0) 255).toNat

theorem i32_of_mem {x : Int} (h : -2 ^ 31 ≤ x ∧ x < 2 ^ 31) : i32 x = some x := if_pos h

/-- A few small terms stay far from the limits. -/
theorem i32Sum_of_small {acc : Int} {terms : List Int}
    (hterms : ∀ t ∈ terms, -2 ^ 20 ≤ t ∧ t ≤ 2 ^ 20)
    (hacc : -2 ^ 30 + terms.length * 2 ^ 20 ≤ acc ∧ acc ≤ 2 ^ 30 - terms.length * 2 ^ 20) :
    i32Sum acc terms = some (acc + terms.sum) := by
  induction terms generalizing acc with
  | nil => simp [i32Sum]
  | cons term terms ih =>
    obtain ⟨hterm, hrest⟩ := List.forall_mem_cons.mp hterms
    simp only [List.length_cons, Nat.cast_add, Nat.cast_one] at hacc
    rw [i32Sum, i32_of_mem (by omega)]
    simp only [Option.bind_eq_bind, Option.bind_some]
    rw [i32_of_mem (by omega), Option.bind_some, ih hrest (by omega), List.sum_cons, Int.add_assoc]

/-- The sums of the source have three or four terms. -/
theorem i32Sum_zero {terms : List Int} {sum : Int}
    (hterms : ∀ t ∈ terms, -2 ^ 20 ≤ t ∧ t ≤ 2 ^ 20) (hfew : terms.length ≤ 4)
    (hsum : terms.sum = sum) : i32Sum 0 terms = some sum := by
  rw [i32Sum_of_small hterms (by omega), Int.zero_add, hsum]

/-- A small weight of a byte is a small term. -/
theorem weight_mul_byte {weight : Int} (h : -2 ^ 12 ≤ weight ∧ weight ≤ 2 ^ 12) (byte : UInt8) :
    -2 ^ 20 ≤ weight * byte.toNat ∧ weight * byte.toNat ≤ 2 ^ 20 := by
  have hbyte := byte.toNat_lt
  constructor
  · nlinarith
  · nlinarith

theorem clampByte_toNat {value : Int} (h : 0 ≤ value ∧ value ≤ 255) :
    ((clampByte value).toNat : Int) = value := by
  rw [clampByte, Int.max_eq_left h.1, Int.min_eq_left h.2, UInt8.toNat_ofNat']
  omega

/-! ## The host -/

structure Pixel where
  b : UInt8
  g : UInt8
  r : UInt8
  deriving DecidableEq, Repr

def readPixel (data : Bytes) (source : Nat) : Option Pixel := do
  return ⟨← data[source]?, ← data[source + 1]?, ← data[source + 2]?⟩

/-- A weighted sum of the channels, rounded to 1/256 and moved by an offset. -/
def weighted (red green blue offset : Int) (p : Pixel) : Option Int := do
  let sum ← i32Sum 0 [red * p.r.toNat, green * p.g.toNat, blue * p.b.toNat, 128]
  i32 (sum >>> (8 : Nat) + offset)

def luma (p : Pixel) : Option Int := weighted 66 129 25 16 p
def chromaU (p : Pixel) : Option Int := weighted (-38) (-74) 112 128 p
def chromaV (p : Pixel) : Option Int := weighted 112 (-94) (-18) 128 p

/-- With the assertions of a debug build. -/
def bgraOffset (layout : Nv12Layout) (row column : Nat) : Option Nat :=
  if row < layout.height ∧ column < layout.width then do
    add (← mul row layout.bgraStride) (← mul column 4)
  else none

def nv12Offset (layout : Nv12Layout) (row column : Nat) : Option Nat :=
  if row < layout.height ∧ column < layout.width then do
    add (← mul row layout.width) column
  else none

def writeLuma (data : Bytes) (layout : Nv12Layout) (row column : Nat) (nv12 : Bytes) :
    Option Bytes := do
  let p ← readPixel data (← bgraOffset layout row column)
  let value ← luma p
  blit nv12 (← nv12Offset layout row column) [clampByte value]

/-- One of the four pixels that share their chroma. -/
def addChroma (data : Bytes) (layout : Nv12Layout) (row column : Nat) (sums : Int × Int) :
    Option (Int × Int) := do
  let p ← readPixel data (← bgraOffset layout row column)
  return (← i32 (sums.1 + (← chromaU p)), ← i32 (sums.2 + (← chromaV p)))

def chromaSums (data : Bytes) (layout : Nv12Layout) (row column : Nat) : Option (Int × Int) :=
  loop 2 (fun rowOffset => loop 2 fun columnOffset =>
    addChroma data layout (row + rowOffset) (column + columnOffset)) (0, 0)

def writeChroma (data : Bytes) (layout : Nv12Layout) (row column : Nat) (nv12 : Bytes) :
    Option Bytes := do
  let sums ← chromaSums data layout row column
  let destination ← add (← add layout.yLen (← mul (row / 2) layout.width)) column
  let nv12 ← blit nv12 destination [clampByte (sums.1.tdiv 4)]
  blit nv12 (← add destination 1) [clampByte (sums.2.tdiv 4)]

/-- The loop over all pixels, then the loop over every second row and column. -/
def convert (data : Bytes) (layout : Nv12Layout) : Option Bytes := do
  let nv12 ← loop layout.height (fun row => loop layout.width (writeLuma data layout row))
    (List.replicate layout.outputLen 0)
  loop ((layout.height + 1) / 2) (fun i => loop ((layout.width + 1) / 2) fun j =>
    writeChroma data layout (2 * i) (2 * j)) nv12

def bgraToNv12 (frame : CapturedFrame) : Option (Except CodecError Bytes) :=
  if frame.format ≠ .bgra8 ∨ frame.validate.isOk = false then some (.error .invalidFrame)
  else
    match Nv12Layout.fromBgraDimensions frame.width frame.height with
    | .error err => some (.error err)
    | .ok layout =>
      if frame.data.length ≠ layout.bgraLen then some (.error .invalidFrame)
      else (convert frame.data layout).map .ok

/-! ## The client -/

def channels (y u v : UInt8) : Option Pixel := do
  let luma : Int := max (y.toNat - 16) 0
  let u : Int := u.toNat - 128
  let v : Int := v.toNat - 128
  let red := (← i32Sum 0 [298 * luma, 409 * v, 128]) >>> (8 : Nat)
  let green := (← i32Sum 0 [298 * luma, -100 * u, -208 * v, 128]) >>> (8 : Nat)
  let blue := (← i32Sum 0 [298 * luma, 516 * u, 128]) >>> (8 : Nat)
  return ⟨clampByte blue, clampByte green, clampByte red⟩

/-- The colour of a pixel, from the bytes of its luma and of its square's chroma. -/
def sample (bytes : Bytes) (width yLen y x : Nat) : Option Pixel := do
  let source ← add (← mul y width) x
  let lumaByte ← bytes[source]?
  -- `x & !1`
  let chroma ← add (← add yLen (← mul (y / 2) width)) (x - x % 2)
  let uByte ← bytes[chroma]?
  let vByte ← bytes[(← add chroma 1)]?
  channels lumaByte uByte vByte

def writePixel (bgra : Bytes) (dst : Nat) (p : Pixel) : Option Bytes := do
  let bgra ← blit bgra dst [p.b]
  let bgra ← blit bgra (← add dst 1) [p.g]
  let bgra ← blit bgra (← add dst 2) [p.r]
  blit bgra (← add dst 3) [255]

def paint (bytes : Bytes) (width yLen y x : Nat) (bgra : Bytes) : Option Bytes := do
  let p ← sample bytes width yLen y x
  writePixel bgra (← mul (← add (← mul y width) x) 4) p

def nv12ToBgra (surface : DecodedSurface) : Option (Except DecoderError Bytes) :=
  match mul surface.width.toNat surface.height.toNat with
  | none => some (.error .invalidDimensions)
  | some yLen =>
    match mul yLen 4 with
    | none => some (.error .invalidDimensions)
    | some size =>
      (loop surface.height.toNat (fun y => loop surface.width.toNat
        (paint surface.bytes surface.width.toNat yLen y)) (List.replicate size 0)).map .ok

/-! ## Values -/

/-- What `weighted` computes where nothing overflows. -/
def mix (red green blue offset : Int) (p : Pixel) : Int :=
  (red * p.r.toNat + green * p.g.toNat + blue * p.b.toNat + 128) / 256 + offset

def lumaOf (p : Pixel) : Int := mix 66 129 25 16 p
def chromaUOf (p : Pixel) : Int := mix (-38) (-74) 112 128 p
def chromaVOf (p : Pixel) : Int := mix 112 (-94) (-18) 128 p

theorem weighted_eq {red green blue offset : Int} (hr : -2 ^ 12 ≤ red ∧ red ≤ 2 ^ 12)
    (hg : -2 ^ 12 ≤ green ∧ green ≤ 2 ^ 12) (hb : -2 ^ 12 ≤ blue ∧ blue ≤ 2 ^ 12)
    (ho : 0 ≤ offset ∧ offset ≤ 128) (p : Pixel) :
    weighted red green blue offset p = some (mix red green blue offset p) := by
  have hr' := weight_mul_byte hr p.r
  have hg' := weight_mul_byte hg p.g
  have hb' := weight_mul_byte hb p.b
  have hsum : i32Sum 0 [red * p.r.toNat, green * p.g.toNat, blue * p.b.toNat, 128] =
      some (red * p.r.toNat + green * p.g.toNat + blue * p.b.toNat + 128) := by
    apply i32Sum_zero
    · simpa using ⟨hr', hg', hb'⟩
    · simp
    · simp [Int.add_assoc]
  rw [weighted, hsum, mix, Option.bind_eq_bind, Option.bind_some, Int.shiftRight_eq_div_pow]
  exact i32_of_mem (by omega)

theorem luma_eq (p : Pixel) : luma p = some (lumaOf p) :=
  weighted_eq (by decide) (by decide) (by decide) (by decide) p

theorem chromaU_eq (p : Pixel) : chromaU p = some (chromaUOf p) :=
  weighted_eq (by decide) (by decide) (by decide) (by decide) p

theorem chromaV_eq (p : Pixel) : chromaV p = some (chromaVOf p) :=
  weighted_eq (by decide) (by decide) (by decide) (by decide) p

theorem Pixel.toNat_lt (p : Pixel) : p.b.toNat < 256 ∧ p.g.toNat < 256 ∧ p.r.toNat < 256 :=
  ⟨p.b.toNat_lt, p.g.toNat_lt, p.r.toNat_lt⟩

theorem lumaOf_range (p : Pixel) : 16 ≤ lumaOf p ∧ lumaOf p ≤ 235 := by
  have hp := p.toNat_lt
  simp only [lumaOf, mix]
  omega

theorem chromaUOf_range (p : Pixel) : 16 ≤ chromaUOf p ∧ chromaUOf p ≤ 240 := by
  have hp := p.toNat_lt
  simp only [chromaUOf, mix]
  omega

theorem chromaVOf_range (p : Pixel) : 16 ≤ chromaVOf p ∧ chromaVOf p ≤ 240 := by
  have hp := p.toNat_lt
  simp only [chromaVOf, mix]
  omega

/-! ## The planes of a converted frame -/

def pixelOf (data : Bytes) (source : Nat) : Pixel :=
  ⟨data.getD source 0, data.getD (source + 1) 0, data.getD (source + 2) 0⟩

theorem readPixel_eq {data : Bytes} {source : Nat} (h : source + 2 < data.length) :
    readPixel data source = some (pixelOf data source) := by
  rw [readPixel, List.getElem?_eq_getElem (by omega), List.getElem?_eq_getElem (by omega),
    List.getElem?_eq_getElem h]
  simp [pixelOf, h, show source + 1 < data.length by omega,
    show source < data.length by omega]

section

variable (data : Bytes) (layout : Nv12Layout)

def pixelAt (row column : Nat) : Pixel :=
  pixelOf data (row * layout.bgraStride + column * 4)

/-- A component of the four pixels of a square. -/
def squareSum (component : Pixel → Int) (i j : Nat) : Int :=
  component (pixelAt data layout (2 * i) (2 * j)) +
    component (pixelAt data layout (2 * i) (2 * j + 1)) +
    component (pixelAt data layout (2 * i + 1) (2 * j)) +
    component (pixelAt data layout (2 * i + 1) (2 * j + 1))

def lumaPlane : Bytes :=
  blocks layout.height fun row => blocks layout.width fun column =>
    [clampByte (lumaOf (pixelAt data layout row column))]

def chromaPlane : Bytes :=
  blocks (layout.height / 2) fun i => blocks (layout.width / 2) fun j =>
    [clampByte (squareSum data layout chromaUOf i j / 4),
      clampByte (squareSum data layout chromaVOf i j / 4)]

end

section

variable {data : Bytes} {layout : Nv12Layout}

theorem offset_le {row column : Nat} (hrow : row < layout.height) (hcolumn : column < layout.width) :
    row * layout.bgraStride + column * 4 + 4 ≤ layout.bgraLen := by
  have hinside := row_end_le hrow (Nat.le_refl layout.bgraStride)
  rw [← layout.bgraLen_eq] at hinside
  have hstride := layout.bgraStride_eq
  omega

theorem bgraOffset_eq {row column : Nat} (hrow : row < layout.height)
    (hcolumn : column < layout.width) :
    bgraOffset layout row column = some (row * layout.bgraStride + column * 4) := by
  have hend := offset_le hrow hcolumn
  have hlen := layout.bgraLen_lt
  rw [bgraOffset, if_pos ⟨hrow, hcolumn⟩, mul_of_lt (by omega), mul_of_lt (by omega)]
  exact add_of_lt (by omega)

theorem nv12Offset_eq {row column : Nat} (hrow : row < layout.height)
    (hcolumn : column < layout.width) :
    nv12Offset layout row column = some (row * layout.width + column) := by
  have hend := row_end_le hrow (Nat.le_refl layout.width)
  rw [← layout.yLen_eq] at hend
  have hlen := layout.yLen_lt
  rw [nv12Offset, if_pos ⟨hrow, hcolumn⟩, mul_of_lt (by omega)]
  exact add_of_lt (by omega)

theorem readPixel_at (hdata : data.length = layout.bgraLen) {row column : Nat}
    (hrow : row < layout.height) (hcolumn : column < layout.width) :
    readPixel data (row * layout.bgraStride + column * 4) = some (pixelAt data layout row column) := by
  have hend := offset_le hrow hcolumn
  exact readPixel_eq (by omega)

theorem writeLuma_eq (hdata : data.length = layout.bgraLen) {row column : Nat}
    (hrow : row < layout.height) (hcolumn : column < layout.width) (d : Bytes) :
    writeLuma data layout row column d =
      blit d (row * layout.width + column) [clampByte (lumaOf (pixelAt data layout row column))] := by
  rw [writeLuma, bgraOffset_eq hrow hcolumn]
  simp only [Option.bind_eq_bind, Option.bind_some]
  rw [readPixel_at hdata hrow hcolumn, Option.bind_some, luma_eq, Option.bind_some,
    nv12Offset_eq hrow hcolumn, Option.bind_some]

theorem addChroma_eq (hdata : data.length = layout.bgraLen) {row column : Nat}
    (hrow : row < layout.height) (hcolumn : column < layout.width) {u v : Int}
    (hu : 0 ≤ u ∧ u ≤ 1000) (hv : 0 ≤ v ∧ v ≤ 1000) :
    addChroma data layout row column (u, v) =
      some (u + chromaUOf (pixelAt data layout row column),
        v + chromaVOf (pixelAt data layout row column)) := by
  have hurange := chromaUOf_range (pixelAt data layout row column)
  have hvrange := chromaVOf_range (pixelAt data layout row column)
  rw [addChroma, bgraOffset_eq hrow hcolumn]
  simp only [Option.bind_eq_bind, Option.bind_some]
  rw [readPixel_at hdata hrow hcolumn, Option.bind_some, chromaU_eq, chromaV_eq]
  simp only [Option.bind_some]
  rw [i32_of_mem (by omega), i32_of_mem (by omega)]
  rfl

theorem chromaSums_eq (hdata : data.length = layout.bgraLen) {i j : Nat}
    (hi : i < layout.height / 2) (hj : j < layout.width / 2) :
    chromaSums data layout (2 * i) (2 * j) =
      some (squareSum data layout chromaUOf i j, squareSum data layout chromaVOf i j) := by
  have hu := fun row column => chromaUOf_range (pixelAt data layout row column)
  have hv := fun row column => chromaVOf_range (pixelAt data layout row column)
  have hu₁ := hu (2 * i) (2 * j)
  have hv₁ := hv (2 * i) (2 * j)
  have hu₂ := hu (2 * i) (2 * j + 1)
  have hv₂ := hv (2 * i) (2 * j + 1)
  have hu₃ := hu (2 * i + 1) (2 * j)
  have hv₃ := hv (2 * i + 1) (2 * j)
  simp only [chromaSums, loop, Option.bind_some, Nat.add_zero]
  rw [addChroma_eq hdata (by omega) (by omega) (by omega) (by omega), Option.bind_some,
    addChroma_eq hdata (by omega) (by omega) (by omega) (by omega), Option.bind_some,
    addChroma_eq hdata (by omega) (by omega) (by omega) (by omega), Option.bind_some,
    addChroma_eq hdata (by omega) (by omega) (by omega) (by omega)]
  simp only [squareSum, Int.zero_add]

/-- An average of values in a range is in the range. -/
theorem squareSum_range {component : Pixel → Int} {low high : Int}
    (h : ∀ p, low ≤ component p ∧ component p ≤ high) (i j : Nat) :
    low ≤ squareSum data layout component i j / 4 ∧
      squareSum data layout component i j / 4 ≤ high := by
  have h₁ := h (pixelAt data layout (2 * i) (2 * j))
  have h₂ := h (pixelAt data layout (2 * i) (2 * j + 1))
  have h₃ := h (pixelAt data layout (2 * i + 1) (2 * j))
  have h₄ := h (pixelAt data layout (2 * i + 1) (2 * j + 1))
  rw [squareSum]
  omega

/-- The two bytes of a square end inside the image. -/
theorem square_le {i j : Nat} (hi : i < layout.height / 2) (hj : j < layout.width / 2) :
    layout.yLen + i * layout.width + j * 2 + 2 ≤ layout.outputLen := by
  have hrow := row_end_le hi (Nat.le_refl layout.width)
  have hchroma : layout.width * (layout.height / 2) = layout.yLen / 2 := by
    rw [layout.yLen_eq, Nat.mul_div_assoc _ (Nat.dvd_of_mod_eq_zero layout.height_even)]
  rw [layout.outputLen_eq]
  omega

theorem writeChroma_eq (hdata : data.length = layout.bgraLen) {i j : Nat}
    (hi : i < layout.height / 2) (hj : j < layout.width / 2) {d : Bytes}
    (hd : d.length = layout.outputLen) :
    writeChroma data layout (2 * i) (2 * j) d =
      blit d (layout.yLen + i * layout.width + j * 2)
        [clampByte (squareSum data layout chromaUOf i j / 4),
          clampByte (squareSum data layout chromaVOf i j / 4)] := by
  have hend := square_le hi hj
  have hlen := layout.yLen_lt
  have hout := layout.outputLen_eq
  have hu := @squareSum_range data layout _ _ _ chromaUOf_range i j
  have hv := @squareSum_range data layout _ _ _ chromaVOf_range i j
  have hone : ∀ a b : UInt8,
      ((blit d (layout.yLen + i * layout.width + j * 2) [a]).bind fun d =>
        blit d (layout.yLen + i * layout.width + j * 2 + 1) [b]) =
      blit d (layout.yLen + i * layout.width + j * 2) [a, b] := by
    intro a b
    exact blit_blit [a] [b] (by simp only [List.length_singleton]; omega)
  rw [writeChroma, chromaSums_eq hdata hi hj, Nat.mul_div_cancel_left i (by omega)]
  simp only [Option.bind_eq_bind, Option.bind_some]
  rw [mul_of_lt (by omega), Option.bind_some, add_of_lt (by omega), Option.bind_some,
    Nat.mul_comm 2 j, add_of_lt (by omega), Option.bind_some, ← hone,
    Int.tdiv_eq_ediv_of_nonneg (by omega), Int.tdiv_eq_ediv_of_nonneg (by omega)]
  simp only [add_of_lt (show layout.yLen + i * layout.width + j * 2 + 1 < 2 ^ 64 by omega),
    Option.bind_some]

theorem length_lumaPlane : (lumaPlane data layout).length = layout.yLen := by
  have hrow : ∀ row < layout.height, (blocks layout.width fun column =>
      [clampByte (lumaOf (pixelAt data layout row column))]).length = layout.width := by
    intro row _
    exact (length_blocks (k := 1) fun _ _ => rfl).trans (Nat.mul_one _)
  rw [lumaPlane, length_blocks hrow, layout.yLen_eq, Nat.mul_comm]

theorem length_chromaPlane : (chromaPlane data layout).length = layout.yLen / 2 := by
  have hrow : ∀ i < layout.height / 2, (blocks (layout.width / 2) fun j =>
      [clampByte (squareSum data layout chromaUOf i j / 4),
        clampByte (squareSum data layout chromaVOf i j / 4)]).length = layout.width := by
    intro i _
    exact (length_blocks (k := 2) fun _ _ => rfl).trans
      (Nat.div_mul_cancel (Nat.dvd_of_mod_eq_zero layout.width_even))
  rw [chromaPlane, length_blocks hrow, layout.yLen_eq,
    Nat.mul_div_assoc _ (Nat.dvd_of_mod_eq_zero layout.height_even), Nat.mul_comm]

theorem convert_eq (hdata : data.length = layout.bgraLen) :
    convert data layout = some (lumaPlane data layout ++ chromaPlane data layout) := by
  have hw := layout.width_even
  have hh := layout.height_even
  have hy : layout.height * (layout.width * 1) = layout.yLen := by
    rw [Nat.mul_one, layout.yLen_eq, Nat.mul_comm]
  have hc : layout.height / 2 * (layout.width / 2 * 2) = layout.yLen / 2 := by
    rw [Nat.div_mul_cancel (Nat.dvd_of_mod_eq_zero hw), layout.yLen_eq,
      Nat.mul_div_assoc _ (Nat.dvd_of_mod_eq_zero hh), Nat.mul_comm]
  have hzeros : (List.replicate layout.outputLen (0 : UInt8)).length = layout.outputLen :=
    List.length_replicate
  have hout := layout.outputLen_eq
  have hluma : loop layout.height (fun row => loop layout.width (writeLuma data layout row))
      (List.replicate layout.outputLen 0) =
        blit (List.replicate layout.outputLen 0) 0 (lumaPlane data layout) := by
    apply loop_loop_blit (k := 1) (fun _ _ _ _ => rfl) hzeros (by omega)
    intro row hrow column hcolumn d _
    rw [writeLuma_eq hdata hrow hcolumn, Nat.zero_add, Nat.mul_one, Nat.mul_one]
  have hchroma : ∀ d, blit (List.replicate layout.outputLen 0) 0 (lumaPlane data layout) = some d →
      loop ((layout.height + 1) / 2) (fun i => loop ((layout.width + 1) / 2) fun j =>
        writeChroma data layout (2 * i) (2 * j)) d =
      blit d (0 + (lumaPlane data layout).length) (chromaPlane data layout) := by
    intro d hd
    rw [show (layout.height + 1) / 2 = layout.height / 2 by omega,
      show (layout.width + 1) / 2 = layout.width / 2 by omega, length_lumaPlane, Nat.zero_add]
    apply loop_loop_blit (k := 2) (fun _ _ _ _ => rfl) ((blit_length hd).trans hzeros) (by omega)
    intro i hi j hj d hd
    rw [writeChroma_eq hdata hi hj hd, Nat.div_mul_cancel (Nat.dvd_of_mod_eq_zero hw)]
  have hlengths := @length_lumaPlane data layout
  have hlengths' := @length_chromaPlane data layout
  rw [convert, hluma, Option.bind_eq_bind, Option.bind_congr hchroma, blit_blit _ _ (by omega),
    blit_all]
  rw [List.length_append]
  omega

end

/-! ## The pixels of a painted surface -/

/-- What `channels` computes; nothing overflows. -/
def colour (y u v : UInt8) : Pixel :=
  let luma : Int := max (y.toNat - 16) 0
  let u : Int := u.toNat - 128
  let v : Int := v.toNat - 128
  ⟨clampByte ((298 * luma + 516 * u + 128) / 256),
    clampByte ((298 * luma - 100 * u - 208 * v + 128) / 256),
    clampByte ((298 * luma + 409 * v + 128) / 256)⟩

theorem channels_eq (y u v : UInt8) : channels y u v = some (colour y u v) := by
  have hy := y.toNat_lt
  have hu := u.toNat_lt
  have hv := v.toNat_lt
  simp only [channels, colour]
  have hluma : 0 ≤ max ((y.toNat : Int) - 16) 0 ∧ max ((y.toNat : Int) - 16) 0 ≤ 255 := by omega
  generalize max ((y.toNat : Int) - 16) 0 = luma at hluma ⊢
  generalize hu' : (u.toNat : Int) - 128 = u'
  generalize hv' : (v.toNat : Int) - 128 = v'
  have hr : i32Sum 0 [298 * luma, 409 * v', 128] = some (298 * luma + 409 * v' + 128) :=
    i32Sum_zero (by simp; omega) (by simp) (by simp [Int.add_assoc])
  have hg : i32Sum 0 [298 * luma, -100 * u', -208 * v', 128] =
      some (298 * luma - 100 * u' - 208 * v' + 128) :=
    i32Sum_zero (by simp; omega) (by simp) (by simp; omega)
  have hb : i32Sum 0 [298 * luma, 516 * u', 128] = some (298 * luma + 516 * u' + 128) :=
    i32Sum_zero (by simp; omega) (by simp) (by simp [Int.add_assoc])
  rw [hr, hg, hb]
  simp only [Option.bind_eq_bind, Option.bind_some, Int.shiftRight_eq_div_pow]
  rfl

/-- Four overwrites of one byte each are one of four bytes. -/
theorem writePixel_eq {d : Bytes} {dst : Nat} (hfit : dst + 4 ≤ d.length) (hd : d.length < 2 ^ 64)
    (p : Pixel) : writePixel d dst p = blit d dst [p.b, p.g, p.r, 255] := by
  rw [writePixel, add_of_lt (by omega), add_of_lt (by omega), add_of_lt (by omega),
    blit_cons p.b [p.g, p.r, 255] hfit]
  simp only [Option.bind_eq_bind, Option.bind_some]
  apply Option.bind_congr
  intro d₁ h₁
  have hlen₁ := blit_length h₁
  rw [blit_cons p.g [p.r, 255] (by simp only [List.length_cons, List.length_nil]; omega)]
  apply Option.bind_congr
  intro d₂ h₂
  have hlen₂ := blit_length h₂
  exact (blit_cons p.r [255] (by simp only [List.length_cons, List.length_nil]; omega)).symm

theorem getElem?_of_lt {bytes : Bytes} {i : Nat} (h : i < bytes.length) :
    bytes[i]? = some (bytes.getD i 0) := by
  simp [h]

/-- The colour at `x`, `y` of a surface. -/
def colourAt (bytes : Bytes) (w h y x : Nat) : Pixel :=
  let chroma := w * h + y / 2 * w + (x - x % 2)
  colour (bytes.getD (y * w + x) 0) (bytes.getD chroma 0) (bytes.getD (chroma + 1) 0)

section

variable {bytes : Bytes} {w h : Nat}

theorem sample_eq (hw : w % 2 = 0) (hh : h % 2 = 0) (hbytes : bytes.length = w * h + w * h / 2)
    (hsize : w * h * 4 < 2 ^ 64) {y x : Nat} (hy : y < h) (hx : x < w) :
    sample bytes w (w * h) y x = some (colourAt bytes w h y x) := by
  have hrow := row_end_le hy (Nat.le_refl w)
  have hhalf := row_end_le (show y / 2 < h / 2 by omega) (Nat.le_refl w)
  have hchroma : w * (h / 2) = w * h / 2 := by
    rw [Nat.mul_div_assoc _ (Nat.dvd_of_mod_eq_zero hh)]
  rw [sample, mul_of_lt (by omega), mul_of_lt (by omega)]
  simp only [Option.bind_eq_bind, Option.bind_some]
  rw [add_of_lt (by omega), Option.bind_some, getElem?_of_lt (by omega), Option.bind_some,
    add_of_lt (by omega), Option.bind_some, add_of_lt (by omega), Option.bind_some,
    getElem?_of_lt (by omega), Option.bind_some, add_of_lt (by omega), Option.bind_some,
    getElem?_of_lt (by omega), Option.bind_some, channels_eq, colourAt]

theorem paint_eq (hw : w % 2 = 0) (hh : h % 2 = 0) (hbytes : bytes.length = w * h + w * h / 2)
    (hsize : w * h * 4 < 2 ^ 64) {y x : Nat} (hy : y < h) (hx : x < w) {d : Bytes}
    (hd : d.length = w * h * 4) :
    paint bytes w (w * h) y x d =
      blit d ((y * w + x) * 4) [(colourAt bytes w h y x).b, (colourAt bytes w h y x).g,
        (colourAt bytes w h y x).r, 255] := by
  have hrow := row_end_le hy (Nat.le_refl w)
  rw [paint, sample_eq hw hh hbytes hsize hy hx, mul_of_lt (by omega)]
  simp only [Option.bind_eq_bind, Option.bind_some]
  rw [add_of_lt (by omega), Option.bind_some, mul_of_lt (by omega), Option.bind_some,
    writePixel_eq (by omega) (by omega)]

variable (bytes w h) in
def image : Bytes :=
  blocks h fun y => blocks w fun x =>
    [(colourAt bytes w h y x).b, (colourAt bytes w h y x).g, (colourAt bytes w h y x).r, 255]

theorem length_image : (image bytes w h).length = h * (w * 4) :=
  length_blocks fun _ _ => length_blocks fun _ _ => rfl

theorem getElem?_image {y x l : Nat} (hy : y < h) (hx : x < w) (hl : l < 4) :
    (image bytes w h)[(y * w + x) * 4 + l]? =
      [(colourAt bytes w h y x).b, (colourAt bytes w h y x).g, (colourAt bytes w h y x).r, 255][l]? := by
  rw [Nat.add_mul, Nat.mul_assoc, Nat.add_assoc]
  exact getElem?_blocks_blocks (fun _ _ _ _ => rfl) hy hx hl

/-- An image of even sides is painted pixel by pixel. -/
theorem loop_paint (hw : w % 2 = 0) (hh : h % 2 = 0) (hbytes : bytes.length = w * h + w * h / 2)
    (hsize : w * h * 4 < 2 ^ 64) :
    loop h (fun y => loop w (paint bytes w (w * h) y)) (List.replicate (w * h * 4) 0) =
      some (image bytes w h) := by
  have hlen : h * (w * 4) = w * h * 4 := by rw [← Nat.mul_assoc, Nat.mul_comm h w]
  have hblit : loop h (fun y => loop w (paint bytes w (w * h) y)) (List.replicate (w * h * 4) 0) =
      blit (List.replicate (w * h * 4) 0) 0 (image bytes w h) := by
    apply loop_loop_blit (k := 4) (fun _ _ _ _ => rfl) List.length_replicate (by omega)
    intro y hy x hx d hd
    rw [paint_eq hw hh hbytes hsize hy hx hd, Nat.add_mul, Nat.mul_assoc, Nat.zero_add]
  rw [hblit, blit_all]
  rw [length_image, List.length_replicate, hlen]

end

theorem nv12ToBgra_eq (surface : DecodedSurface) (hw : surface.width.toNat % 2 = 0)
    (hh : surface.height.toNat % 2 = 0)
    (hbytes : surface.bytes.length = surface.width.toNat * surface.height.toNat +
      surface.width.toNat * surface.height.toNat / 2)
    (hsize : surface.width.toNat * surface.height.toNat * 4 < 2 ^ 64) :
    nv12ToBgra surface =
      some (.ok (image surface.bytes surface.width.toNat surface.height.toNat)) := by
  rw [nv12ToBgra, mul_of_lt (by omega)]
  simp only
  rw [mul_of_lt hsize]
  simp only
  rw [loop_paint hw hh hbytes hsize, Option.map_some]

/-! ## There and back -/

section

variable {data : Bytes} {layout : Nv12Layout}

/-- The client finds the luma of a pixel and the chroma of its square where the host put them. -/
theorem colourAt_converted {y x : Nat} (hy : y < layout.height) (hx : x < layout.width) :
    colourAt (lumaPlane data layout ++ chromaPlane data layout) layout.width layout.height y x =
      colour (clampByte (lumaOf (pixelAt data layout y x)))
        (clampByte (squareSum data layout chromaUOf (y / 2) (x / 2) / 4))
        (clampByte (squareSum data layout chromaVOf (y / 2) (x / 2) / 4)) := by
  have hw := layout.width_even
  have hh := layout.height_even
  have hrow := row_end_le hy (Nat.le_refl layout.width)
  have hluma : (lumaPlane data layout).length = layout.width * layout.height :=
    length_lumaPlane.trans layout.yLen_eq
  have hy' : (lumaPlane data layout ++ chromaPlane data layout)[y * layout.width + x]? =
      some (clampByte (lumaOf (pixelAt data layout y x))) := by
    have hpixel : (lumaPlane data layout)[y * (layout.width * 1) + (x * 1 + 0)]? =
        [clampByte (lumaOf (pixelAt data layout y x))][0]? :=
      getElem?_blocks_blocks (fun _ _ _ _ => rfl) hy hx (by omega)
    rw [Nat.mul_one, Nat.mul_one, Nat.add_zero] at hpixel
    rw [List.getElem?_append_left (by omega), hpixel]
    rfl
  have hchroma : ∀ l < 2, (lumaPlane data layout ++ chromaPlane data layout)[
        layout.width * layout.height + y / 2 * layout.width + (x - x % 2) + l]? =
      [clampByte (squareSum data layout chromaUOf (y / 2) (x / 2) / 4),
        clampByte (squareSum data layout chromaVOf (y / 2) (x / 2) / 4)][l]? := by
    intro l hl
    have hindex : layout.width * layout.height + y / 2 * layout.width + (x - x % 2) + l -
        layout.width * layout.height = y / 2 * (layout.width / 2 * 2) + (x / 2 * 2 + l) := by
      rw [Nat.div_mul_cancel (Nat.dvd_of_mod_eq_zero hw)]
      omega
    rw [List.getElem?_append_right (by omega), hluma, hindex]
    exact getElem?_blocks_blocks (k := 2) (fun _ _ _ _ => rfl) (by omega) (by omega) hl
  have hu := hchroma 0 (by omega)
  have hv := hchroma 1 (by omega)
  simp only [Nat.add_zero, List.getElem?_cons_zero, List.getElem?_cons_succ] at hu hv
  simp only [colourAt, List.getD_eq_getElem?_getD, hy', hu, hv, Option.getD_some]

end

def Near (a b : UInt8) : Prop := a.toNat ≤ b.toNat + 1 ∧ b.toNat ≤ a.toNat + 1

theorem clampByte_near {value : Int} {b : UInt8} (h : value ≤ b.toNat + 1 ∧ b.toNat ≤ value + 1) :
    Near (clampByte value) b := by
  have hb := b.toNat_lt
  have hclamp : ((clampByte value).toNat : Int) = min (max value 0) 255 := by
    rw [clampByte, UInt8.toNat_ofNat']
    omega
  rw [Near]
  omega

/-- Grey has no chroma. -/
theorem chroma_grey (p : Pixel) (hbg : p.b = p.g) (hgr : p.g = p.r) :
    chromaUOf p = 128 ∧ chromaVOf p = 128 := by
  simp only [chromaUOf, chromaVOf, mix, hbg, hgr]
  omega

/-- The luma of grey comes back within one. -/
theorem colour_grey (p : Pixel) (hbg : p.b = p.g) (hgr : p.g = p.r) :
    Near (colour (clampByte (lumaOf p)) 128 128).b p.b ∧
      Near (colour (clampByte (lumaOf p)) 128 128).g p.g ∧
      Near (colour (clampByte (lumaOf p)) 128 128).r p.r := by
  have hr := p.r.toNat_lt
  have hrange := lumaOf_range p
  have hluma : lumaOf p = (220 * p.r.toNat + 128) / 256 + 16 := by
    simp only [lumaOf, mix, hbg, hgr]
    omega
  have hbyte : ((clampByte (lumaOf p)).toNat : Int) = lumaOf p := clampByte_toNat (by omega)
  have hmax : max (lumaOf p - 16) 0 = (220 * (p.r.toNat : Int) + 128) / 256 := by omega
  rw [hbg, hgr]
  simp only [colour, hbyte, hmax, show ((128 : UInt8).toNat : Int) - 128 = 0 from rfl, Int.mul_zero,
    Int.add_zero, Int.sub_zero, and_self]
  exact clampByte_near (by omega)

section

variable {data : Bytes} {layout : Nv12Layout}

theorem lumaPlane_range {byte : UInt8} (h : byte ∈ lumaPlane data layout) :
    16 ≤ byte.toNat ∧ byte.toNat ≤ 235 := by
  obtain ⟨row, _, h⟩ := mem_blocks.mp h
  obtain ⟨column, _, h⟩ := mem_blocks.mp h
  obtain rfl := List.mem_singleton.mp h
  have hrange := lumaOf_range (pixelAt data layout row column)
  have hbyte := clampByte_toNat (show 0 ≤ lumaOf (pixelAt data layout row column) ∧ _ by omega)
  omega

theorem chromaPlane_range {byte : UInt8} (h : byte ∈ chromaPlane data layout) :
    16 ≤ byte.toNat ∧ byte.toNat ≤ 240 := by
  obtain ⟨i, _, h⟩ := mem_blocks.mp h
  obtain ⟨j, _, h⟩ := mem_blocks.mp h
  have hbyte : ∀ component : Pixel → Int, (∀ p, 16 ≤ component p ∧ component p ≤ 240) →
      byte = clampByte (squareSum data layout component i j / 4) →
      16 ≤ byte.toNat ∧ byte.toNat ≤ 240 := by
    rintro component hcomponent rfl
    have hrange := @squareSum_range data layout component 16 240 hcomponent i j
    have := clampByte_toNat (show 0 ≤ squareSum data layout component i j / 4 ∧ _ by omega)
    omega
  rcases List.mem_pair.mp h with h | h
  · exact hbyte chromaUOf chromaUOf_range h
  · exact hbyte chromaVOf chromaVOf_range h

end

section

variable {data : Bytes} {layout : Nv12Layout}

/-- The bytes of a pixel in the frame. -/
theorem getElem?_pixelAt (hdata : data.length = layout.bgraLen) {y x : Nat} (hy : y < layout.height)
    (hx : x < layout.width) :
    data[(y * layout.width + x) * 4]? = some (pixelAt data layout y x).b ∧
      data[(y * layout.width + x) * 4 + 1]? = some (pixelAt data layout y x).g ∧
      data[(y * layout.width + x) * 4 + 2]? = some (pixelAt data layout y x).r := by
  have hend := offset_le hy hx
  have hoffset : y * layout.bgraStride + x * 4 = (y * layout.width + x) * 4 := by
    rw [layout.bgraStride_eq, Nat.add_mul, Nat.mul_assoc]
  rw [pixelAt, hoffset]
  exact ⟨getElem?_of_lt (by omega), getElem?_of_lt (by omega), getElem?_of_lt (by omega)⟩

def Grey (p : Pixel) : Prop := p.b = p.g ∧ p.g = p.r

theorem colourAt_grey (hgrey : ∀ y < layout.height, ∀ x < layout.width, Grey (pixelAt data layout y x))
    {y x : Nat} (hy : y < layout.height) (hx : x < layout.width) :
    Near (colourAt (lumaPlane data layout ++ chromaPlane data layout) layout.width layout.height
        y x).b (pixelAt data layout y x).b ∧
      Near (colourAt (lumaPlane data layout ++ chromaPlane data layout) layout.width layout.height
        y x).g (pixelAt data layout y x).g ∧
      Near (colourAt (lumaPlane data layout ++ chromaPlane data layout) layout.width layout.height
        y x).r (pixelAt data layout y x).r := by
  have hw := layout.width_even
  have hh := layout.height_even
  have hchroma := fun row hrow column hcolumn =>
    chroma_grey (pixelAt data layout row column) (hgrey row hrow column hcolumn).1
      (hgrey row hrow column hcolumn).2
  have h₁ := hchroma (2 * (y / 2)) (by omega) (2 * (x / 2)) (by omega)
  have h₂ := hchroma (2 * (y / 2)) (by omega) (2 * (x / 2) + 1) (by omega)
  have h₃ := hchroma (2 * (y / 2) + 1) (by omega) (2 * (x / 2)) (by omega)
  have h₄ := hchroma (2 * (y / 2) + 1) (by omega) (2 * (x / 2) + 1) (by omega)
  have hu : squareSum data layout chromaUOf (y / 2) (x / 2) / 4 = 128 := by
    rw [squareSum, h₁.1, h₂.1, h₃.1, h₄.1]
    rfl
  have hv : squareSum data layout chromaVOf (y / 2) (x / 2) / 4 = 128 := by
    rw [squareSum, h₁.2, h₂.2, h₃.2, h₄.2]
    rfl
  rw [colourAt_converted hy hx, hu, hv]
  exact colour_grey (pixelAt data layout y x) (hgrey y hy x hx).1 (hgrey y hy x hx).2

end

/-- A valid BGRA frame of even sides has a layout of its size. -/
theorem layout_of_valid {frame : CapturedFrame} (hformat : frame.format = .bgra8)
    (hvalid : frame.validate = .ok ()) (hw : frame.width.toNat % 2 = 0)
    (hh : frame.height.toNat % 2 = 0) :
    ∃ layout, Nv12Layout.fromBgraDimensions frame.width frame.height = .ok layout ∧
      layout.width = frame.width.toNat ∧ layout.height = frame.height.toNat ∧
      frame.data.length = layout.bgraLen := by
  rw [CapturedFrame.validate, if_pos hformat, CapturedFrame.expectedBgraLen] at hvalid
  split at hvalid
  case isTrue => cases hvalid
  case isFalse hsides =>
    simp only [not_or, ← UInt32.toNat_inj, UInt32.toNat_zero] at hsides
    split at hvalid
    case h_1 => cases hvalid
    case h_2 expected hexpected =>
      obtain ⟨hsize, rfl⟩ : frame.width.toNat * frame.height.toNat * 4 < 2 ^ 64 ∧
          frame.width.toNat * frame.height.toNat * 4 = expected := by
        simpa [Except.ok.injEq, ite_eq_iff] using hexpected
      split at hvalid
      case isTrue => cases hvalid
      case isFalse hlength =>
        have hsize' : frame.width.toNat * 4 * frame.height.toNat < 2 ^ 64 := by
          rw [Nat.mul_right_comm]
          exact hsize
        obtain ⟨layout, hlayout, hlw, hlh⟩ :=
          Nv12Layout.exists_of_even ⟨by omega, hw⟩ ⟨by omega, hh⟩ hsize'
        refine ⟨layout, hlayout, hlw, hlh, ?_⟩
        rw [layout.bgraLen_eq, layout.bgraStride_eq, hlw, hlh, Nat.mul_right_comm]
        exact Decidable.not_not.mp hlength

/-- Converting a frame keeps every byte in its range, and grey comes back as it was but for a
step of one. -/
theorem colours_converted (frame : CapturedFrame) (hformat : frame.format = .bgra8)
    (hvalid : frame.validate = .ok ()) (hw : frame.width.toNat % 2 = 0)
    (hh : frame.height.toNat % 2 = 0) :
    ∃ nv12, bgraToNv12 frame = some (.ok nv12) ∧
      nv12.length = frame.width.toNat * frame.height.toNat * 3 / 2 ∧
      (∀ y ∈ nv12.take (frame.width.toNat * frame.height.toNat), 16 ≤ y.toNat ∧ y.toNat ≤ 235) ∧
      (∀ c ∈ nv12.drop (frame.width.toNat * frame.height.toNat), 16 ≤ c.toNat ∧ c.toNat ≤ 240) ∧
      ((∀ y < frame.height.toNat, ∀ x < frame.width.toNat,
          frame.data[(y * frame.width.toNat + x) * 4]? =
            frame.data[(y * frame.width.toNat + x) * 4 + 1]? ∧
          frame.data[(y * frame.width.toNat + x) * 4 + 1]? =
            frame.data[(y * frame.width.toNat + x) * 4 + 2]?) →
        ∀ frameId timestampUs keyframe, ∃ bgra,
          nv12ToBgra ⟨frameId, timestampUs, keyframe, frame.width, frame.height, .nv12, nv12⟩ =
            some (.ok bgra) ∧
          bgra.length = frame.data.length ∧
          ∀ y < frame.height.toNat, ∀ x < frame.width.toNat,
            bgra[(y * frame.width.toNat + x) * 4 + 3]? = some 255 ∧
            ∀ channel < 3, ∃ before after,
              frame.data[(y * frame.width.toNat + x) * 4 + channel]? = some before ∧
              bgra[(y * frame.width.toNat + x) * 4 + channel]? = some after ∧
              Near after before) := by
  obtain ⟨layout, hlayout, hlw, hlh, hdata⟩ := layout_of_valid hformat hvalid hw hh
  have hyLen : layout.yLen = frame.width.toNat * frame.height.toNat := by
    rw [layout.yLen_eq, hlw, hlh]
  have hluma : (lumaPlane frame.data layout).length = frame.width.toNat * frame.height.toNat :=
    length_lumaPlane.trans hyLen
  have hchroma : (chromaPlane frame.data layout).length =
      frame.width.toNat * frame.height.toNat / 2 := length_chromaPlane.trans (by rw [hyLen])
  refine ⟨lumaPlane frame.data layout ++ chromaPlane frame.data layout, ?_, ?_, ?_, ?_, ?_⟩
  · rw [bgraToNv12, if_neg (by simp [hformat, hvalid, Except.isOk, Except.toBool]), hlayout]
    simp only
    rw [if_neg (Decidable.not_not.mpr hdata), convert_eq hdata, Option.map_some]
  · rw [List.length_append, hluma, hchroma]
    omega
  · rw [List.take_left' hluma]
    exact fun y => lumaPlane_range
  · rw [List.drop_left' hluma]
    exact fun c => chromaPlane_range
  · intro hequal frameId timestampUs keyframe
    have hgrey : ∀ y < layout.height, ∀ x < layout.width, Grey (pixelAt frame.data layout y x) := by
      intro y hy x hx
      obtain ⟨hb, hg, hr⟩ := getElem?_pixelAt hdata hy hx
      have hsame := hequal y (hlh ▸ hy) x (hlw ▸ hx)
      rw [← hlw, hb, hg, hr] at hsame
      exact ⟨Option.some.inj hsame.1, Option.some.inj hsame.2⟩
    have hsize := layout.yLen_lt
    refine ⟨image _ _ _, nv12ToBgra_eq _ hw hh ?_ ?_, ?_, ?_⟩
    · rw [List.length_append, hluma, hchroma]
    · rw [← hyLen]
      exact hsize
    · rw [length_image, hdata, layout.bgraLen_eq, layout.bgraStride_eq, hlw, hlh, Nat.mul_comm]
    · intro y hy x hx
      refine ⟨(getElem?_image hy hx (by omega)).trans rfl, ?_⟩
      rw [← hlw] at hx
      rw [← hlh] at hy
      rw [← hlw, ← hlh]
      intro channel hchannel
      obtain ⟨hb, hg, hr⟩ := getElem?_pixelAt hdata hy hx
      obtain ⟨hnb, hng, hnr⟩ := colourAt_grey hgrey hy hx
      obtain rfl | rfl | rfl : channel = 0 ∨ channel = 1 ∨ channel = 2 := by omega
      · exact ⟨_, _, hb, getElem?_image hy hx (by omega), hnb⟩
      · exact ⟨_, _, hg, getElem?_image hy hx (by omega), hng⟩
      · exact ⟨_, _, hr, getElem?_image hy hx (by omega), hnr⟩

/-- A grey square. -/
def greySquare : CapturedFrame :=
  ⟨1, 0, 2, 2, .bgra8, [7, 7, 7, 0, 7, 7, 7, 0, 7, 7, 7, 0, 7, 7, 7, 0]⟩

theorem colours_converted_grey :
    bgraToNv12 greySquare = some (.ok [22, 22, 22, 22, 128, 128]) ∧
      ∃ bgra, nv12ToBgra ⟨1, 0, true, 2, 2, .nv12, [22, 22, 22, 22, 128, 128]⟩ = some (.ok bgra) ∧
        bgra.length = 16 := by
  obtain ⟨nv12, hnv12, -, -, -, hback⟩ :=
    colours_converted greySquare rfl (by decide) (by decide) (by decide)
  have hgrey : bgraToNv12 greySquare = some (.ok [22, 22, 22, 22, 128, 128]) := by decide +kernel
  obtain rfl : nv12 = [22, 22, 22, 22, 128, 128] := by simpa [hgrey] using hnv12.symm
  obtain ⟨bgra, hbgra, hlength, -⟩ := hback (by decide) 1 0 true
  exact ⟨hgrey, bgra, hbgra, hlength⟩

end ColourConversion
