import NexusRemote.ClientDecoder
import NexusRemote.Dialogues
import NexusRemote.Nv12

/-!
# Copying a picture out of the driver's memory (`apps/nexus-client/src/decoder.rs`, `native`)

The decoder's worker copies a decoded picture in one of three ways, two of them
with raw pointers into memory that the driver has locked for it. What Windows
answers is the outside of a dialogue; a read of the driver's memory is a question
too, so that the addresses that are read can be seen. An automaton follows the
lock: memory is read only inside the extent that the lock has reported.
-/

namespace PictureCopies

open BigEndian ClientDecoder Dialogues Dialogue Nv12 Raster

/-! ## What is asked -/

inductive Call where
  | getMaxLength
  | getCurrentLength
  | castBuffer2D2
  | castBuffer2D
  | lock2DSize
  | unlock2D
  | getContiguousLength
  | contiguousCopyTo (length : Nat)
  | lock
  | unlock
  /-- `slice::from_raw_parts` -/
  | read (address length : Nat)
  deriving DecidableEq, Repr

/-- What `Lock2DSize` reports: the first line, the start of the allocation and its length. An
address is missing if the pointer is null. -/
structure Locked2D where
  source : Option Nat
  bufferStart : Option Nat
  signedPitch : Int
  bufferLength : UInt32

structure Locked where
  source : Option Nat
  lockedMax : UInt32
  lockedCurrent : UInt32

/-- The answers; where it is `Bool`, whether it has succeeded. -/
abbrev Answer : Call → Type
  | .castBuffer2D2 | .castBuffer2D | .unlock2D | .unlock => Bool
  | .getMaxLength | .getCurrentLength | .getContiguousLength => Option UInt32
  | .lock2DSize => Option Locked2D
  | .contiguousCopyTo length => Option { bytes : Bytes // bytes.length = length }
  | .lock => Option Locked
  | .read _ length => { bytes : Bytes // bytes.length = length }

abbrev Native (α : Type) := Dialogue Answer DecoderError α

def query (q : Call) : Native (Answer q) := ask q

/-! ## The copy -/

def validatedNv12Len (width height : UInt32) : Except DecoderError Nat :=
  match validatedPixelCount width height with
  | .error err => .error err
  | .ok pixels =>
    match add pixels (pixels / 2) with
    | none => .error .invalidDimensions
    | some bytes => if bytes > maxSurfaceBytes then .error .invalidDimensions else .ok bytes

/-- The rows of a mapped allocation, and their pitch. -/
def readRows (width rows maxLength : Nat) (locked : Locked2D) : Native (Bytes × Nat) := do
  let source ← orFail locked.source .invalidSurface
  let bufferStart ← orFail locked.bufferStart .invalidSurface
  failIf (locked.signedPitch < 0) .invalidSurface
  let pitch := locked.signedPitch.toNat
  failIf (pitch < width) .invalidSurface
  let allocationLength := locked.bufferLength.toNat
  failIf (allocationLength > maxLength ∨ allocationLength > maxSurfaceBytes) .invalidSurface
  let offset ← orFail (Raster.sub source bufferStart) .invalidSurface
  let length ← orFail (mul pitch rows) .invalidDimensions
  let last ← orFail (add offset length) .invalidDimensions
  failIf (last > allocationLength) .invalidSurface
  let bytes ← query (.read source length)
  pure (bytes.1, pitch)

/-- With `IMF2DBuffer2`. -/
def copyBuffer2D2 (width rows maxLength : Nat) : Native (Bytes × Nat) := do
  let locked ← orFail (← query .lock2DSize) .backendLost
  let result ← attempt (readRows width rows maxLength locked)
  failIf ((← query .unlock2D) = false) .backendLost
  ofExcept result

/-- With `IMF2DBuffer`. -/
def copyBuffer2D (width expected maxLength : Nat) : Native (Bytes × Nat) := do
  let contiguousLength := (← orFail (← query .getContiguousLength) .backendLost).toNat
  failIf (contiguousLength ≠ expected ∨ contiguousLength > maxLength) .invalidSurface
  let packed ← orFail (← query (.contiguousCopyTo contiguousLength)) .backendLost
  pure (packed.1, width)

def readPacked (source expected maxLength : Nat) (locked : Locked) : Native Bytes := do
  failIf (¬(locked.lockedMax.toNat ≤ maxLength ∧ locked.lockedMax.toNat ≤ maxSurfaceBytes ∧
    expected ≤ locked.lockedCurrent.toNat ∧ locked.lockedCurrent.toNat ≤ locked.lockedMax.toNat))
    .invalidSurface
  let bytes ← query (.read source expected)
  pure bytes.1

/-- With `IMFMediaBuffer` alone. -/
def copyBuffer (width expected maxLength : Nat) : Native (Bytes × Nat) := do
  let locked ← orFail (← query .lock) .backendLost
  match locked.source with
  | none => do
    let _ ← query .unlock
    fail .backendLost
  | some source => do
    let result ← attempt (readPacked source expected maxLength locked)
    failIf ((← query .unlock) = false) .backendLost
    let bytes ← ofExcept result
    pure (bytes, width)

def copyBufferWithStride (width height : UInt32) : Native (Bytes × Nat) := do
  let maxLength := (← orFail (← query .getMaxLength) .backendLost).toNat
  failIf (maxLength > maxSurfaceBytes) .invalidSurface
  let actualLength := (← orFail (← query .getCurrentLength) .backendLost).toNat
  failIf (actualLength > maxLength) .invalidSurface
  let rows ← orFail (add height.toNat (height.toNat / 2)) .invalidDimensions
  let expected ← ofExcept (validatedNv12Len width height)
  failIf (actualLength < expected) .invalidSurface
  if ← query .castBuffer2D2 then copyBuffer2D2 width.toNat rows maxLength
  else do
    if ← query .castBuffer2D then copyBuffer2D width.toNat expected maxLength
    else copyBuffer width.toNat expected maxLength

/-! ## The lock -/

abbrev Log := List (Exchange Answer)

structure Region where
  start : Nat
  length : Nat
  deriving DecidableEq, Repr

def Region.Covers (r : Region) (address length : Nat) : Prop :=
  r.start ≤ address ∧ address + length ≤ r.start + r.length

instance (r : Region) (address length : Nat) : Decidable (r.Covers address length) :=
  inferInstanceAs (Decidable (_ ∧ _))

inductive Memory where
  | closed
  | locked2D (region : Option Region)
  | locked (region : Option Region)
  deriving DecidableEq, Repr

def Memory.region : Memory → Option Region
  | .closed => none
  | .locked2D region | .locked region => region

/-- The extent that a lock has reported. -/
def extent2D (locked : Locked2D) : Option Region :=
  locked.bufferStart.map fun start => ⟨start, locked.bufferLength.toNat⟩

def extent (locked : Locked) : Option Region :=
  locked.source.map fun start => ⟨start, locked.lockedMax.toNat⟩

def access (now : Memory) : Exchange Answer → Option Memory
  | ⟨.lock2DSize, none⟩ | ⟨.lock, none⟩ => if now = .closed then some .closed else none
  | ⟨.lock2DSize, some locked⟩ => if now = .closed then some (.locked2D (extent2D locked)) else none
  | ⟨.lock, some locked⟩ => if now = .closed then some (.locked (extent locked)) else none
  | ⟨.unlock2D, _⟩ =>
    match now with
    | .locked2D _ => some .closed
    | _ => none
  | ⟨.unlock, _⟩ =>
    match now with
    | .locked _ => some .closed
    | _ => none
  | ⟨.read address length, _⟩ =>
    match now.region with
    | some r => if r.Covers address length then some now else none
    | none => none
  | _ => if now = .closed then some .closed else none

def memory (log : Log) : Option Memory := monitor access .closed log

/-- What has been asked is in order, and the memory is now locked as `m` says. -/
def Held (m : Memory) (log : Log) : Prop := memory log = some m

variable {m m' : Memory} {past : Log} {width height : UInt32}

theorem Held.asked (h : Held m past) {x : Exchange Answer} (hx : access m x = some m') :
    Held m' (past ++ [x]) := by
  rw [Held, memory, monitor_concat]
  exact (congrArg (·.bind (access · x)) h).trans hx

/-- An outcome that leaves the memory as it was. -/
abbrev Keeps {α : Type} (m : Memory) (command : Native α) (past : Log) (P : α → Prop) : Prop :=
  Ensures command past (fun a log => P a ∧ Held m log) (fun _ => Held m)

theorem failIf_keeps (h : Held m past) {c : Prop} [Decidable c] {err : DecoderError} :
    Keeps m (failIf c err) past fun _ => ¬c :=
  .failIf h fun hc => ⟨hc, h⟩

theorem orFail_keeps {α : Type} (h : Held m past) {value : Option α} {err : DecoderError} :
    Keeps m (orFail value err) past fun a => value = some a :=
  .orFail (fun _ hvalue => ⟨hvalue, h⟩) h

theorem ofExcept_keeps {α : Type} (h : Held m past) {value : Except DecoderError α} :
    Keeps m (ofExcept value) past fun a => value = .ok a := by
  apply Ensures.ofExcept
  cases value with
  | ok a => exact ⟨rfl, h⟩
  | error err => exact h

/-- A question that is asked while nothing is locked. -/
theorem query_keeps (h : Held .closed past) {q : Call}
    (hq : ∀ answer, access .closed ⟨q, answer⟩ = some .closed) :
    Keeps .closed (query q) past fun _ => True :=
  .ask fun answer => ⟨trivial, h.asked (hq answer)⟩

theorem attempt_keeps {α : Type} {command : Native α} {P : α → Prop}
    {R : DecoderError → Log → Prop} (h : Keeps m command past P) :
    Ensures (attempt command) past
      (fun result log => (∀ a, result = .ok a → P a) ∧ Held m log) R := by
  apply Ensures.attempt
  apply h.mono
  · rintro a log ⟨ha, h⟩
    refine ⟨?_, h⟩
    rintro _ ⟨⟩
    exact ha
  · exact fun _ _ h => ⟨nofun, h⟩

/-- Reading inside the extent. -/
theorem read_keeps {r : Region} {address length : Nat} (h : Held m past)
    (hregion : m.region = some r) (hcovers : r.Covers address length) :
    Keeps m (query (.read address length)) past fun _ => True := by
  apply Ensures.ask
  intro bytes
  refine ⟨trivial, h.asked ?_⟩
  simp only [access, hregion]
  rw [if_pos hcovers]

/-! ## The three ways -/

/-- All rows are there. -/
structure Complete (width rows : Nat) (copied : Bytes × Nat) : Prop where
  stride : width ≤ copied.2
  fits : copied.2 * rows < 2 ^ 64
  length : copied.2 * rows ≤ copied.1.length

theorem readRows_keeps {width rows maxLength : Nat} {locked : Locked2D}
    (h : Held (.locked2D (extent2D locked)) past) :
    Keeps (.locked2D (extent2D locked)) (readRows width rows maxLength locked) past
      (Complete width rows) := by
  apply Ensures.seq (orFail_keeps h)
  rintro source log ⟨-, h⟩
  apply Ensures.seq (orFail_keeps h)
  rintro bufferStart log ⟨hbufferStart, h⟩
  apply Ensures.seq (failIf_keeps h)
  rintro _ log ⟨-, h⟩
  apply Ensures.seq (failIf_keeps h)
  rintro _ log ⟨hstride, h⟩
  apply Ensures.seq (failIf_keeps h)
  rintro _ log ⟨-, h⟩
  apply Ensures.seq (orFail_keeps h)
  rintro offset log ⟨hoffset, h⟩
  apply Ensures.seq (orFail_keeps h)
  rintro length log ⟨hlength, h⟩
  apply Ensures.seq (orFail_keeps h)
  rintro last log ⟨hlast, h⟩
  apply Ensures.seq (failIf_keeps h)
  rintro _ log ⟨hinside, h⟩
  have hregion : (Memory.locked2D (extent2D locked)).region =
      some ⟨bufferStart, locked.bufferLength.toNat⟩ := by
    rw [extent2D, hbufferStart]
    rfl
  have hcovers : Region.Covers ⟨bufferStart, locked.bufferLength.toNat⟩ source length := by
    obtain ⟨-, rfl⟩ := (add_eq_some_iff _ _ _).mp hlast
    rw [Raster.sub] at hoffset
    split at hoffset
    case isTrue hle =>
      cases hoffset
      simp only [Region.Covers]
      omega
    case isFalse => cases hoffset
  apply Ensures.seq (read_keeps h hregion hcovers)
  rintro bytes log ⟨-, h⟩
  obtain ⟨hfits, rfl⟩ := (mul_eq_some_iff _ _ _).mp hlength
  exact .pure ⟨⟨Nat.le_of_not_lt hstride, hfits, bytes.2.ge⟩, h⟩

theorem copyBuffer2D2_keeps (h : Held .closed past) (width rows maxLength : Nat) :
    Keeps .closed (copyBuffer2D2 width rows maxLength) past (Complete width rows) := by
  apply Ensures.bind
  apply Ensures.ask
  intro answer
  cases answer with
  | none => exact .bind (.fail (h.asked rfl))
  | some locked =>
    apply Ensures.bind
    apply Ensures.pure
    apply Ensures.seq (attempt_keeps (readRows_keeps (h.asked rfl)))
    rintro result log ⟨hresult, h⟩
    -- the lock is undone whatever has been found
    apply Ensures.seq (Q := fun _ => Held .closed) (.ask fun _ => h.asked rfl)
    intro unlocked log h
    apply Ensures.seq (failIf_keeps h)
    rintro _ log ⟨-, h⟩
    exact (ofExcept_keeps h).mono (fun _ _ h => ⟨hresult _ h.1, h.2⟩) fun _ _ h => h

/-- A packed picture has no padding in its rows. -/
theorem complete_packed {width rows expected : Nat} {bytes : Bytes}
    (hrows : width * rows = expected) (hexpected : expected < 2 ^ 64)
    (hlength : bytes.length = expected) :
    Complete width rows (bytes, width) :=
  ⟨Nat.le_refl _, hrows.trans_lt hexpected, (hrows.trans hlength.symm).le⟩

section
variable {width rows expected : Nat}

theorem copyBuffer2D_keeps (hrows : width * rows = expected) (hexpected : expected < 2 ^ 64)
    (h : Held .closed past) (maxLength : Nat) :
    Keeps .closed (copyBuffer2D width expected maxLength) past (Complete width rows) := by
  apply Ensures.seq (query_keeps h fun _ => rfl)
  rintro answer log ⟨-, h⟩
  apply Ensures.seq (orFail_keeps h)
  rintro contiguousLength log ⟨-, h⟩
  apply Ensures.seq (failIf_keeps h)
  rintro _ log ⟨hlength, h⟩
  apply Ensures.seq (query_keeps h fun _ => rfl)
  rintro answer log ⟨-, h⟩
  apply Ensures.seq (orFail_keeps h)
  rintro packed log ⟨-, h⟩
  have hpacked : packed.1.length = expected := packed.2.trans (by omega)
  exact .pure ⟨complete_packed hrows hexpected hpacked, h⟩

theorem readPacked_keeps {source maxLength : Nat} {locked : Locked}
    (hsource : locked.source = some source) (h : Held (.locked (extent locked)) past) :
    Keeps (.locked (extent locked)) (readPacked source expected maxLength locked) past
      (·.length = expected) := by
  apply Ensures.seq (failIf_keeps h)
  rintro _ log ⟨hbounds, h⟩
  obtain ⟨-, -, hexpected, hcurrent⟩ := not_not.mp hbounds
  have hregion : (Memory.locked (extent locked)).region =
      some ⟨source, locked.lockedMax.toNat⟩ := by
    rw [extent, hsource]
    rfl
  have hcovers : Region.Covers ⟨source, locked.lockedMax.toNat⟩ source expected := by
    simp only [Region.Covers]
    omega
  apply Ensures.seq (read_keeps h hregion hcovers)
  rintro bytes log ⟨-, h⟩
  exact .pure ⟨bytes.2, h⟩

theorem copyBuffer_keeps (hrows : width * rows = expected) (hexpected : expected < 2 ^ 64)
    (h : Held .closed past) (maxLength : Nat) :
    Keeps .closed (copyBuffer width expected maxLength) past (Complete width rows) := by
  apply Ensures.bind
  apply Ensures.ask
  intro answer
  cases answer with
  | none => exact .bind (.fail (h.asked rfl))
  | some locked =>
    apply Ensures.bind
    apply Ensures.pure
    have hlocked : Held (.locked (extent locked)) (past ++ [⟨.lock, some locked⟩]) := h.asked rfl
    split
    case h_1 =>
      apply Ensures.bind
      apply Ensures.ask
      intro unlocked
      exact .fail (hlocked.asked rfl)
    case h_2 source hsource =>
      apply Ensures.seq (attempt_keeps (readPacked_keeps hsource hlocked))
      rintro result log ⟨hresult, h⟩
      apply Ensures.seq (Q := fun _ => Held .closed) (.ask fun _ => h.asked rfl)
      intro unlocked log h
      apply Ensures.seq (failIf_keeps h)
      rintro _ log ⟨-, h⟩
      apply Ensures.seq (ofExcept_keeps h)
      rintro bytes log ⟨hbytes, h⟩
      exact .pure ⟨complete_packed hrows hexpected (hresult bytes hbytes), h⟩

end

/-! ## The whole -/

theorem displayable_of_len {expected : Nat} (h : validatedNv12Len width height = .ok expected) :
    Displayable width height ∧
      expected = width.toNat * height.toNat + width.toNat * height.toNat / 2 := by
  have hsize : Displayable width height := by
    by_contra hsize
    rw [validatedNv12Len, validatedPixelCount, if_pos] at h
    · cases h
    · by_contra hnone
      apply hsize
      constructor <;> omega
  rw [validatedNv12Len, hsize.validatedPixelCount_eq] at h
  simp only [hsize.nv12Len_eq.1] at h
  split at h
  · cases h
  · cases h
    exact ⟨hsize, rfl⟩

theorem copyBufferWithStride_keeps (h : Held .closed past) (width height : UInt32) :
    Keeps .closed (copyBufferWithStride width height) past fun copied =>
      Displayable width height ∧ Complete width.toNat (height.toNat + height.toNat / 2) copied := by
  apply Ensures.seq (query_keeps h fun _ => rfl)
  rintro answer log ⟨-, h⟩
  apply Ensures.seq (orFail_keeps h)
  rintro maxLength log ⟨-, h⟩
  apply Ensures.seq (failIf_keeps h)
  rintro _ log ⟨-, h⟩
  apply Ensures.seq (query_keeps h fun _ => rfl)
  rintro answer log ⟨-, h⟩
  apply Ensures.seq (orFail_keeps h)
  rintro actualLength log ⟨-, h⟩
  apply Ensures.seq (failIf_keeps h)
  rintro _ log ⟨-, h⟩
  apply Ensures.seq (orFail_keeps h)
  rintro rows log ⟨hrows, h⟩
  apply Ensures.seq (ofExcept_keeps h)
  rintro expected log ⟨hexpected, h⟩
  apply Ensures.seq (failIf_keeps h)
  rintro _ log ⟨-, h⟩
  obtain ⟨-, rfl⟩ := (add_eq_some_iff _ _ _).mp hrows
  obtain ⟨hsize, rfl⟩ := displayable_of_len hexpected
  have hpacked := (Nat.mul_comm _ _).trans hsize.nv12Len_eq_rows.symm
  have hfits := hsize.nv12Len_eq.2.trans_lt (by decide : maxSurfaceBytes < 2 ^ 64)
  apply Ensures.seq (query_keeps h fun _ => rfl)
  rintro casts log ⟨-, h⟩
  cases casts with
  | true =>
    exact (copyBuffer2D2_keeps h _ _ _).mono (fun _ _ h => ⟨⟨hsize, h.1⟩, h.2⟩) fun _ _ h => h
  | false =>
    apply Ensures.seq (query_keeps h fun _ => rfl)
    rintro casts log ⟨-, h⟩
    cases casts with
    | true =>
      exact (copyBuffer2D_keeps hpacked hfits h _).mono (fun _ _ h => ⟨⟨hsize, h.1⟩, h.2⟩)
        fun _ _ h => h
    | false =>
      exact (copyBuffer_keeps hpacked hfits h _).mono (fun _ _ h => ⟨⟨hsize, h.1⟩, h.2⟩)
        fun _ _ h => h

/-- However the driver answers, every read lies inside the extent that the lock in force has
reported, every lock is undone, also when something fails, and nothing is asked in between but the
reads. And what has been copied is all that the rest needs: repacking it gives the visible parts of
its rows, and the surface made of them passes its check. -/
theorem picture_copied_safely (width height : UInt32) (future rest : Log)
    (result : Except DecoderError (Bytes × Nat))
    (hrun : (copyBufferWithStride width height).run future = some (result, rest)) :
    ∃ log, future = log ++ rest ∧ memory log = some .closed ∧
      ∀ bytes stride, result = .ok (bytes, stride) →
        let packed := visible bytes stride width.toNat (height.toNat + height.toNat / 2)
        repackNv12 bytes stride width height = some (.ok packed) ∧
          ∀ frameId timestampUs keyframe, DecodedSurface.validate
            ⟨frameId, timestampUs, keyframe, width, height, .nv12, packed⟩ = .ok () := by
  have hempty : Held .closed [] := rfl
  obtain ⟨log, hlog, hends⟩ :=
    copyBufferWithStride_keeps hempty width height future result rest hrun
  cases result with
  | error err => exact ⟨log, hlog, hends, nofun⟩
  | ok copied =>
    obtain ⟨⟨hsize, hcomplete⟩, hheld⟩ := hends
    refine ⟨log, hlog, hheld, ?_⟩
    rintro bytes stride ⟨⟩
    have hallowed : ¬Refused bytes stride width.toNat height.toNat := by
      simp only [Refused, not_or, Nat.not_lt, Nat.not_le]
      exact ⟨hcomplete.stride, hcomplete.fits, hcomplete.length⟩
    have hrepack := hsize.repackNv12_copiesRows.copied bytes stride hallowed
    exact ⟨hrepack, validate_repacked hsize hrepack⟩

/-- A picture of three rows with two bytes of padding each. -/
def paddedRows : Bytes := [1, 2, 9, 9, 3, 4, 9, 9, 5, 6, 9, 9]

def paddedBuffer : Log :=
  [⟨.getMaxLength, some 12⟩, ⟨.getCurrentLength, some 12⟩, ⟨.castBuffer2D2, true⟩,
    ⟨.lock2DSize, some ⟨some 1000, some 1000, 4, 12⟩⟩, ⟨.read 1000 12, ⟨paddedRows, rfl⟩⟩,
    ⟨.unlock2D, true⟩]

theorem picture_copied_padded :
    (copyBufferWithStride 2 2).run paddedBuffer = some (.ok (paddedRows, 4), []) ∧
      repackNv12 paddedRows 4 2 2 = some (.ok (visible paddedRows 4 2 3)) := by
  have hrun : (copyBufferWithStride 2 2).run paddedBuffer = some (.ok (paddedRows, 4), []) := rfl
  obtain ⟨log, -, -, hresult⟩ := picture_copied_safely 2 2 paddedBuffer [] _ hrun
  exact ⟨hrun, (hresult paddedRows 4 rfl).1⟩

end PictureCopies
