import NexusRemote.ClientReceiver
import NexusRemote.ControlFrames

/-!
# Cursor messages at the client (`apps/nexus-client/src/receiver.rs`, `runtime.rs`)

The host sends its cursor on the datagrams that also carry the video. The client
tells the two apart before it looks further, and keeps a position only when it
lies on the monitor, a shape only when it is well formed. The limits on a shape
are set in three places: by the message, by its frame and by the host's capture.
-/

namespace CursorControl

open BigEndian Protobuf ProtobufReader ControlFrames FrameCrypto VideoPacket VideoTransport
open ClientReceiver (Receiver ClientReceiverError)

/-! ## Monitors -/

/-- A single-precision number. A finite one is a number of units of `2 ^ -149`. -/
inductive F32 where
  | finite (negative : Bool) (units : Nat)
  | infinite (negative : Bool)
  | nan
  deriving DecidableEq

def F32.ofBits (bits : UInt32) : F32 :=
  let negative : Bool := bits.toNat / 2 ^ 31 = 1
  let exponent := bits.toNat / 2 ^ 23 % 2 ^ 8
  let fraction := bits.toNat % 2 ^ 23
  if exponent = 255 then if fraction = 0 then .infinite negative else .nan
  else if exponent = 0 then .finite negative fraction
  else .finite negative ((2 ^ 23 + fraction) * 2 ^ (exponent - 1))

def F32.isFinite : F32 → Bool
  | finite _ _ => true
  | infinite _ => false
  | nan => false

/-- `x <= 0.0`. -/
def F32.leZero : F32 → Bool
  | finite negative units => negative || units = 0
  | infinite negative => negative
  | nan => false

/-- `x > 100.0`. -/
def F32.gtHundred : F32 → Bool
  | finite negative units => !negative && decide (units > 100 * 2 ^ 149)
  | infinite negative => !negative
  | nan => false

structure MonitorInfo where
  originX : Int32
  originY : Int32
  width : UInt32
  height : UInt32
  scale : F32
  deriving DecidableEq

inductive MonitorInfoError where
  | invalidDimensions
  | invalidScale
  | scaleTooLarge
  deriving DecidableEq, Repr

def MonitorInfo.validate (m : MonitorInfo) : Except MonitorInfoError Unit :=
  if m.width = 0 ∨ m.height = 0 then .error .invalidDimensions
  else if !m.scale.isFinite || m.scale.leZero then .error .invalidScale
  else if m.scale.gtHundred then .error .scaleTooLarge
  else .ok ()

/-! ## The messages -/

structure CursorPosition where
  x : Int32
  y : Int32
  visible : Bool
  shapeId : UInt32
  deriving DecidableEq

structure CursorShape where
  id : UInt32
  width : UInt32
  height : UInt32
  hotspotX : UInt32
  hotspotY : UInt32
  pixelFormat : UInt32
  data : Bytes
  deriving DecidableEq

def CursorPosition.fields (m : CursorPosition) : List Field :=
  sintField 1 m.x.toInt ++ sintField 2 m.y.toInt ++ boolField 3 m.visible ++
    uintField 4 m.shapeId.toNat

def CursorPosition.empty : CursorPosition := ⟨0, 0, false, 0⟩

def CursorPosition.merge : Merge CursorPosition := fun m tag wireType bytes =>
  match tag with
  | 1 => setTo (fun x => { m with x := x }) (sint32Value wireType bytes)
  | 2 => setTo (fun y => { m with y := y }) (sint32Value wireType bytes)
  | 3 => setTo (fun visible => { m with visible := visible }) (boolValue wireType bytes)
  | 4 => setTo (fun shapeId => { m with shapeId := shapeId }) (uint32Value wireType bytes)
  | _ => unknown m wireType tag bytes

def CursorShape.fields (m : CursorShape) : List Field :=
  uintField 1 m.id.toNat ++ uintField 2 m.width.toNat ++ uintField 3 m.height.toNat ++
    uintField 4 m.hotspotX.toNat ++ uintField 5 m.hotspotY.toNat ++
    uintField 6 m.pixelFormat.toNat ++ bytesField 7 m.data

def CursorShape.empty : CursorShape := ⟨0, 0, 0, 0, 0, 0, []⟩

def CursorShape.merge : Merge CursorShape := fun m tag wireType bytes =>
  match tag with
  | 1 => setTo (fun id => { m with id := id }) (uint32Value wireType bytes)
  | 2 => setTo (fun width => { m with width := width }) (uint32Value wireType bytes)
  | 3 => setTo (fun height => { m with height := height }) (uint32Value wireType bytes)
  | 4 => setTo (fun hotspotX => { m with hotspotX := hotspotX }) (uint32Value wireType bytes)
  | 5 => setTo (fun hotspotY => { m with hotspotY := hotspotY }) (uint32Value wireType bytes)
  | 6 => setTo (fun format => { m with pixelFormat := format }) (uint32Value wireType bytes)
  | 7 => setTo (fun data => { m with data := data }) (bytesValue wireType bytes)
  | _ => unknown m wireType tag bytes

/-- Reading the fields one after the other rebuilds the message. -/
theorem CursorPosition.reads (m : CursorPosition) :
    Reads CursorPosition.merge CursorPosition.empty (Protobuf.encode m.fields) m := by
  have hx := Reads.sint32 CursorPosition.merge 1 m.x (CursorPosition.mk · 0 false 0)
    (by decide) rfl (fun _ => rfl)
  have hy := Reads.sint32 CursorPosition.merge 2 m.y (CursorPosition.mk m.x · false 0)
    (by decide) rfl (fun _ => rfl)
  have hvisible := Reads.bool CursorPosition.merge 3 m.visible (CursorPosition.mk m.x m.y · 0)
    (by decide) rfl (fun _ => rfl)
  have hshapeId := Reads.uint32 CursorPosition.merge 4 m.shapeId
    (CursorPosition.mk m.x m.y m.visible) (by decide) rfl (fun _ => rfl)
  simp only [CursorPosition.fields, encode_append]
  exact ((hx.append hy).append hvisible).append hshapeId

/-- The image alone is not longer than the message. -/
theorem length_data (m : CursorShape) : m.data.length ≤ (Protobuf.encode m.fields).length := by
  have hrun := length_le_bytesField 7 m.data
  simp only [CursorShape.fields, encode_append, List.length_append]
  omega

theorem CursorShape.reads (m : CursorShape) (h : (Protobuf.encode m.fields).length < 2 ^ 64) :
    Reads CursorShape.merge CursorShape.empty (Protobuf.encode m.fields) m := by
  have hid := Reads.uint32 CursorShape.merge 1 m.id (CursorShape.mk · 0 0 0 0 0 [])
    (by decide) rfl (fun _ => rfl)
  have hwidth := Reads.uint32 CursorShape.merge 2 m.width (CursorShape.mk m.id · 0 0 0 0 [])
    (by decide) rfl (fun _ => rfl)
  have hheight := Reads.uint32 CursorShape.merge 3 m.height
    (CursorShape.mk m.id m.width · 0 0 0 []) (by decide) rfl (fun _ => rfl)
  have hhotspotX := Reads.uint32 CursorShape.merge 4 m.hotspotX
    (CursorShape.mk m.id m.width m.height · 0 0 []) (by decide) rfl (fun _ => rfl)
  have hhotspotY := Reads.uint32 CursorShape.merge 5 m.hotspotY
    (CursorShape.mk m.id m.width m.height m.hotspotX · 0 []) (by decide) rfl (fun _ => rfl)
  have hformat := Reads.uint32 CursorShape.merge 6 m.pixelFormat
    (CursorShape.mk m.id m.width m.height m.hotspotX m.hotspotY · []) (by decide) rfl (fun _ => rfl)
  have hdata := Reads.bytes CursorShape.merge 7 m.data
    (CursorShape.mk m.id m.width m.height m.hotspotX m.hotspotY m.pixelFormat) (by decide)
    ((length_data m).trans_lt h) rfl (fun _ => rfl)
  simp only [CursorShape.fields, encode_append]
  exact (((((hid.append hwidth).append hheight).append hhotspotX).append hhotspotY).append
    hformat).append hdata

def positionCodec : Codec CursorPosition :=
  Codec.ofFields CursorPosition.fields CursorPosition.merge CursorPosition.empty
    fun m _ => CursorPosition.reads m

def shapeCodec : Codec CursorShape :=
  Codec.ofFields CursorShape.fields CursorShape.merge CursorShape.empty CursorShape.reads

/-! ## Shapes -/

inductive CursorShapeError where
  | invalidDimensions
  | invalidHotspot
  | dataTooLarge (max : Nat)
  | invalidPayloadLength
  deriving DecidableEq, Repr

def CursorShape.maxDataLen : Nat := 1024 * 1024

def usizeMax : Nat := 2 ^ 64 - 1

def saturatingMul (a b : Nat) : Nat := min (a * b) usizeMax

def CursorShape.validate (s : CursorShape) : Except CursorShapeError Unit :=
  if s.width = 0 ∨ s.height = 0 then .error .invalidDimensions
  else if s.hotspotX ≥ s.width ∨ s.hotspotY ≥ s.height then .error .invalidHotspot
  else if s.data.length > maxDataLen then .error (.dataTooLarge maxDataLen)
  else if s.pixelFormat = 1 ∧
      s.data.length ≠ saturatingMul (saturatingMul s.width.toNat s.height.toNat) 4 then
    .error .invalidPayloadLength
  else .ok ()

/-- The errors of the Windows backends (`platform/windows/src/error.rs`). -/
inductive BackendErrorKind where
  | unsupportedPlatform
  | unsupportedApi
  | permissionDenied
  | invalidConfiguration
  | initializationFailed
  | timeout
  | deviceLost
  | frameUnavailable
  | invalidFrame
  | invalidInput
  | invalidCursorDimensions
  | hotspotOutOfBounds
  | cursorPayloadLength
  | nativeFailure
  | stopped
  deriving DecidableEq, Repr

/-- A captured cursor (`platform/windows/src/cursor.rs`); its place on the desktop is not
part of the shape. -/
structure CursorSnapshot where
  visible : Bool
  width : UInt32
  height : UInt32
  hotspotX : UInt32
  hotspotY : UInt32
  rgba : Bytes
  deriving DecidableEq

def CursorSnapshot.maxDimension : UInt32 := 256

def CursorSnapshot.maxRgbaBytes : Nat := 256 * 256 * 4

/-- With both sides at most 256 the products do not overflow. -/
def CursorSnapshot.validate (s : CursorSnapshot) : Except BackendErrorKind Unit :=
  if !s.visible && s.width = 0 && s.height = 0 && s.rgba.isEmpty then .ok ()
  else if s.width = 0 ∨ s.height = 0 ∨ s.width > maxDimension ∨ s.height > maxDimension then
    .error .invalidCursorDimensions
  else if s.width.toNat * s.height.toNat * 4 > maxRgbaBytes ∨
      s.rgba.length ≠ s.width.toNat * s.height.toNat * 4 then .error .cursorPayloadLength
  else if s.visible ∧ (s.hotspotX ≥ s.width ∨ s.hotspotY ≥ s.height) then
    .error .hotspotOutOfBounds
  else .ok ()

/-- A captured cursor as the message that carries it. -/
def CursorSnapshot.carried (s : CursorSnapshot) (id pixelFormat : UInt32) : CursorShape where
  id := id
  width := s.width
  height := s.height
  hotspotX := s.hotspotX
  hotspotY := s.hotspotY
  pixelFormat := pixelFormat
  data := s.rgba

/-! ## The client -/

inductive ClientControlEvent where
  | cursorPosition (cursor : CursorPosition)
  | cursorShape (shape : CursorShape)
  deriving DecidableEq

/-- The errors of `ClientReceiver` that are about the cursor. -/
inductive CursorError where
  | control (error : ControlMessageError)
  | cursorMonitor (error : MonitorInfoError)
  | cursorMonitorUnavailable
  | cursorOutOfBounds
  | cursorShape (error : CursorShapeError)
  deriving DecidableEq, Repr

/-- The bounds test, in integers that do not overflow. -/
def MonitorInfo.contains (m : MonitorInfo) (x y : Int32) : Bool :=
  !(x.toInt < m.originX.toInt || x.toInt ≥ m.originX.toInt + m.width.toNat ||
    y.toInt < m.originY.toInt || y.toInt ≥ m.originY.toInt + m.height.toNat)

def validateCursorPosition (cursorMonitor : Option MonitorInfo) (cursor : CursorPosition) :
    Except CursorError CursorPosition :=
  match cursorMonitor with
  | none => .error .cursorMonitorUnavailable
  | some monitor =>
    if !monitor.contains cursor.x cursor.y then .error .cursorOutOfBounds else .ok cursor

/-- The client of `ClientRuntime` as far as it takes in datagrams: the receiver with its
monitor, and the cursor that waits to be drawn. -/
structure Client where
  receiver : Receiver
  cursorMonitor : Option MonitorInfo
  latestCursor : Option CursorPosition
  latestCursorShape : Option CursorShape

inductive ClientRuntimeError where
  | receiver (error : ClientReceiverError)
  | cursor (error : CursorError)
  deriving DecidableEq

namespace Client

variable (A : Aead) (P : Codec CursorPosition) (S : Codec CursorShape)

def setCursorMonitor (c : Client) (monitor : MonitorInfo) : Except CursorError Unit × Client :=
  match monitor.validate with
  | .error e => (.error (.cursorMonitor e), c)
  | .ok () => (.ok (), { c with cursorMonitor := some monitor })

/-- What an envelope holds, by its kind. -/
def acceptPayload (c : Client) (kind : ControlMessageKind) (payload : Bytes) :
    Except CursorError ClientControlEvent :=
  match kind with
  | .cursorPosition =>
    match decodeControl P payload with
    | .error e => .error (.control e)
    | .ok cursor => (validateCursorPosition c.cursorMonitor cursor).map .cursorPosition
  | .cursorShape =>
    match decodeControl S payload with
    | .error e => .error (.control e)
    | .ok shape =>
      match shape.validate with
      | .error e => .error (.cursorShape e)
      | .ok () => .ok (.cursorShape shape)

def acceptControlDatagram (c : Client) (bytes : Bytes) : Except CursorError ClientControlEvent :=
  match decodeFramedControlEnvelope bytes with
  | .error e => .error (.control e)
  | .ok (kind, payload) => c.acceptPayload P S kind payload

/-- The video path of `accept_inbound_datagram`. -/
def acceptVideo (c : Client) (bytes : Bytes) : Except ClientRuntimeError Unit × Client :=
  match c.receiver.acceptDatagram A bytes with
  | (.error e, receiver) => (.error (.receiver e), { c with receiver := receiver })
  | (.ok (), receiver) => (.ok (), { c with receiver := receiver })

/-- The end of its control path. -/
def keep (c : Client) (event : Except CursorError ClientControlEvent) :
    Except ClientRuntimeError Unit × Client :=
  match event with
  | .error e => (.error (.cursor e), c)
  | .ok (.cursorPosition cursor) => (.ok (), { c with latestCursor := some cursor })
  | .ok (.cursorShape shape) => (.ok (), { c with latestCursorShape := some shape })

def acceptInboundDatagram (c : Client) (bytes : Bytes) : Except ClientRuntimeError Unit × Client :=
  if (decodeVideoDatagram bytes).isOk then c.acceptVideo A bytes
  else c.keep (c.acceptControlDatagram P S bytes)

end Client

/-! ## Telling the datagrams apart -/

/-- A frame within the limit starts with a zero byte. -/
theorem framed_head (bytes payload : Bytes) (h : Framed bytes payload) : bytes.getD 0 0 = 0 := by
  obtain ⟨hle, rfl⟩ := h
  have hzero : payload.length / 256 / 256 / 256 = 0 := by omega
  simp [counted, toBytes, hzero]

/-- A video datagram starts with its version. -/
theorem video_head (bytes payload : Bytes) (header : VideoPacketHeader)
    (h : decodeVideoDatagram bytes = .ok (header, payload)) : bytes.getD 0 0 = currentVersion := by
  have hdecoded := decode_ok bytes payload header (decodeVideoDatagram_ok bytes _ h)
  rw [← hdecoded.version, hdecoded.header]
  rfl

theorem not_video_of_framed (bytes payload : Bytes) (h : Framed bytes payload) :
    (decodeVideoDatagram bytes).isOk = false := by
  cases hdecoded : decodeVideoDatagram bytes with
  | error e => rfl
  | ok decoded =>
    have hversion := video_head bytes decoded.2 decoded.1 hdecoded
    rw [framed_head bytes payload h] at hversion
    exact absurd hversion (by decide)

theorem decode_encodeVideoDatagram (header : VideoPacketHeader) (payload bytes : Bytes)
    (hversion : header.version = currentVersion)
    (h : encodeVideoDatagram header payload = .ok bytes) :
    decodeVideoDatagram bytes = .ok (header, payload) := by
  unfold encodeVideoDatagram at h
  split at h
  · cases h
  rename_i hmax
  split at h
  · cases h
  rename_i hlen
  split at h
  · cases h
  rename_i hsize
  obtain rfl := Except.ok.inj h
  have hfits : ¬(header.encode payload []).length > maxVideoDatagramSize := by
    rw [length_encode]
    exact hsize
  rw [decodeVideoDatagram, if_neg hfits,
    decode_encode header payload hversion (not_not.mp hlen) (Nat.not_lt.mp hmax)]

/-- No datagram is both video and control; what is sent as video is taken as video, and what
is sent in an envelope is taken out of it as it was put in. -/
theorem datagrams_classified (A : Aead) (P : Codec CursorPosition) (S : Codec CursorShape)
    (c : Client) :
    (∀ bytes, ¬((∃ decoded, decodeVideoDatagram bytes = .ok decoded) ∧
        ∃ decoded, decodeFramedControlEnvelope bytes = .ok decoded)) ∧
      (∀ header payload bytes, header.version = 2 →
        encodeVideoDatagram header payload = .ok bytes →
        decodeVideoDatagram bytes = .ok (header, payload) ∧
          c.acceptInboundDatagram A P S bytes = c.acceptVideo A bytes) ∧
      ∀ (M : Type) (C : Codec M) (kind : ControlMessageKind) (message : M) (bytes : Bytes),
        encodeFramedControlEnvelope C kind message = .ok bytes →
        decodeFramedControlEnvelope bytes = .ok (kind, C.encode message) ∧
          c.acceptInboundDatagram A P S bytes =
            c.keep (c.acceptPayload P S kind (C.encode message)) := by
  refine ⟨?_, ?_, ?_⟩
  · rintro bytes ⟨⟨video, hvideo⟩, ⟨kind, payload⟩, hcontrol⟩
    have hframed := (decodeFramedControlEnvelope_ok bytes payload kind).mp hcontrol
    have hnone := not_video_of_framed bytes _ hframed
    rw [hvideo] at hnone
    cases hnone
  · intro header payload bytes hversion h
    have hdecoded := decode_encodeVideoDatagram header payload bytes hversion h
    have hok : (decodeVideoDatagram bytes).isOk = true := by
      rw [hdecoded]
      rfl
    exact ⟨hdecoded, by rw [Client.acceptInboundDatagram, if_pos hok]⟩
  · intro M C kind message bytes h
    have hdecoded := envelope_reads_back C kind message bytes h
    have hframed := (decodeFramedControlEnvelope_ok bytes _ kind).mp hdecoded
    have hnone := not_video_of_framed bytes _ hframed
    refine ⟨hdecoded, ?_⟩
    simp only [Client.acceptInboundDatagram, hnone, Bool.false_eq_true, if_false,
      Client.acceptControlDatagram, hdecoded]

/-! ## What waits to be drawn -/

/-- The cursor that waits lies on the monitor of the client, and its shape is well formed. -/
structure Drawable (c : Client) : Prop where
  monitor : ∀ m ∈ c.cursorMonitor, m.validate = .ok ()
  position : ∀ cursor ∈ c.latestCursor, ∃ m ∈ c.cursorMonitor, m.contains cursor.x cursor.y = true
  shape : ∀ shape ∈ c.latestCursorShape, shape.validate = .ok ()

theorem validateCursorPosition_ok (monitor : Option MonitorInfo) (cursor kept : CursorPosition) :
    validateCursorPosition monitor cursor = .ok kept ↔
      kept = cursor ∧ ∃ m ∈ monitor, m.contains cursor.x cursor.y = true := by
  cases monitor with
  | none => simp [validateCursorPosition]
  | some m =>
    cases hon : m.contains cursor.x cursor.y with
    | false => simp [validateCursorPosition, hon]
    | true =>
      simp only [validateCursorPosition, hon, Bool.not_true, Bool.false_eq_true, if_false,
        Except.ok.injEq, Option.mem_def, Option.some.injEq, exists_eq_left', and_true]
      exact eq_comm

/-- An event is checked against the monitor or in itself. -/
def Checked (c : Client) : ClientControlEvent → Prop
  | .cursorPosition cursor => ∃ m ∈ c.cursorMonitor, m.contains cursor.x cursor.y = true
  | .cursorShape shape => shape.validate = .ok ()

section Control

variable (P : Codec CursorPosition) (S : Codec CursorShape) (c : Client)

theorem acceptPayload_ok (kind : ControlMessageKind) (payload : Bytes) (event : ClientControlEvent)
    (h : c.acceptPayload P S kind payload = .ok event) : Checked c event := by
  cases kind with
  | cursorPosition =>
    simp only [Client.acceptPayload] at h
    split at h
    · cases h
    · rename_i cursor _
      cases hkept : validateCursorPosition c.cursorMonitor cursor with
      | error e =>
        rw [hkept] at h
        cases h
      | ok kept =>
        rw [hkept] at h
        obtain rfl := Except.ok.inj h
        obtain ⟨rfl, hon⟩ := (validateCursorPosition_ok _ _ _).mp hkept
        exact hon
  | cursorShape =>
    simp only [Client.acceptPayload] at h
    split at h
    · cases h
    · split at h
      · cases h
      · rename_i hvalid
        obtain rfl := Except.ok.inj h
        exact hvalid

theorem acceptControlDatagram_ok (bytes : Bytes) (event : ClientControlEvent)
    (h : c.acceptControlDatagram P S bytes = .ok event) : Checked c event := by
  unfold Client.acceptControlDatagram at h
  split at h
  · cases h
  · exact acceptPayload_ok P S c _ _ event h

theorem keep_drawable (bytes : Bytes) (h : Drawable c) :
    Drawable (c.keep (c.acceptControlDatagram P S bytes)).2 := by
  cases haccepted : c.acceptControlDatagram P S bytes with
  | error e => exact h
  | ok event =>
    have hchecked := acceptControlDatagram_ok P S c bytes event haccepted
    cases event with
    | cursorPosition cursor =>
      refine ⟨h.monitor, ?_, h.shape⟩
      intro kept hkept
      obtain rfl := Option.some.inj hkept
      exact hchecked
    | cursorShape shape =>
      refine ⟨h.monitor, h.position, ?_⟩
      intro kept hkept
      obtain rfl := Option.some.inj hkept
      exact hchecked

end Control

section Datagrams

variable (A : Aead) (P : Codec CursorPosition) (S : Codec CursorShape)

/-- The video path hands the datagram to the receiver and does nothing else. -/
theorem acceptVideo_eq (c : Client) (bytes : Bytes) :
    (c.acceptVideo A bytes).2 = { c with receiver := (c.receiver.acceptDatagram A bytes).2 } := by
  unfold Client.acceptVideo
  split <;> rename_i heq <;> rw [heq]

theorem keep_receiver (c : Client) (event : Except CursorError ClientControlEvent) :
    (c.keep event).2.receiver = c.receiver := by
  unfold Client.keep
  split <;> rfl

theorem datagram_drawable (c : Client) (bytes : Bytes) (h : Drawable c) :
    Drawable (c.acceptInboundDatagram A P S bytes).2 := by
  unfold Client.acceptInboundDatagram
  split
  · rw [acceptVideo_eq]
    exact ⟨h.monitor, h.position, h.shape⟩
  · exact keep_drawable P S c bytes h

/-- From when the client has been given its monitor, and whatever datagrams arrive: what waits
to be drawn can be drawn. -/
theorem run_drawable (receiver : Receiver) (monitor : MonitorInfo) (c : Client)
    (hstart : Client.setCursorMonitor ⟨receiver, none, none, none⟩ monitor = (.ok (), c))
    (datagrams : List Bytes) :
    Drawable (Mealy.after (Client.acceptInboundDatagram A P S) c datagrams) := by
  have hnew : Drawable c := by
    unfold Client.setCursorMonitor at hstart
    split at hstart
    · cases hstart
    · rename_i hvalid
      obtain rfl := congrArg Prod.snd hstart
      refine ⟨?_, by simp, by simp⟩
      rintro m ⟨⟩
      exact hvalid
  exact Mealy.after_always (datagram_drawable A P S) c datagrams hnew

/-- The receiver of the video sees the video datagrams, in their order, and no others. -/
theorem run_receiver (c : Client) (datagrams : List Bytes) :
    (Mealy.after (Client.acceptInboundDatagram A P S) c datagrams).receiver =
      Mealy.after (Receiver.acceptDatagram A) c.receiver
        (datagrams.filter fun bytes => (decodeVideoDatagram bytes).isOk) := by
  induction datagrams generalizing c with
  | nil => rfl
  | cons bytes datagrams ih =>
    rw [Mealy.after_cons, ih, List.filter_cons, Client.acceptInboundDatagram]
    by_cases hvideo : (decodeVideoDatagram bytes).isOk = true
    · rw [if_pos hvideo, if_pos hvideo, Mealy.after_cons, acceptVideo_eq]
    · rw [if_neg hvideo, if_neg hvideo, keep_receiver]

end Datagrams

/-! ## Which shapes arrive -/

/-- The shape goes into an envelope and comes out of it at the client. -/
def Delivered (P : Codec CursorPosition) (S : Codec CursorShape) (c : Client)
    (shape : CursorShape) : Prop :=
  ∃ bytes, encodeFramedControlEnvelope S .cursorShape shape = .ok bytes ∧
    c.acceptControlDatagram P S bytes = .ok (.cursorShape shape)

section Shapes

variable (P : Codec CursorPosition) (S : Codec CursorShape) (c : Client)

theorem delivered_iff (shape : CursorShape) :
    Delivered P S c shape ↔ shape.validate = .ok () ∧ S.encodedLen shape ≤ 65535 := by
  rw [S.encodedLen_eq]
  constructor
  · rintro ⟨bytes, hsent, hread⟩
    exact ⟨acceptControlDatagram_ok P S c bytes _ hread,
      ((encodeFramedControlEnvelope_ok S _ shape bytes).mp hsent).1⟩
  · rintro ⟨h, hle⟩
    have hsent := (encodeFramedControlEnvelope_ok S .cursorShape shape _).mpr ⟨hle, rfl⟩
    have hread := envelope_reads_back S _ shape _ hsent
    have hdecoded : decodeControl S (S.encode shape) = .ok shape :=
      (decodeControl_ok S _ shape).mpr ⟨by omega, S.decode_encode shape (by omega)⟩
    refine ⟨_, hsent, ?_⟩
    simp only [Client.acceptControlDatagram, hread, Client.acceptPayload, hdecoded, h]

end Shapes

/-- What has been checked of a cursor that has pixels when it is admitted. -/
theorem validate_pixels (s : CursorSnapshot) (hpixels : s.width ≠ 0) (h : s.validate = .ok ()) :
    s.height ≠ 0 ∧ s.rgba.length = s.width.toNat * s.height.toNat * 4 ∧
      s.rgba.length ≤ 262144 ∧
      (s.visible = true → s.hotspotX < s.width ∧ s.hotspotY < s.height) := by
  simp only [CursorSnapshot.validate, hpixels, decide_false, Bool.and_false, Bool.false_and,
    Bool.false_eq_true, if_false, false_or] at h
  split at h
  · cases h
  rename_i hdimensions
  split at h
  · cases h
  rename_i hlength
  split at h
  · cases h
  rename_i hhotspot
  simp only [not_or, not_and, not_not, Nat.not_lt, ge_iff_le, UInt32.not_le,
    CursorSnapshot.maxRgbaBytes] at hdimensions hlength hhotspot
  exact ⟨hdimensions.1, hlength.2, by omega, hhotspot⟩

/-- An admitted cursor is a well-formed shape if it has pixels and its hotspot is one of them. -/
theorem validate_carried (s : CursorSnapshot) (id pixelFormat : UInt32) (h : s.validate = .ok ()) :
    (s.carried id pixelFormat).validate = .ok () ↔
      s.width ≠ 0 ∧ s.height ≠ 0 ∧ s.hotspotX < s.width ∧ s.hotspotY < s.height := by
  by_cases hwidth : s.width = 0
  · simp [CursorShape.validate, CursorSnapshot.carried, hwidth]
  · obtain ⟨hheight, hlength, hbound, -⟩ := validate_pixels s hwidth h
    have hsmall : ¬s.rgba.length > CursorShape.maxDataLen := by
      simp only [CursorShape.maxDataLen]
      omega
    have hproduct : saturatingMul (saturatingMul s.width.toNat s.height.toNat) 4 =
        s.rgba.length := by
      simp only [saturatingMul, usizeMax]
      omega
    simp [CursorShape.validate, CursorSnapshot.carried, hwidth, hheight, hsmall, hproduct]

/-- A visible cursor that is admitted has pixels, and its hotspot is one of them. -/
theorem validate_visible (s : CursorSnapshot) (hvisible : s.visible = true)
    (h : s.validate = .ok ()) :
    s.width ≠ 0 ∧ s.height ≠ 0 ∧ s.hotspotX < s.width ∧ s.hotspotY < s.height := by
  have hwidth : s.width ≠ 0 := by
    intro hwidth
    simp [CursorSnapshot.validate, hvisible, hwidth] at h
  obtain ⟨hheight, -, -, hhotspot⟩ := validate_pixels s hwidth h
  exact ⟨hwidth, hheight, hhotspot hvisible⟩

/-- A well-formed shape arrives exactly when the encoded message leaves room for its kind in
a frame. A captured cursor arrives exactly when it also has pixels and its hotspot is one of them,
which is so if it is visible. -/
theorem cursor_delivery (P : Codec CursorPosition) (S : Codec CursorShape) (c : Client) :
    (∀ shape : CursorShape, shape.validate = .ok () →
        (Delivered P S c shape ↔ S.encodedLen shape ≤ 65535)) ∧
      ∀ (s : CursorSnapshot) (id pixelFormat : UInt32), s.validate = .ok () →
        (Delivered P S c (s.carried id pixelFormat) ↔
          (s.width ≠ 0 ∧ s.height ≠ 0 ∧ s.hotspotX < s.width ∧ s.hotspotY < s.height) ∧
            S.encodedLen (s.carried id pixelFormat) ≤ 65535) ∧
          (s.visible = true → (s.carried id pixelFormat).validate = .ok () ∧
            (Delivered P S c (s.carried id pixelFormat) ↔
              S.encodedLen (s.carried id pixelFormat) ≤ 65535)) := by
  have hshape (shape : CursorShape) (h : shape.validate = .ok ()) :
      Delivered P S c shape ↔ S.encodedLen shape ≤ 65535 := by
    rw [delivered_iff, and_iff_right h]
  refine ⟨hshape, ?_⟩
  intro s id pixelFormat h
  refine ⟨by rw [delivered_iff, validate_carried s id pixelFormat h], fun hvisible => ?_⟩
  have hcarried := (validate_carried s id pixelFormat h).mpr (validate_visible s hvisible h)
  exact ⟨hcarried, hshape _ hcarried⟩

/-- A client that has just been started. -/
def freshClient : Client := ⟨.new (List.Vector.replicate 32 0) 1, none, none, none⟩

/-- A plain cursor of 128 by 128 pixels. -/
def largeCursor : CursorSnapshot := ⟨true, 128, 128, 0, 0, List.replicate 65536 0⟩

/-- A hidden cursor of one pixel with its hotspot elsewhere. -/
def hiddenCursor : CursorSnapshot := ⟨false, 1, 1, 99, 0, [0, 0, 0, 0]⟩

/-- The host admits the large cursor and its shape is well formed, but its image alone is
longer than what fits behind the kind. The hidden cursor is admitted too, and the client refuses
its shape. -/
theorem large_cursor_lost :
    (largeCursor.validate = .ok () ∧ (largeCursor.carried 1 1).validate = .ok () ∧
      ¬Delivered positionCodec shapeCodec freshClient (largeCursor.carried 1 1)) ∧
    hiddenCursor.validate = .ok () ∧
      ¬Delivered positionCodec shapeCodec freshClient (hiddenCursor.carried 1 1) := by
  have hlength : largeCursor.rgba.length = 65536 := List.length_replicate
  have hadmitted : largeCursor.validate = .ok () := by
    simp only [CursorSnapshot.validate, hlength]
    decide
  have hshape := (validate_carried largeCursor 1 1 hadmitted).mpr (by decide)
  have hhidden : (hiddenCursor.carried 1 1).validate ≠ .ok () := by decide
  refine ⟨⟨hadmitted, hshape, ?_⟩, by decide, fun h => hhidden ((delivered_iff _ _ _ _).mp h).1⟩
  rw [delivered_iff, and_iff_right hshape, shapeCodec.encodedLen_eq]
  have himage := length_data (largeCursor.carried 1 1)
  intro hle
  have hall : 65536 ≤ (shapeCodec.encode (largeCursor.carried 1 1)).length := hlength ▸ himage
  omega

end CursorControl
