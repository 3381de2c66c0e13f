import NexusRemote.InputEvents
import NexusRemote.Mealy

/-!
# Input at the host (`apps/nexus-desktop-host/src/input_handler.rs`)

The host has one method for each of the five input messages. Each decodes the
bytes it is given, makes an event of the message and dispatches it, which counts
and logs the event. The event is not checked again: what the host dispatches is
valid only as far as the bytes come from a client that checks.
-/

namespace HostInput

open BigEndian Protobuf ProtobufReader InputEvents

inductive InputHandlerError where
  | decode (error : DecodeError)
  | invalidData (text : String)
  deriving DecidableEq

/-- The counter of the handler, with the events that it counts. -/
structure HostInputHandler where
  eventsReceived : UInt64
  dispatched : List InputEvent
  counts : eventsReceived = UInt64.ofNat dispatched.length

def HostInputHandler.new : HostInputHandler := ⟨0, [], rfl⟩

/-- The counter wraps, as `fetch_add` does. -/
def HostInputHandler.dispatchEvent (h : HostInputHandler) (event : InputEvent) :
    HostInputHandler where
  eventsReceived := h.eventsReceived + 1
  dispatched := h.dispatched ++ [event]
  counts := by
    rw [h.counts, List.length_append, List.length_singleton, UInt64.ofNat_add]
    rfl

theorem dispatchEvent_inj (h : HostInputHandler) (event event' : InputEvent)
    (heq : h.dispatchEvent event = h.dispatchEvent event') : event = event' := by
  have hlog := congrArg HostInputHandler.dispatched heq
  simpa [HostInputHandler.dispatchEvent] using hlog

abbrev Outcome := Except InputHandlerError Unit × HostInputHandler

/-- What the five methods have in common. -/
def handle {M : Type} (decode : Bytes → Except DecodeError M) (event : M → InputEvent)
    (h : HostInputHandler) (bytes : Bytes) : Outcome :=
  match decode bytes with
  | .error e => (.error (.decode e), h)
  | .ok proto => (.ok (), h.dispatchEvent (event proto))

/-- `Modifiers::from_bits`. -/
def fromBits (bits : UInt32) : Modifiers where
  bits := (bits &&& 0x0f).toUInt8
  canonical := by
    have hmask : (bits &&& 0x0f).toNat < 16 := by
      rw [UInt32.toNat_and]
      exact Nat.lt_of_le_of_lt Nat.and_le_right (by decide)
    rw [UInt8.lt_iff_toNat_lt, UInt32.toNat_toUInt8, Nat.mod_eq_of_lt (by omega)]
    exact hmask

def keyEvent (proto : KeyEvent) : InputEvent :=
  .key proto.physicalCode proto.logicalCode (if proto.pressed then .down else .up)
    (fromBits proto.modifiers)

def textInput (proto : TextInput) : InputEvent := .text proto.text

def mouseMove (proto : MouseMove) : InputEvent := .mouseMove proto.x proto.y

/-- A code that names no button is taken for the left one. -/
def button (code : UInt32) : MouseButton :=
  if code = 0 then .left
  else if code = 1 then .right
  else if code = 2 then .middle
  else if code = 3 then .back
  else if code = 4 then .forward
  else .left

def mouseButton (proto : ProtoMouseButton) : InputEvent := .mouseButton (button proto.button) proto.pressed

def mouseWheel (proto : MouseWheel) : InputEvent := .mouseWheel proto.deltaX proto.deltaY

/-- `decode` of the five messages. -/
structure Decoders where
  keyEvent : Bytes → Except DecodeError KeyEvent
  textInput : Bytes → Except DecodeError TextInput
  mouseMove : Bytes → Except DecodeError MouseMove
  mouseButton : Bytes → Except DecodeError ProtoMouseButton
  mouseWheel : Bytes → Except DecodeError MouseWheel

namespace Decoders

variable (D : Decoders)

def handleKeyEvent (h : HostInputHandler) (bytes : Bytes) : Outcome :=
  handle D.keyEvent HostInput.keyEvent h bytes

def handleMouseMove (h : HostInputHandler) (bytes : Bytes) : Outcome :=
  handle D.mouseMove HostInput.mouseMove h bytes

def handleMouseButton (h : HostInputHandler) (bytes : Bytes) : Outcome :=
  handle D.mouseButton HostInput.mouseButton h bytes

def handleMouseWheel (h : HostInputHandler) (bytes : Bytes) : Outcome :=
  handle D.mouseWheel HostInput.mouseWheel h bytes

def handleTextInput (h : HostInputHandler) (bytes : Bytes) : Outcome :=
  handle D.textInput HostInput.textInput h bytes

/-- The method for a kind of event. -/
def method : Kind → HostInputHandler → Bytes → Outcome
  | .key => D.handleKeyEvent
  | .text => D.handleTextInput
  | .mouseMove => D.handleMouseMove
  | .mouseButton => D.handleMouseButton
  | .mouseWheel => D.handleMouseWheel

end Decoders

/-! ## What is dispatched -/

section Handle

variable {M : Type} (decode : Bytes → Except DecodeError M) (event : M → InputEvent)

theorem handle_dispatches (h : HostInputHandler) (bytes : Bytes) (e : InputEvent) :
    handle decode event h bytes = (.ok (), h.dispatchEvent e) ↔
      ∃ m, decode bytes = .ok m ∧ event m = e := by
  unfold handle
  cases hdecoded : decode bytes with
  | error err => simp
  | ok m =>
    simp only [Prod.mk.injEq, true_and, Except.ok.injEq, exists_eq_left']
    constructor
    · exact dispatchEvent_inj h _ _
    · intro heq
      rw [heq]

/-- A call that dispatches nothing fails and changes nothing. -/
theorem handle_fails (h : HostInputHandler) (bytes : Bytes)
    (hnone : ∀ e, handle decode event h bytes ≠ (.ok (), h.dispatchEvent e)) :
    ∃ e, handle decode event h bytes = (.error e, h) := by
  cases hdecoded : decode bytes with
  | error err => exact ⟨.decode err, by simp [handle, hdecoded]⟩
  | ok m => exact absurd ((handle_dispatches decode event h bytes _).mpr ⟨m, hdecoded, rfl⟩) (hnone _)

end Handle

/-- The call dispatches an event only if it is valid and, for a button, its code names one;
otherwise it fails and dispatches nothing. -/
structure DispatchesOnlyValid (D : Decoders) (kind : Kind) (h : HostInputHandler) (bytes : Bytes) :
    Prop where
  valid : ∀ event, D.method kind h bytes = (.ok (), h.dispatchEvent event) →
    event.validate = .ok ()
  code : ∀ event, D.method kind h bytes = (.ok (), h.dispatchEvent event) → kind = .mouseButton →
    ∀ proto, D.mouseButton bytes = .ok proto → proto.button ≤ 4
  other : (∀ event, D.method kind h bytes ≠ (.ok (), h.dispatchEvent event)) →
    ∃ e, D.method kind h bytes = (.error e, h)

/-- What the bytes decode to is in the range that the client keeps to. -/
def InRange (D : Decoders) (kind : Kind) (bytes : Bytes) : Prop :=
  match kind with
  | .key => ∀ proto, D.keyEvent bytes = .ok proto → proto.physicalCode.toNat ≤ 65535
  | .text => ∀ proto, D.textInput bytes = .ok proto → proto.text.utf8ByteSize ≤ 4096
  | .mouseMove => True
  | .mouseButton => ∀ proto, D.mouseButton bytes = .ok proto → proto.button ≤ 4
  | .mouseWheel => ∀ proto, D.mouseWheel bytes = .ok proto →
    inWheelRange proto.deltaX = true ∧ inWheelRange proto.deltaY = true

section Valid

variable {M : Type} (decode : Bytes → Except DecodeError M) (event : M → InputEvent)

/-- Every event that a method dispatches is valid exactly when every message it may have
decoded makes a valid event. -/
theorem handle_valid_iff (h : HostInputHandler) (bytes : Bytes) :
    (∀ e, handle decode event h bytes = (.ok (), h.dispatchEvent e) → e.validate = .ok ()) ↔
      ∀ m, decode bytes = .ok m → (event m).validate = .ok () := by
  simp only [handle_dispatches]
  constructor
  · intro hall m hm
    exact hall _ ⟨m, hm, rfl⟩
  · rintro hall e ⟨m, hm, rfl⟩
    exact hall m hm

end Valid

theorem method_fails (D : Decoders) (kind : Kind) (h : HostInputHandler) (bytes : Bytes)
    (hnone : ∀ event, D.method kind h bytes ≠ (.ok (), h.dispatchEvent event)) :
    ∃ e, D.method kind h bytes = (.error e, h) := by
  cases kind <;> exact handle_fails _ _ h bytes hnone

/-- Codes come with buttons only. -/
theorem onlyValid_iff (D : Decoders) (kind : Kind) (h : HostInputHandler) (bytes : Bytes)
    (hkind : kind ≠ .mouseButton) :
    DispatchesOnlyValid D kind h bytes ↔ ∀ event,
      D.method kind h bytes = (.ok (), h.dispatchEvent event) → event.validate = .ok () := by
  constructor
  · intro honly
    exact honly.valid
  · intro hvalid
    exact ⟨hvalid, fun _ _ hbutton => absurd hbutton hkind, method_fails D kind h bytes⟩

theorem onlyValid_mouseButton (D : Decoders) (h : HostInputHandler) (bytes : Bytes) :
    DispatchesOnlyValid D .mouseButton h bytes ↔ InRange D .mouseButton bytes := by
  constructor
  · intro honly proto hproto
    have hdispatched := (handle_dispatches D.mouseButton mouseButton h bytes _).mpr
      ⟨proto, hproto, rfl⟩
    exact honly.code _ hdispatched rfl proto hproto
  · intro hrange
    refine ⟨?_, fun _ _ _ => hrange, method_fails D .mouseButton h bytes⟩
    intro event hdispatched
    obtain ⟨proto, -, rfl⟩ := (handle_dispatches D.mouseButton mouseButton h bytes event).mp
      hdispatched
    rfl

/-- The host dispatches only valid input exactly as long as what it decodes is in range: it
makes no check of its own. -/
theorem host_dispatch_iff (D : Decoders) (kind : Kind) (h : HostInputHandler) (bytes : Bytes) :
    DispatchesOnlyValid D kind h bytes ↔ InRange D kind bytes := by
  cases kind with
  | mouseButton => exact onlyValid_mouseButton D h bytes
  | key =>
    rw [onlyValid_iff D .key h bytes (by decide)]
    refine (handle_valid_iff D.keyEvent keyEvent h bytes).trans ?_
    simp only [keyEvent, validate_key]
    rfl
  | text =>
    rw [onlyValid_iff D .text h bytes (by decide)]
    refine (handle_valid_iff D.textInput textInput h bytes).trans ?_
    simp only [textInput, validate_text]
    rfl
  | mouseMove =>
    rw [onlyValid_iff D .mouseMove h bytes (by decide)]
    refine (handle_valid_iff D.mouseMove mouseMove h bytes).trans ?_
    exact ⟨fun _ => trivial, fun _ _ _ => rfl⟩
  | mouseWheel =>
    rw [onlyValid_iff D .mouseWheel h bytes (by decide)]
    refine (handle_valid_iff D.mouseWheel mouseWheel h bytes).trans ?_
    simp only [mouseWheel, validate_mouseWheel]
    rfl

/-! ## The decoders of the messages -/

def mergeKeyEvent : Merge KeyEvent := fun m tag wireType bytes =>
  match tag with
  | 1 => setTo (fun code => { m with physicalCode := code }) (uint32Value wireType bytes)
  | 2 => setTo (fun code => { m with logicalCode := code }) (uint32Value wireType bytes)
  | 3 => setTo (fun pressed => { m with pressed := pressed }) (boolValue wireType bytes)
  | 4 => setTo (fun modifiers => { m with modifiers := modifiers }) (uint32Value wireType bytes)
  | _ => unknown m wireType tag bytes

def mergeTextInput : Merge TextInput := fun m tag wireType bytes =>
  match tag with
  | 1 => setTo (fun text => { m with text := text }) (stringValue wireType bytes)
  | _ => unknown m wireType tag bytes

def mergeMouseMove : Merge MouseMove := fun m tag wireType bytes =>
  match tag with
  | 1 => setTo (fun x => { m with x := x }) (sint32Value wireType bytes)
  | 2 => setTo (fun y => { m with y := y }) (sint32Value wireType bytes)
  | _ => unknown m wireType tag bytes

def mergeMouseButton : Merge ProtoMouseButton := fun m tag wireType bytes =>
  match tag with
  | 1 => setTo (fun button => { m with button := button }) (uint32Value wireType bytes)
  | 2 => setTo (fun pressed => { m with pressed := pressed }) (boolValue wireType bytes)
  | _ => unknown m wireType tag bytes

def mergeMouseWheel : Merge MouseWheel := fun m tag wireType bytes =>
  match tag with
  | 1 => setTo (fun delta => { m with deltaX := delta }) (sint32Value wireType bytes)
  | 2 => setTo (fun delta => { m with deltaY := delta }) (sint32Value wireType bytes)
  | _ => unknown m wireType tag bytes

def protoDecoders : Decoders where
  keyEvent := decode mergeKeyEvent ⟨0, 0, false, 0⟩
  textInput := decode mergeTextInput ⟨""⟩
  mouseMove := decode mergeMouseMove ⟨0, 0⟩
  mouseButton := decode mergeMouseButton ⟨0, false⟩
  mouseWheel := decode mergeMouseWheel ⟨0, 0⟩

/-- What a message was written as reads back as that message, if it fits into memory. -/
structure Decoders.ReadsBack (D : Decoders) : Prop where
  keyEvent : ∀ m : KeyEvent, D.keyEvent (Protobuf.encode m.fields) = .ok m
  textInput : ∀ m : TextInput, m.text.utf8ByteSize < 2 ^ 64 →
    D.textInput (Protobuf.encode m.fields) = .ok m
  mouseMove : ∀ m : MouseMove, D.mouseMove (Protobuf.encode m.fields) = .ok m
  mouseButton : ∀ m : ProtoMouseButton, D.mouseButton (Protobuf.encode m.fields) = .ok m
  mouseWheel : ∀ m : MouseWheel, D.mouseWheel (Protobuf.encode m.fields) = .ok m

theorem protoDecoders_readsBack : protoDecoders.ReadsBack where
  keyEvent m := by
    have hphysical := Reads.uint32 mergeKeyEvent 1 m.physicalCode (KeyEvent.mk · 0 false 0)
      (by decide) rfl (fun _ => rfl)
    have hlogical := Reads.uint32 mergeKeyEvent 2 m.logicalCode
      (KeyEvent.mk m.physicalCode · false 0) (by decide) rfl (fun _ => rfl)
    have hpressed := Reads.bool mergeKeyEvent 3 m.pressed
      (KeyEvent.mk m.physicalCode m.logicalCode · 0) (by decide) rfl (fun _ => rfl)
    have hmodifiers := Reads.uint32 mergeKeyEvent 4 m.modifiers
      (KeyEvent.mk m.physicalCode m.logicalCode m.pressed) (by decide) rfl (fun _ => rfl)
    apply decode_of_reads
    simp only [KeyEvent.fields, encode_append]
    exact ((hphysical.append hlogical).append hpressed).append hmodifiers
  textInput m hm :=
    decode_of_reads (Reads.string mergeTextInput 1 m.text TextInput.mk (by decide) hm rfl
      (fun _ => rfl))
  mouseMove m := by
    have hx := Reads.sint32 mergeMouseMove 1 m.x (MouseMove.mk · 0) (by decide) rfl (fun _ => rfl)
    have hy := Reads.sint32 mergeMouseMove 2 m.y (MouseMove.mk m.x) (by decide) rfl (fun _ => rfl)
    apply decode_of_reads
    simp only [MouseMove.fields, encode_append]
    exact hx.append hy
  mouseButton m := by
    have hbutton := Reads.uint32 mergeMouseButton 1 m.button (ProtoMouseButton.mk · false)
      (by decide) rfl (fun _ => rfl)
    have hpressed := Reads.bool mergeMouseButton 2 m.pressed (ProtoMouseButton.mk m.button)
      (by decide) rfl (fun _ => rfl)
    apply decode_of_reads
    simp only [ProtoMouseButton.fields, encode_append]
    exact hbutton.append hpressed
  mouseWheel m := by
    have hx := Reads.sint32 mergeMouseWheel 1 m.deltaX (MouseWheel.mk · 0) (by decide) rfl
      (fun _ => rfl)
    have hy := Reads.sint32 mergeMouseWheel 2 m.deltaY (MouseWheel.mk m.deltaX) (by decide) rfl
      (fun _ => rfl)
    apply decode_of_reads
    simp only [MouseWheel.fields, encode_append]
    exact hx.append hy

/-- Seven names no button and is dispatched as the left one; a key code of 17 bits is
dispatched as it is. -/
theorem host_dispatches_invalid :
    protoDecoders.handleMouseButton .new [0x08, 0x07] =
        (.ok (), HostInputHandler.new.dispatchEvent (.mouseButton .left false)) ∧
      ¬DispatchesOnlyValid protoDecoders .mouseButton .new [0x08, 0x07] ∧
      protoDecoders.handleKeyEvent .new [0x08, 0x80, 0x80, 0x04] =
        (.ok (), HostInputHandler.new.dispatchEvent (.key 65536 0 .up .none)) ∧
      ¬DispatchesOnlyValid protoDecoders .key .new [0x08, 0x80, 0x80, 0x04] := by
  have hbutton : protoDecoders.handleMouseButton .new [0x08, 0x07] =
      (.ok (), HostInputHandler.new.dispatchEvent (.mouseButton .left false)) := rfl
  have hkey : protoDecoders.handleKeyEvent .new [0x08, 0x80, 0x80, 0x04] =
      (.ok (), HostInputHandler.new.dispatchEvent (.key 65536 0 .up .none)) := rfl
  refine ⟨hbutton, ?_, hkey, ?_⟩
  · intro honly
    have hcode := honly.code _ hbutton rfl ⟨7, false⟩ rfl
    exact absurd hcode (by decide)
  · intro honly
    have hvalid := honly.valid _ hkey
    exact absurd hvalid (by decide)

/-! ## Client and host -/

/-- The mask of the host keeps every modifier that a client can send. -/
theorem fromBits_bits (m : Modifiers) : fromBits m.bits.toUInt32 = m := by
  have hsmall : m.bits.toNat < 16 := UInt8.lt_iff_toNat_lt.mp m.canonical
  have hbits : (m.bits.toUInt32 &&& 0x0f).toUInt8 = m.bits := by
    apply UInt8.toNat_inj.mp
    rw [UInt32.toNat_toUInt8, UInt32.toNat_and, UInt8.toNat_toUInt32]
    have hmask : m.bits.toNat &&& (0x0f : UInt32).toNat = m.bits.toNat % 16 :=
      Nat.and_two_pow_sub_one_eq_mod m.bits.toNat 4
    rw [hmask]
    omega
  cases m
  simp only [fromBits, Modifiers.mk.injEq]
  exact hbits

theorem button_buttonNumber (b : MouseButton) : button (ClientInputSender.buttonNumber b) = b := by
  cases b <;> rfl

/-- The message of a valid event is dispatched as that event. -/
theorem method_message (D : Decoders) (hD : D.ReadsBack) (event : InputEvent)
    (hvalid : event.validate = .ok ()) (h : HostInputHandler) :
    D.method (kind event) h (Protobuf.encode (ClientInputSender.message event)) =
      (.ok (), h.dispatchEvent event) := by
  cases event with
  | key physicalCode logicalCode action modifiers =>
    apply (handle_dispatches D.keyEvent keyEvent h _ _).mpr
    refine ⟨_, hD.keyEvent _, ?_⟩
    cases action <;> simp [keyEvent, fromBits_bits]
  | text text =>
    have hsize := (validate_text text).mp hvalid
    exact (handle_dispatches D.textInput textInput h _ _).mpr
      ⟨_, hD.textInput ⟨text⟩ (Nat.lt_of_le_of_lt hsize (by decide)), rfl⟩
  | mouseMove x y =>
    exact (handle_dispatches D.mouseMove mouseMove h _ _).mpr ⟨_, hD.mouseMove ⟨x, y⟩, rfl⟩
  | mouseButton b pressed =>
    apply (handle_dispatches D.mouseButton mouseButton h _ _).mpr
    refine ⟨_, hD.mouseButton ⟨ClientInputSender.buttonNumber b, pressed⟩, ?_⟩
    rw [mouseButton, button_buttonNumber]
  | mouseWheel deltaX deltaY =>
    exact (handle_dispatches D.mouseWheel mouseWheel h _ _).mpr
      ⟨_, hD.mouseWheel ⟨deltaX, deltaY⟩, rfl⟩

/-- The client's frame of a message is that of the transport. -/
theorem sent_framed (event : InputEvent) (bytes : Bytes)
    (hsent : ClientInputSender.encode event = .ok bytes) :
    event.validate = .ok () ∧
      ControlFrames.Framed bytes (Protobuf.encode (ClientInputSender.message event)) := by
  obtain ⟨hvalid, hbytes⟩ := (encode_ok_iff event bytes).mp hsent
  have hlen := length_message event hvalid
  refine ⟨hvalid, ?_, hbytes⟩
  simp only [maxTextBytes] at hlen
  omega

/-- What is behind the length is the message of a valid event. -/
theorem sent_payload (event : InputEvent) (bytes : Bytes)
    (hsent : ClientInputSender.encode event = .ok bytes) :
    event.validate = .ok () ∧
      bytes.drop 4 = Protobuf.encode (ClientInputSender.message event) := by
  obtain ⟨hvalid, hframed⟩ := sent_framed event bytes hsent
  exact ⟨hvalid, ((ControlFrames.framed_iff bytes _).mp hframed).2.2.2⟩

/-- What the client sends for an event, the host dispatches as that event, when the method
of its kind is given what is behind the length. -/
theorem client_host_agree (D : Decoders) (hD : D.ReadsBack) (event : InputEvent) (bytes : Bytes)
    (hsent : ClientInputSender.encode event = .ok bytes) (h : HostInputHandler) :
    D.method (kind event) h (bytes.drop 4) = (.ok (), h.dispatchEvent event) := by
  obtain ⟨hvalid, hpayload⟩ := sent_payload event bytes hsent
  rw [hpayload]
  exact method_message D hD event hvalid h

/-- The forward button goes down, from the client's frame to the host's log. -/
theorem client_host_agree_forward :
    ClientInputSender.encode (.mouseButton .forward true) = .ok [0, 0, 0, 4, 0x08, 0x04, 0x10, 0x01] ∧
      protoDecoders.handleMouseButton .new [0x08, 0x04, 0x10, 0x01] =
        (.ok (), HostInputHandler.new.dispatchEvent (.mouseButton .forward true)) := by
  have hsent : ClientInputSender.encode (.mouseButton .forward true) =
      .ok [0, 0, 0, 4, 0x08, 0x04, 0x10, 0x01] := by decide
  exact ⟨hsent, client_host_agree protoDecoders protoDecoders_readsBack _ _ hsent .new⟩

/-- The host gives each payload to the method of its kind. -/
def step (D : Decoders) (h : HostInputHandler) (call : Kind × Bytes) : Outcome :=
  D.method call.1 h call.2

/-- A stream of events is dispatched as it was sent: all of them, once each and in order. -/
theorem stream_dispatched (D : Decoders) (hD : D.ReadsBack) (h : HostInputHandler)
    (sent : List (InputEvent × Bytes))
    (hsent : ∀ s ∈ sent, ClientInputSender.encode s.1 = .ok s.2) :
    (Mealy.after (step D) h (sent.map fun s => (kind s.1, s.2.drop 4))).dispatched =
      h.dispatched ++ sent.map Prod.fst := by
  induction sent generalizing h with
  | nil => simp
  | cons s sent ih =>
    obtain ⟨hvalid, hpayload⟩ := sent_payload s.1 s.2 (hsent s List.mem_cons_self)
    have hfirst : step D h (kind s.1, s.2.drop 4) = (.ok (), h.dispatchEvent s.1) := by
      rw [step, hpayload]
      exact method_message D hD s.1 hvalid h
    have hrest := ih (h.dispatchEvent s.1) fun t ht => hsent t (List.mem_cons_of_mem s ht)
    rw [List.map_cons, Mealy.after_cons, hfirst, hrest]
    simp [HostInputHandler.dispatchEvent]

end HostInput
