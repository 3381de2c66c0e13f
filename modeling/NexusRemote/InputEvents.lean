import NexusRemote.ControlFrames

/-!
# Semantic input on the wire

An input event (`crates/nexus-input/src/events.rs`) is checked, written as one of
five Protobuf messages (`proto/nexus.proto`) and framed with its length
(`ClientInputSender` in `apps/nexus-client/src/receiver.rs`,
`crates/nexus-transport/src/control.rs`). The frame does not say which of the
five messages it holds.
-/

namespace InputEvents

open BigEndian Protobuf ControlFrames
open ProtobufReader (Codec)

/-- `from_bits` keeps the four low bits and nothing else makes one. -/
structure Modifiers where
  bits : UInt8
  canonical : bits < 16
  deriving DecidableEq

def Modifiers.none : Modifiers := ⟨0, by decide⟩

inductive MouseButton where
  | left
  | middle
  | right
  | back
  | forward
  deriving DecidableEq

inductive KeyAction where
  | down
  | up
  deriving DecidableEq

inductive InputEvent where
  | key (physicalCode logicalCode : UInt32) (action : KeyAction) (modifiers : Modifiers)
  | text (text : String)
  | mouseMove (x y : Int32)
  | mouseButton (button : MouseButton) (pressed : Bool)
  | mouseWheel (deltaX deltaY : Int32)
  deriving DecidableEq

inductive InputError where
  | textTooLong (maxBytes : Nat)
  | invalidPhysicalKeyCode
  | wheelDeltaOutOfRange
  deriving DecidableEq

/-- The result of an `i64` operation on coordinates, if it does not overflow. -/
def i64 (x : Int) : Option Int := if -2 ^ 63 ≤ x ∧ x < 2 ^ 63 then some x else none

theorem i64_of_mem {x : Int} (h : -2 ^ 63 ≤ x ∧ x < 2 ^ 63) : i64 x = some x := if_pos h

def maxTextBytes : Nat := 4096

/-- `(-120_000..=120_000).contains(delta)`. -/
def inWheelRange (delta : Int32) : Bool := -120000 ≤ delta.toInt && delta.toInt ≤ 120000

def InputEvent.validate : InputEvent → Except InputError Unit
  | .text content =>
    if content.utf8ByteSize > maxTextBytes then .error (.textTooLong maxTextBytes) else .ok ()
  | .key physicalCode _ _ _ =>
    if physicalCode.toNat > 65535 then .error .invalidPhysicalKeyCode else .ok ()
  | .mouseWheel deltaX deltaY =>
    if !inWheelRange deltaX || !inWheelRange deltaY then .error .wheelDeltaOutOfRange else .ok ()
  | _ => .ok ()

/-! ## The messages -/

structure KeyEvent where
  physicalCode : UInt32
  logicalCode : UInt32
  pressed : Bool
  modifiers : UInt32

def KeyEvent.fields (m : KeyEvent) : List Field :=
  uintField 1 m.physicalCode.toNat ++ uintField 2 m.logicalCode.toNat ++ boolField 3 m.pressed ++
    uintField 4 m.modifiers.toNat

structure TextInput where
  text : String

def TextInput.fields (m : TextInput) : List Field := bytesField 1 (utf8 m.text)

structure MouseMove where
  x : Int32
  y : Int32

def MouseMove.fields (m : MouseMove) : List Field := sintField 1 m.x.toInt ++ sintField 2 m.y.toInt

structure ProtoMouseButton where
  button : UInt32
  pressed : Bool

def ProtoMouseButton.fields (m : ProtoMouseButton) : List Field :=
  uintField 1 m.button.toNat ++ boolField 2 m.pressed

structure MouseWheel where
  deltaX : Int32
  deltaY : Int32

def MouseWheel.fields (m : MouseWheel) : List Field :=
  sintField 1 m.deltaX.toInt ++ sintField 2 m.deltaY.toInt

/-! ## Framing -/

/-- A message of any of the five types, as its fields. -/
def fieldsCodec : Codec (List Field) where
  encodedLen fields := (fields.map fun field => field.encode.length).sum
  encode := Protobuf.encode
  decode bytes := (Protobuf.decode bytes).elim (.error .invalidTag) .ok
  encodedLen_eq fields := by rw [Protobuf.encode, List.length_flatMap]
  decode_encode fields _ := by rw [decode_encode]; rfl

inductive ClientInputError where
  | input (error : InputError)
  | controlTooLarge (actual limit : Nat)
  deriving DecidableEq

namespace ClientInputSender

/-- The arm that the source calls unreachable is. -/
def frame (message : List Field) : Except ClientInputError Bytes :=
  match h : encodeFramedControl fieldsCodec message with
  | .ok framed => .ok framed
  | .error (.tooLarge actual limit) => .error (.controlTooLarge actual limit)
  | .error (.decode _) | .error .truncatedFrame | .error (.unknownKind _) =>
    False.elim (by simpa using encodeFramedControl_error _ _ _ h)

def buttonNumber : MouseButton → UInt32
  | .left => 0
  | .right => 1
  | .middle => 2
  | .back => 3
  | .forward => 4

/-- The message that is sent for an event. -/
def message : InputEvent → List Field
  | .key physicalCode logicalCode action modifiers =>
    KeyEvent.fields ⟨physicalCode, logicalCode, action = .down, modifiers.bits.toUInt32⟩
  | .text text => TextInput.fields ⟨text⟩
  | .mouseMove x y => MouseMove.fields ⟨x, y⟩
  | .mouseButton button pressed => ProtoMouseButton.fields ⟨buttonNumber button, pressed⟩
  | .mouseWheel deltaX deltaY => MouseWheel.fields ⟨deltaX, deltaY⟩

def encode (event : InputEvent) : Except ClientInputError Bytes :=
  match event.validate with
  | .error e => .error (.input e)
  | .ok () => frame (message event)

end ClientInputSender

/-! ## What is sent -/

open ClientInputSender

theorem length_boolField (tag : Nat) (b : Bool) (ht : tag < 16) :
    (Protobuf.encode (boolField tag b)).length ≤ 6 :=
  length_uintField tag _ ht (by cases b <;> decide)

theorem validate_text (content : String) :
    (InputEvent.text content).validate = .ok () ↔ content.utf8ByteSize ≤ 4096 := by
  by_cases hlong : content.utf8ByteSize ≤ 4096
  · simp [InputEvent.validate, maxTextBytes, Nat.not_lt.mpr hlong, hlong]
  · simp [InputEvent.validate, maxTextBytes, Nat.not_le.mp hlong]

/-- The message of a valid event is far below the limit of the control channel. -/
theorem length_message (event : InputEvent) (h : event.validate = .ok ()) :
    (Protobuf.encode (message event)).length ≤ maxTextBytes + 24 := by
  cases event with
  | key physicalCode logicalCode action modifiers =>
    have h1 := length_uintField 1 physicalCode.toNat (by decide) physicalCode.toNat_lt
    have h2 := length_uintField 2 logicalCode.toNat (by decide) logicalCode.toNat_lt
    have h3 := length_boolField 3 (action = .down) (by decide)
    have h4 := length_uintField 4 modifiers.bits.toUInt32.toNat (by decide) (UInt32.toNat_lt _)
    simp only [message, KeyEvent.fields, encode_append, List.length_append]
    omega
  | text text =>
    have hsize := (validate_text text).mp h
    have hlen : (utf8 text).length = text.utf8ByteSize := length_utf8 text
    have hfield := length_bytesField 1 (utf8 text) (by decide) (by omega)
    simp only [message, TextInput.fields, maxTextBytes]
    omega
  | mouseMove x y =>
    have h1 := length_uintField 1 _ (by decide) (zigzag_lt x)
    have h2 := length_uintField 2 _ (by decide) (zigzag_lt y)
    simp only [message, MouseMove.fields, sintField, encode_append, List.length_append]
    omega
  | mouseButton button pressed =>
    have h1 := length_uintField 1 (buttonNumber button).toNat (by decide) (UInt32.toNat_lt _)
    have h2 := length_boolField 2 pressed (by decide)
    simp only [message, ProtoMouseButton.fields, encode_append, List.length_append]
    omega
  | mouseWheel deltaX deltaY =>
    have h1 := length_uintField 1 _ (by decide) (zigzag_lt deltaX)
    have h2 := length_uintField 2 _ (by decide) (zigzag_lt deltaY)
    simp only [message, MouseWheel.fields, sintField, encode_append, List.length_append]
    omega

theorem frame_ok (message : List Field) (bytes : Bytes) :
    frame message = .ok bytes ↔ (Protobuf.encode message).length ≤ 65536 ∧
      bytes = counted 4 (Protobuf.encode message) := by
  refine Iff.trans ?_ (encodeFramedControl_ok fieldsCodec message bytes)
  unfold frame
  split
  case h_1 framed h => rw [h, Except.ok.injEq, Except.ok.injEq]
  case h_2 actual limit h => simp [h]
  all_goals
    rename_i h
    simpa using encodeFramedControl_error _ _ _ h

/-- Exactly the valid events are encoded, each as the frame of its message. -/
theorem encode_ok_iff (event : InputEvent) (bytes : Bytes) :
    ClientInputSender.encode event = .ok bytes ↔
      event.validate = .ok () ∧
        bytes = counted 4 (Protobuf.encode (message event)) := by
  unfold ClientInputSender.encode
  cases hv : event.validate with
  | error e => simp
  | ok u =>
    have hlen := length_message event hv
    have hfits : (Protobuf.encode (message event)).length ≤ 65536 := by
      rw [maxTextBytes] at hlen
      omega
    rw [frame_ok]
    simp only [hfits, true_and]

/-- Two valid events are sent as the same bytes exactly when their messages have the same
fields. -/
theorem encode_eq_iff (a b : InputEvent) (bytes : Bytes)
    (h : ClientInputSender.encode a = .ok bytes) :
    ClientInputSender.encode b = .ok bytes ↔ b.validate = .ok () ∧ message b = message a := by
  obtain ⟨-, rfl⟩ := (encode_ok_iff a bytes).mp h
  rw [encode_ok_iff]
  constructor
  · rintro ⟨hv, heq⟩
    have hpayload := congrArg (List.drop 4) heq
    rw [drop_counted, drop_counted] at hpayload
    exact ⟨hv, (encode_injective hpayload).symm⟩
  · rintro ⟨hv, heq⟩
    exact ⟨hv, by rw [heq]⟩

/-! ## Which events look alike -/

/-- The values behind the keys of a message, with the defaults for those that are left out. -/
@[ext]
structure Shape where
  first : Nat
  second : Nat
  third : Nat
  fourth : Nat
  content : Bytes

def shape : InputEvent → Shape
  | .key physicalCode logicalCode action modifiers =>
    ⟨physicalCode.toNat, logicalCode.toNat, (decide (action = .down)).toNat, modifiers.bits.toNat, []⟩
  | .text content => ⟨0, 0, 0, 0, utf8 content⟩
  | .mouseMove x y => ⟨zigzag x.toInt, zigzag y.toInt, 0, 0, []⟩
  | .mouseButton button pressed => ⟨(buttonNumber button).toNat, pressed.toNat, 0, 0, []⟩
  | .mouseWheel deltaX deltaY => ⟨zigzag deltaX.toInt, zigzag deltaY.toInt, 0, 0, []⟩

def layout (s : Shape) : List Field :=
  uintField 1 s.first ++ (uintField 2 s.second ++ (uintField 3 s.third ++
    (uintField 4 s.fourth ++ bytesField 1 s.content)))

theorem layout_injective (s t : Shape) (h : layout s = layout t) : s = t := by
  have huint : ∀ tag, uintAt (layout s) tag = uintAt (layout t) tag := by
    intro tag
    rw [h]
  have hbytes : bytesAt (layout s) 1 = bytesAt (layout t) 1 := by rw [h]
  simp only [layout, uintAt_uintField, uintAt_bytesField] at huint
  simp only [layout, bytesAt_uintField, bytesAt_bytesField] at hbytes
  have hself : ∀ n : Nat, (if n = 0 then 0 else n) = n := by
    intro n
    split <;> omega
  apply Shape.ext
  · simpa [hself] using huint 1
  · simpa [hself] using huint 2
  · simpa [hself] using huint 3
  · simpa [hself] using huint 4
  · exact hbytes

/-- A message is laid out by the values behind its keys alone. -/
theorem message_layout (event : InputEvent) : message event = layout (shape event) := by
  have hzero : ∀ tag, uintField tag 0 = [] := fun _ => rfl
  have hempty : bytesField 1 [] = [] := rfl
  cases event <;>
    simp [message, layout, shape, hzero, hempty, KeyEvent.fields, TextInput.fields, MouseMove.fields,
      ProtoMouseButton.fields, MouseWheel.fields, sintField, boolField]

theorem message_eq_iff (a b : InputEvent) : message a = message b ↔ shape a = shape b := by
  rw [message_layout, message_layout]
  constructor
  · exact layout_injective _ _
  · intro h
    rw [h]

theorem zigzag_toInt_injective (x y : Int32) (h : zigzag x.toInt = zigzag y.toInt) : x = y := by
  have hread := unzigzag_zigzag x.toInt
  rw [h, unzigzag_zigzag] at hread
  exact (Int32.toInt_inj.mp hread).symm

/-- Every 32-bit pattern is the code of a coordinate. -/
theorem exists_zigzag (n : Nat) (h : n < 2 ^ 32) : ∃ x : Int32, zigzag x.toInt = n := by
  refine ⟨Int32.ofInt (unzigzag n), ?_⟩
  have hrange : -2 ^ 31 ≤ unzigzag n ∧ unzigzag n < 2 ^ 31 := by
    unfold unzigzag
    split <;> omega
  rw [Int32.toInt_ofInt_of_le hrange.1 hrange.2, zigzag_unzigzag]

theorem zigzag_le_iff (x : Int) (n : Nat) : zigzag x ≤ 2 * n + 1 ↔ -(n : Int) - 1 ≤ x ∧ x ≤ n := by
  unfold zigzag
  split <;> omega

/-- The kinds of event. -/
inductive Kind where
  | key
  | text
  | mouseMove
  | mouseButton
  | mouseWheel
  deriving DecidableEq

def kind : InputEvent → Kind
  | .key .. => .key
  | .text _ => .text
  | .mouseMove .. => .mouseMove
  | .mouseButton .. => .mouseButton
  | .mouseWheel .. => .mouseWheel

/-- Within one kind the bytes tell events apart. -/
theorem shape_injective (a b : InputEvent) (hkind : kind a = kind b) (h : shape a = shape b) :
    a = b := by
  cases a <;> cases b <;> cases hkind
  case key p l action m p' l' action' m' =>
    simp only [shape, Shape.mk.injEq, and_true] at h
    obtain ⟨hp, hl, ha, hm⟩ := h
    obtain rfl := UInt32.toNat_inj.mp hp
    obtain rfl := UInt32.toNat_inj.mp hl
    obtain rfl : action = action' := by cases action <;> cases action' <;> first | rfl | cases ha
    have hbits := UInt8.toNat_inj.mp hm
    cases m
    cases m'
    cases hbits
    rfl
  case text s t =>
    simp only [shape, Shape.mk.injEq, true_and] at h
    rw [utf8_injective h]
  case mouseMove x y x' y' =>
    simp only [shape, Shape.mk.injEq, and_true] at h
    rw [zigzag_toInt_injective x x' h.1, zigzag_toInt_injective y y' h.2]
  case mouseButton button pressed button' pressed' =>
    simp only [shape, Shape.mk.injEq, and_true] at h
    obtain rfl : button = button' := by
      cases button <;> cases button' <;> first | rfl | cases h.1
    obtain rfl : pressed = pressed' := by
      cases pressed <;> cases pressed' <;> first | rfl | cases h.2
    rfl
  case mouseWheel x y x' y' =>
    simp only [shape, Shape.mk.injEq, and_true] at h
    rw [zigzag_toInt_injective x x' h.1, zigzag_toInt_injective y y' h.2]

/-- The events that no other event looks like: a key press, a key release with a modifier held, a
text that is not empty, and a move far enough out to be neither a key release nor a turn of the
wheel. -/
def Distinct : InputEvent → Prop
  | .key _ _ action modifiers => action = .down ∨ modifiers ≠ .none
  | .text content => content ≠ ""
  | .mouseMove x y =>
    ¬(-32768 ≤ x.toInt ∧ x.toInt ≤ 32767) ∧ ¬(inWheelRange x ∧ inWheelRange y)
  | .mouseButton .. => False
  | .mouseWheel .. => False

theorem validate_key (physicalCode logicalCode : UInt32) (action : KeyAction)
    (modifiers : Modifiers) :
    (InputEvent.key physicalCode logicalCode action modifiers).validate = .ok () ↔
      physicalCode.toNat ≤ 65535 := by
  simp only [InputEvent.validate]
  split <;> simp <;> omega

theorem validate_mouseWheel (deltaX deltaY : Int32) :
    (InputEvent.mouseWheel deltaX deltaY).validate = .ok () ↔
      inWheelRange deltaX ∧ inWheelRange deltaY := by
  simp only [InputEvent.validate]
  cases inWheelRange deltaX <;> cases inWheelRange deltaY <;> simp

/-- Whatever has only two numbers in it looks like a move of the mouse. -/
theorem exists_mouseMove (first second : Nat) (h1 : first < 2 ^ 32) (h2 : second < 2 ^ 32) :
    ∃ x y, shape (.mouseMove x y) = ⟨first, second, 0, 0, []⟩ := by
  obtain ⟨x, hx⟩ := exists_zigzag first h1
  obtain ⟨y, hy⟩ := exists_zigzag second h2
  exact ⟨x, y, by simp only [shape, hx, hy]⟩

theorem exists_lookalike (a : InputEvent) (h : ¬Distinct a) :
    ∃ b, b.validate = .ok () ∧ shape b = shape a ∧ kind b ≠ kind a := by
  cases a with
  | key physicalCode logicalCode action modifiers =>
    simp only [Distinct, not_or, not_not] at h
    obtain ⟨haction, rfl⟩ := h
    obtain ⟨x, y, hxy⟩ := exists_mouseMove _ _ physicalCode.toNat_lt logicalCode.toNat_lt
    refine ⟨.mouseMove x y, rfl, ?_, by simp [kind]⟩
    rw [hxy]
    simp [shape, haction, Modifiers.none]
  | text content =>
    simp only [Distinct, ne_eq, not_not] at h
    subst h
    exact ⟨.mouseMove 0 0, rfl, by simp [shape, utf8, zigzag], by simp [kind]⟩
  | mouseMove x y =>
    by_cases hkey : -32768 ≤ x.toInt ∧ x.toInt ≤ 32767
    · -- the first number fits a physical key code
      have hcode : zigzag x.toInt ≤ 65535 := (zigzag_le_iff x.toInt 32767).mpr (by omega)
      refine ⟨.key (.ofNat (zigzag x.toInt)) (.ofNat (zigzag y.toInt)) .up .none, ?_, ?_, by simp [kind]⟩
      · rw [validate_key, UInt32.toNat_ofNat_of_lt' (zigzag_lt x)]
        exact hcode
      · simp [shape, UInt32.toNat_ofNat_of_lt' (zigzag_lt x), UInt32.toNat_ofNat_of_lt' (zigzag_lt y),
          Modifiers.none]
    · have hwheel : inWheelRange x ∧ inWheelRange y := by
        by_contra hwheel
        exact h ⟨hkey, hwheel⟩
      exact ⟨.mouseWheel x y, (validate_mouseWheel x y).mpr hwheel, rfl, by simp [kind]⟩
  | mouseButton button pressed =>
    have hpressed : pressed.toNat < 2 ^ 32 := by cases pressed <;> decide
    obtain ⟨x, y, hxy⟩ := exists_mouseMove _ _ (buttonNumber button).toNat_lt hpressed
    exact ⟨.mouseMove x y, rfl, hxy, by simp [kind]⟩
  | mouseWheel deltaX deltaY => exact ⟨.mouseMove deltaX deltaY, rfl, rfl, by simp [kind]⟩

theorem kind_of_distinct (a b : InputEvent) (ha : Distinct a) (hb : b.validate = .ok ())
    (h : shape b = shape a) : kind b = kind a := by
  cases a with
  | key physicalCode logicalCode action modifiers =>
    -- only a key event has a third or a fourth number
    have hkey : (decide (action = .down)).toNat ≠ 0 ∨ modifiers.bits.toNat ≠ 0 := by
      apply ha.imp
      · rintro rfl
        decide
      · intro hm hbits
        apply hm
        cases modifiers with
        | mk bits canonical =>
          obtain rfl : bits = 0 := UInt8.toNat_inj.mp hbits
          rfl
    cases b <;> simp only [shape, Shape.mk.injEq] at h <;> first | rfl | omega
  | text content =>
    have hcontent : utf8 content ≠ [] := by
      intro hnil
      exact ha (utf8_eq_nil content hnil)
    cases b <;> simp only [shape, Shape.mk.injEq] at h
    case text => rfl
    all_goals exact absurd h.2.2.2.2.symm hcontent
  | mouseMove x y =>
    have hlarge : ¬zigzag x.toInt ≤ 65535 := by
      rw [zigzag_le_iff x.toInt 32767]
      intro hrange
      exact ha.1 (by omega)
    cases b with
    | mouseMove => rfl
    | key physicalCode logicalCode action modifiers =>
      rw [validate_key] at hb
      simp only [shape, Shape.mk.injEq] at h
      omega
    | text content =>
      simp only [shape, Shape.mk.injEq] at h
      omega
    | mouseButton button pressed =>
      have hbutton : (buttonNumber button).toNat ≤ 4 := by cases button <;> decide
      simp only [shape, Shape.mk.injEq] at h
      omega
    | mouseWheel deltaX deltaY =>
      simp only [shape, Shape.mk.injEq] at h
      rw [validate_mouseWheel, zigzag_toInt_injective _ _ h.1, zigzag_toInt_injective _ _ h.2.1] at hb
      exact absurd hb ha.2
  | mouseButton => exact ha.elim
  | mouseWheel => exact ha.elim

/-- What was sent can be read off the bytes exactly for the distinct events: every other event
shares its bytes with a valid event of another kind. -/
theorem input_unambiguous_iff (a : InputEvent) (bytes : Bytes)
    (h : ClientInputSender.encode a = .ok bytes) :
    (∀ b, ClientInputSender.encode b = .ok bytes → b = a) ↔ Distinct a := by
  constructor
  · intro hunique
    by_contra hdistinct
    obtain ⟨b, hvalid, hshape, hkind⟩ := exists_lookalike a hdistinct
    have hsame := (encode_eq_iff a b bytes h).mpr ⟨hvalid, (message_eq_iff b a).mpr hshape⟩
    exact hkind (by rw [hunique b hsame])
  · intro hdistinct b hb
    obtain ⟨hvalid, hmessage⟩ := (encode_eq_iff a b bytes h).mp hb
    have hshape := (message_eq_iff b a).mp hmessage
    exact shape_injective b a (kind_of_distinct a b hdistinct hvalid hshape) hshape

/-- A letter is sent as bytes that nothing else is sent as. -/
theorem input_unambiguous_text :
    ClientInputSender.encode (.text "a") = .ok [0, 0, 0, 3, 10, 1, 97] ∧ Distinct (.text "a") ∧
      ∀ b, ClientInputSender.encode b = .ok [0, 0, 0, 3, 10, 1, 97] → b = .text "a" := by
  have hsent : ClientInputSender.encode (.text "a") = .ok [0, 0, 0, 3, 10, 1, 97] := by
    decide +kernel
  have hdistinct : Distinct (.text "a") := by simp [Distinct]
  exact ⟨hsent, hdistinct, (input_unambiguous_iff _ _ hsent).mpr hdistinct⟩

/-- A key release is a move of the mouse, and a wheel at rest is a mouse at rest. -/
theorem input_lookalikes :
    ClientInputSender.encode (.key 4 4 .up .none) = .ok [0, 0, 0, 4, 8, 4, 16, 4] ∧
      ClientInputSender.encode (.mouseMove 2 2) = .ok [0, 0, 0, 4, 8, 4, 16, 4] ∧
      ClientInputSender.encode (.mouseWheel 0 0) = .ok [0, 0, 0, 0] ∧
      ClientInputSender.encode (.mouseMove 0 0) = .ok [0, 0, 0, 0] := by
  decide +kernel

end InputEvents
