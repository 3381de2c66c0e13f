import NexusRemote.ProtobufReader

/-!
# Control frames (`crates/nexus-transport/src/control.rs`)

A control message travels behind its length in four bytes. Cursor messages have
one byte more, inside the count, that says what they are. The two framings share
one limit, and the decoders take a buffer only when it is exactly one frame.
-/

namespace ControlFrames

open BigEndian ProtobufReader

def maxControlMessageSize : Nat := 64 * 1024

def controlFramePrefixSize : Nat := 4

def controlKindPrefixSize : Nat := 1

inductive ControlMessageKind where
  | cursorPosition
  | cursorShape
  deriving DecidableEq, Repr

inductive ControlMessageError where
  | tooLarge (actual limit : Nat)
  | decode (error : DecodeError)
  | truncatedFrame
  | unknownKind (kind : UInt8)
  deriving DecidableEq, Repr

/-- `kind as u8`. -/
def ControlMessageKind.byte : ControlMessageKind → UInt8
  | cursorPosition => 1
  | cursorShape => 2

/-- `ControlMessageKind::try_from`. -/
def ControlMessageKind.tryFrom (value : UInt8) : Except ControlMessageError ControlMessageKind :=
  if value = 1 then .ok .cursorPosition
  else if value = 2 then .ok .cursorShape
  else .error (.unknownKind value)

theorem tryFrom_ok (value : UInt8) (kind : ControlMessageKind) :
    ControlMessageKind.tryFrom value = .ok kind ↔ value = kind.byte := by
  unfold ControlMessageKind.tryFrom
  constructor
  · intro h
    split at h
    · cases h
      assumption
    · split at h
      · cases h
        assumption
      · cases h
  · rintro rfl
    cases kind <;> rfl

section Framing

variable {M : Type} (C : Codec M)

def encodeControl (message : M) : Except ControlMessageError Bytes :=
  if C.encodedLen message > maxControlMessageSize then
    .error (.tooLarge (C.encodedLen message) maxControlMessageSize)
  else .ok (C.encode message)

def decodeControl (bytes : Bytes) : Except ControlMessageError M :=
  if bytes.length > maxControlMessageSize then
    .error (.tooLarge bytes.length maxControlMessageSize)
  else
    match C.decode bytes with
    | .error e => .error (.decode e)
    | .ok message => .ok message

def encodeFramedControl (message : M) : Except ControlMessageError Bytes :=
  match encodeControl C message with
  | .error e => .error e
  | .ok payload => .ok (toBytes controlFramePrefixSize payload.length ++ payload)

/-- The length that the first four bytes give. -/
def declared (bytes : Bytes) : Nat := ofBytes (bytes.take controlFramePrefixSize)

def decodeFramedControl (bytes : Bytes) : Except ControlMessageError M :=
  if bytes.length < controlFramePrefixSize then .error .truncatedFrame
  else if declared bytes > maxControlMessageSize then
    .error (.tooLarge (declared bytes) maxControlMessageSize)
  else if bytes.length ≠ controlFramePrefixSize + declared bytes then .error .truncatedFrame
  else decodeControl C (bytes.drop controlFramePrefixSize)

/-- The sum of a length below the limit and one does not overflow. -/
def encodeFramedControlEnvelope (kind : ControlMessageKind) (message : M) :
    Except ControlMessageError Bytes :=
  match encodeControl C message with
  | .error e => .error e
  | .ok payload =>
    if controlKindPrefixSize + payload.length > maxControlMessageSize then
      .error (.tooLarge (controlKindPrefixSize + payload.length) maxControlMessageSize)
    else
      .ok (toBytes controlFramePrefixSize (controlKindPrefixSize + payload.length) ++
        kind.byte :: payload)

end Framing

/-- The kind, and the bytes that are left for the message. -/
def decodeFramedControlEnvelope (bytes : Bytes) :
    Except ControlMessageError (ControlMessageKind × Bytes) :=
  if bytes.length < controlFramePrefixSize + controlKindPrefixSize then .error .truncatedFrame
  else if declared bytes > maxControlMessageSize then
    .error (.tooLarge (declared bytes) maxControlMessageSize)
  else if bytes.length ≠ controlFramePrefixSize + declared bytes ∨
      declared bytes < controlKindPrefixSize then .error .truncatedFrame
  else
    match bytes.drop controlFramePrefixSize with
    | [] => .error .truncatedFrame
    | value :: payload =>
      match ControlMessageKind.tryFrom value with
      | .error e => .error e
      | .ok kind => .ok (kind, payload)

/-! ## What is sent -/

section Sent

variable {M : Type} (C : Codec M)

theorem encodeControl_fits (message : M) (h : (C.encode message).length ≤ 65536) :
    encodeControl C message = .ok (C.encode message) := by
  have hfits : ¬C.encodedLen message > maxControlMessageSize := by
    rw [C.encodedLen_eq]
    exact Nat.not_lt.mpr h
  rw [encodeControl, if_neg hfits]

theorem encodeControl_large (message : M) (h : 65536 < (C.encode message).length) :
    encodeControl C message = .error (.tooLarge (C.encode message).length maxControlMessageSize) := by
  have hlarge : C.encodedLen message > maxControlMessageSize := by
    rw [C.encodedLen_eq]
    exact h
  rw [encodeControl, if_pos hlarge, C.encodedLen_eq]

/-- A message is framed when it is at most as long as the limit. -/
theorem encodeFramedControl_ok (message : M) (bytes : Bytes) :
    encodeFramedControl C message = .ok bytes ↔
      (C.encode message).length ≤ 65536 ∧ bytes = counted 4 (C.encode message) := by
  by_cases hle : (C.encode message).length ≤ 65536
  · simp only [encodeFramedControl, encodeControl_fits C message hle, Except.ok.injEq, hle, true_and]
    exact eq_comm
  · simp [encodeFramedControl, encodeControl_large C message (by omega), hle]

/-- Only the size can be wrong. -/
theorem encodeFramedControl_error (message : M) (e : ControlMessageError)
    (h : encodeFramedControl C message = .error e) :
    ∃ actual limit, e = .tooLarge actual limit := by
  unfold encodeFramedControl encodeControl at h
  split_ifs at h
  cases h
  exact ⟨_, _, rfl⟩

/-- In an envelope the kind takes one byte of the limit. -/
theorem encodeFramedControlEnvelope_ok (kind : ControlMessageKind) (message : M) (bytes : Bytes) :
    encodeFramedControlEnvelope C kind message = .ok bytes ↔
      (C.encode message).length ≤ 65535 ∧ bytes = counted 4 (kind.byte :: C.encode message) := by
  by_cases hle : (C.encode message).length ≤ 65536
  · by_cases hroom : (C.encode message).length ≤ 65535
    · have hfits : ¬controlKindPrefixSize + (C.encode message).length > maxControlMessageSize := by
        simp only [controlKindPrefixSize, maxControlMessageSize]
        omega
      simp only [encodeFramedControlEnvelope, encodeControl_fits C message hle, hfits, if_false,
        Except.ok.injEq, hroom, true_and]
      rw [counted, List.length_cons, Nat.add_comm (C.encode message).length]
      exact eq_comm
    · have hlarge : controlKindPrefixSize + (C.encode message).length > maxControlMessageSize := by
        simp only [controlKindPrefixSize, maxControlMessageSize]
        omega
      simp [encodeFramedControlEnvelope, encodeControl_fits C message hle, hlarge, hroom]
  · have hroom : ¬(C.encode message).length ≤ 65535 := by omega
    simp [encodeFramedControlEnvelope, encodeControl_large C message (by omega), hroom]

end Sent

/-! ## What is accepted -/

/-- A length within the limit in four bytes, and exactly that many bytes behind it. -/
def Framed (bytes payload : Bytes) : Prop :=
  payload.length ≤ 65536 ∧ bytes = counted 4 payload

/-- The first two checks of both decoders, and what they establish. -/
theorem framed_iff (bytes payload : Bytes) :
    Framed bytes payload ↔ 4 ≤ bytes.length ∧ declared bytes ≤ 65536 ∧
      bytes.length = 4 + declared bytes ∧ bytes.drop 4 = payload := by
  constructor
  · rintro ⟨hle, rfl⟩
    have hdeclared : declared (counted 4 payload) = payload.length := by
      rw [declared, controlFramePrefixSize, take_counted]
      exact ofBytes_toBytes_of_lt 4 _ (by omega)
    rw [hdeclared]
    simp [hle]
  · rintro ⟨-, hle, hlen, rfl⟩
    refine ⟨?_, (counted_drop 4 bytes hlen).symm⟩
    rw [List.length_drop]
    omega

section Accepted

variable {M : Type} (C : Codec M)

theorem decodeControl_ok (bytes : Bytes) (message : M) :
    decodeControl C bytes = .ok message ↔ bytes.length ≤ 65536 ∧ C.decode bytes = .ok message := by
  unfold decodeControl
  by_cases hle : bytes.length ≤ 65536
  · have hfits : ¬bytes.length > maxControlMessageSize := Nat.not_lt.mpr hle
    rw [if_neg hfits]
    cases C.decode bytes <;> simp [hle]
  · have hlarge : bytes.length > maxControlMessageSize := Nat.lt_of_not_le hle
    rw [if_pos hlarge]
    simp [hle]

theorem decodeFramedControl_ok (bytes : Bytes) (message : M) :
    decodeFramedControl C bytes = .ok message ↔
      ∃ payload, Framed bytes payload ∧ C.decode payload = .ok message := by
  constructor
  · intro h
    unfold decodeFramedControl at h
    split at h
    · cases h
    rename_i hsize
    split at h
    · cases h
    rename_i hlimit
    split at h
    · cases h
    rename_i hlen
    have hframed : Framed bytes (bytes.drop 4) := (framed_iff bytes _).mpr
      ⟨Nat.not_lt.mp hsize, Nat.not_lt.mp hlimit, not_not.mp hlen, rfl⟩
    exact ⟨_, hframed, ((decodeControl_ok C _ message).mp h).2⟩
  · rintro ⟨payload, hframed, hdecode⟩
    have hle := hframed.1
    obtain ⟨hsize, hlimit, hlen, rfl⟩ := (framed_iff bytes payload).mp hframed
    have hsize : ¬bytes.length < controlFramePrefixSize := Nat.not_lt.mpr hsize
    have hlimit : ¬declared bytes > maxControlMessageSize := Nat.not_lt.mpr hlimit
    have hlen : ¬bytes.length ≠ controlFramePrefixSize + declared bytes := not_not.mpr hlen
    rw [decodeFramedControl, if_neg hsize, if_neg hlimit, if_neg hlen]
    exact (decodeControl_ok C _ message).mpr ⟨hle, hdecode⟩

end Accepted

theorem decodeFramedControlEnvelope_ok (bytes payload : Bytes) (kind : ControlMessageKind) :
    decodeFramedControlEnvelope bytes = .ok (kind, payload) ↔
      Framed bytes (kind.byte :: payload) := by
  constructor
  · intro h
    unfold decodeFramedControlEnvelope at h
    split at h
    · cases h
    rename_i hsize
    split at h
    · cases h
    rename_i hlimit
    split at h
    · cases h
    rename_i hlen
    obtain ⟨hlen, -⟩ := not_or.mp hlen
    split at h
    · cases h
    rename_i value rest hrest
    split at h
    · cases h
    rename_i found hkind
    cases h
    rw [(tryFrom_ok value kind).mp hkind] at hrest
    have hsize : 4 + 1 ≤ bytes.length := Nat.not_lt.mp hsize
    exact (framed_iff bytes _).mpr ⟨by omega, Nat.not_lt.mp hlimit, not_not.mp hlen, hrest⟩
  · intro hframed
    obtain ⟨-, hlimit, hlen, hrest⟩ := (framed_iff bytes _).mp hframed
    have hcount : 1 ≤ declared bytes := by
      have hdrop := congrArg List.length hrest
      rw [List.length_drop, List.length_cons] at hdrop
      omega
    have hsize : ¬bytes.length < controlFramePrefixSize + controlKindPrefixSize := by
      simp only [controlFramePrefixSize, controlKindPrefixSize]
      omega
    have hexact : ¬(bytes.length ≠ controlFramePrefixSize + declared bytes ∨
        declared bytes < controlKindPrefixSize) := by
      simp only [controlFramePrefixSize, controlKindPrefixSize]
      omega
    have hlimit : ¬declared bytes > maxControlMessageSize := Nat.not_lt.mpr hlimit
    rw [decodeFramedControlEnvelope, if_neg hsize, if_neg hlimit, if_neg hexact]
    simp only [controlFramePrefixSize, hrest, (tryFrom_ok kind.byte kind).mpr rfl]

/-- No frame is the beginning of another one. -/
theorem framed_unextended (bytes bytes' payload payload' : Bytes) (h : Framed bytes payload)
    (h' : Framed bytes' payload') (hbegin : bytes <+: bytes') : bytes = bytes' := by
  obtain ⟨hle, rfl⟩ := h
  obtain ⟨hle', rfl⟩ := h'
  rw [counted_unextended 4 payload payload' (by omega) (by omega) hbegin]

/-! ## Exactness -/

section Exact

variable {M : Type} (C : Codec M)

/-- One of the two decoders takes the buffer. -/
def Accepted (bytes : Bytes) : Prop :=
  (∃ message, decodeFramedControl C bytes = .ok message) ∨
    ∃ kind payload, decodeFramedControlEnvelope bytes = .ok (kind, payload)

theorem framed_of_accepted (bytes : Bytes) (h : Accepted C bytes) :
    ∃ payload, Framed bytes payload := by
  obtain ⟨message, h⟩ | ⟨kind, payload, h⟩ := h
  · obtain ⟨payload, hframed, -⟩ := (decodeFramedControl_ok C bytes message).mp h
    exact ⟨payload, hframed⟩
  · exact ⟨_, (decodeFramedControlEnvelope_ok bytes payload kind).mp h⟩

theorem frame_reads_back (message : M) (bytes : Bytes)
    (h : encodeFramedControl C message = .ok bytes) :
    decodeFramedControl C bytes = .ok message := by
  obtain ⟨hle, rfl⟩ := (encodeFramedControl_ok C message bytes).mp h
  exact (decodeFramedControl_ok C _ message).mpr
    ⟨C.encode message, ⟨hle, rfl⟩, C.decode_encode message (by omega)⟩

theorem envelope_reads_back (kind : ControlMessageKind) (message : M) (bytes : Bytes)
    (h : encodeFramedControlEnvelope C kind message = .ok bytes) :
    decodeFramedControlEnvelope bytes = .ok (kind, C.encode message) := by
  obtain ⟨hle, rfl⟩ := (encodeFramedControlEnvelope_ok C kind message bytes).mp h
  apply (decodeFramedControlEnvelope_ok _ _ kind).mpr
  refine ⟨?_, rfl⟩
  rw [List.length_cons]
  omega

theorem error_iff {α ε : Type} (r : Except ε α) : (∃ e, r = .error e) ↔ ¬∃ a, r = .ok a := by
  cases r <;> simp

/-- The framing of every type of messages is exact: what is encoded reads back, a message is
refused for its size alone, and the decoders take one whole frame and nothing else. -/
theorem control_framing_exact :
    (∀ message bytes, encodeFramedControl C message = .ok bytes →
        decodeFramedControl C bytes = .ok message) ∧
      (∀ kind message bytes, encodeFramedControlEnvelope C kind message = .ok bytes →
        decodeFramedControlEnvelope bytes = .ok (kind, C.encode message)) ∧
      (∀ message, (∃ e, encodeFramedControl C message = .error e) ↔
        65536 < (C.encode message).length) ∧
      (∀ kind message, (∃ e, encodeFramedControlEnvelope C kind message = .error e) ↔
        65535 < (C.encode message).length) ∧
      (∀ bytes, Accepted C bytes → ∃ payload : Bytes, payload.length ≤ 65536 ∧
        bytes = toBytes 4 payload.length ++ payload) ∧
      ∀ bytes bytes', Accepted C bytes → Accepted C bytes' → bytes <+: bytes' → bytes = bytes' := by
  refine ⟨frame_reads_back C, envelope_reads_back C, ?_, ?_, framed_of_accepted C, ?_⟩
  · intro message
    simp only [error_iff, encodeFramedControl_ok]
    simp
  · intro kind message
    simp only [error_iff, encodeFramedControlEnvelope_ok]
    simp
  · intro bytes bytes' h h' hbegin
    obtain ⟨payload, hframed⟩ := framed_of_accepted C bytes h
    obtain ⟨payload', hframed'⟩ := framed_of_accepted C bytes' h'
    exact framed_unextended bytes bytes' payload payload' hframed hframed' hbegin

end Exact

end ControlFrames
