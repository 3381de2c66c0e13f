import NexusRemote.ChunkedStreams
import NexusRemote.JsonText
import NexusRemote.RelayServer

/-!
# The handshake on a relay stream (`apps/nexus-relay/src/forwarder.rs`)

An endpoint opens a stream and writes its token as JSON behind a length of four
bytes; the relay also takes JSON without a length, which it recognises by the
opening brace. Streams arrive in chunks. The JSON reader and the text of the
transport's error are parameters.
-/

namespace RelayHandshake

open BigEndian ChunkedStreams EntityId JsonText RelayTokens RelayServer

inductive RelayServerError where
  | protocol (text : String)
  | handshakeRejected (text : String)
  deriving DecidableEq

structure RelayHandshakeRequest where
  token : RelayToken
  deriving DecidableEq

def maxHandshakeMsgSize : Nat := 64 * 1024

/-- `serde_json::from_slice` at three types, with the text of its error, and the text of
`ReadExactError::FinishedEarly`. -/
structure External where
  request : Bytes → Except String RelayHandshakeRequest
  token : Bytes → Except String RelayToken
  response : Bytes → Except String RelayHandshakeResponse
  finishedEarly : Nat → String

/-! ## The relay -/

/-- A request, or else a bare token. -/
def parseToken (J : External) (payload : Bytes) : Except RelayServerError RelayToken :=
  match J.request payload with
  | .ok req => .ok req.token
  | .error _ =>
    match J.token payload with
    | .ok token => .ok token
    | .error err => .error (.protocol ("failed to parse RelayToken: " ++ err))

def readPayload (J : External) (recv : ByteStream) : Except RelayServerError Bytes :=
  match recv.fill 4 with
  | ([], _) => .error (.protocol "empty handshake stream")
  | (first :: initial, rest) =>
    if first = 0x7b then
      -- JSON without a length, up to the end of the stream
      match rest.collect maxHandshakeMsgSize 1024 (first :: initial) with
      | none => .error (.protocol "handshake message exceeded maximum size")
      | some buf => .ok buf
    else if (first :: initial).length < 4 then
      .error (.protocol "incomplete length prefix in handshake stream")
    else
      let length := ofBytes (first :: initial)
      if length = 0 ∨ length > maxHandshakeMsgSize then
        .error (.protocol ("invalid handshake payload length: " ++ toString length))
      else
        match rest.readExact length with
        | .error n => .error (.protocol ("failed to read handshake payload: " ++ J.finishedEarly n))
        | .ok (buf, _) => .ok buf

def readHandshakeToken (J : External) (recv : ByteStream) : Except RelayServerError RelayToken :=
  match readPayload J recv with
  | .error err => .error err
  | .ok payload => parseToken J payload

/-! ## The endpoint -/

def roleName : EndpointRole → String
  | .client => "Client"
  | .host => "Host"

def tokenRecord (t : RelayToken) : Record :=
  [("session_id", .scalar (.text t.sessionId.value)),
    ("relay_id", .scalar (.text t.relayId)),
    ("client_device_id", .scalar (.text t.clientDeviceId.value)),
    ("target_device_id", .scalar (.text t.targetDeviceId.value)),
    ("role", .scalar (.text (roleName t.role))),
    ("expires_at", .scalar (.number t.expiresAt.toNat)),
    ("signature", .array (t.signature.map fun b => .number b.toNat))]

/-- `serde_json::to_vec`; a request has nothing that could fail to be written. -/
def encodeRequest (req : RelayHandshakeRequest) : Bytes :=
  utf8 (String.ofList ('\x7b' :: (writeText "token" ++ ':' :: write (tokenRecord req.token) ++ ['\x7d'])))

/-- What an endpoint writes before it finishes its side of the stream. -/
def writtenRequest (token : RelayToken) : Bytes :=
  toBytes 4 (encodeRequest ⟨token⟩).length ++ encodeRequest ⟨token⟩

def readResponse (J : External) (recv : ByteStream) :
    Except RelayServerError RelayHandshakeResponse :=
  match recv.readExact 4 with
  | .error n =>
    .error (.protocol ("failed to read handshake response length: " ++ J.finishedEarly n))
  | .ok (lenBuf, rest) =>
    if ofBytes lenBuf > maxHandshakeMsgSize then
      .error (.protocol "handshake response payload too large")
    else
      match rest.readExact (ofBytes lenBuf) with
      | .error n =>
        .error (.protocol ("failed to read handshake response body: " ++ J.finishedEarly n))
      | .ok (respBuf, _) =>
        match J.response respBuf with
        | .error err => .error (.protocol ("failed to parse handshake response: " ++ err))
        | .ok resp =>
          if !resp.success then
            .error (.handshakeRejected (resp.error.getD "handshake rejected"))
          else .ok resp

/-- The bytes written, and the result once the relay's side of the stream has arrived. -/
def performClientHandshake (J : External) (token : RelayToken) (recv : ByteStream) :
    Bytes × Except RelayServerError RelayHandshakeResponse :=
  (writtenRequest token, readResponse J recv)

/-! ## The payload as a function of the bytes -/

/-- What the relay takes from a stream, whatever its chunks. -/
def payloadOf (J : External) (bytes : Bytes) : Except RelayServerError Bytes :=
  match bytes with
  | [] => .error (.protocol "empty handshake stream")
  | first :: _ =>
    if first = 0x7b then
      if bytes.length ≤ maxHandshakeMsgSize then .ok bytes
      else .error (.protocol "handshake message exceeded maximum size")
    else if bytes.length < 4 then
      .error (.protocol "incomplete length prefix in handshake stream")
    else
      let length := ofBytes (bytes.take 4)
      if length = 0 ∨ length > maxHandshakeMsgSize then
        .error (.protocol ("invalid handshake payload length: " ++ toString length))
      else if (bytes.drop 4).length < length then
        .error (.protocol
          ("failed to read handshake payload: " ++ J.finishedEarly (bytes.drop 4).length))
      else .ok ((bytes.drop 4).take length)

theorem readPayload_eq (J : External) (recv : ByteStream) :
    readPayload J recv = payloadOf J recv.bytes := by
  obtain ⟨htake, hdrop⟩ := recv.fill_eq 4
  rcases hfill : recv.fill 4 with ⟨initial, rest⟩
  rw [hfill] at htake hdrop
  simp only at htake hdrop
  rw [readPayload, hfill]
  cases hbytes : recv.bytes with
  | nil =>
    rw [hbytes] at htake
    subst htake
    rfl
  | cons first more =>
    rw [hbytes] at htake hdrop
    have hjoin : first :: more = first :: more.take 3 ++ rest.bytes := by
      rw [hdrop]
      exact (List.take_append_drop 4 (first :: more)).symm
    have hlength : (first :: more).length = (first :: more.take 3).length + rest.bytes.length := by
      rw [← List.length_append, ← hjoin]
    have hinitial : (first :: more.take 3).length ≤ 4 := by
      rw [List.length_cons, List.length_take]
      omega
    subst htake
    simp only [payloadOf, List.take_succ_cons]
    by_cases hbrace : first = 0x7b
    · have hsmall : (first :: more.take 3).length ≤ maxHandshakeMsgSize := by
        rw [maxHandshakeMsgSize]
        omega
      rw [if_pos hbrace, if_pos hbrace, rest.collect_eq (by omega) _ hsmall, ← hlength, ← hjoin]
      by_cases hfits : (first :: more).length ≤ maxHandshakeMsgSize
      · rw [if_pos hfits, if_pos hfits]
      · rw [if_neg hfits, if_neg hfits]
    · have hshort : (first :: more.take 3).length < 4 ↔ (first :: more).length < 4 := by
        simp only [List.length_cons, List.length_take]
        omega
      rw [if_neg hbrace, if_neg hbrace]
      simp only [hshort]
      by_cases hcount : (first :: more).length < 4
      · rw [if_pos hcount, if_pos hcount]
      · rw [if_neg hcount, if_neg hcount, ← hdrop]
        by_cases hlen : ofBytes (first :: more.take 3) = 0 ∨
            ofBytes (first :: more.take 3) > maxHandshakeMsgSize
        · rw [if_pos hlen]
          exact (if_pos hlen).symm
        · rw [if_neg hlen]
          refine Eq.trans ?_ (if_neg hlen).symm
          by_cases hless : rest.bytes.length < ofBytes (first :: more.take 3)
          · rw [ByteStream.readExact_of_lt hless]
            exact (if_pos hless).symm
          · obtain ⟨last, hread, -⟩ := ByteStream.readExact_of_le (Nat.le_of_not_lt hless)
            rw [hread]
            exact (if_neg hless).symm

theorem readHandshakeToken_eq (J : External) (recv : ByteStream) :
    readHandshakeToken J recv =
      match payloadOf J recv.bytes with
      | .error err => .error err
      | .ok payload => parseToken J payload := by
  rw [readHandshakeToken, readPayload_eq]

/-! ## The two formats -/

section

variable {J : External} {bytes : Bytes}

theorem payloadOf_brace (h : bytes.head? = some 0x7b) :
    payloadOf J bytes =
      if bytes.length ≤ maxHandshakeMsgSize then .ok bytes
      else .error (.protocol "handshake message exceeded maximum size") := by
  cases bytes with
  | nil => cases h
  | cons first more =>
    rw [List.head?_cons, Option.some.injEq] at h
    exact if_pos h

/-- A stream with a length in front: the length, that many bytes, and anything behind them. -/
structure Prefixed (bytes payload : Bytes) : Prop where
  start : bytes.head? ≠ some 0x7b
  layout : ∃ rest, bytes = toBytes 4 payload.length ++ payload ++ rest
  nonempty : 1 ≤ payload.length
  length_le : payload.length ≤ maxHandshakeMsgSize

theorem payloadOf_prefixed {payload : Bytes} (h : Prefixed bytes payload) :
    payloadOf J bytes = .ok payload := by
  obtain ⟨hstart, ⟨rest, hlayout⟩, hnonempty, hle⟩ := h
  have hlength : ofBytes (toBytes 4 payload.length) = payload.length :=
    ofBytes_toBytes_of_lt 4 _ (by rw [maxHandshakeMsgSize] at hle; omega)
  have htake : bytes.take 4 = toBytes 4 payload.length := by
    rw [hlayout, List.append_assoc, List.take_left' (length_toBytes 4 _)]
  have hdrop : bytes.drop 4 = payload ++ rest := by
    rw [hlayout, List.append_assoc, List.drop_left' (length_toBytes 4 _)]
  have hfour : 4 ≤ bytes.length := by
    rw [hlayout, List.append_assoc, List.length_append, length_toBytes]
    omega
  cases bytes with
  | nil => cases hfour
  | cons first more =>
    rw [List.head?_cons, ne_eq, Option.some.injEq] at hstart
    simp only [payloadOf]
    rw [if_neg hstart, if_neg (by omega), htake, hdrop, hlength, if_neg (by omega),
      if_neg (by rw [List.length_append]; omega), List.take_left' rfl]

/-- Anything else is an error. -/
theorem payloadOf_error (hbrace : bytes.head? ≠ some 0x7b) (h : ¬∃ payload, Prefixed bytes payload) :
    ∃ text, payloadOf J bytes = .error (.protocol text) := by
  cases bytes with
  | nil => exact ⟨_, rfl⟩
  | cons first more =>
    have hfirst := hbrace
    rw [List.head?_cons, ne_eq, Option.some.injEq] at hfirst
    simp only [payloadOf]
    rw [if_neg hfirst]
    split
    case isTrue => exact ⟨_, rfl⟩
    case isFalse hcount =>
      split
      case isTrue => exact ⟨_, rfl⟩
      case isFalse hlen =>
        split
        case isTrue => exact ⟨_, rfl⟩
        case isFalse hless =>
          -- nothing is left to object to, so the stream had a length in front after all
          refine absurd ⟨((first :: more).drop 4).take (ofBytes ((first :: more).take 4)), ?_⟩ h
          have hpayload : (((first :: more).drop 4).take (ofBytes ((first :: more).take 4))).length =
              ofBytes ((first :: more).take 4) := by
            rw [List.length_take]
            omega
          have hfour : ((first :: more).take 4).length = 4 := by
            rw [List.length_take]
            omega
          refine ⟨hbrace, ⟨((first :: more).drop 4).drop (ofBytes ((first :: more).take 4)), ?_⟩, ?_, ?_⟩
          · have hback := toBytes_ofBytes ((first :: more).take 4)
            rw [hfour] at hback
            rw [hpayload, hback, List.append_assoc, List.take_append_drop, List.take_append_drop]
          · omega
          · omega

end

theorem encodeRequest_nonempty (req : RelayHandshakeRequest) : 1 ≤ (encodeRequest req).length := by
  rw [Nat.one_le_iff_ne_zero, ne_eq, List.length_eq_zero_iff]
  intro hnil
  have hempty := congrArg String.toList (utf8_eq_nil _ hnil)
  rw [String.toList_ofList] at hempty
  cases hempty

/-- The first byte of a short length is zero, so it is no opening brace. -/
theorem head_toBytes {n : Nat} (h : n ≤ maxHandshakeMsgSize) (more : Bytes) :
    (toBytes 4 n ++ more).head? = some 0 := by
  have hzero : n / 256 / 256 / 256 = 0 := by
    rw [maxHandshakeMsgSize] at h
    omega
  simp [toBytes, hzero]

/-- What an endpoint writes has a length in front. -/
theorem prefixed_writtenRequest (token : RelayToken)
    (hle : (encodeRequest ⟨token⟩).length ≤ maxHandshakeMsgSize) :
    Prefixed (writtenRequest token) (encodeRequest ⟨token⟩) := by
  refine ⟨?_, ⟨[], (List.append_nil _).symm⟩, encodeRequest_nonempty _, hle⟩
  rw [writtenRequest, head_toBytes hle]
  decide

/-- The relay's reading of a handshake depends on the bytes only, in either format, and reads
back what an endpoint writes. -/
theorem handshake_parsing (J : External) :
    (∀ recv recv' : ByteStream, recv.bytes = recv'.bytes →
      readHandshakeToken J recv = readHandshakeToken J recv') ∧
    (∀ recv : ByteStream, recv.bytes.head? = some 0x7b → readHandshakeToken J recv =
      if recv.bytes.length ≤ 65536 then parseToken J recv.bytes
      else .error (.protocol "handshake message exceeded maximum size")) ∧
    (∀ recv : ByteStream, recv.bytes.head? ≠ some 0x7b →
      (∀ payload rest, recv.bytes = toBytes 4 payload.length ++ payload ++ rest →
        1 ≤ payload.length → payload.length ≤ 65536 →
        readHandshakeToken J recv = parseToken J payload) ∧
      ((¬∃ payload rest, recv.bytes = toBytes 4 payload.length ++ payload ++ rest ∧
          1 ≤ payload.length ∧ payload.length ≤ 65536) →
        ∃ text, readHandshakeToken J recv = .error (.protocol text))) ∧
    (∀ token, J.request (encodeRequest ⟨token⟩) = .ok ⟨token⟩ →
      (encodeRequest ⟨token⟩).length ≤ 65536 →
      ∀ recv recv' : ByteStream, recv.bytes = (performClientHandshake J token recv').1 →
        readHandshakeToken J recv = .ok token) := by
  refine ⟨?_, ?_, ?_, ?_⟩
  · intro recv recv' hsame
    rw [readHandshakeToken_eq, readHandshakeToken_eq, hsame]
  · intro recv hbrace
    rw [readHandshakeToken_eq, payloadOf_brace hbrace]
    by_cases hfits : recv.bytes.length ≤ maxHandshakeMsgSize
    · rw [if_pos hfits]
      exact (if_pos hfits).symm
    · rw [if_neg hfits]
      exact (if_neg hfits).symm
  · intro recv hbrace
    constructor
    · intro payload rest hlayout hnonempty hle
      rw [readHandshakeToken_eq, payloadOf_prefixed ⟨hbrace, ⟨rest, hlayout⟩, hnonempty, hle⟩]
    · intro hother
      have hnone : ¬∃ payload, Prefixed recv.bytes payload := by
        rintro ⟨payload, hprefixed⟩
        obtain ⟨rest, hlayout⟩ := hprefixed.layout
        exact hother ⟨payload, rest, hlayout, hprefixed.nonempty, hprefixed.length_le⟩
      obtain ⟨text, htext⟩ := payloadOf_error (J := J) hbrace hnone
      exact ⟨text, by rw [readHandshakeToken_eq, htext]⟩
  · intro token hround hle recv recv' hwritten
    have hprefixed := prefixed_writtenRequest token hle
    rw [readHandshakeToken_eq, hwritten, performClientHandshake, payloadOf_prefixed hprefixed]
    simp only [parseToken, hround]

/-! ## A JSON reader -/

def roleOf (name : String) : Option EndpointRole :=
  if name = "Client" then some .client else if name = "Host" then some .host else none

theorem roleOf_roleName (role : EndpointRole) : roleOf (roleName role) = some role := by
  cases role <;> rfl

def byteOf : Scalar → Option UInt8
  | .number n => some (UInt8.ofNat n)
  | .text _ => none

theorem bytesOf_numbers (bytes : Bytes) :
    (bytes.map fun b => Scalar.number b.toNat).mapM byteOf = some bytes := by
  induction bytes with
  | nil => rfl
  | cons b bytes ih => simp only [List.map_cons, List.mapM_cons, ih]; simp [byteOf]

/-- The token in a record with the fields in the order of the struct. -/
def tokenOf : Record → Option RelayToken
  | [(_, .scalar (.text session)), (_, .scalar (.text relay)), (_, .scalar (.text client)),
      (_, .scalar (.text target)), (_, .scalar (.text role)), (_, .scalar (.number expires)),
      (_, .array signature)] => do
    let sessionId ← (Id.new .session session).toOption
    let clientId ← (Id.new .device client).toOption
    let targetId ← (Id.new .device target).toOption
    some ⟨sessionId, relay, clientId, targetId, ← roleOf role, UInt64.ofNat expires,
      ← signature.mapM byteOf⟩
  | _ => none

theorem tokenOf_tokenRecord (t : RelayToken) : tokenOf (tokenRecord t) = some t := by
  have hid : ∀ (kind : IdKind) (i : Id kind), (Id.new kind i.value).toOption = some i := by
    intro kind i
    rw [(Id.new_ok kind i.value i).mpr rfl]
    rfl
  simp only [tokenOf, tokenRecord, hid, roleOf_roleName, bytesOf_numbers, Option.bind_eq_bind,
    Option.bind_some, UInt64.ofNat_toNat]

/-- A request is an object with the token behind its name. -/
def requestOf (text : List Char) : Option RelayHandshakeRequest :=
  match Scalar.read text.tail with
  | some (.text _, ':' :: '\x7b' :: rest) =>
    match readUntil readField '\x7d' rest with
    | some (fields, ['\x7d']) => (tokenOf fields).map RelayHandshakeRequest.mk
    | _ => none
  | _ => none

def sampleReader : External where
  request bytes := ((ofUtf8 bytes).bind fun s => requestOf s.toList).elim (.error "no request") .ok
  token bytes := ((decode bytes).bind tokenOf).elim (.error "no token") .ok
  response _ := .error "no response"
  finishedEarly n := "stream finished early (" ++ toString n ++ " bytes read)"

theorem sampleReader_request (req : RelayHandshakeRequest) :
    sampleReader.request (encodeRequest req) = .ok req := by
  have hname := Scalar.read_write (.text "token") ':' (write (tokenRecord req.token) ++ ['\x7d'])
    (by decide)
  simp only [Scalar.write, write, List.cons_append, List.append_assoc, List.nil_append] at hname
  simp [sampleReader, encodeRequest, ofUtf8_utf8, requestOf, write, hname, readFields_write,
    tokenOf_tokenRecord]

/-- A token with a short signature. -/
def sampleToken : RelayToken := { RelaySessions.tokenFor .client with signature := [7, 200, 0] }

/-- What its endpoint writes, in three pieces: the length is cut twice. -/
def sampleStream : ByteStream where
  chunks := [(writtenRequest sampleToken).take 2, ((writtenRequest sampleToken).drop 2).take 1,
    ((writtenRequest sampleToken).drop 2).drop 1]
  nonempty := by
    have hlength : 4 < (writtenRequest sampleToken).length := by
      rw [writtenRequest, List.length_append, length_toBytes]
      exact Nat.lt_add_of_pos_right (encodeRequest_nonempty _)
    simp only [List.forall_mem_cons, ne_eq, ← List.length_eq_zero_iff, List.length_take,
      List.length_drop]
    refine ⟨by omega, by omega, by omega, by simp⟩

theorem handshake_parsing_chunks :
    sampleReader.request (encodeRequest ⟨sampleToken⟩) = .ok ⟨sampleToken⟩ ∧
      (encodeRequest ⟨sampleToken⟩).length ≤ 65536 ∧
      sampleStream.bytes = (performClientHandshake sampleReader sampleToken ⟨[], nofun⟩).1 ∧
      readHandshakeToken sampleReader sampleStream = .ok sampleToken := by
  have hlength : (encodeRequest ⟨sampleToken⟩).length ≤ 65536 := by
    rw [encodeRequest, utf8_eq_flatMap, String.toList_ofList]
    decide +kernel
  have hbytes : sampleStream.bytes = writtenRequest sampleToken := by
    simp only [ByteStream.bytes, sampleStream, List.flatten_cons, List.flatten_nil, List.append_nil,
      List.take_append_drop]
  exact ⟨sampleReader_request _, hlength, hbytes, (handshake_parsing sampleReader).2.2.2 sampleToken
    (sampleReader_request _) hlength sampleStream ⟨[], nofun⟩ hbytes⟩

end RelayHandshake
