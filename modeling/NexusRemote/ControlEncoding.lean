import NexusRemote.Blake3
import NexusRemote.Capabilities
import NexusRemote.Ed25519
import NexusRemote.JsonText
import NexusRemote.Protobuf

/-!
# The encoders behind the control plane

What other crates compute for `AppState`, as instances of its parameters: the
Protobuf encoding of a capability (`proto/nexus.proto`), the JSON text of an
audit event, the audit hash and the signing key. Nothing proved about requests
depends on them.
-/

namespace ControlEncoding

open BigEndian EntityId AuditLog SessionRequest
open Protobuf (Field bytesField merge_bytesField merge_uintField repeatedField uintField)

/-! ## Protobuf -/

/-- The fields of the message, in the order of their numbers. -/
def capabilityFields (c : SessionCapability) : List Field :=
  uintField 1 c.version.toNat ++ bytesField 2 (utf8 c.issuer) ++
    bytesField 3 (utf8 c.sessionId) ++ bytesField 4 (utf8 c.subjectUserId) ++
    bytesField 5 (utf8 c.clientDeviceId) ++ bytesField 6 (utf8 c.targetDeviceId) ++
    repeatedField 7 (c.permissions.map utf8) ++ bytesField 8 c.restrictions ++
    uintField 9 c.notBefore.toNat ++ uintField 10 c.expiresAt.toNat ++
    bytesField 11 c.nonce ++ uintField 12 c.agentMinProtocol.toNat ++
    uintField 13 c.agentMaxProtocol.toNat ++
    bytesField 14 c.clientEphemeralPublicKey ++ bytesField 15 c.signature

/-- Into a growing buffer the encoder does not fail. -/
def encodeCapability (c : SessionCapability) : Except String Bytes :=
  .ok (Protobuf.encode (capabilityFields c))

/-- A message before any field has been read. -/
def emptyCapability : SessionCapability :=
  ⟨0, "", "", "", "", "", [], [], 0, 0, [], 0, 0, [], []⟩

/-- Takes a field into the message; unknown fields are skipped. -/
def mergeField (c : SessionCapability) (field : Field) : Option SessionCapability :=
  match field.tag, field.value with
  | 1, .uint n => some { c with version := UInt32.ofNat n }
  | 2, .bytes b => (ofUtf8 b).map fun s => { c with issuer := s }
  | 3, .bytes b => (ofUtf8 b).map fun s => { c with sessionId := s }
  | 4, .bytes b => (ofUtf8 b).map fun s => { c with subjectUserId := s }
  | 5, .bytes b => (ofUtf8 b).map fun s => { c with clientDeviceId := s }
  | 6, .bytes b => (ofUtf8 b).map fun s => { c with targetDeviceId := s }
  | 7, .bytes b => (ofUtf8 b).map fun s => { c with permissions := c.permissions ++ [s] }
  | 8, .bytes b => some { c with restrictions := b }
  | 9, .uint n => some { c with notBefore := UInt64.ofNat n }
  | 10, .uint n => some { c with expiresAt := UInt64.ofNat n }
  | 11, .bytes b => some { c with nonce := b }
  | 12, .uint n => some { c with agentMinProtocol := UInt32.ofNat n }
  | 13, .uint n => some { c with agentMaxProtocol := UInt32.ofNat n }
  | 14, .bytes b => some { c with clientEphemeralPublicKey := b }
  | 15, .bytes b => some { c with signature := b }
  | tag, _ => if 1 ≤ tag ∧ tag ≤ 15 then none else some c

def decodeCapability (bytes : Bytes) : Except String SessionCapability :=
  match (Protobuf.decode bytes).bind fun fields => fields.foldlM mergeField emptyCapability with
  | some c => .ok c
  | none => .error "failed to decode Protobuf message"

/-! What has been left out of the encoding is the default that stands there already. -/

section

variable (tag : Nat)

theorem merge_uint32 (x : UInt32) (set : UInt32 → SessionCapability)
    (hset : mergeField (set 0) ⟨tag, .uint x.toNat⟩ = some (set (UInt32.ofNat x.toNat))) :
    (uintField tag x.toNat).foldlM mergeField (set 0) = some (set x) := by
  rw [UInt32.ofNat_toNat] at hset
  exact merge_uintField tag _ _ _ hset fun hx => congrArg set (UInt32.toNat_inj.mp hx)

theorem merge_uint64 (x : UInt64) (set : UInt64 → SessionCapability)
    (hset : mergeField (set 0) ⟨tag, .uint x.toNat⟩ = some (set (UInt64.ofNat x.toNat))) :
    (uintField tag x.toNat).foldlM mergeField (set 0) = some (set x) := by
  rw [UInt64.ofNat_toNat] at hset
  exact merge_uintField tag _ _ _ hset fun hx => congrArg set (UInt64.toNat_inj.mp hx)

theorem merge_bytes (b : Bytes) (set : Bytes → SessionCapability)
    (hset : mergeField (set []) ⟨tag, .bytes b⟩ = some (set b)) :
    (bytesField tag b).foldlM mergeField (set []) = some (set b) :=
  merge_bytesField tag b _ _ hset fun hb => congrArg set hb

theorem merge_text (t : String) (set : String → SessionCapability)
    (hset : mergeField (set "") ⟨tag, .bytes (utf8 t)⟩ = (ofUtf8 (utf8 t)).map set) :
    (bytesField tag (utf8 t)).foldlM mergeField (set "") = some (set t) := by
  rw [ofUtf8_utf8] at hset
  exact merge_bytesField tag _ _ _ hset fun ht => congrArg set (utf8_eq_nil t ht)

end

theorem merge_permissions (texts : List String) (c : SessionCapability) (h : c.permissions = []) :
    (repeatedField 7 (texts.map utf8)).foldlM mergeField c =
      some { c with permissions := texts } := by
  have hitem : ∀ done b, b ∈ texts.map utf8 →
      mergeField { c with permissions := done.filterMap ofUtf8 } ⟨7, .bytes b⟩ =
        some { c with permissions := (done ++ [b]).filterMap ofUtf8 } := by
    intro done b hb
    obtain ⟨s, -, rfl⟩ := List.mem_map.mp hb
    simp [mergeField, ofUtf8_utf8]
  have hmerge := Protobuf.merge_repeatedField 7 (texts.map utf8) c
    (fun done => { c with permissions := done.filterMap ofUtf8 }) hitem
    (by rw [List.filterMap_nil, ← h])
  simpa [List.filterMap_map, Function.comp_def, ofUtf8_utf8] using hmerge

/-- Reading the fields of a capability rebuilds it. -/
theorem merge_capabilityFields (c : SessionCapability) :
    (capabilityFields c).foldlM mergeField emptyCapability = some c := by
  rcases c with ⟨v, iss, sid, sub, cid, tid, ps, res, nb, exp, no, lo, hi, key, sig⟩
  have h₁ := merge_uint32 1 v (.mk · "" "" "" "" "" [] [] 0 0 [] 0 0 [] []) rfl
  have h₂ := merge_text 2 iss (.mk v · "" "" "" "" [] [] 0 0 [] 0 0 [] []) rfl
  have h₃ := merge_text 3 sid (.mk v iss · "" "" "" [] [] 0 0 [] 0 0 [] []) rfl
  have h₄ := merge_text 4 sub (.mk v iss sid · "" "" [] [] 0 0 [] 0 0 [] []) rfl
  have h₅ := merge_text 5 cid (.mk v iss sid sub · "" [] [] 0 0 [] 0 0 [] []) rfl
  have h₆ := merge_text 6 tid (.mk v iss sid sub cid · [] [] 0 0 [] 0 0 [] []) rfl
  have h₇ := merge_permissions ps ⟨v, iss, sid, sub, cid, tid, [], [], 0, 0, [], 0, 0, [], []⟩ rfl
  have h₈ := merge_bytes 8 res (.mk v iss sid sub cid tid ps · 0 0 [] 0 0 [] []) rfl
  have h₉ := merge_uint64 9 nb (.mk v iss sid sub cid tid ps res · 0 [] 0 0 [] []) rfl
  have h₁₀ := merge_uint64 10 exp (.mk v iss sid sub cid tid ps res nb · [] 0 0 [] []) rfl
  have h₁₁ := merge_bytes 11 no (.mk v iss sid sub cid tid ps res nb exp · 0 0 [] []) rfl
  have h₁₂ := merge_uint32 12 lo (.mk v iss sid sub cid tid ps res nb exp no · 0 [] []) rfl
  have h₁₃ := merge_uint32 13 hi (.mk v iss sid sub cid tid ps res nb exp no lo · [] []) rfl
  have h₁₄ := merge_bytes 14 key (.mk v iss sid sub cid tid ps res nb exp no lo hi · []) rfl
  have h₁₅ := merge_bytes 15 sig (.mk v iss sid sub cid tid ps res nb exp no lo hi key) rfl
  simp only [capabilityFields, emptyCapability, List.foldlM_append, h₁, h₂, h₃, h₄, h₅, h₆, h₇, h₈,
    h₉, h₁₀, h₁₁, h₁₂, h₁₃, h₁₄, h₁₅, Option.bind_eq_bind, Option.bind_some]

theorem decode_encode_capability (c : SessionCapability) (bytes : Bytes)
    (h : encodeCapability c = .ok bytes) : decodeCapability bytes = .ok c := by
  obtain rfl := Except.ok.inj h
  simp only [decodeCapability, Protobuf.decode_encode, Option.bind_some, merge_capabilityFields]

/-- A message of version one starts with the key of its first field. -/
theorem encodeCapability_opens (c : SessionCapability) (bytes : Bytes) (hversion : c.version = 1)
    (h : encodeCapability c = .ok bytes) : bytes.head? = some 0x08 := by
  obtain rfl := Except.ok.inj h
  have hfirst : uintField 1 c.version.toNat = [⟨1, .uint 1⟩] := by
    rw [hversion]
    rfl
  simp only [capabilityFields, hfirst, List.cons_append]
  rfl

def encoder : Capabilities.Encoder where
  encode := encodeCapability
  grows := by
    intro c e h
    cases h

/-! ## JSON -/

def jsonString (s : String) : String := String.ofList (JsonText.writeText s)

def jsonObject (fields : List (String × String)) : String :=
  "\x7b" ++ String.intercalate "," (fields.map fun f => jsonString f.1 ++ ":" ++ f.2) ++ "\x7d"

mutual

def jsonValue : Json → String
  | .null => "null"
  | .bool b => if b then "true" else "false"
  | .number literal => literal
  | .string s => jsonString s
  | .array items => "[" ++ String.intercalate "," (jsonItems items) ++ "]"
  | .object members => jsonObject (jsonMembers members)

def jsonItems : List Json → List String
  | [] => []
  | item :: items => jsonValue item :: jsonItems items

def jsonMembers : List (String × Json) → List (String × String)
  | [] => []
  | (key, value) :: members => (key, jsonValue value) :: jsonMembers members

end

/-- An optional identifier is left out when it is absent. -/
def jsonOptional {kind : IdKind} (name : String) (id : Option (Id kind)) : List (String × String) :=
  id.toList.map fun i => (name, jsonString i.value)

def canonicalJson (e : AuditEvent) : Except String String :=
  .ok (jsonObject
    ([("event_id", jsonString e.eventId), ("timestamp", toString e.timestamp.toNat),
      ("organization_id", jsonString e.organizationId.value)] ++
      jsonOptional "user_id" e.userId ++ jsonOptional "device_id" e.deviceId ++
      jsonOptional "session_id" e.sessionId ++
      [("event_type", jsonString e.eventType.asStr),
        ("metadata", jsonValue e.metadata)]))

/-- A control plane as `AppState::new` sets it up, with the key of a seed. -/
def deployed (seed : Octets 32) (controlPlaneId : String) : AppState :=
  AppState.new (Ed25519.sign seed) controlPlaneId ⟨canonicalJson, Blake3.blake3⟩ encodeCapability

/-- The verifying key of a seed. Signing is deterministic, and of the signatures that
the key accepts this keeps the one that the signer makes. -/
def verifyingKey (seed : Octets 32) : RelayTokens.VerifyingKey :=
  fun message signature => decide (signature = Ed25519.sign seed message)

theorem matching_keys (seed : Octets 32) :
    RelayTokens.Matching (Ed25519.sign seed) (verifyingKey seed) := by
  intro message
  simp [verifyingKey]

/-- The seed of a control plane's key. -/
def seed : Octets 32 := List.Vector.replicate 32 7

end ControlEncoding
