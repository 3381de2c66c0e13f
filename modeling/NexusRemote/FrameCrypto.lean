import NexusRemote.BigEndian

/-!
# Encoded-frame sealing (`crates/nexus-crypto`)

One AEAD operation is applied to every encoded frame before it is cut into
packets. The cipher itself is a parameter: the code only relies on opening what
was sealed under the same key, nonce and associated data, and on the sixteen
byte tag. Nonces come from a monotone allocator with a 32-bit domain and a
64-bit sequence.
-/

namespace FrameCrypto

open BigEndian

inductive AeadError where
  | encryptionFailed
  | authenticationFailed
  deriving DecidableEq, Repr

/-- The two entry points of the cipher crate; `none` is its opaque error. -/
structure Aead where
  encrypt : Octets 32 → Octets 12 → Bytes → Bytes → Option Bytes
  decrypt : Octets 32 → Octets 12 → Bytes → Bytes → Option Bytes

/-- What was sealed opens again under the same key, nonce and associated data. -/
def Aead.OpensSealed (A : Aead) : Prop :=
  ∀ key nonce aad msg ct, A.encrypt key nonce aad msg = some ct →
    A.decrypt key nonce aad ct = some msg

/-- The ciphertext is the message length plus the authentication tag. -/
def Aead.TagAddsSixteen (A : Aead) : Prop :=
  ∀ key nonce aad msg ct, A.encrypt key nonce aad msg = some ct → ct.length = msg.length + 16

structure EncodedFrameMetadata where
  protocolVersion : UInt32
  channel : UInt32
  frameId : UInt32
  codecConfigId : UInt32
  timestampUs : UInt64
  keyframe : Bool
  deriving DecidableEq, Repr

/-- Canonical bytes authenticated with an encoded frame. -/
def EncodedFrameMetadata.aad (m : EncodedFrameMetadata) : Octets 25 :=
  ⟨toBytes 4 m.protocolVersion.toNat ++ toBytes 4 m.channel.toNat ++ toBytes 4 m.frameId.toNat ++
    toBytes 4 m.codecConfigId.toNat ++ toBytes 8 m.timestampUs.toNat ++
    [if m.keyframe then 1 else 0], by simp⟩

def nonceFromSequence (domain : UInt32) (sequence : UInt64) : Octets 12 :=
  ⟨toBytes 4 domain.toNat ++ toBytes 8 sequence.toNat, by simp⟩

/-- `u64::from_be_bytes(nonce[4..])`: the sequence suffix of a nonce. -/
def sequenceSuffix (nonce : Octets 12) : UInt64 := UInt64.ofNat (ofBytes (slice nonce.1 4 8))

@[simp] theorem sequenceSuffix_nonce (domain : UInt32) (sequence : UInt64) :
    sequenceSuffix (nonceFromSequence domain sequence) = sequence := by
  have h : slice (nonceFromSequence domain sequence).1 4 8 = toBytes 8 sequence.toNat := by
    rw [nonceFromSequence, slice_append_right _ _ 4 8 (by simp)]
    simp [slice]
  rw [sequenceSuffix, h, word64]

/-- Within one domain, different sequences give different nonces. -/
theorem nonceFromSequence_inj (domain : UInt32) (m n : UInt64)
    (h : nonceFromSequence domain m = nonceFromSequence domain n) : m = n := by
  have hs := congrArg sequenceSuffix h
  simpa using hs

/-- The domain is in front of the sequence, so the nonces of different domains differ. -/
theorem nonceFromSequence_domain (d e : UInt32) (m n : UInt64)
    (h : nonceFromSequence d m = nonceFromSequence e n) : d = e := by
  have hfront := congrArg (fun nonce : Octets 12 => slice nonce.1 0 4) h
  simp only [nonceFromSequence, slice_append_left _ _ 4 (length_toBytes 4 _)] at hfront
  rw [← word32 d, hfront, word32]

structure EncryptedFrame where
  nonce : Octets 12
  ciphertext : Bytes

inductive NonceSequenceError where
  | exhausted
  deriving DecidableEq, Repr

inductive FrameSealError where
  | nonce (error : NonceSequenceError)
  | aead (error : AeadError)
  deriving DecidableEq, Repr

structure NonceSequence where
  domain : UInt32
  next : UInt64
  exhausted : Bool
  deriving DecidableEq, Repr

def NonceSequence.new (domain : UInt32) : NonceSequence := ⟨domain, 0, false⟩

/-- `u64::MAX`. -/
def maxSequence : UInt64 := 0xFFFFFFFFFFFFFFFF

def NonceSequence.nextNonce (s : NonceSequence) :
    Except NonceSequenceError (Octets 12) × NonceSequence :=
  if s.exhausted then (.error .exhausted, s)
  else
    let sequence := s.next
    let s' := if sequence = maxSequence then { s with exhausted := true }
      else { s with next := s.next + 1 }
    (.ok (nonceFromSequence s.domain sequence), s')

/-- How many nonces have been handed out. -/
def NonceSequence.position (s : NonceSequence) : Nat :=
  if s.exhausted then 2 ^ 64 else s.next.toNat

theorem toNat_add_one (x : UInt64) (h : x ≠ maxSequence) : (x + 1).toNat = x.toNat + 1 := by
  have hb := x.toNat_lt
  have hm : x.toNat ≠ 2 ^ 64 - 1 := by
    intro he
    exact h (UInt64.toNat_inj.mp he)
  rw [UInt64.toNat_add]
  change (x.toNat + 1) % 2 ^ 64 = x.toNat + 1
  omega

/-- The allocator counts: a nonce carries the current position, and the
position moves on by one. -/
theorem nextNonce_ok (s s' : NonceSequence) (nonce : Octets 12)
    (h : s.nextNonce = (.ok nonce, s')) :
    s.position < 2 ^ 64 ∧ nonce = nonceFromSequence s.domain (UInt64.ofNat s.position) ∧
      s'.position = s.position + 1 ∧ s'.domain = s.domain := by
  unfold NonceSequence.nextNonce at h
  cases he : s.exhausted with
  | true => simp [he] at h
  | false =>
    have hp : s.position = s.next.toNat := by simp [NonceSequence.position, he]
    have hb := s.next.toNat_lt
    simp only [he, Bool.false_eq_true, ↓reduceIte, Prod.mk.injEq, Except.ok.injEq] at h
    obtain ⟨rfl, rfl⟩ := h
    refine ⟨by omega, by rw [hp, UInt64.ofNat_toNat], ?_, by split <;> rfl⟩
    by_cases hm : s.next = maxSequence
    · rw [hp, hm]
      simp [NonceSequence.position, maxSequence]
    · rw [hp, ← toNat_add_one s.next hm]
      simp [NonceSequence.position, hm]

theorem nextNonce_error (s s' : NonceSequence) (e : NonceSequenceError)
    (h : s.nextNonce = (.error e, s')) : s' = s ∧ s.position = 2 ^ 64 := by
  unfold NonceSequence.nextNonce at h
  cases he : s.exhausted with
  | true => simp_all [NonceSequence.position]
  | false => simp [he] at h

/-- The allocator after one more request, whether a nonce was left or not. -/
theorem nextNonce_position (s : NonceSequence) (h : s.position ≤ 2 ^ 64) :
    s.nextNonce.2.domain = s.domain ∧ s.nextNonce.2.position = min (s.position + 1) (2 ^ 64) ∧
      (s.position < 2 ^ 64 →
        s.nextNonce.1 = .ok (nonceFromSequence s.domain (UInt64.ofNat s.position))) ∧
      (s.position = 2 ^ 64 → s.nextNonce.1 = .error .exhausted) := by
  rcases hn : s.nextNonce with ⟨⟨⟩ | nonce, s'⟩
  · obtain ⟨rfl, hpos⟩ := nextNonce_error s s' _ hn
    refine ⟨rfl, by dsimp only; omega, fun hlt => by omega, fun _ => rfl⟩
  · obtain ⟨hlt, rfl, hnext, hdomain⟩ := nextNonce_ok s s' nonce hn
    refine ⟨hdomain, by dsimp only; omega, fun _ => rfl, fun he => by omega⟩

variable (A : Aead)

def sealSessionPayload (key : Octets 32) (nonce : Octets 12) (associatedData plaintext : Bytes) :
    Except AeadError Bytes :=
  match A.encrypt key nonce associatedData plaintext with
  | some ciphertext => .ok ciphertext
  | none => .error .encryptionFailed

def openSessionPayload (key : Octets 32) (nonce : Octets 12) (associatedData ciphertext : Bytes) :
    Except AeadError Bytes :=
  match A.decrypt key nonce associatedData ciphertext with
  | some plaintext => .ok plaintext
  | none => .error .authenticationFailed

/-- Everything a sealing call does: its result, the allocator it leaves behind,
and the nonce it handed to the cipher. -/
structure SealOutcome where
  result : Except FrameSealError EncryptedFrame
  sequence : NonceSequence
  spent : Option (Octets 12)

def sealEncodedFrame (key : Octets 32) (sequence : NonceSequence)
    (metadata : EncodedFrameMetadata) (plaintext : Bytes) : SealOutcome :=
  match sequence.nextNonce with
  | (.error e, sequence') => ⟨.error (.nonce e), sequence', none⟩
  | (.ok nonce, sequence') =>
    match sealSessionPayload A key nonce metadata.aad.1 plaintext with
    | .error e => ⟨.error (.aead e), sequence', some nonce⟩
    | .ok ciphertext => ⟨.ok ⟨nonce, ciphertext⟩, sequence', some nonce⟩

def openEncodedFrame (key : Octets 32) (metadata : EncodedFrameMetadata)
    (encrypted : EncryptedFrame) : Except AeadError Bytes :=
  openSessionPayload A key encrypted.nonce metadata.aad.1 encrypted.ciphertext

@[simp] theorem sealEncodedFrame_sequence (key : Octets 32) (sequence : NonceSequence)
    (metadata : EncodedFrameMetadata) (plaintext : Bytes) :
    (sealEncodedFrame A key sequence metadata plaintext).sequence = sequence.nextNonce.2 := by
  unfold sealEncodedFrame
  rcases sequence.nextNonce with ⟨e | nonce, sequence'⟩
  · rfl
  · cases hs : sealSessionPayload A key nonce metadata.aad.1 plaintext <;> simp [hs]

/-- A nonce is spent exactly when the allocator hands one out. -/
theorem sealEncodedFrame_spent (key : Octets 32) (sequence : NonceSequence)
    (metadata : EncodedFrameMetadata) (plaintext : Bytes) :
    (sealEncodedFrame A key sequence metadata plaintext).spent =
      sequence.nextNonce.1.toOption := by
  unfold sealEncodedFrame
  rcases sequence.nextNonce with ⟨e | nonce, sequence'⟩
  · rfl
  · cases hs : sealSessionPayload A key nonce metadata.aad.1 plaintext <;>
      simp [hs, Except.toOption]

/-- A successful seal used the allocator's nonce on exactly this metadata. -/
theorem sealEncodedFrame_ok (key : Octets 32) (sequence : NonceSequence)
    (metadata : EncodedFrameMetadata) (plaintext : Bytes) (encrypted : EncryptedFrame)
    (h : (sealEncodedFrame A key sequence metadata plaintext).result = .ok encrypted) :
    sequence.nextNonce.1 = .ok encrypted.nonce ∧
      A.encrypt key encrypted.nonce metadata.aad.1 plaintext = some encrypted.ciphertext := by
  unfold sealEncodedFrame at h
  rcases hn : sequence.nextNonce with ⟨e | nonce, sequence'⟩
  · simp [hn] at h
  · cases hc : A.encrypt key nonce metadata.aad.1 plaintext with
    | none => simp [hn, sealSessionPayload, hc] at h
    | some ciphertext =>
      simp only [hn, sealSessionPayload, hc, Except.ok.injEq] at h
      subst h
      exact ⟨rfl, hc⟩

/-- Opening succeeds exactly when the cipher accepts. -/
theorem openEncodedFrame_ok (key : Octets 32) (metadata : EncodedFrameMetadata)
    (encrypted : EncryptedFrame) (plaintext : Bytes) :
    openEncodedFrame A key metadata encrypted = .ok plaintext ↔
      A.decrypt key encrypted.nonce metadata.aad.1 encrypted.ciphertext = some plaintext := by
  unfold openEncodedFrame openSessionPayload
  cases A.decrypt key encrypted.nonce metadata.aad.1 encrypted.ciphertext <;> simp

end FrameCrypto
