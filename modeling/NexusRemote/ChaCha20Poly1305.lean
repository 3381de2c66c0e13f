import NexusRemote.FrameCrypto
import NexusRemote.Fragments

/-!
# ChaCha20-Poly1305

The cipher that `seal_session_payload` and `open_session_payload` call, as one
instance of the `Aead` interface. Nothing else in the development depends on
how it works; it shows that the assumptions made about the interface are met.
-/

namespace ChaCha20Poly1305

open BigEndian FrameCrypto

/-! ## Little-endian words -/

def ofLittleEndian (bs : Bytes) : Nat := ofBytes bs.reverse

def toLittleEndian (n x : Nat) : Bytes := (toBytes n x).reverse

@[simp] theorem length_toLittleEndian (n x : Nat) : (toLittleEndian n x).length = n := by
  simp [toLittleEndian]

/-! ## ChaCha20 -/

def rotateLeft (x : UInt32) (n : UInt32) : UInt32 := (x <<< n) ||| (x >>> (32 - n))

/-- One quarter round on four entries of the working state. -/
def quarterRound (a b c d : Nat) (s : List UInt32) : List UInt32 :=
  let (va, vb, vc, vd) := (s.getD a 0, s.getD b 0, s.getD c 0, s.getD d 0)
  let va := va + vb
  let vd := rotateLeft (vd ^^^ va) 16
  let vc := vc + vd
  let vb := rotateLeft (vb ^^^ vc) 12
  let va := va + vb
  let vd := rotateLeft (vd ^^^ va) 8
  let vc := vc + vd
  let vb := rotateLeft (vb ^^^ vc) 7
  (((s.set a va).set b vb).set c vc).set d vd

/-- A column round followed by a diagonal round. -/
def doubleRound (s : List UInt32) : List UInt32 :=
  let s := quarterRound 0 4 8 12 s
  let s := quarterRound 1 5 9 13 s
  let s := quarterRound 2 6 10 14 s
  let s := quarterRound 3 7 11 15 s
  let s := quarterRound 0 5 10 15 s
  let s := quarterRound 1 6 11 12 s
  let s := quarterRound 2 7 8 13 s
  quarterRound 3 4 9 14 s

def words (bs : Bytes) (n : Nat) : List UInt32 :=
  (List.range n).map fun i => UInt32.ofNat (ofLittleEndian (slice bs (4 * i) 4))

def initialState (key : Octets 32) (counter : Nat) (nonce : Octets 12) : List UInt32 :=
  [0x61707865, 0x3320646e, 0x79622d32, 0x6b206574] ++ words key.1 8 ++ [UInt32.ofNat counter] ++
    words nonce.1 3

def block (key : Octets 32) (counter : Nat) (nonce : Octets 12) : Bytes :=
  let s := initialState key counter nonce
  (List.zipWith (· + ·) (doubleRound^[10] s) s).flatMap fun w => toLittleEndian 4 w.toNat

/-- The key stream for `n` bytes; the block with counter zero keys the
authenticator. -/
def keyStream (key : Octets 32) (nonce : Octets 12) (n : Nat) : Bytes :=
  (List.range (Fragments.pieces 64 n)).flatMap fun j => block key (1 + j) nonce

def applyKeystream (key : Octets 32) (nonce : Octets 12) (bs : Bytes) : Bytes :=
  List.zipWith (· ^^^ ·) bs (keyStream key nonce bs.length)

@[simp] theorem length_quarterRound (a b c d : Nat) (s : List UInt32) :
    (quarterRound a b c d s).length = s.length := by simp [quarterRound]

@[simp] theorem length_doubleRound (s : List UInt32) : (doubleRound s).length = s.length := by
  simp [doubleRound]

/-- Every word of the state is written as four bytes. -/
theorem length_serialized (ws : List UInt32) :
    (ws.flatMap fun w => toLittleEndian 4 w.toNat).length = 4 * ws.length := by
  induction ws with
  | nil => rfl
  | cons w ws ih =>
    rw [List.flatMap_cons, List.length_append, ih, length_toLittleEndian, List.length_cons]
    omega

@[simp] theorem length_block (key : Octets 32) (counter : Nat) (nonce : Octets 12) :
    (block key counter nonce).length = 64 := by
  have hrounds : ∀ (n : Nat) (s : List UInt32), (doubleRound^[n] s).length = s.length := by
    intro n
    induction n with
    | zero => intro s; rfl
    | succ n ih =>
      intro s
      rw [Function.iterate_succ_apply, ih, length_doubleRound]
  have hstate : (initialState key counter nonce).length = 16 := by simp [initialState, words]
  rw [block, length_serialized, List.length_zipWith, hrounds, hstate]
  rfl

theorem length_keyStream (key : Octets 32) (nonce : Octets 12) (n : Nat) :
    n ≤ (keyStream key nonce n).length := by
  have hcover := Fragments.pieces_cover 64 n (by decide)
  simpa [keyStream, List.length_flatMap] using hcover

/-! ## Poly1305 -/

def clamp (r : Nat) : Nat := r &&& 0x0ffffffc0ffffffc0ffffffc0fffffff

def prime : Nat := 2 ^ 130 - 5

def accumulate (r : Nat) (acc : Nat) (msg : Bytes) : Nat :=
  (Fragments.chunks 16 msg).foldl (fun acc chunk => (acc + ofLittleEndian (chunk ++ [1])) * r % prime)
    acc

def poly1305 (key msg : Bytes) : Bytes :=
  let r := clamp (ofLittleEndian (key.take 16))
  let s := ofLittleEndian (slice key 16 16)
  toLittleEndian 16 (accumulate r 0 msg + s)

/-! ## The AEAD construction -/

def pad16 (bs : Bytes) : Bytes := bs ++ List.replicate ((16 - bs.length % 16) % 16) 0

def tag (key : Octets 32) (nonce : Octets 12) (aad ciphertext : Bytes) : Bytes :=
  poly1305 ((block key 0 nonce).take 32)
    (pad16 aad ++ pad16 ciphertext ++ toLittleEndian 8 aad.length ++
      toLittleEndian 8 ciphertext.length)

/-- The block counter of the crate runs out after `u32::MAX` blocks. -/
def maxBlocks : Nat := 2 ^ 32 - 1

def encrypt (key : Octets 32) (nonce : Octets 12) (aad msg : Bytes) : Option Bytes :=
  if msg.length / 64 ≥ maxBlocks then none
  else
    let ciphertext := applyKeystream key nonce msg
    some (ciphertext ++ tag key nonce aad ciphertext)

def decrypt (key : Octets 32) (nonce : Octets 12) (aad sealed : Bytes) : Option Bytes :=
  if sealed.length < 16 then none
  else
    let ciphertext := sealed.take (sealed.length - 16)
    if ciphertext.length / 64 ≥ maxBlocks then none
    else if sealed.drop (sealed.length - 16) = tag key nonce aad ciphertext then
      some (applyKeystream key nonce ciphertext)
    else none

def cipher : Aead := ⟨encrypt, decrypt⟩

@[simp] theorem length_applyKeystream (key : Octets 32) (nonce : Octets 12) (bs : Bytes) :
    (applyKeystream key nonce bs).length = bs.length := by
  simp [applyKeystream, length_keyStream]

@[simp] theorem length_tag (key : Octets 32) (nonce : Octets 12) (aad ciphertext : Bytes) :
    (tag key nonce aad ciphertext).length = 16 := by simp [tag, poly1305]

/-- The key stream is its own inverse. -/
theorem applyKeystream_twice (key : Octets 32) (nonce : Octets 12) (bs : Bytes) :
    applyKeystream key nonce (applyKeystream key nonce bs) = bs := by
  have hstream := length_keyStream key nonce bs.length
  have htwice : applyKeystream key nonce (applyKeystream key nonce bs) =
      List.zipWith (· ^^^ ·) (applyKeystream key nonce bs) (keyStream key nonce bs.length) := by
    rw [applyKeystream, length_applyKeystream]
  rw [htwice]
  apply List.ext_getElem
  · simp [hstream]
  · intro i hi hi'
    simp [applyKeystream]

theorem cipher_tagAddsSixteen : cipher.TagAddsSixteen := by
  intro key nonce aad msg ct h
  simp only [cipher, encrypt] at h
  split at h
  · cases h
  · cases h
    simp

/-- Opening a ciphertext that stands before a tag. -/
theorem decrypt_append (key : Octets 32) (nonce : Octets 12) (aad ciphertext t : Bytes)
    (ht : t.length = 16) (hblocks : ciphertext.length / 64 < maxBlocks)
    (htag : t = tag key nonce aad ciphertext) :
    decrypt key nonce aad (ciphertext ++ t) = some (applyKeystream key nonce ciphertext) := by
  have hlen : (ciphertext ++ t).length - 16 = ciphertext.length := by
    rw [List.length_append]
    omega
  have hshort : ¬(ciphertext ++ t).length < 16 := by
    rw [List.length_append]
    omega
  simp only [decrypt, hlen, List.take_left, List.drop_left, if_neg hshort,
    if_neg (Nat.not_le.mpr hblocks), if_pos htag]

theorem cipher_opensSealed : cipher.OpensSealed := by
  intro key nonce aad msg ct h
  simp only [cipher, encrypt] at h ⊢
  split at h
  · cases h
  · rename_i hblocks
    cases h
    rw [decrypt_append _ _ _ _ _ (by simp) (by simpa using hblocks) rfl, applyKeystream_twice]

/-- Messages below the counter limit always seal. -/
theorem cipher_encrypts (key : Octets 32) (nonce : Octets 12) (aad msg : Bytes)
    (h : msg.length / 64 < maxBlocks) : (cipher.encrypt key nonce aad msg).isSome := by
  simp [cipher, encrypt, Nat.not_le.mpr h]

end ChaCha20Poly1305
