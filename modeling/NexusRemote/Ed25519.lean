import NexusRemote.ChaCha20Poly1305

/-!
# Ed25519

The signature scheme of the control plane: SHA-512, the curve in extended
coordinates over the naturals modulo `p`, and deterministic signing.
-/

namespace Ed25519

open BigEndian ChaCha20Poly1305

/-! ## SHA-512 -/

def rotateRight64 (x n : UInt64) : UInt64 := (x >>> n) ||| (x <<< (64 - n))

def initialHash : List UInt64 :=
  [0x6a09e667f3bcc908, 0xbb67ae8584caa73b, 0x3c6ef372fe94f82b, 0xa54ff53a5f1d36f1,
    0x510e527fade682d1, 0x9b05688c2b3e6c1f, 0x1f83d9abfb41bd6b, 0x5be0cd19137e2179]

def roundConstants : List UInt64 :=
  [0x428a2f98d728ae22, 0x7137449123ef65cd, 0xb5c0fbcfec4d3b2f, 0xe9b5dba58189dbbc,
    0x3956c25bf348b538, 0x59f111f1b605d019, 0x923f82a4af194f9b, 0xab1c5ed5da6d8118,
    0xd807aa98a3030242, 0x12835b0145706fbe, 0x243185be4ee4b28c, 0x550c7dc3d5ffb4e2,
    0x72be5d74f27b896f, 0x80deb1fe3b1696b1, 0x9bdc06a725c71235, 0xc19bf174cf692694,
    0xe49b69c19ef14ad2, 0xefbe4786384f25e3, 0x0fc19dc68b8cd5b5, 0x240ca1cc77ac9c65,
    0x2de92c6f592b0275, 0x4a7484aa6ea6e483, 0x5cb0a9dcbd41fbd4, 0x76f988da831153b5,
    0x983e5152ee66dfab, 0xa831c66d2db43210, 0xb00327c898fb213f, 0xbf597fc7beef0ee4,
    0xc6e00bf33da88fc2, 0xd5a79147930aa725, 0x06ca6351e003826f, 0x142929670a0e6e70,
    0x27b70a8546d22ffc, 0x2e1b21385c26c926, 0x4d2c6dfc5ac42aed, 0x53380d139d95b3df,
    0x650a73548baf63de, 0x766a0abb3c77b2a8, 0x81c2c92e47edaee6, 0x92722c851482353b,
    0xa2bfe8a14cf10364, 0xa81a664bbc423001, 0xc24b8b70d0f89791, 0xc76c51a30654be30,
    0xd192e819d6ef5218, 0xd69906245565a910, 0xf40e35855771202a, 0x106aa07032bbd1b8,
    0x19a4c116b8d2d0c8, 0x1e376c085141ab53, 0x2748774cdf8eeb99, 0x34b0bcb5e19b48a8,
    0x391c0cb3c5c95a63, 0x4ed8aa4ae3418acb, 0x5b9cca4f7763e373, 0x682e6ff3d6b2b8a3,
    0x748f82ee5defb2fc, 0x78a5636f43172f60, 0x84c87814a1f0ab72, 0x8cc702081a6439ec,
    0x90befffa23631e28, 0xa4506cebde82bde9, 0xbef9a3f7b2c67915, 0xc67178f2e372532b,
    0xca273eceea26619c, 0xd186b8c721c0c207, 0xeada7dd6cde0eb1e, 0xf57d4f7fee6ed178,
    0x06f067aa72176fba, 0x0a637dc5a2c898a6, 0x113f9804bef90dae, 0x1b710b35131c471b,
    0x28db77f523047d84, 0x32caab7b40c72493, 0x3c9ebe0a15c9bebc, 0x431d67c49c100d4c,
    0x4cc5d4becb3e42b6, 0x597f299cfc657e2a, 0x5fcb6fab3ad6faec, 0x6c44198c4a475817]

/-- The message with its padding and bit length. -/
def padded (msg : Bytes) : Bytes :=
  msg ++ [0x80] ++ List.replicate ((239 - msg.length % 128) % 128) 0 ++ toBytes 16 (8 * msg.length)

def words64 (block : Bytes) : List UInt64 :=
  (List.range 16).map fun i => UInt64.ofNat (ofBytes (slice block (8 * i) 8))

/-- The round loop. The schedule is a window of sixteen words that moves on. -/
def sha512Rounds : List UInt64 → List UInt64 → List UInt64 → List UInt64
  | [], _, s => s
  | k :: ks, w, s =>
    let word (i : Nat) : UInt64 := w.getD i 0
    let (a, b, c, d) := (s.getD 0 0, s.getD 1 0, s.getD 2 0, s.getD 3 0)
    let (e, f, g, h) := (s.getD 4 0, s.getD 5 0, s.getD 6 0, s.getD 7 0)
    let sum1 := rotateRight64 e 14 ^^^ rotateRight64 e 18 ^^^ rotateRight64 e 41
    let choice := (e &&& f) ^^^ (~~~e &&& g)
    let t1 := h + sum1 + choice + k + word 0
    let sum0 := rotateRight64 a 28 ^^^ rotateRight64 a 34 ^^^ rotateRight64 a 39
    let majority := (a &&& b) ^^^ (a &&& c) ^^^ (b &&& c)
    let small0 := rotateRight64 (word 1) 1 ^^^ rotateRight64 (word 1) 8 ^^^ (word 1 >>> 7)
    let small1 := rotateRight64 (word 14) 19 ^^^ rotateRight64 (word 14) 61 ^^^ (word 14 >>> 6)
    sha512Rounds ks (w.drop 1 ++ [small1 + word 9 + small0 + word 0])
      [t1 + sum0 + majority, a, b, c, d + t1, e, f, g]

def sha512 (msg : Bytes) : Bytes :=
  let state := (Fragments.chunks 128 (padded msg)).foldl
    (fun s block => List.zipWith (· + ·) s (sha512Rounds roundConstants (words64 block) s)) initialHash
  state.flatMap fun w => toBytes 8 w.toNat

/-! ## The curve -/

def p : Nat := 2 ^ 255 - 19

/-- The order of the base point. -/
def order : Nat := 2 ^ 252 + 27742317777372353535851937790883648493

def d : Nat := 37095705934669439343138083508754565189542113879843219016388785533085940283555

/-- A point in extended coordinates. -/
structure Point where
  x : Nat
  y : Nat
  z : Nat
  t : Nat

def Point.zero : Point := ⟨0, 1, 1, 0⟩

def basePoint : Point :=
  let x := 15112221349535400772501151409588531511454012693041857206046113283949847762202
  let y := 46316835694926478169428394003475163141307993866256225615783033603165251855960
  ⟨x, y, 1, x * y % p⟩

def sub (a b : Nat) : Nat := (a + p - b) % p

def Point.add (m n : Point) : Point :=
  let a := sub m.y m.x * sub n.y n.x % p
  let b := (m.y + m.x) * (n.y + n.x) % p
  let c := m.t * 2 * d * n.t % p
  let e := m.z * 2 * n.z % p
  let (f, g, h, i) := (sub b a, sub e c, (e + c) % p, (b + a) % p)
  ⟨f * g % p, h * i % p, g * h % p, f * i % p⟩

/-- Double and add over the binary digits of the scalar, lowest first. -/
def scalarMul : Nat → Nat → Point → Point
  | 0, _, _ => .zero
  | bits + 1, k, q =>
    let rest := scalarMul bits (k / 2) (q.add q)
    if k % 2 = 1 then q.add rest else rest

/-- Square and multiply modulo `p`. -/
def powMod : Nat → Nat → Nat → Nat
  | 0, _, _ => 1
  | bits + 1, b, k =>
    let rest := powMod bits (b * b % p) (k / 2)
    if k % 2 = 1 then b * rest % p else rest

/-- The second coordinate with the parity of the first in its top bit. -/
def Point.compress (q : Point) : Bytes :=
  let inverse := powMod 255 q.z (p - 2)
  let (x, y) := (q.x * inverse % p, q.y * inverse % p)
  toLittleEndian 32 (y + x % 2 * 2 ^ 255)

/-! ## Signing -/

/-- The secret scalar: the lower half of the hashed seed with five bits fixed. -/
def secretScalar (seed : Octets 32) : Nat :=
  let a := ofLittleEndian ((sha512 seed.1).take 32)
  (a / 8 * 8) % 2 ^ 254 + 2 ^ 254

def publicKey (seed : Octets 32) : Bytes := (scalarMul 255 (secretScalar seed) basePoint).compress

def sign (seed : Octets 32) (msg : Bytes) : Octets 64 :=
  let a := secretScalar seed
  let r := ofLittleEndian (sha512 ((sha512 seed.1).drop 32 ++ msg)) % order
  let commitment := (scalarMul 255 r basePoint).compress
  let k := ofLittleEndian (sha512 (commitment ++ publicKey seed ++ msg)) % order
  ⟨commitment ++ toLittleEndian 32 ((r + k * a) % order), by simp [commitment, Point.compress]⟩

end Ed25519
