import NexusRemote.ChaCha20Poly1305

/-!
# BLAKE3

The hash function of the audit chain in its plain mode, with 32 bytes of output.
-/

namespace Blake3

open BigEndian ChaCha20Poly1305

def iv : List UInt32 :=
  [0x6a09e667, 0xbb67ae85, 0x3c6ef372, 0xa54ff53a, 0x510e527f, 0x9b05688c, 0x1f83d9ab, 0x5be0cd19]

/-- The order in which the next round reads the message words. -/
def permutation : List Nat := [2, 6, 3, 10, 7, 0, 4, 13, 1, 11, 12, 5, 9, 14, 15, 8]

def chunkStart : UInt32 := 1
def chunkEnd : UInt32 := 2
def parent : UInt32 := 4
def root : UInt32 := 8

/-- One mixing step on four entries of the state, with two message words. -/
def mix (a b c d : Nat) (x y : UInt32) (s : List UInt32) : List UInt32 :=
  let (va, vb, vc, vd) := (s.getD a 0, s.getD b 0, s.getD c 0, s.getD d 0)
  let va := va + vb + x
  let vd := rotateLeft (vd ^^^ va) 16
  let vc := vc + vd
  let vb := rotateLeft (vb ^^^ vc) 20
  let va := va + vb + y
  let vd := rotateLeft (vd ^^^ va) 24
  let vc := vc + vd
  let vb := rotateLeft (vb ^^^ vc) 25
  (((s.set a va).set b vb).set c vc).set d vd

/-- The columns and then the diagonals. -/
def round (m : List UInt32) (s : List UInt32) : List UInt32 :=
  let w (i : Nat) : UInt32 := m.getD i 0
  let s := mix 0 4 8 12 (w 0) (w 1) s
  let s := mix 1 5 9 13 (w 2) (w 3) s
  let s := mix 2 6 10 14 (w 4) (w 5) s
  let s := mix 3 7 11 15 (w 6) (w 7) s
  let s := mix 0 5 10 15 (w 8) (w 9) s
  let s := mix 1 6 11 12 (w 10) (w 11) s
  let s := mix 2 7 8 13 (w 12) (w 13) s
  mix 3 4 9 14 (w 14) (w 15) s

def rounds : Nat → List UInt32 → List UInt32 → List UInt32
  | 0, _, s => s
  | n + 1, m, s => rounds n (permutation.map fun i => m.getD i 0) (round m s)

/-- The first half of the compression function's output. -/
def compress (cv m : List UInt32) (counter : Nat) (blockLen : Nat) (flags : UInt32) : List UInt32 :=
  let s := rounds 7 m (cv ++ iv.take 4 ++
    [UInt32.ofNat counter, UInt32.ofNat (counter / 2 ^ 32), UInt32.ofNat blockLen, flags])
  List.zipWith (· ^^^ ·) (s.take 8) (s.drop 8)

/-- The blocks of a chunk from its first one on; `final` marks the last block. -/
def blocks (counter : Nat) (final : UInt32) : Nat → UInt32 → List UInt32 → Bytes → List UInt32
  | 0, _, cv, _ => cv
  | n + 1, start, cv, bytes =>
    let block := bytes.take 64
    if bytes.length ≤ 64 then
      compress cv (words block 16) counter block.length (start ||| chunkEnd ||| final)
    else
      blocks counter final n 0 (compress cv (words block 16) counter 64 start) (bytes.drop 64)

/-- A tree over at most `2 ^ height` chunks of 1024 bytes. The left part of a node
is as large as a full tree can be. -/
def tree : Nat → Nat → UInt32 → Bytes → List UInt32
  | 0, counter, final, bytes => blocks counter final 16 chunkStart iv bytes
  | height + 1, counter, final, bytes =>
    let half := 2 ^ height * 1024
    if bytes.length ≤ half then tree height counter final bytes
    else
      compress iv (tree height counter 0 (bytes.take half) ++
        tree height (counter + 2 ^ height) 0 (bytes.drop half)) 0 64 (parent ||| final)

def blake3 (bytes : Bytes) : Octets 32 :=
  let out := (tree 54 0 root bytes).flatMap fun w => toLittleEndian 4 w.toNat
  List.Vector.ofFn fun i => out.getD i 0

end Blake3
