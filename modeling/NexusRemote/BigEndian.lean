import Mathlib

/-!
# Fixed-width big-endian naturals

The wire formats write every multi-byte integer most significant byte first.
`toBytes n x` is that expansion at a fixed width `n`, with the bits above
`8 * n` dropped; `ofBytes` reads one back. A field inside a longer buffer is
read through `slice`. A text is written as its UTF-8 bytes.
-/

namespace BigEndian

abbrev Bytes := List UInt8

/-- A byte array of a length fixed by its type. -/
abbrev Octets (n : Nat) := List.Vector UInt8 n

def toBytes : Nat → Nat → Bytes
  | 0, _ => []
  | n + 1, x => toBytes n (x / 256) ++ [UInt8.ofNat x]

def ofBytes (bs : Bytes) : Nat := bs.foldl (fun acc b => 256 * acc + b.toNat) 0

@[simp] theorem length_toBytes (n x : Nat) : (toBytes n x).length = n := by
  induction n generalizing x with
  | zero => rfl
  | succ n ih => simp [toBytes, ih]

@[simp] theorem ofBytes_nil : ofBytes [] = 0 := rfl

@[simp] theorem ofBytes_concat (bs : Bytes) (b : UInt8) :
    ofBytes (bs ++ [b]) = 256 * ofBytes bs + b.toNat := by simp [ofBytes]

theorem ofBytes_toBytes (n x : Nat) : ofBytes (toBytes n x) = x % 256 ^ n := by
  induction n generalizing x with
  | zero => simp [toBytes, Nat.mod_one]
  | succ n ih =>
    have hb : (UInt8.ofNat x).toNat = x % 256 := by simp
    rw [toBytes, ofBytes_concat, ih, hb, Nat.pow_succ', Nat.mod_mul]
    omega

theorem ofBytes_toBytes_of_lt (n x : Nat) (h : x < 256 ^ n) : ofBytes (toBytes n x) = x := by
  rw [ofBytes_toBytes, Nat.mod_eq_of_lt h]

theorem ofBytes_lt (bytes : Bytes) : ofBytes bytes < 256 ^ bytes.length := by
  induction bytes using List.reverseRecOn with
  | nil => decide
  | append_singleton bytes b ih =>
    have hb := b.toNat_lt
    rw [ofBytes_concat, List.length_append, List.length_singleton, Nat.pow_succ]
    omega

theorem toBytes_ofBytes (bytes : Bytes) : toBytes bytes.length (ofBytes bytes) = bytes := by
  induction bytes using List.reverseRecOn with
  | nil => rfl
  | append_singleton bytes b ih =>
    have hdiv : (256 * ofBytes bytes + b.toNat) / 256 = ofBytes bytes := by
      have hb := b.toNat_lt
      omega
    have hlast : UInt8.ofNat (256 * ofBytes bytes + b.toNat) = b := by
      apply UInt8.toNat_inj.mp
      have hb := b.toNat_lt
      rw [UInt8.toNat_ofNat']
      omega
    rw [ofBytes_concat, List.length_append, List.length_singleton, toBytes, hdiv, ih, hlast]

@[simp] theorem word16 (x : UInt16) : UInt16.ofNat (ofBytes (toBytes 2 x.toNat)) = x := by
  rw [ofBytes_toBytes_of_lt 2 _ x.toNat_lt, UInt16.ofNat_toNat]

@[simp] theorem word32 (x : UInt32) : UInt32.ofNat (ofBytes (toBytes 4 x.toNat)) = x := by
  rw [ofBytes_toBytes_of_lt 4 _ x.toNat_lt, UInt32.ofNat_toNat]

@[simp] theorem word64 (x : UInt64) : UInt64.ofNat (ofBytes (toBytes 8 x.toNat)) = x := by
  rw [ofBytes_toBytes_of_lt 8 _ x.toNat_lt, UInt64.ofNat_toNat]

/-- The `n` bytes of a buffer from offset `off` on. -/
def slice (bs : Bytes) (off n : Nat) : Bytes := (bs.drop off).take n

@[simp] theorem slice_cons (b : UInt8) (bs : Bytes) (off n : Nat) :
    slice (b :: bs) (off + 1) n = slice bs off n := rfl

/-- A field behind a known front part is a field of the rest. -/
theorem slice_append_right (xs ys : Bytes) (off n : Nat) (h : xs.length ≤ off) :
    slice (xs ++ ys) off n = slice ys (off - xs.length) n := by
  simp [slice, List.drop_append, List.drop_eq_nil_of_le h]

theorem slice_append_left (xs ys : Bytes) (n : Nat) (h : xs.length = n) :
    slice (xs ++ ys) 0 n = xs := by
  simp [slice, ← h]

theorem slice_whole (xs : Bytes) : slice xs 0 xs.length = xs := by simp [slice]

theorem length_slice (bs : Bytes) (off n : Nat) (h : off + n ≤ bs.length) :
    (slice bs off n).length = n := by
  rw [slice, List.length_take, List.length_drop]
  omega

theorem slice_append_slice (bs : Bytes) (off n m : Nat) :
    slice bs off n ++ slice bs (off + n) m = slice bs off (n + m) := by
  rw [slice, slice, slice, List.take_add, List.drop_drop]

/-- A field of `n` bytes that was read is written back as those bytes. -/
theorem toBytes_slice (bs : Bytes) (off n : Nat) (h : off + n ≤ bs.length) :
    toBytes n (ofBytes (slice bs off n)) = slice bs off n := by
  have hwrite := toBytes_ofBytes (slice bs off n)
  rwa [length_slice bs off n h] at hwrite

theorem ofBytes_slice_lt (bs : Bytes) (off n : Nat) : ofBytes (slice bs off n) < 256 ^ n := by
  have hlt := ofBytes_lt (slice bs off n)
  have hle : (slice bs off n).length ≤ n := by
    rw [slice, List.length_take]
    exact Nat.min_le_left _ _
  exact hlt.trans_le (Nat.pow_le_pow_right (by decide) hle)

/-! ## Counted runs -/

/-- A run of bytes behind its length, which takes `n` bytes. -/
def counted (n : Nat) (payload : Bytes) : Bytes := toBytes n payload.length ++ payload

@[simp] theorem length_counted (n : Nat) (payload : Bytes) :
    (counted n payload).length = n + payload.length := by simp [counted]

@[simp] theorem take_counted (n : Nat) (payload : Bytes) :
    (counted n payload).take n = toBytes n payload.length :=
  List.take_left' (length_toBytes n _)

@[simp] theorem drop_counted (n : Nat) (payload : Bytes) : (counted n payload).drop n = payload :=
  List.drop_left' (length_toBytes n _)

/-- A buffer that is as long as it declares is a counted run. -/
theorem counted_drop (n : Nat) (bytes : Bytes) (h : bytes.length = n + ofBytes (bytes.take n)) :
    counted n (bytes.drop n) = bytes := by
  have hfront : (bytes.take n).length = n := by
    rw [List.length_take]
    omega
  have hlen : (bytes.drop n).length = ofBytes (bytes.take n) := by
    rw [List.length_drop]
    omega
  have hwrite := toBytes_ofBytes (bytes.take n)
  rw [hfront] at hwrite
  rw [counted, hlen, hwrite, List.take_append_drop]

/-- No counted run goes on as another one. -/
theorem counted_unextended (n : Nat) (p q : Bytes) (hp : p.length < 256 ^ n)
    (hq : q.length < 256 ^ n) (h : counted n p <+: counted n q) : p = q := by
  obtain ⟨rest, hrest⟩ := h
  simp only [counted, List.append_assoc] at hrest
  obtain ⟨hcount, hpayload⟩ := List.append_inj hrest (by simp)
  have hread := congrArg ofBytes hcount
  rw [ofBytes_toBytes_of_lt n _ hp, ofBytes_toBytes_of_lt n _ hq] at hread
  have hnone : rest = [] := by
    have hlen := congrArg List.length hpayload
    rw [List.length_append] at hlen
    apply List.eq_nil_of_length_eq_zero
    omega
  rwa [hnone, List.append_nil] at hpayload

/-! ## Texts -/

theorem toList_loop (a : ByteArray) (i : Nat) (r : List UInt8) :
    ByteArray.toList.loop a i r = r.reverse ++ a.data.toList.drop i := by
  fun_induction ByteArray.toList.loop a i r with
  | case1 i r h ih =>
    have hi : i < a.data.toList.length := h
    have hget : a.get! i = a.data.toList[i] := by simp [ByteArray.get!, h]
    rw [ih, List.drop_eq_getElem_cons hi, hget]
    simp
  | case2 i r h =>
    have hi : a.data.toList.length ≤ i := Nat.not_lt.mp h
    rw [List.drop_eq_nil_of_le hi, List.append_nil]

theorem toList_eq (a : ByteArray) : a.toList = a.data.toList := toList_loop a 0 []

@[simp] theorem length_utf8 (s : String) : s.toUTF8.toList.length = s.utf8ByteSize := by
  rw [toList_eq]
  rfl

def utf8 (s : String) : Bytes := s.toUTF8.toList

/-- The text that bytes encode, if they do. -/
def ofUtf8 (bytes : Bytes) : Option String := String.fromUTF8? bytes.toByteArray

/-- A text reads back from its bytes. -/
theorem ofUtf8_utf8 (s : String) : ofUtf8 (utf8 s) = some s := by
  have h : (utf8 s).toByteArray = s.toByteArray := by
    rw [utf8, toList_eq]
    apply ByteArray.ext
    rw [List.data_toByteArray]
    simp
  rw [ofUtf8, h, String.fromUTF8?, dif_pos s.isValidUTF8]
  rfl

theorem utf8_eq_nil (s : String) (h : utf8 s = []) : s = "" := by
  have hread := ofUtf8_utf8 s
  rw [h] at hread
  exact (Option.some.inj hread).symm

theorem utf8_injective : Function.Injective utf8 := by
  intro s t h
  have hread := ofUtf8_utf8 s
  rw [h, ofUtf8_utf8] at hread
  exact (Option.some.inj hread).symm

theorem utf8_append (s t : String) : utf8 (s ++ t) = utf8 s ++ utf8 t := by
  have h : (s ++ t).toUTF8 = s.toUTF8 ++ t.toUTF8 := String.toByteArray_append
  rw [utf8, utf8, utf8, toList_eq, toList_eq, toList_eq, h, ByteArray.data_append,
    Array.toList_append]

/-- A text is written character by character. -/
theorem utf8_eq_flatMap (s : String) : utf8 s = s.toList.flatMap String.utf8EncodeChar := by
  rw [utf8, toList_eq, String.toUTF8_eq_toByteArray, ← String.utf8Encode_toList, List.utf8Encode,
    List.data_toByteArray]

/-- The bytes of an ASCII text are its characters. -/
theorem utf8_ofList_ascii (cs : List Char) (h : ∀ c ∈ cs, c.toNat < 128) :
    utf8 (String.ofList cs) = cs.map fun c => UInt8.ofNat c.toNat := by
  rw [utf8_eq_flatMap, String.toList_ofList]
  induction cs with
  | nil => rfl
  | cons c cs ih =>
    obtain ⟨hc, hcs⟩ := List.forall_mem_cons.mp h
    have hchar : String.utf8EncodeChar c = [UInt8.ofNat c.toNat] :=
      if_pos (show c.toNat ≤ 127 by omega)
    rw [List.flatMap_cons, hchar, ih hcs, List.map_cons, List.singleton_append]

end BigEndian
