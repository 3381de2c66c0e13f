import NexusRemote.BigEndian

/-!
# The Protobuf wire format

A message is a list of fields, each behind a key that gives its number and
whether an integer or a counted run of bytes follows. What is written reads back
as the same fields.
-/

namespace Protobuf

open BigEndian

inductive Value where
  | uint (n : Nat)
  | bytes (b : Bytes)
  deriving DecidableEq

structure Field where
  tag : Nat
  value : Value
  deriving DecidableEq

/-! ## Variable-length integers -/

/-- Seven bits a byte, lowest first; the first argument bounds the number of bytes. -/
def varintUpTo : Nat → Nat → Bytes
  | 0, x => [UInt8.ofNat x]
  | n + 1, x =>
    if x < 128 then [UInt8.ofNat x] else UInt8.ofNat (x % 128 + 128) :: varintUpTo n (x / 128)

def varint (x : Nat) : Bytes := varintUpTo x x

def readVarint : Bytes → Option (Nat × Bytes)
  | [] => none
  | b :: rest =>
    if b < 128 then some (b.toNat, rest)
    else
      match readVarint rest with
      | none => none
      | some (x, rest) => some (b.toNat % 128 + 128 * x, rest)

theorem readVarint_small (x : Nat) (h : x < 128) (rest : Bytes) :
    readVarint ([UInt8.ofNat x] ++ rest) = some (x, rest) := by
  have hx : (UInt8.ofNat x).toNat = x := by
    rw [UInt8.toNat_ofNat']
    omega
  have hlt : UInt8.ofNat x < 128 := by
    rw [UInt8.lt_iff_toNat_lt, hx]
    exact h
  simp [readVarint, hlt, hx]

theorem readVarint_varintUpTo (n x : Nat) (h : x ≤ n) (rest : Bytes) :
    readVarint (varintUpTo n x ++ rest) = some (x, rest) := by
  induction n generalizing x with
  | zero => exact readVarint_small x (by omega) rest
  | succ n ih =>
    unfold varintUpTo
    split
    · rename_i hx
      exact readVarint_small x hx rest
    · rename_i hx
      have hb : (UInt8.ofNat (x % 128 + 128)).toNat = x % 128 + 128 := by
        rw [UInt8.toNat_ofNat']
        omega
      have hge : ¬UInt8.ofNat (x % 128 + 128) < 128 := by
        rw [UInt8.lt_iff_toNat_lt, hb]
        have : (128 : UInt8).toNat = 128 := rfl
        omega
      have htail := ih (x / 128) (by omega)
      simp only [List.cons_append, readVarint, hge, if_false, htail, hb, Option.some.injEq,
        Prod.mk.injEq, and_true]
      omega

theorem readVarint_varint (x : Nat) (rest : Bytes) :
    readVarint (varint x ++ rest) = some (x, rest) :=
  readVarint_varintUpTo x x (Nat.le_refl _) rest

/-! ## Fields -/

def Field.encode : Field → Bytes
  | ⟨tag, .uint n⟩ => varint (8 * tag) ++ varint n
  | ⟨tag, .bytes b⟩ => varint (8 * tag + 2) ++ varint b.length ++ b

def encode (fields : List Field) : Bytes := fields.flatMap Field.encode

/-- The value that follows a key. -/
def readValue (wireType : Nat) (bytes : Bytes) : Option (Value × Bytes) :=
  match wireType with
  | 0 =>
    match readVarint bytes with
    | none => none
    | some (n, rest) => some (.uint n, rest)
  | 2 =>
    match readVarint bytes with
    | none => none
    | some (len, rest) =>
      if rest.length < len then none else some (.bytes (rest.take len), rest.drop len)
  | _ => none

def readField (bytes : Bytes) : Option (Field × Bytes) :=
  match readVarint bytes with
  | none => none
  | some (key, rest) =>
    match readValue (key % 8) rest with
    | none => none
    | some (value, rest) => some (⟨key / 8, value⟩, rest)

/-- Reads fields until nothing is left; the first argument bounds their number. -/
def readFields : Nat → Bytes → Option (List Field)
  | _, [] => some []
  | 0, _ :: _ => none
  | n + 1, b :: bytes =>
    match readField (b :: bytes) with
    | none => none
    | some (field, rest) =>
      match readFields n rest with
      | none => none
      | some fields => some (field :: fields)

def decode (bytes : Bytes) : Option (List Field) := readFields bytes.length bytes

theorem readField_encode (field : Field) (rest : Bytes) :
    readField (field.encode ++ rest) = some (field, rest) := by
  obtain ⟨tag, n | b⟩ := field
  · have hwire : 8 * tag % 8 = 0 := by omega
    have htag : 8 * tag / 8 = tag := by omega
    simp only [Field.encode, List.append_assoc, readField, readVarint_varint, hwire, readValue, htag]
  · have hwire : (8 * tag + 2) % 8 = 2 := by omega
    have htag : (8 * tag + 2) / 8 = tag := by omega
    have hroom : ¬(b ++ rest).length < b.length := by
      rw [List.length_append]
      omega
    simp only [Field.encode, List.append_assoc, readField, readVarint_varint, hwire, readValue,
      hroom, if_false, List.take_left, List.drop_left, htag]

theorem Field.encode_ne_nil (field : Field) : field.encode ≠ [] := by
  intro h
  have hread := readField_encode field []
  rw [h] at hread
  cases hread

theorem readFields_encode (n : Nat) (fields : List Field) (h : (encode fields).length ≤ n) :
    readFields n (encode fields) = some fields := by
  induction fields generalizing n with
  | nil => cases n <;> rfl
  | cons field fields ih =>
    have hcons : encode (field :: fields) = field.encode ++ encode fields := rfl
    have hpos := List.length_pos_iff.mpr field.encode_ne_nil
    rw [hcons, List.length_append] at h
    rw [hcons]
    obtain ⟨n, rfl⟩ : ∃ m, n = m + 1 := ⟨n - 1, by omega⟩
    have htail := ih n (by omega)
    have hread := readField_encode field (encode fields)
    generalize field.encode ++ encode fields = bytes at hread ⊢
    cases bytes with
    | nil => cases hread
    | cons b bytes => simp only [readFields, hread, htail]

/-- What was written reads back. -/
theorem decode_encode (fields : List Field) : decode (encode fields) = some fields :=
  readFields_encode _ fields (Nat.le_refl _)

/-! ## Fields with default values -/

/-- A number is left out when it is zero. -/
def uintField (tag x : Nat) : List Field := if x = 0 then [] else [⟨tag, .uint x⟩]

/-- A run of bytes is left out when it is empty. -/
def bytesField (tag : Nat) (b : Bytes) : List Field := if b.isEmpty then [] else [⟨tag, .bytes b⟩]

def repeatedField (tag : Nat) (bs : List Bytes) : List Field := bs.map fun b => ⟨tag, .bytes b⟩

section
variable {α : Type} {merge : α → Field → Option α}

/-- Reading back a number that may have been left out. -/
theorem merge_uintField (tag x : Nat) (m m' : α) (hset : merge m ⟨tag, .uint x⟩ = some m')
    (hzero : x = 0 → m' = m) : (uintField tag x).foldlM merge m = some m' := by
  unfold uintField
  split
  · rename_i hx
    rw [hzero hx]
    rfl
  · simp [hset]

theorem merge_bytesField (tag : Nat) (b : Bytes) (m m' : α)
    (hset : merge m ⟨tag, .bytes b⟩ = some m') (hempty : b = [] → m' = m) :
    (bytesField tag b).foldlM merge m = some m' := by
  unfold bytesField
  cases b with
  | nil =>
    rw [hempty rfl]
    rfl
  | cons x b => simp [hset]

theorem merge_repeatedField (tag : Nat) (bs : List Bytes) (m : α) (set : List Bytes → α)
    (hset : ∀ done b, b ∈ bs → merge (set done) ⟨tag, .bytes b⟩ = some (set (done ++ [b])))
    (hempty : set [] = m) :
    (repeatedField tag bs).foldlM merge m = some (set bs) := by
  have hgen : ∀ done rest, (∀ b ∈ rest, b ∈ bs) →
      (repeatedField tag rest).foldlM merge (set done) = some (set (done ++ rest)) := by
    intro done rest hrest
    induction rest generalizing done with
    | nil => simp [repeatedField]
    | cons b rest ih =>
      have hb := hset done b (hrest b List.mem_cons_self)
      have htail := ih (done ++ [b]) (fun c hc => hrest c (List.mem_cons_of_mem _ hc))
      simp only [repeatedField, List.map_cons, List.foldlM_cons, hb] at htail ⊢
      simpa using htail
  rw [← hempty]
  exact hgen [] bs (fun _ hb => hb)

end

/-! ## Signed numbers -/

/-- Small numbers of either sign become small naturals: 0, -1, 1, -2, and so on. -/
def zigzag (x : Int) : Nat := if 0 ≤ x then 2 * x.toNat else 2 * (-x).toNat - 1

def unzigzag (n : Nat) : Int := if n % 2 = 0 then (n / 2 : Nat) else -((n / 2 : Nat) + 1)

theorem unzigzag_zigzag (x : Int) : unzigzag (zigzag x) = x := by
  unfold zigzag unzigzag
  by_cases h : 0 ≤ x
  · rw [if_pos h, if_pos (by omega)]
    omega
  · rw [if_neg h, if_neg (by omega)]
    omega

theorem zigzag_unzigzag (n : Nat) : zigzag (unzigzag n) = n := by
  unfold zigzag unzigzag
  by_cases h : n % 2 = 0
  · rw [if_pos h, if_pos (by omega)]
    omega
  · rw [if_neg h, if_neg (by omega)]
    omega

theorem zigzag_lt (x : Int32) : zigzag x.toInt < 2 ^ 32 := by
  have hlow := x.le_toInt
  have hhigh := x.toInt_lt
  unfold zigzag
  split <;> omega

/-- A signed number that is left out when it is zero. -/
def sintField (tag : Nat) (x : Int) : List Field := uintField tag (zigzag x)

def boolField (tag : Nat) (b : Bool) : List Field := uintField tag b.toNat

/-! ## Telling messages apart -/

theorem encode_injective {fields fields' : List Field} (h : encode fields = encode fields') :
    fields = fields' := by
  have hread := decode_encode fields
  rw [h, decode_encode] at hread
  exact (Option.some.inj hread).symm

/-- The first number behind a key, or the default. -/
def uintAt (fields : List Field) (tag : Nat) : Nat :=
  (fields.findSome? fun
    | ⟨tag', .uint n⟩ => if tag' = tag then some n else none
    | ⟨_, .bytes _⟩ => none).getD 0

/-- The first run of bytes behind a key, or the default. -/
def bytesAt (fields : List Field) (tag : Nat) : Bytes :=
  (fields.findSome? fun
    | ⟨tag', .bytes b⟩ => if tag' = tag then some b else none
    | ⟨_, .uint _⟩ => none).getD []

theorem uintAt_uintField (tag x : Nat) (rest : List Field) (tag' : Nat) :
    uintAt (uintField tag x ++ rest) tag' =
      if tag = tag' ∧ x ≠ 0 then x else uintAt rest tag' := by
  by_cases hx : x = 0
  · simp [uintField, hx]
  · by_cases ht : tag = tag'
    · simp [uintField, uintAt, hx, ht]
    · simp [uintField, uintAt, hx, ht]

theorem uintAt_bytesField (tag : Nat) (b : Bytes) (tag' : Nat) : uintAt (bytesField tag b) tag' = 0 := by
  cases b <;> simp [bytesField, uintAt]

theorem bytesAt_uintField (tag x : Nat) (rest : List Field) (tag' : Nat) :
    bytesAt (uintField tag x ++ rest) tag' = bytesAt rest tag' := by
  by_cases hx : x = 0
  · simp [uintField, hx]
  · simp [uintField, bytesAt, hx]

theorem bytesAt_bytesField (tag : Nat) (b : Bytes) : bytesAt (bytesField tag b) tag = b := by
  cases b <;> simp [bytesField, bytesAt]

/-! ## Sizes -/

theorem length_varintUpTo (n x k : Nat) (hk : 0 < k) (hx : x < 128 ^ k) :
    (varintUpTo n x).length ≤ k := by
  induction n generalizing x k with
  | zero => exact hk
  | succ n ih =>
    unfold varintUpTo
    split
    · exact hk
    · rename_i hbig
      obtain ⟨k, rfl⟩ : ∃ j, k = j + 1 := ⟨k - 1, by omega⟩
      have hdiv : x / 128 < 128 ^ k := by
        rw [Nat.pow_succ] at hx
        exact Nat.div_lt_of_lt_mul (by rwa [Nat.mul_comm])
      have hpos : 0 < k := by
        rcases Nat.eq_zero_or_pos k with rfl | hpos
        · simp only [Nat.zero_add, Nat.pow_one] at hx
          omega
        · exact hpos
      rw [List.length_cons]
      exact Nat.succ_le_succ (ih (x / 128) k hpos hdiv)

theorem length_varint (x k : Nat) (hk : 0 < k) (hx : x < 128 ^ k) : (varint x).length ≤ k :=
  length_varintUpTo x x k hk hx

theorem encode_append (fields fields' : List Field) :
    encode (fields ++ fields') = encode fields ++ encode fields' := by
  simp [encode]

/-- A number below 2^32 takes at most five bytes, and a small field number one. -/
theorem length_uintField (tag x : Nat) (ht : tag < 16) (hx : x < 2 ^ 32) :
    (encode (uintField tag x)).length ≤ 6 := by
  unfold uintField
  split
  · exact Nat.zero_le _
  · have hkey := length_varint (8 * tag) 1 (by decide) (by omega)
    have hvalue := length_varint x 5 (by decide) (by omega)
    simp only [encode, List.flatMap_singleton, Field.encode, List.length_append]
    omega

theorem length_bytesField (tag : Nat) (b : Bytes) (ht : tag < 15) (hb : b.length < 2 ^ 14) :
    (encode (bytesField tag b)).length ≤ 3 + b.length := by
  unfold bytesField
  split
  · exact Nat.zero_le _
  · have hkey := length_varint (8 * tag + 2) 1 (by decide) (by omega)
    have hlen := length_varint b.length 2 (by decide) (by omega)
    simp only [encode, List.flatMap_singleton, Field.encode, List.length_append]
    omega

/-- A run of bytes is not longer than its field. -/
theorem length_le_bytesField (tag : Nat) (b : Bytes) :
    b.length ≤ (encode (bytesField tag b)).length := by
  cases b with
  | nil => exact Nat.zero_le _
  | cons x b =>
    simp only [bytesField, encode, List.isEmpty_cons, Bool.false_eq_true, if_false,
      List.flatMap_singleton, Field.encode, List.length_append]
    omega

end Protobuf
