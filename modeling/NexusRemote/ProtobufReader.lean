import NexusRemote.Protobuf

/-!
# Reading Protobuf messages

A reader takes the fields of a message as they come: a key gives the number and
the wire type of the field, the message says what to do with it, and fields it
does not know are skipped, whole groups of them included. Numbers are varints of
at most ten bytes. What was written with the fields of a message reads back as
that message; messages are given by what they do with one field.
-/

namespace ProtobufReader

open BigEndian Protobuf

inductive WireType where
  | varint
  | sixtyFourBit
  | lengthDelimited
  | startGroup
  | endGroup
  | thirtyTwoBit
  deriving DecidableEq, Repr

def WireType.ofCode : Nat → Option WireType
  | 0 => some .varint
  | 1 => some .sixtyFourBit
  | 2 => some .lengthDelimited
  | 3 => some .startGroup
  | 4 => some .endGroup
  | 5 => some .thirtyTwoBit
  | _ => none

inductive DecodeError where
  | invalidVarint
  | invalidKey (key : Nat)
  | invalidWireType (value : Nat)
  | invalidTag
  | unexpectedWireType (actual expected : WireType)
  | bufferUnderflow
  | unexpectedEndGroup
  | recursionLimitReached
  | invalidString
  deriving DecidableEq, Repr

/-! ## Numbers and keys -/

/-- The first argument is how many bytes may still come; the last of ten has only one bit
to add. -/
def readVarintUpTo : Nat → Bytes → Except DecodeError (Nat × Bytes)
  | _, [] => .error .invalidVarint
  | 0, _ :: _ => .error .invalidVarint
  | 1, b :: rest => if b < 2 then .ok (b.toNat, rest) else .error .invalidVarint
  | n + 2, b :: rest =>
    if b < 128 then .ok (b.toNat, rest)
    else
      match readVarintUpTo (n + 1) rest with
      | .error e => .error e
      | .ok (x, rest) => .ok (b.toNat % 128 + 128 * x, rest)

def decodeVarint (bytes : Bytes) : Except DecodeError (Nat × Bytes) := readVarintUpTo 10 bytes

/-- The number of a field and the wire type of its value. -/
def decodeKey (bytes : Bytes) : Except DecodeError (Nat × WireType × Bytes) :=
  match decodeVarint bytes with
  | .error e => .error e
  | .ok (key, rest) =>
    if 2 ^ 32 ≤ key then .error (.invalidKey key)
    else
      match WireType.ofCode (key % 8) with
      | none => .error (.invalidWireType (key % 8))
      | some wireType => if key / 8 = 0 then .error .invalidTag else .ok (key / 8, wireType, rest)

/-- A run of bytes behind its length. -/
def decodeRun (bytes : Bytes) : Except DecodeError (Bytes × Bytes) :=
  match decodeVarint bytes with
  | .error e => .error e
  | .ok (len, rest) =>
    if rest.length < len then .error .bufferUnderflow else .ok (rest.take len, rest.drop len)

/-! ## Unknown fields -/

def skipBytes (n : Nat) (bytes : Bytes) : Except DecodeError Bytes :=
  if bytes.length < n then .error .bufferUnderflow else .ok (bytes.drop n)

/-- Passes over what follows a key; a group only begins there. -/
def skipValue (wireType : WireType) (bytes : Bytes) : Except DecodeError Bytes :=
  match wireType with
  | .varint => (decodeVarint bytes).map Prod.snd
  | .sixtyFourBit => skipBytes 8 bytes
  | .lengthDelimited => (decodeRun bytes).map Prod.snd
  | .startGroup => .ok bytes
  | .endGroup => .error .unexpectedEndGroup
  | .thirtyTwoBit => skipBytes 4 bytes

def recursionLimit : Nat := 100

/-- Passes over the fields of the open groups, the innermost of which comes first, to the
end of the last one. Every turn reads a key, so there are no more turns than bytes. -/
def skipGroups : Nat → List Nat → Bytes → Except DecodeError Bytes
  | _, [], bytes => .ok bytes
  | 0, _ :: _, _ => .error .invalidVarint
  | turns + 1, tag :: outer, bytes =>
    match decodeKey bytes with
    | .error e => .error e
    | .ok (inner, wireType, rest) =>
      if wireType = .endGroup then
        if inner = tag then skipGroups turns outer rest else .error .unexpectedEndGroup
      else if recursionLimit ≤ (tag :: outer).length then .error .recursionLimitReached
      else
        match skipValue wireType rest with
        | .error e => .error e
        | .ok rest =>
          skipGroups turns (if wireType = .startGroup then inner :: tag :: outer else tag :: outer)
            rest

def skipField (wireType : WireType) (tag : Nat) (bytes : Bytes) : Except DecodeError Bytes :=
  match skipValue wireType bytes with
  | .error e => .error e
  | .ok rest => skipGroups (rest.length + 1) (if wireType = .startGroup then [tag] else []) rest

/-! ## Known fields -/

/-- A field whose value is a number, taken in as `read` says. -/
def numberValue {α : Type} (read : Nat → α) (wireType : WireType) (bytes : Bytes) :
    Except DecodeError (α × Bytes) :=
  if wireType ≠ .varint then .error (.unexpectedWireType wireType .varint)
  else
    match decodeVarint bytes with
    | .error e => .error e
    | .ok (n, rest) => .ok (read n, rest)

def uint32Value : WireType → Bytes → Except DecodeError (UInt32 × Bytes) := numberValue UInt32.ofNat

/-- Of a longer number only the low 32 bits count. -/
def sint32Value : WireType → Bytes → Except DecodeError (Int32 × Bytes) :=
  numberValue fun n => Int32.ofInt (unzigzag (n % 2 ^ 32))

def boolValue : WireType → Bytes → Except DecodeError (Bool × Bytes) := numberValue (· ≠ 0)

def bytesValue (wireType : WireType) (bytes : Bytes) : Except DecodeError (Bytes × Bytes) :=
  if wireType ≠ .lengthDelimited then .error (.unexpectedWireType wireType .lengthDelimited)
  else decodeRun bytes

def stringValue (wireType : WireType) (bytes : Bytes) : Except DecodeError (String × Bytes) :=
  match bytesValue wireType bytes with
  | .error e => .error e
  | .ok (run, rest) =>
    match ofUtf8 run with
    | none => .error .invalidString
    | some s => .ok (s, rest)

/-! ## Messages -/

section Messages

variable {α : Type}

/-- What a message does with the value behind a key: the message it becomes, and what is
left to read. -/
abbrev Merge (α : Type) := α → Nat → WireType → Bytes → Except DecodeError (α × Bytes)

/-- A known field is set to its new value. -/
def setTo {β : Type} (set : β → α) (value : Except DecodeError (β × Bytes)) :
    Except DecodeError (α × Bytes) :=
  value.map fun (x, rest) => (set x, rest)

/-- An unknown field leaves the message as it is. -/
def unknown (m : α) (wireType : WireType) (tag : Nat) (bytes : Bytes) :
    Except DecodeError (α × Bytes) :=
  (skipField wireType tag bytes).map fun rest => (m, rest)

/-- The first argument bounds the number of fields. -/
def mergeFields (merge : Merge α) : Nat → α → Bytes → Except DecodeError α
  | _, m, [] => .ok m
  | 0, _, _ :: _ => .error .invalidVarint
  | turns + 1, m, b :: bytes =>
    match decodeKey (b :: bytes) with
    | .error e => .error e
    | .ok (tag, wireType, rest) =>
      match merge m tag wireType rest with
      | .error e => .error e
      | .ok (m, rest) => mergeFields merge turns m rest

/-- Every field takes a byte at least. -/
def decode (merge : Merge α) (empty : α) (bytes : Bytes) : Except DecodeError α :=
  mergeFields merge bytes.length empty bytes

end Messages

/-! ## Reading back numbers and keys -/

theorem readVarintUpTo_small (n x : Nat) (hx : x < 128) (hlast : n = 0 → x < 2) (rest : Bytes) :
    readVarintUpTo (n + 1) (UInt8.ofNat x :: rest) = .ok (x, rest) := by
  have hvalue : (UInt8.ofNat x).toNat = x := by
    rw [UInt8.toNat_ofNat']
    omega
  cases n with
  | zero =>
    have hlt : UInt8.ofNat x < 2 := by
      rw [UInt8.lt_iff_toNat_lt, hvalue]
      exact hlast rfl
    simp [readVarintUpTo, hlt, hvalue]
  | succ n =>
    have hlt : UInt8.ofNat x < 128 := by
      rw [UInt8.lt_iff_toNat_lt, hvalue]
      exact hx
    simp [readVarintUpTo, hlt, hvalue]

/-- With `n + 1` bytes to come there is room for seven bits in each but the last. -/
theorem readVarintUpTo_varintUpTo (n k x : Nat) (hk : x ≤ k) (hx : x < 2 * 128 ^ n)
    (rest : Bytes) : readVarintUpTo (n + 1) (varintUpTo k x ++ rest) = .ok (x, rest) := by
  induction n generalizing k x with
  | zero =>
    have hsmall : varintUpTo k x = [UInt8.ofNat x] := by
      cases k with
      | zero => rfl
      | succ k =>
        have : x < 128 := by omega
        simp [varintUpTo, this]
    rw [hsmall]
    exact readVarintUpTo_small 0 x (by omega) (by omega) rest
  | succ n ih =>
    cases k with
    | zero =>
      obtain rfl : x = 0 := by omega
      exact readVarintUpTo_small _ 0 (by omega) (by omega) rest
    | succ k =>
      by_cases hsmall : x < 128
      · have hone : varintUpTo (k + 1) x = [UInt8.ofNat x] := by simp [varintUpTo, hsmall]
        rw [hone]
        exact readVarintUpTo_small _ x hsmall (by omega) rest
      · have hb : (UInt8.ofNat (x % 128 + 128)).toNat = x % 128 + 128 := by
          rw [UInt8.toNat_ofNat']
          omega
        have hmore : ¬UInt8.ofNat (x % 128 + 128) < 128 := by
          rw [UInt8.lt_iff_toNat_lt, hb]
          have : (128 : UInt8).toNat = 128 := rfl
          omega
        have hdiv : x / 128 < 2 * 128 ^ n := by
          rw [Nat.pow_succ] at hx
          omega
        have htail := ih k (x / 128) (by omega) hdiv
        simp only [varintUpTo, hsmall, if_false, List.cons_append, readVarintUpTo, hmore, htail, hb,
          Except.ok.injEq, Prod.mk.injEq, and_true]
        omega

theorem decodeVarint_varint (x : Nat) (hx : x < 2 ^ 64) (rest : Bytes) :
    decodeVarint (varint x ++ rest) = .ok (x, rest) :=
  readVarintUpTo_varintUpTo 9 x x (Nat.le_refl _) (by omega) rest

theorem decodeRun_run (b : Bytes) (hb : b.length < 2 ^ 64) (rest : Bytes) :
    decodeRun (varint b.length ++ (b ++ rest)) = .ok (b, rest) := by
  have hroom : ¬(b ++ rest).length < b.length := by
    rw [List.length_append]
    omega
  simp only [decodeRun, decodeVarint_varint _ hb, hroom, if_false, List.take_left, List.drop_left]

theorem decodeKey_varint (tag code : Nat) (wireType : WireType) (hpos : 0 < tag)
    (htag : tag < 2 ^ 29) (hlt : code < 8) (hcode : WireType.ofCode code = some wireType)
    (rest : Bytes) :
    decodeKey (varint (8 * tag + code) ++ rest) = .ok (tag, wireType, rest) := by
  have hkey : ¬2 ^ 32 ≤ 8 * tag + code := by omega
  have hmod : (8 * tag + code) % 8 = code := by omega
  have hdiv : (8 * tag + code) / 8 = tag := by omega
  have hne : tag ≠ 0 := by omega
  simp only [decodeKey, decodeVarint_varint _ (show 8 * tag + code < 2 ^ 64 by omega), hkey, hmod,
    hdiv, hcode, hne, if_false]

/-- The wire type that a value is written with. -/
def wireTypeOf : Value → WireType
  | .uint _ => .varint
  | .bytes _ => .lengthDelimited

/-- The value of a field as it is written behind the key. -/
def written : Value → Bytes
  | .uint n => varint n
  | .bytes b => varint b.length ++ b

theorem decodeKey_encode (field : Field) (hpos : 0 < field.tag) (htag : field.tag < 2 ^ 29)
    (rest : Bytes) :
    decodeKey (field.encode ++ rest) =
      .ok (field.tag, wireTypeOf field.value, written field.value ++ rest) := by
  obtain ⟨tag, value⟩ := field
  cases value with
  | uint n =>
    simp only [Field.encode, List.append_assoc, written]
    exact decodeKey_varint tag 0 .varint hpos htag (by decide) rfl _
  | bytes b =>
    simp only [Field.encode, List.append_assoc, written]
    exact decodeKey_varint tag 2 .lengthDelimited hpos htag (by decide) rfl _

/-! ## Reading back messages -/

section Reads

variable {α : Type} {merge : Merge α} {m m' m'' : α}

/-- With these bytes to read first, the message becomes another one and the bytes are used
up, whatever follows them. -/
def Reads (merge : Merge α) (m : α) (bytes : Bytes) (m' : α) : Prop :=
  ∀ turns rest, bytes.length + rest.length ≤ turns →
    ∃ left, rest.length ≤ left ∧
      mergeFields merge turns m (bytes ++ rest) = mergeFields merge left m' rest

theorem Reads.nil (merge : Merge α) (m : α) : Reads merge m [] m := by
  intro turns rest hturns
  rw [List.length_nil, Nat.zero_add] at hturns
  exact ⟨turns, hturns, rfl⟩

theorem Reads.append {first second : Bytes} (h : Reads merge m first m')
    (h' : Reads merge m' second m'') : Reads merge m (first ++ second) m'' := by
  intro turns rest hturns
  rw [List.length_append] at hturns
  obtain ⟨left, hleft, hfirst⟩ := h turns (second ++ rest) (by rw [List.length_append]; omega)
  rw [List.length_append] at hleft
  obtain ⟨left', hleft', hsecond⟩ := h' left rest hleft
  exact ⟨left', hleft', by rw [List.append_assoc, hfirst, hsecond]⟩

/-- One field is read when the message takes its value. -/
theorem Reads.field {field : Field} (hpos : 0 < field.tag) (htag : field.tag < 2 ^ 29)
    (hmerge : ∀ rest, merge m field.tag (wireTypeOf field.value) (written field.value ++ rest) =
      .ok (m', rest)) : Reads merge m field.encode m' := by
  intro turns rest hturns
  have hkey := decodeKey_encode field hpos htag rest
  have hnonempty := List.length_pos_iff.mpr field.encode_ne_nil
  cases turns with
  | zero => omega
  | succ turns =>
    refine ⟨turns, by omega, ?_⟩
    cases hbytes : field.encode with
    | nil => exact absurd hbytes field.encode_ne_nil
    | cons b bytes =>
      rw [hbytes] at hkey
      rw [List.cons_append] at hkey ⊢
      simp only [mergeFields, hkey, hmerge rest]

/-- What a whole message reads as. -/
theorem decode_of_reads {empty : α} {bytes : Bytes} (h : Reads merge empty bytes m) :
    decode merge empty bytes = .ok m := by
  obtain ⟨left, -, hread⟩ := h bytes.length [] (by simp)
  rw [List.append_nil] at hread
  rw [decode, hread]
  cases left <;> rfl

/-- A number that may have been left out because it is the default. -/
theorem Reads.number {β : Type} {tag n : Nat} {read : Nat → β} (hpos : 0 < tag)
    (htag : tag < 2 ^ 29) (hn : n < 2 ^ 64) (set : β → α)
    (hmerge : ∀ bytes, merge m tag .varint bytes = setTo set (numberValue read .varint bytes))
    (hdefault : set (read 0) = m) :
    Reads merge m (Protobuf.encode (uintField tag n)) (set (read n)) := by
  unfold uintField
  split
  · rename_i hzero
    rw [hzero, hdefault]
    exact Reads.nil merge m
  · have hfield : Reads merge m (Field.encode ⟨tag, .uint n⟩) (set (read n)) := by
      apply Reads.field hpos htag
      intro rest
      simp only [wireTypeOf, written, hmerge, numberValue, decodeVarint_varint n hn]
      rfl
    simpa [Protobuf.encode] using hfield

/-- A run of bytes that may have been left out because it is empty. -/
theorem Reads.run {tag : Nat} {b : Bytes} (hpos : 0 < tag) (htag : tag < 2 ^ 29)
    (hmerge : ∀ rest, merge m tag .lengthDelimited (varint b.length ++ (b ++ rest)) =
      .ok (m', rest)) (hdefault : b = [] → m' = m) :
    Reads merge m (Protobuf.encode (bytesField tag b)) m' := by
  cases b with
  | nil =>
    rw [hdefault rfl]
    exact Reads.nil merge m
  | cons x b =>
    have hfield : Reads merge m (Field.encode ⟨tag, .bytes (x :: b)⟩) m' := by
      apply Reads.field hpos htag
      intro rest
      simp only [wireTypeOf, written, List.append_assoc]
      exact hmerge rest
    simpa [Protobuf.encode, bytesField] using hfield

theorem Reads.uint32 (merge : Merge α) (tag : Nat) (x : UInt32) (set : UInt32 → α)
    (htag : 0 < tag ∧ tag < 2 ^ 29) (hdefault : set 0 = m)
    (hmerge : ∀ bytes, merge m tag .varint bytes = setTo set (uint32Value .varint bytes)) :
    Reads merge m (Protobuf.encode (uintField tag x.toNat)) (set x) := by
  have hx : x.toNat < 2 ^ 64 := x.toNat_lt.trans (by decide)
  have hread := Reads.number htag.1 htag.2 hx set hmerge hdefault
  rwa [UInt32.ofNat_toNat] at hread

theorem Reads.sint32 (merge : Merge α) (tag : Nat) (x : Int32) (set : Int32 → α)
    (htag : 0 < tag ∧ tag < 2 ^ 29) (hdefault : set 0 = m)
    (hmerge : ∀ bytes, merge m tag .varint bytes = setTo set (sint32Value .varint bytes)) :
    Reads merge m (Protobuf.encode (sintField tag x.toInt)) (set x) := by
  have hx := zigzag_lt x
  have hread := Reads.number htag.1 htag.2 (hx.trans (by decide)) set hmerge hdefault
  rwa [Nat.mod_eq_of_lt hx, unzigzag_zigzag, Int32.ofInt_toInt] at hread

theorem Reads.bool (merge : Merge α) (tag : Nat) (x : Bool) (set : Bool → α)
    (htag : 0 < tag ∧ tag < 2 ^ 29) (hdefault : set false = m)
    (hmerge : ∀ bytes, merge m tag .varint bytes = setTo set (boolValue .varint bytes)) :
    Reads merge m (Protobuf.encode (boolField tag x)) (set x) := by
  have hx : x.toNat < 2 ^ 64 := by cases x <;> decide
  have hread := Reads.number htag.1 htag.2 hx set hmerge hdefault
  cases x <;> exact hread

theorem Reads.bytes (merge : Merge α) (tag : Nat) (x : Bytes) (set : Bytes → α)
    (htag : 0 < tag ∧ tag < 2 ^ 29) (hx : x.length < 2 ^ 64)
    (hdefault : set [] = m) (hmerge : ∀ bytes, merge m tag .lengthDelimited bytes =
      setTo set (bytesValue .lengthDelimited bytes)) :
    Reads merge m (Protobuf.encode (bytesField tag x)) (set x) := by
  apply Reads.run htag.1 htag.2
  · intro rest
    rw [hmerge]
    simp [bytesValue, decodeRun_run x hx, setTo, Except.map]
  · intro hempty
    rw [hempty, hdefault]

theorem Reads.string (merge : Merge α) (tag : Nat) (x : String) (set : String → α)
    (htag : 0 < tag ∧ tag < 2 ^ 29) (hx : x.utf8ByteSize < 2 ^ 64)
    (hdefault : set "" = m) (hmerge : ∀ bytes, merge m tag .lengthDelimited bytes =
      setTo set (stringValue .lengthDelimited bytes)) :
    Reads merge m (Protobuf.encode (bytesField tag (utf8 x))) (set x) := by
  apply Reads.run htag.1 htag.2
  · intro rest
    have hrun := decodeRun_run (utf8 x) (by rwa [utf8, length_utf8]) rest
    rw [hmerge]
    simp [stringValue, bytesValue, hrun, ofUtf8_utf8, setTo, Except.map]
  · intro hempty
    rw [utf8_eq_nil x hempty, hdefault]

end Reads

/-! ## Message types -/

/-- A type of messages with its encoding and what is assumed of it: the size is known
beforehand, and what fits into memory reads back. -/
structure Codec (M : Type) where
  encodedLen : M → Nat
  encode : M → Bytes
  decode : Bytes → Except DecodeError M
  encodedLen_eq : ∀ m, encodedLen m = (encode m).length
  decode_encode : ∀ m, (encode m).length < 2 ^ 64 → decode (encode m) = .ok m

/-- A message that is written as its fields and read field by field. -/
def Codec.ofFields {M : Type} (fields : M → List Field) (merge : Merge M) (empty : M)
    (h : ∀ m, (Protobuf.encode (fields m)).length < 2 ^ 64 →
      Reads merge empty (Protobuf.encode (fields m)) m) : Codec M where
  encodedLen m := ((fields m).map fun field => field.encode.length).sum
  encode m := Protobuf.encode (fields m)
  decode := ProtobufReader.decode merge empty
  encodedLen_eq m := by rw [Protobuf.encode, List.length_flatMap]
  decode_encode m hm := decode_of_reads (h m hm)

end ProtobufReader
