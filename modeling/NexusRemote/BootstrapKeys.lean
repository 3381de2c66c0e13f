import NexusRemote.BigEndian

/-!
# Key material of the client (`apps/nexus-client/src/runtime.rs`)

The client takes keys and signatures as hexadecimal texts from its environment.
Each pair of digits goes through the standard library's integer parser, which
takes a sign as well. A result `none` is a panic.
-/

namespace BootstrapKeys

open BigEndian

inductive ClientRuntimeError where
  | invalidBootstrap (text : String)
  deriving DecidableEq

/-! ## The integer parser -/

/-- `(b as char).to_digit(16)` -/
def toDigit (b : UInt8) : Option Nat :=
  if 0x30 ≤ b.toNat ∧ b.toNat ≤ 0x39 then some (b.toNat - 0x30)
  else if 0x61 ≤ b.toNat ∧ b.toNat ≤ 0x66 then some (b.toNat - 0x61 + 10)
  else if 0x41 ≤ b.toNat ∧ b.toNat ≤ 0x46 then some (b.toNat - 0x41 + 10)
  else none

/-- The digits, each of which has to fit a `u8` together with those before it. -/
def accumulate (acc : Nat) : Bytes → Option Nat
  | [] => some acc
  | b :: bs =>
    match toDigit b with
    | none => none
    | some d => if acc * 16 + d < 256 then accumulate (acc * 16 + d) bs else none

/-- `u8::from_str_radix(src, 16)`: a leading `+` is dropped, a leading `-` is not, and a sign
alone is no number. -/
def fromStrRadix16 (src : Bytes) : Option UInt8 :=
  match src with
  | [] => none
  | b :: bs =>
    if (b = 0x2b ∨ b = 0x2d) ∧ bs = [] then none
    else (accumulate 0 (if b = 0x2b then bs else b :: bs)).map UInt8.ofNat

/-! ## Hexadecimal texts -/

/-- `chunks(2)` -/
def pairs : Bytes → List Bytes
  | a :: b :: rest => [a, b] :: pairs rest
  | [a] => [[a]]
  | [] => []

/-- The conversion of the pairs, which ends at the first error. -/
def decodePairs (name : String) : List Bytes → Option (Except ClientRuntimeError Bytes)
  | [] => some (.ok [])
  | pair :: rest =>
    match ofUtf8 pair with
    | none => none
    | some text =>
      match fromStrRadix16 (utf8 text) with
      | none => some (.error (.invalidBootstrap (name ++ " is not hexadecimal")))
      | some byte =>
        match decodePairs name rest with
        | none => none
        | some (.error err) => some (.error err)
        | some (.ok bytes) => some (.ok (byte :: bytes))

def decodeHex (name value : String) : Option (Except ClientRuntimeError Bytes) :=
  if !value.toList.all (fun c => c.toNat < 128) then
    some (.error (.invalidBootstrap (name ++ " must contain ASCII hexadecimal digits")))
  else if (utf8 value).length % 2 ≠ 0 then
    some (.error (.invalidBootstrap
      (name ++ " must contain an even number of hexadecimal digits")))
  else decodePairs name (pairs (utf8 value))

/-! ## The environment -/

def requiredEnv (env : String → Option String) (name : String) : Except ClientRuntimeError String :=
  match env name with
  | none => .error (.invalidBootstrap name)
  | some value => .ok value

def readHexEnv (env : String → Option String) (name : String) :
    Option (Except ClientRuntimeError Bytes) :=
  match requiredEnv env name with
  | .error err => some (.error err)
  | .ok value => decodeHex name value

def readFixedHexEnv (env : String → Option String) (n : Nat) (name : String) :
    Option (Except ClientRuntimeError Bytes) :=
  match readHexEnv env name with
  | some (.ok bytes) =>
    if bytes.length = n then some (.ok bytes)
    else
      some (.error (.invalidBootstrap (name ++ " must decode to exactly " ++ toString n ++
        " bytes, got " ++ toString bytes.length)))
  | result => result

/-- `VerifyingKey::from_bytes` is a parameter. -/
def verifyingKeyEnv {K : Type} (fromBytes : Bytes → Except String K)
    (env : String → Option String) (name : String) : Option (Except ClientRuntimeError K) :=
  match readFixedHexEnv env 32 name with
  | none => none
  | some (.error err) => some (.error err)
  | some (.ok bytes) =>
    match fromBytes bytes with
    | .error err => some (.error (.invalidBootstrap (name ++ ": " ++ err)))
    | .ok key => some (.ok key)

/-! ## What the parser takes -/

/-- 0-9, a-f and A-F -/
def IsHexDigit (c : Char) : Prop :=
  ('0' ≤ c ∧ c ≤ '9') ∨ ('a' ≤ c ∧ c ≤ 'f') ∨ ('A' ≤ c ∧ c ≤ 'F')

instance (c : Char) : Decidable (IsHexDigit c) := inferInstanceAs (Decidable (_ ∨ _))

/-- The two digits of a byte. -/
def twoDigits (b : UInt8) : List Char := [Nat.digitChar (b.toNat / 16), Nat.digitChar (b.toNat % 16)]

/-- The bytes are written in hexadecimal, in small or capital letters. -/
structure Hexadecimal (s : String) (bytes : Bytes) : Prop where
  even : s.toList.length % 2 = 0
  digits : ∀ c ∈ s.toList, IsHexDigit c
  expansion : s.toList.map Char.toLower = bytes.flatMap twoDigits

/-- Pairs of digits, or of a plus sign and a digit. -/
def Accepted : List Char → Prop
  | a :: b :: rest => (IsHexDigit a ∨ a = '+') ∧ IsHexDigit b ∧ Accepted rest
  | [_] => False
  | [] => True

def code (c : Char) : UInt8 := UInt8.ofNat c.toNat

/-- What holds of every ASCII code holds of every ASCII character. -/
theorem of_codes {P : Char → Prop} (hall : ∀ n < 128, P (Char.ofNat n)) {c : Char}
    (hc : c.toNat < 128) : P c :=
  Char.ofNat_toNat c ▸ hall c.toNat hc

/-- A digit of the parser is a hexadecimal digit, and the other way round. -/
theorem toDigit_code {c : Char} (hc : c.toNat < 128) {d : Nat} (hd : d < 17) :
    toDigit (code c) = some d ↔ d < 16 ∧ c.toLower = Nat.digitChar d :=
  of_codes (P := fun c => ∀ d < 17, toDigit (code c) = some d ↔
    d < 16 ∧ c.toLower = Nat.digitChar d) (by decide +kernel) hc d hd

theorem isHexDigit_iff {c : Char} (hc : c.toNat < 128) :
    IsHexDigit c ↔ ∃ d < 16, c.toLower = Nat.digitChar d :=
  of_codes (P := fun c => IsHexDigit c ↔ ∃ d < 16, c.toLower = Nat.digitChar d)
    (by decide +kernel) hc

theorem IsHexDigit.ascii {c : Char} (h : IsHexDigit c) : c.toNat < 128 := by
  rcases h with ⟨-, h⟩ | ⟨-, h⟩ | ⟨-, h⟩ <;>
    exact Nat.lt_of_le_of_lt (UInt32.le_iff_toNat_le.mp h) (by decide)

theorem toDigit_lt {b : UInt8} {d : Nat} (h : toDigit b = some d) : d < 16 := by
  rw [toDigit] at h
  split at h
  case isTrue => cases h; omega
  case isFalse =>
    split at h
    case isTrue => cases h; omega
    case isFalse =>
      split at h
      case isTrue => cases h; omega
      case isFalse => cases h

theorem isSome_toDigit_iff {c : Char} (hc : c.toNat < 128) :
    (toDigit (code c)).isSome ↔ IsHexDigit c := by
  rw [isHexDigit_iff hc, Option.isSome_iff_exists]
  constructor
  · rintro ⟨d, hd⟩
    have hlt := toDigit_lt hd
    exact ⟨d, hlt, ((toDigit_code hc (by omega)).mp hd).2⟩
  · rintro ⟨d, hlt, hd⟩
    exact ⟨d, (toDigit_code hc (by omega)).mpr ⟨hlt, hd⟩⟩

/-- A plus sign in front of one digit is taken for nothing, two digits are taken together. -/
theorem fromStrRadix16_pair (a b : Char) (ha : a.toNat < 128) :
    fromStrRadix16 [code a, code b] =
      if a = '+' then (toDigit (code b)).map UInt8.ofNat
      else (toDigit (code a)).bind fun d => (toDigit (code b)).map fun e => UInt8.ofNat (d * 16 + e) := by
  have hsign : code a = 0x2b ↔ a = '+' :=
    of_codes (P := fun a => code a = 0x2b ↔ a = '+') (by decide +kernel) ha
  simp only [fromStrRadix16, hsign, List.cons_ne_nil, and_false, if_false]
  split
  case isTrue =>
    cases hb : toDigit (code b) with
    | none => simp [accumulate, hb]
    | some e =>
      have := toDigit_lt hb
      simp [accumulate, hb, show e < 256 by omega]
  case isFalse =>
    cases hd : toDigit (code a) with
    | none => simp [accumulate, hd]
    | some d =>
      have := toDigit_lt hd
      cases hb : toDigit (code b) with
      | none => simp [accumulate, hd, hb]
      | some e =>
        have := toDigit_lt hb
        simp [accumulate, hd, hb, show d < 256 by omega, show d * 16 + e < 256 by omega]

/-- The conversion of a text of ASCII characters. -/
def readPairs : List Char → Option Bytes
  | a :: b :: rest =>
    (fromStrRadix16 [code a, code b]).bind fun v => (readPairs rest).map fun vs => v :: vs
  | [_] => none
  | [] => some []

/-- On ASCII texts of even length nothing panics. -/
theorem decodePairs_eq (name : String) (cs : List Char) (hascii : ∀ c ∈ cs, c.toNat < 128)
    (heven : cs.length % 2 = 0) :
    decodePairs name (pairs (cs.map code)) =
      some (match readPairs cs with
        | some bytes => .ok bytes
        | none => .error (.invalidBootstrap (name ++ " is not hexadecimal"))) := by
  induction cs using readPairs.induct with
  | case1 a b rest ih =>
    obtain ⟨ha, hb, hrest⟩ : a.toNat < 128 ∧ b.toNat < 128 ∧ ∀ c ∈ rest, c.toNat < 128 := by
      simpa using hascii
    have hutf8 : utf8 (String.ofList [a, b]) = [code a, code b] :=
      utf8_ofList_ascii [a, b] (by simp [ha, hb])
    have htext : ofUtf8 [code a, code b] = some (String.ofList [a, b]) := by
      rw [← hutf8, ofUtf8_utf8]
    have htail := ih hrest (by simp only [List.length_cons] at heven; omega)
    simp only [List.map_cons, pairs, decodePairs, htext, hutf8, readPairs]
    cases fromStrRadix16 [code a, code b] with
    | none => rfl
    | some v =>
      rw [htail]
      cases readPairs rest <;> rfl
  | case2 a => simp at heven
  | case3 => rfl

theorem utf8_of_ascii {s : String} (hascii : ∀ c ∈ s.toList, c.toNat < 128) :
    utf8 s = s.toList.map code := by
  have h := utf8_ofList_ascii s.toList hascii
  rwa [String.ofList_toList] at h

theorem all_ascii_iff (s : String) :
    s.toList.all (fun c => c.toNat < 128) = true ↔ ∀ c ∈ s.toList, c.toNat < 128 := by
  simp

theorem decodeHex_eq (name s : String) (hascii : ∀ c ∈ s.toList, c.toNat < 128)
    (heven : s.toList.length % 2 = 0) :
    decodeHex name s =
      some (match readPairs s.toList with
        | some bytes => .ok bytes
        | none => .error (.invalidBootstrap (name ++ " is not hexadecimal"))) := by
  rw [decodeHex, (all_ascii_iff s).mpr hascii, if_neg (by simp), utf8_of_ascii hascii, List.length_map,
    if_neg (by omega), decodePairs_eq name s.toList hascii heven]

/-- Every other text is refused. -/
theorem decodeHex_error (name s : String)
    (h : ¬((∀ c ∈ s.toList, c.toNat < 128) ∧ s.toList.length % 2 = 0)) :
    ∃ err, decodeHex name s = some (.error err) := by
  by_cases hascii : ∀ c ∈ s.toList, c.toNat < 128
  · have hodd : s.toList.length % 2 ≠ 0 := fun heven => h ⟨hascii, heven⟩
    rw [decodeHex, (all_ascii_iff s).mpr hascii, if_neg (by simp), utf8_of_ascii hascii,
      List.length_map, if_pos hodd]
    exact ⟨_, rfl⟩
  · rw [← all_ascii_iff, Bool.not_eq_true] at hascii
    rw [decodeHex, hascii, if_pos (by simp)]
    exact ⟨_, rfl⟩

theorem isSome_readPairs_iff (cs : List Char) (hascii : ∀ c ∈ cs, c.toNat < 128) :
    (readPairs cs).isSome ↔ Accepted cs := by
  induction cs using readPairs.induct with
  | case1 a b rest ih =>
    obtain ⟨ha, hb, hrest⟩ : a.toNat < 128 ∧ b.toNat < 128 ∧ ∀ c ∈ rest, c.toNat < 128 := by
      simpa using hascii
    rw [Accepted, ← ih hrest, ← isSome_toDigit_iff ha, ← isSome_toDigit_iff hb, readPairs,
      fromStrRadix16_pair a b ha]
    by_cases hplus : a = '+'
    · subst hplus
      cases toDigit (code b) <;> cases readPairs rest <;> simp
    · cases toDigit (code a) <;> cases toDigit (code b) <;> cases readPairs rest <;> simp [hplus]
  | case2 a => simp [readPairs, Accepted]
  | case3 => simp [readPairs, Accepted]

theorem twoDigits_ofNat {d e : Nat} (hd : d < 16) (he : e < 16) :
    twoDigits (UInt8.ofNat (d * 16 + e)) = [Nat.digitChar d, Nat.digitChar e] := by
  have hvalue : (UInt8.ofNat (d * 16 + e)).toNat = d * 16 + e := by
    rw [UInt8.toNat_ofNat']
    omega
  rw [twoDigits, hvalue, show (d * 16 + e) / 16 = d by omega, show (d * 16 + e) % 16 = e by omega]

/-- Without a plus sign the pairs are read as what they say. -/
theorem readPairs_eq_some_iff (cs : List Char) (hascii : ∀ c ∈ cs, c.toNat < 128)
    (hplus : '+' ∉ cs) (bytes : Bytes) :
    readPairs cs = some bytes ↔ cs.map Char.toLower = bytes.flatMap twoDigits := by
  induction cs using readPairs.induct generalizing bytes with
  | case1 a b rest ih =>
    obtain ⟨ha, hb, hrest⟩ : a.toNat < 128 ∧ b.toNat < 128 ∧ ∀ c ∈ rest, c.toNat < 128 := by
      simpa using hascii
    obtain ⟨hsign, -, hnone⟩ : '+' ≠ a ∧ '+' ≠ b ∧ '+' ∉ rest := by simpa using hplus
    rw [readPairs, fromStrRadix16_pair a b ha, if_neg (Ne.symm hsign)]
    constructor
    · intro h
      obtain ⟨v, hv, h⟩ := Option.bind_eq_some_iff.mp h
      obtain ⟨d, hd, hv⟩ := Option.bind_eq_some_iff.mp hv
      obtain ⟨e, he, rfl⟩ := Option.map_eq_some_iff.mp hv
      obtain ⟨vs, hvs, rfl⟩ := Option.map_eq_some_iff.mp h
      have hdlt := toDigit_lt hd
      have helt := toDigit_lt he
      rw [List.flatMap_cons, twoDigits_ofNat hdlt helt, ← (ih hrest hnone vs).mp hvs,
        ← ((toDigit_code ha (by omega)).mp hd).2, ← ((toDigit_code hb (by omega)).mp he).2]
      rfl
    · intro h
      cases bytes with
      | nil => cases h
      | cons v vs =>
        have hv := v.toNat_lt
        rw [List.flatMap_cons, twoDigits, List.map_cons, List.map_cons, List.cons_append,
          List.cons_append, List.nil_append, List.cons.injEq, List.cons.injEq] at h
        obtain ⟨hhigh, hlow, htail⟩ := h
        have hd := (toDigit_code ha (show v.toNat / 16 < 17 by omega)).mpr ⟨by omega, hhigh⟩
        have he := (toDigit_code hb (show v.toNat % 16 < 17 by omega)).mpr ⟨by omega, hlow⟩
        rw [hd, he, (ih hrest hnone vs).mpr htail, Option.bind_some, Option.map_some,
          Option.bind_some, Option.map_some, Nat.div_add_mod', UInt8.ofNat_toNat]
  | case2 a =>
    cases bytes <;> simp [readPairs, twoDigits]
  | case3 =>
    cases bytes <;> simp [readPairs, twoDigits]

/-- Digits are digits, so a hexadecimal text has no sign. -/
theorem Hexadecimal.no_plus {s : String} {bytes : Bytes} (h : Hexadecimal s bytes) :
    '+' ∉ s.toList := by
  intro hplus
  have := h.digits '+' hplus
  revert this
  decide

theorem Accepted.even {cs : List Char} (h : Accepted cs) : cs.length % 2 = 0 := by
  induction cs using readPairs.induct with
  | case1 a b rest ih =>
    have := ih h.2.2
    simp only [List.length_cons]
    omega
  | case2 => cases h
  | case3 => rfl

theorem Accepted.ascii {cs : List Char} (h : Accepted cs) : ∀ c ∈ cs, c.toNat < 128 := by
  induction cs using readPairs.induct with
  | case1 a b rest ih =>
    obtain ⟨ha, hb, hrest⟩ := h
    have ha' : a.toNat < 128 := by
      rcases ha with ha | rfl
      · exact ha.ascii
      · decide
    simpa using ⟨ha', hb.ascii, ih hrest⟩
  | case2 => cases h
  | case3 => simp

/-- A text of digits only is accepted. -/
theorem accepted_of_digits {cs : List Char} (heven : cs.length % 2 = 0)
    (hdigits : ∀ c ∈ cs, IsHexDigit c) : Accepted cs := by
  induction cs using readPairs.induct with
  | case1 a b rest ih =>
    obtain ⟨ha, hb, hrest⟩ : IsHexDigit a ∧ IsHexDigit b ∧ ∀ c ∈ rest, IsHexDigit c := by
      simpa using hdigits
    exact ⟨Or.inl ha, hb, ih (by simp only [List.length_cons] at heven; omega) hrest⟩
  | case2 a => simp at heven
  | case3 => trivial

/-- An accepted text without a plus sign is one of digits only. -/
theorem Accepted.digits {cs : List Char} (h : Accepted cs) (hplus : '+' ∉ cs) :
    ∀ c ∈ cs, IsHexDigit c := by
  induction cs using readPairs.induct with
  | case1 a b rest ih =>
    obtain ⟨hsign, -, hnone⟩ : '+' ≠ a ∧ '+' ≠ b ∧ '+' ∉ rest := by simpa using hplus
    obtain ⟨ha, hb, hrest⟩ := h
    have ha' : IsHexDigit a := ha.resolve_right (Ne.symm hsign)
    simpa using ⟨ha', hb, ih hrest hnone⟩
  | case2 => cases h
  | case3 => simp

/-- The texts that are decoded at all. -/
theorem decodeHex_ok_iff (name s : String) :
    (∃ bytes, decodeHex name s = some (.ok bytes)) ↔ Accepted s.toList := by
  by_cases hform : (∀ c ∈ s.toList, c.toNat < 128) ∧ s.toList.length % 2 = 0
  · rw [decodeHex_eq name s hform.1 hform.2, ← isSome_readPairs_iff s.toList hform.1]
    cases readPairs s.toList <;> simp
  · obtain ⟨err, herr⟩ := decodeHex_error name s hform
    constructor
    · rintro ⟨bytes, hbytes⟩
      rw [herr] at hbytes
      cases hbytes
    · intro haccepted
      exact absurd ⟨haccepted.ascii, haccepted.even⟩ hform

theorem decodeHex_returns (name s : String) : decodeHex name s ≠ none := by
  by_cases hform : (∀ c ∈ s.toList, c.toNat < 128) ∧ s.toList.length % 2 = 0
  · simp [decodeHex_eq name s hform.1 hform.2]
  · obtain ⟨err, herr⟩ := decodeHex_error name s hform
    simp [herr]

/-- A key read from the environment has its size, and its text was accepted. -/
theorem readFixedHexEnv_ok {env : String → Option String} {n : Nat} {name : String} {bytes : Bytes}
    (h : readFixedHexEnv env n name = some (.ok bytes)) :
    bytes.length = n ∧ ∃ s, env name = some s ∧ Accepted s.toList := by
  cases hs : env name with
  | none => simp [readFixedHexEnv, readHexEnv, requiredEnv, hs] at h
  | some s =>
    simp only [readFixedHexEnv, readHexEnv, requiredEnv, hs] at h
    split at h
    case h_1 read hread =>
      split at h
      case isTrue hlength =>
        cases h
        exact ⟨hlength, s, rfl, (decodeHex_ok_iff name s).mp ⟨bytes, hread⟩⟩
      case isFalse => cases h
    case h_2 hother => exact absurd h (hother bytes)

/-- What decoding should be: the bytes that are written in hexadecimal, an error for any other
text, and no panic. -/
def Exact (name s : String) : Prop :=
  decodeHex name s ≠ none ∧
    ∀ bytes, decodeHex name s = some (.ok bytes) ↔ Hexadecimal s bytes

/-- Decoding is exact but for the texts in which a plus sign stands for the first digit of a
pair and all else is well formed. -/
theorem decodeHex_exact_iff (name s : String) :
    Exact name s ↔ ¬(Accepted s.toList ∧ '+' ∈ s.toList) := by
  constructor
  · rintro ⟨-, hexact⟩ ⟨haccepted, hplus⟩
    obtain ⟨bytes, hbytes⟩ := (decodeHex_ok_iff name s).mpr haccepted
    exact ((hexact bytes).mp hbytes).no_plus hplus
  · intro hclean
    refine ⟨decodeHex_returns name s, ?_⟩
    intro bytes
    by_cases haccepted : Accepted s.toList
    · have hplus : '+' ∉ s.toList := fun hplus => hclean ⟨haccepted, hplus⟩
      have hread := readPairs_eq_some_iff s.toList haccepted.ascii hplus bytes
      have hdecode : decodeHex name s = some (.ok bytes) ↔ readPairs s.toList = some bytes := by
        rw [decodeHex_eq name s haccepted.ascii haccepted.even]
        cases readPairs s.toList <;> simp
      rw [hdecode, hread]
      exact ⟨fun h => ⟨haccepted.even, haccepted.digits hplus, h⟩, fun h => h.expansion⟩
    · constructor
      · intro h
        exact absurd ((decodeHex_ok_iff name s).mp ⟨bytes, h⟩) haccepted
      · intro h
        exact absurd (accepted_of_digits h.even h.digits) haccepted

/-- A plus sign and a digit pass for a byte. -/
theorem decodeHex_plus :
    decodeHex "NEXUS_CLIENT_FRAME_KEY_HEX" "+f" = some (.ok [15]) ∧ ¬Hexadecimal "+f" [15] := by
  have hlist : "+f".toList = ['+', 'f'] := rfl
  constructor
  · have haccepted : Accepted "+f".toList := ⟨Or.inr rfl, by decide, trivial⟩
    rw [decodeHex_eq _ _ haccepted.ascii haccepted.even, hlist]
    rfl
  · intro h
    exact h.no_plus (by simp [hlist])

end BootstrapKeys
