import Mathlib

/-!
# Addresses and address ranges (`ip_matches_range` in `crates/nexus-policy/src/engine.rs`)

The engine reads ranges as text, so the standard library's readers for
addresses and small numbers are part of what it decides. A reader takes the
input and returns a value with the rest of it, or fails and leaves the input
alone.
-/

namespace IpRange

inductive IpAddr where
  | v4 (bits : BitVec 32)
  | v6 (bits : BitVec 128)
  deriving DecidableEq, Repr

abbrev Reader (α : Type) := List Char → Option (α × List Char)

/-- `char::to_digit`. -/
def toDigit (radix : Nat) (c : Char) : Option Nat :=
  let digit :=
    if '0' ≤ c ∧ c ≤ '9' then some (c.toNat - '0'.toNat)
    else if 'a' ≤ c ∧ c ≤ 'z' then some (c.toNat - 'a'.toNat + 10)
    else if 'A' ≤ c ∧ c ≤ 'Z' then some (c.toNat - 'A'.toNat + 10)
    else none
  digit.filter (· < radix)

def readGivenChar (target : Char) : Reader Unit
  | [] => none
  | c :: rest => if c = target then some ((), rest) else none

/-- The digit loop of `read_number`: value and number of digits. -/
def readDigits (radix maxDigits : Nat) : Nat → Nat → Reader (Nat × Nat)
  | result, count, [] => some ((result, count), [])
  | result, count, c :: rest =>
    match toDigit radix c with
    | none => some ((result, count), c :: rest)
    | some digit =>
      if count + 1 > maxDigits then none
      else readDigits radix maxDigits (result * radix + digit) (count + 1) rest

/-- `read_number` into an unsigned type with `size` values. -/
def readNumber (radix maxDigits : Nat) (allowZeroPrefix : Bool) (size : Nat) : Reader Nat :=
  fun input =>
    match readDigits radix maxDigits 0 0 input with
    | none => none
    | some ((result, count), rest) =>
      if count = 0 then none
      else if !allowZeroPrefix && input.head? == some '0' && decide (count > 1) then none
      else if result < size then some (result, rest)
      else none

/-- Reads the separator in front of every part but the first. -/
def readSeparator {α : Type} (sep : Char) (index : Nat) (inner : Reader α) : Reader α :=
  fun input =>
    if index > 0 then (readGivenChar sep input).bind fun p => inner p.2 else inner input

def readIpv4Addr : Reader (BitVec 32) := fun input => do
  let octet := readNumber 10 3 false 256
  let (a, input) ← readSeparator '.' 0 octet input
  let (b, input) ← readSeparator '.' 1 octet input
  let (c, input) ← readSeparator '.' 2 octet input
  let (d, input) ← readSeparator '.' 3 octet input
  some (BitVec.ofNat 32 (((a * 256 + b) * 256 + c) * 256 + d), input)

/-- `read_groups` for the slots from `index` on: the groups read, whether they
end in an embedded IPv4 address, and the rest of the input. -/
def readGroups (limit : Nat) : Nat → Nat → List Char → List Nat × Bool × List Char
  | 0, _, input => ([], false, input)
  | slots + 1, index, input =>
    let embedded := if index < limit - 1 then readSeparator ':' index readIpv4Addr input else none
    match embedded with
    | some (v4, rest) => ([v4.toNat / 65536, v4.toNat % 65536], true, rest)
    | none =>
      match readSeparator ':' index (readNumber 16 4 true 65536) input with
      | none => ([], false, input)
      | some (group, rest) =>
        let (groups, ipv4, rest) := readGroups limit slots (index + 1) rest
        (group :: groups, ipv4, rest)

def fromGroups (groups : List Nat) : BitVec 128 :=
  BitVec.ofNat 128 (groups.foldl (fun acc group => acc * 65536 + group) 0)

def readIpv6Addr : Reader (BitVec 128) := fun input =>
  let (head, headIpv4, input) := readGroups 8 8 0 input
  if head.length = 8 then some (fromGroups head, input)
  else if headIpv4 then none
  else do
    let ((), input) ← readGivenChar ':' input
    let ((), input) ← readGivenChar ':' input
    -- The double colon stands for at least one group of zeroes.
    let limit := 8 - (head.length + 1)
    let (tail, _, input) := readGroups limit limit 0 input
    let zeroes := List.replicate (8 - head.length - tail.length) 0
    some (fromGroups (head ++ zeroes ++ tail), input)

def readIpAddr : Reader IpAddr := fun input =>
  match readIpv4Addr input with
  | some (bits, rest) => some (.v4 bits, rest)
  | none => (readIpv6Addr input).map fun p => (.v6 p.1, p.2)

/-- `str::parse::<IpAddr>`: the whole input has to be an address. -/
def parseIpAddr (input : List Char) : Option IpAddr :=
  match readIpAddr input with
  | some (ip, []) => some ip
  | _ => none

/-- `str::parse::<u8>`: an optional plus sign and at least one digit. -/
def parseU8 (input : List Char) : Option Nat :=
  let digits := match input with
    | '+' :: rest => rest
    | _ => input
  if digits = [] then none
  else
    (digits.mapM (toDigit 10)).bind fun ds =>
      let value := ds.foldl (fun acc d => acc * 10 + d) 0
      if value < 256 then some value else none

/-- `char::is_whitespace`. -/
def isWhitespace (c : Char) : Bool :=
  let n := c.toNat
  (9 ≤ n && n ≤ 13) || n == 0x20 || n == 0x85 || n == 0xA0 || n == 0x1680 ||
    (0x2000 ≤ n && n ≤ 0x200A) || n == 0x2028 || n == 0x2029 || n == 0x202F || n == 0x205F ||
    n == 0x3000

def trim (input : List Char) : List Char :=
  ((input.dropWhile isWhitespace).reverse.dropWhile isWhitespace).reverse

def splitOnce (sep : Char) : List Char → Option (List Char × List Char)
  | [] => none
  | c :: rest => if c = sep then some ([], rest) else (splitOnce sep rest).map fun p => (c :: p.1, p.2)

/-- The bits of an address that a range of the given prefix length fixes. -/
def mask (width prefixLen : Nat) : BitVec width := BitVec.allOnes width <<< (width - prefixLen)

/-- Two addresses of one family agree under the mask. -/
def masked {width : Nat} (client net : BitVec width) (prefixLen : Nat) : Bool :=
  if prefixLen > width then false
  else if prefixLen = 0 then true
  else client &&& mask width prefixLen == net &&& mask width prefixLen

def ipMatchesRange (ip : IpAddr) (rangeStr : String) : Bool :=
  let range := trim rangeStr.toList
  match splitOnce '/' range with
  | some (cidrIp, prefixStr) =>
    match parseU8 prefixStr with
    | none => false
    | some prefixLen =>
      match ip, parseIpAddr cidrIp with
      | .v4 client, some (.v4 net) => masked client net prefixLen
      | .v6 client, some (.v6 net) => masked client net prefixLen
      | _, _ => false
  | none =>
    match parseIpAddr range with
    | some exact => ip == exact
    | none => false

/-- The same with the arithmetic that could overflow: the subtraction and the shift. -/
def maskedChecked {width : Nat} (client net : BitVec width) (prefixLen : Nat) : Option Bool :=
  if prefixLen > width then some false
  else if prefixLen = 0 then some true
  else do
    let places ← if prefixLen ≤ width then some (width - prefixLen) else none
    let mask ← if places < width then some (BitVec.allOnes width <<< places) else none
    some (client &&& mask == net &&& mask)

def ipMatchesRangeChecked (ip : IpAddr) (rangeStr : String) : Option Bool :=
  let range := trim rangeStr.toList
  match splitOnce '/' range with
  | some (cidrIp, prefixStr) =>
    match parseU8 prefixStr with
    | none => some false
    | some prefixLen =>
      match ip, parseIpAddr cidrIp with
      | .v4 client, some (.v4 net) => maskedChecked client net prefixLen
      | .v6 client, some (.v6 net) => maskedChecked client net prefixLen
      | _, _ => some false
  | none =>
    match parseIpAddr range with
    | some exact => some (ip == exact)
    | none => some false

/-! ## What a range matches -/

/-- The mask has its first `prefixLen` bits set. -/
theorem mask_getMsbD (width prefixLen i : Nat) (h : prefixLen ≤ width) :
    (mask width prefixLen).getMsbD i = decide (i < prefixLen) := by
  rw [mask, BitVec.getMsbD_shiftLeft, BitVec.getMsbD_allOnes]
  exact decide_eq_decide.mpr (by omega)

/-- Under the mask, exactly the first bits are compared. -/
theorem masked_iff {width : Nat} (client net : BitVec width) (prefixLen : Nat) :
    masked client net prefixLen = true ↔
      prefixLen ≤ width ∧ ∀ i < prefixLen, client.getMsbD i = net.getMsbD i := by
  unfold masked
  split
  · rename_i hlong
    exact iff_of_false Bool.false_ne_true fun h => Nat.not_lt.mpr h.1 hlong
  · rename_i hshort
    have hle := Nat.not_lt.mp hshort
    split
    · rename_i hzero
      subst hzero
      simp
    · rw [beq_iff_eq, and_iff_right hle]
      constructor
      · intro heq i hi
        have hbit := congrArg (BitVec.getMsbD · i) heq
        simpa [mask_getMsbD width prefixLen i hle, hi] using hbit
      · intro hagree
        apply BitVec.eq_of_getMsbD_eq
        intro i hi
        by_cases hfirst : i < prefixLen
        · simp [hagree i hfirst]
        · simp [mask_getMsbD width prefixLen i hle, hfirst]

/-- Neither the subtraction nor the shift leaves its range. -/
theorem maskedChecked_eq {width : Nat} (client net : BitVec width) (prefixLen : Nat) :
    maskedChecked client net prefixLen = some (masked client net prefixLen) := by
  unfold maskedChecked masked
  split
  · rfl
  · rename_i hshort
    split
    · rfl
    · rename_i hpos
      have hle := Nat.not_lt.mp hshort
      have hplaces : width - prefixLen < width := by omega
      simp only [hle, hplaces, if_true, Option.bind_eq_bind, Option.bind_some]
      rfl

theorem splitOnce_none_iff (sep : Char) (input : List Char) :
    splitOnce sep input = none ↔ sep ∉ input := by
  induction input with
  | nil => simp [splitOnce]
  | cons c rest ih =>
    by_cases hc : c = sep
    · simp [splitOnce, hc]
    · simp [splitOnce, hc, ih, Ne.symm hc]

/-- The range reads as a network and a prefix length. -/
def ReadsCidr (rangeStr : String) (net : IpAddr) (prefixLen : Nat) : Prop :=
  ∃ cidrIp prefixStr, splitOnce '/' (trim rangeStr.toList) = some (cidrIp, prefixStr) ∧
    parseIpAddr cidrIp = some net ∧ parseU8 prefixStr = some prefixLen

/-- Two addresses of one family agree on their first bits, as many as there may be. -/
def SamePrefix : IpAddr → IpAddr → Nat → Prop
  | .v4 client, .v4 net, prefixLen =>
    prefixLen ≤ 32 ∧ ∀ i < prefixLen, client.getMsbD i = net.getMsbD i
  | .v6 client, .v6 net, prefixLen =>
    prefixLen ≤ 128 ∧ ∀ i < prefixLen, client.getMsbD i = net.getMsbD i
  | _, _, _ => False

theorem SamePrefix.mono {ip net : IpAddr} {p q : Nat} (h : SamePrefix ip net p) (hq : q ≤ p) :
    SamePrefix ip net q := by
  cases ip <;> cases net
  · exact ⟨hq.trans h.1, fun i hi => h.2 i (hi.trans_le hq)⟩
  · exact h
  · exact h
  · exact ⟨hq.trans h.1, fun i hi => h.2 i (hi.trans_le hq)⟩

theorem ipMatchesRange_cidr (ip : IpAddr) (rangeStr : String) (net : IpAddr) (prefixLen : Nat)
    (h : ReadsCidr rangeStr net prefixLen) :
    ipMatchesRange ip rangeStr = true ↔ SamePrefix ip net prefixLen := by
  obtain ⟨cidrIp, prefixStr, hsplit, hnet, hprefix⟩ := h
  simp only [ipMatchesRange, hsplit, hnet, hprefix]
  cases ip <;> cases net
  · exact masked_iff _ _ _
  · exact iff_of_false Bool.false_ne_true id
  · exact iff_of_false Bool.false_ne_true id
  · exact masked_iff _ _ _

/-- A range with a slash that does not read as one matches nothing. -/
theorem ipMatchesRange_unread (ip : IpAddr) (rangeStr : String)
    (hslash : '/' ∈ trim rangeStr.toList) (h : ∀ net p, ¬ReadsCidr rangeStr net p) :
    ipMatchesRange ip rangeStr = false := by
  obtain ⟨⟨cidrIp, prefixStr⟩, hsplit⟩ := Option.ne_none_iff_exists'.mp
    fun hnone => (splitOnce_none_iff '/' _).mp hnone hslash
  simp only [ipMatchesRange, hsplit]
  cases hprefix : parseU8 prefixStr with
  | none => rfl
  | some p =>
    cases hnet : parseIpAddr cidrIp with
    | none => cases ip <;> rfl
    | some net => exact absurd ⟨cidrIp, prefixStr, hsplit, hnet, hprefix⟩ (h net p)

theorem ipMatchesRange_exact (ip : IpAddr) (rangeStr : String)
    (hslash : '/' ∉ trim rangeStr.toList) :
    ipMatchesRange ip rangeStr = true ↔ parseIpAddr (trim rangeStr.toList) = some ip := by
  simp only [ipMatchesRange, (splitOnce_none_iff '/' _).mpr hslash]
  cases parseIpAddr (trim rangeStr.toList) with
  | none => simp
  | some exact => rw [beq_iff_eq, Option.some.injEq, eq_comm]

theorem ipMatchesRangeChecked_eq (ip : IpAddr) (rangeStr : String) :
    ipMatchesRangeChecked ip rangeStr = some (ipMatchesRange ip rangeStr) := by
  simp only [ipMatchesRangeChecked, ipMatchesRange]
  cases splitOnce '/' (trim rangeStr.toList) with
  | none => cases parseIpAddr (trim rangeStr.toList) <;> rfl
  | some parts =>
    dsimp only
    cases parseU8 parts.2 with
    | none => rfl
    | some prefixLen =>
      cases ip <;> rcases parseIpAddr parts.1 with _ | (net | net)
      all_goals first | rfl | exact maskedChecked_eq _ _ _

/-- A range in CIDR form matches by its prefix, one without a slash by equality, anything else
not at all; a shorter prefix matches more; and no arithmetic overflows. -/
theorem cidr_prefix_equality (ip : IpAddr) (rangeStr : String) :
    (∀ net p, ReadsCidr rangeStr net p →
      (ipMatchesRange ip rangeStr = true ↔ SamePrefix ip net p) ∧
      ∀ shorter q, ReadsCidr shorter net q → q ≤ p →
        ipMatchesRange ip rangeStr = true → ipMatchesRange ip shorter = true) ∧
    ('/' ∈ trim rangeStr.toList → (∀ net p, ¬ReadsCidr rangeStr net p) →
      ipMatchesRange ip rangeStr = false) ∧
    ('/' ∉ trim rangeStr.toList →
      (ipMatchesRange ip rangeStr = true ↔ parseIpAddr (trim rangeStr.toList) = some ip)) ∧
    ipMatchesRangeChecked ip rangeStr = some (ipMatchesRange ip rangeStr) := by
  refine ⟨?_, ipMatchesRange_unread ip rangeStr, ipMatchesRange_exact ip rangeStr,
    ipMatchesRangeChecked_eq ip rangeStr⟩
  intro net p hreads
  refine ⟨ipMatchesRange_cidr ip rangeStr net p hreads, ?_⟩
  intro shorter q hshorter hq hmatch
  rw [ipMatchesRange_cidr ip shorter net q hshorter]
  exact ((ipMatchesRange_cidr ip rangeStr net p hreads).mp hmatch).mono hq

/-- An address of `10.1.0.0/16`, and therefore of `10.1.0.0/8`. -/
theorem cidr_prefix_equality_nested :
    SamePrefix (.v4 0x0A010203#32) (.v4 0x0A010000#32) 16 ∧
      ipMatchesRange (.v4 0x0A010203#32) "10.1.0.0/8" = true := by
  have hwide : ReadsCidr " 10.1.0.0/16" (.v4 0x0A010000#32) 16 :=
    ⟨"10.1.0.0".toList, "16".toList, by decide +kernel, by decide +kernel, by decide +kernel⟩
  have hshort : ReadsCidr "10.1.0.0/8" (.v4 0x0A010000#32) 8 :=
    ⟨"10.1.0.0".toList, "8".toList, by decide +kernel, by decide +kernel, by decide +kernel⟩
  obtain ⟨hiff, hshorter⟩ :=
    (cidr_prefix_equality (.v4 0x0A010203#32) " 10.1.0.0/16").1 _ _ hwide
  have hmatch : ipMatchesRange (.v4 0x0A010203#32) " 10.1.0.0/16" = true := by decide +kernel
  exact ⟨hiff.mp hmatch, hshorter _ _ hshort (by decide) hmatch⟩

end IpRange
