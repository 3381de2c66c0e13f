import NexusRemote.BigEndian

/-!
# JSON records

A record is an object whose values are numbers, texts and arrays of these. It is
written without blanks and with its fields in order, as serializers write a
struct; control characters and the two special ones are escaped. The reader
takes such text apart again.
-/

namespace JsonText

open BigEndian

inductive Scalar where
  | number (n : Nat)
  | text (s : String)
  deriving DecidableEq, Repr

inductive Value where
  | scalar (s : Scalar)
  | array (items : List Scalar)
  deriving DecidableEq, Repr

abbrev Record := List (String × Value)

/-! ## Writing -/

def escape (c : Char) : List Char :=
  if c = '"' then ['\\', '"']
  else if c = '\\' then ['\\', '\\']
  else if c = '\n' then ['\\', 'n']
  else if c = '\r' then ['\\', 'r']
  else if c = '\t' then ['\\', 't']
  else if c.toNat = 8 then ['\\', 'b']
  else if c.toNat = 12 then ['\\', 'f']
  else if c.toNat < 32 then
    ['\\', 'u', '0', '0', Nat.digitChar (c.toNat / 16), Nat.digitChar (c.toNat % 16)]
  else [c]

def writeText (s : String) : List Char := '"' :: (s.toList.flatMap escape ++ ['"'])

def Scalar.write : Scalar → List Char
  | .number n => Nat.toDigits 10 n
  | .text s => writeText s

/-- Parts with commas between them. -/
def joined (parts : List (List Char)) : List Char := [','].intercalate parts

def Value.write : Value → List Char
  | .scalar s => s.write
  | .array items => '[' :: (joined (items.map Scalar.write) ++ [']'])

def writeField (field : String × Value) : List Char := writeText field.1 ++ ':' :: field.2.write

def write (r : Record) : List Char := '\x7b' :: (joined (r.map writeField) ++ ['\x7d'])

def encode (r : Record) : Bytes := utf8 (String.ofList (write r))

/-! ## Reading -/

def hexValue (c : Char) : Nat :=
  if c.isDigit then c.toNat - '0'.toNat else c.toNat - 'a'.toNat + 10

/-- The character behind a backslash. -/
def unescape : Char → Char
  | 'n' => '\n'
  | 'r' => '\r'
  | 't' => '\t'
  | 'b' => Char.ofNat 8
  | 'f' => Char.ofNat 12
  | c => c

/-- The rest of a text, up to its closing quote. -/
def readText : List Char → Option (List Char × List Char)
  | [] => none
  | '"' :: rest => some ([], rest)
  | '\\' :: 'u' :: a :: b :: c :: d :: rest =>
    let code := ((hexValue a * 16 + hexValue b) * 16 + hexValue c) * 16 + hexValue d
    (readText rest).map fun read => (Char.ofNat code :: read.1, read.2)
  | '\\' :: c :: rest => (readText rest).map fun read => (unescape c :: read.1, read.2)
  | c :: rest => (readText rest).map fun read => (c :: read.1, read.2)

def readNumber (cs : List Char) : Option (Nat × List Char) :=
  if (cs.takeWhile Char.isDigit).isEmpty then none
  else some (Nat.ofDigitChars 10 (cs.takeWhile Char.isDigit) 0, cs.dropWhile Char.isDigit)

def Scalar.read : List Char → Option (Scalar × List Char)
  | '"' :: rest => (readText rest).map fun read => (.text (String.ofList read.1), read.2)
  | cs => (readNumber cs).map fun read => (.number read.1, read.2)

/-- One item or more, with commas between them. The fuel bounds their number. -/
def readItems {α : Type} (item : List Char → Option (α × List Char)) :
    Nat → List Char → Option (List α × List Char)
  | 0, _ => none
  | fuel + 1, cs =>
    match item cs with
    | none => none
    | some (x, ',' :: rest) => (readItems item fuel rest).map fun read => (x :: read.1, read.2)
    | some (x, rest) => some ([x], rest)

/-- Items up to a closing character. -/
def readUntil {α : Type} (item : List Char → Option (α × List Char)) (close : Char)
    (cs : List Char) : Option (List α × List Char) :=
  if cs.head? = some close then some ([], cs.tail)
  else
    match readItems item cs.length cs with
    | some (items, c :: rest) => if c = close then some (items, rest) else none
    | _ => none

def Value.read : List Char → Option (Value × List Char)
  | '[' :: rest => (readUntil Scalar.read ']' rest).map fun read => (.array read.1, read.2)
  | cs => (Scalar.read cs).map fun read => (.scalar read.1, read.2)

def readField (cs : List Char) : Option ((String × Value) × List Char) :=
  match Scalar.read cs with
  | some (.text name, ':' :: rest) => (Value.read rest).map fun read => ((name, read.1), read.2)
  | _ => none

def read : List Char → Option Record
  | '\x7b' :: rest =>
    match readUntil readField '\x7d' rest with
    | some (fields, []) => some fields
    | _ => none
  | _ => none

def decode (bytes : Bytes) : Option Record := (ofUtf8 bytes).bind fun s => read s.toList

/-! ## Round trip -/

theorem hexValue_digitChar (n : Nat) (h : n < 16) : hexValue (Nat.digitChar n) = n := by
  have hall : ∀ n < 16, hexValue (Nat.digitChar n) = n := by decide
  exact hall n h

theorem readText_escape (c : Char) (rest : List Char) :
    readText (escape c ++ rest) = (readText rest).map fun read => (c :: read.1, read.2) := by
  unfold escape
  split
  · rename_i h
    subst h
    rfl
  split
  · rename_i h
    subst h
    rfl
  split
  · rename_i h
    subst h
    rfl
  split
  · rename_i h
    subst h
    rfl
  split
  · rename_i h
    subst h
    rfl
  split
  · rename_i h
    rw [← Char.ofNat_toNat c, h]
    rfl
  split
  · rename_i h
    rw [← Char.ofNat_toNat c, h]
    rfl
  split
  · rename_i h
    have hcode : ((hexValue '0' * 16 + hexValue '0') * 16 + c.toNat / 16) * 16 + c.toNat % 16 =
        c.toNat := by
      have hzero : hexValue '0' = 0 := by decide
      omega
    simp only [List.cons_append, List.nil_append, readText,
      hexValue_digitChar (c.toNat / 16) (by omega), hexValue_digitChar (c.toNat % 16) (by omega),
      hcode, Char.ofNat_toNat]
  · rename_i hback _ _ _ _ _ _
    simp [readText, hback]

theorem readText_write (s rest : List Char) :
    readText (s.flatMap escape ++ '"' :: rest) = some (s, rest) := by
  induction s with
  | nil => rfl
  | cons c s ih => rw [List.flatMap_cons, List.append_assoc, readText_escape, ih]; rfl

theorem toDigits_first (n : Nat) : ∃ d ds, Nat.toDigits 10 n = d :: ds ∧ d.isDigit = true := by
  obtain ⟨d, ds, hdigits⟩ := List.exists_cons_of_ne_nil (Nat.toDigits_ne_nil (n := n) (b := 10))
  have hd : d ∈ Nat.toDigits 10 n := by simp [hdigits]
  exact ⟨d, ds, hdigits, Nat.isDigit_of_mem_toDigits (by decide) (by decide) hd⟩

/-- A number ends at a character that cannot continue it. -/
theorem readNumber_toDigits (n : Nat) (c : Char) (rest : List Char) (hc : c.isDigit = false) :
    readNumber (Nat.toDigits 10 n ++ c :: rest) = some (n, c :: rest) := by
  have hdigits : ∀ d ∈ Nat.toDigits 10 n, d.isDigit = true := fun d hd =>
    Nat.isDigit_of_mem_toDigits (by decide) (by decide) hd
  have htake : (Nat.toDigits 10 n ++ c :: rest).takeWhile Char.isDigit = Nat.toDigits 10 n := by
    rw [List.takeWhile_append_of_pos hdigits, List.takeWhile_cons_of_neg (by simp [hc]),
      List.append_nil]
  have hdrop : (Nat.toDigits 10 n ++ c :: rest).dropWhile Char.isDigit = c :: rest := by
    rw [List.dropWhile_append_of_pos hdigits, List.dropWhile_cons_of_neg (by simp [hc])]
  have hne : (Nat.toDigits 10 n).isEmpty = false := by simp [Nat.toDigits_ne_nil]
  simp only [readNumber, htake, hdrop, hne, Nat.ofDigitChars_ten_toDigits, Bool.false_eq_true,
    if_false]

theorem Scalar.read_write (s : Scalar) (c : Char) (rest : List Char) (hc : c.isDigit = false) :
    Scalar.read (s.write ++ c :: rest) = some (s, c :: rest) := by
  cases s with
  | text s =>
    simp only [Scalar.write, writeText, List.cons_append, List.append_assoc, List.nil_append,
      Scalar.read, readText_write, Option.map_some, String.ofList_toList]
  | number n =>
    have hnumber := readNumber_toDigits n c rest hc
    obtain ⟨d, ds, hdigits, hd⟩ := toDigits_first n
    have hquote : d ≠ '"' := by
      rintro rfl
      cases hd
    rw [hdigits] at hnumber
    simp only [Scalar.write, hdigits, List.cons_append] at hnumber ⊢
    simp [Scalar.read, hquote, hnumber]

/-- Items read back when every one does before a comma and before the closing character. -/
theorem readItems_joined {α : Type} (item : List Char → Option (α × List Char))
    (write : α → List Char) (close : Char) (rest : List Char) (hclose : close ≠ ',') (xs : List α)
    (hne : xs ≠ [])
    (hitem : ∀ x ∈ xs, ∀ c, c = ',' ∨ c = close → ∀ rest,
      item (write x ++ c :: rest) = some (x, c :: rest))
    (fuel : Nat) (hfuel : xs.length ≤ fuel) :
    readItems item fuel (joined (xs.map write) ++ close :: rest) = some (xs, close :: rest) := by
  induction xs generalizing fuel with
  | nil => exact absurd rfl hne
  | cons x xs ih =>
    cases fuel with
    | zero => simp at hfuel
    | succ fuel =>
      cases xs with
      | nil =>
        have hx := hitem x (by simp) close (.inr rfl) rest
        simp only [List.map_cons, List.map_nil, joined, List.intercalate_singleton, readItems, hx]
        split
        · rename_i heq
          cases heq
        · rename_i heq
          simp only [Option.some.injEq, Prod.mk.injEq, List.cons.injEq] at heq
          exact absurd heq.2.1 hclose
        · rename_i heq
          simpa using heq.symm
      | cons y ys =>
        have hmore := ih (by simp) (fun z hz => hitem z (by simp [hz])) fuel (by simpa using hfuel)
        have hx := hitem x (by simp) ',' (.inl rfl)
          (joined ((y :: ys).map write) ++ close :: rest)
        have hjoin : joined ((x :: y :: ys).map write) ++ close :: rest =
            write x ++ ',' :: (joined ((y :: ys).map write) ++ close :: rest) := by
          simp [joined, List.intercalate_cons_cons]
        rw [hjoin, readItems, hx]
        simp only [hmore, Option.map_some]

theorem length_joined (parts : List (List Char)) : parts.length ≤ (joined parts).length + 1 := by
  induction parts with
  | nil => simp
  | cons part parts ih =>
    cases parts with
    | nil => simp
    | cons next parts =>
      simp only [joined, List.intercalate_cons_cons, List.length_append, List.length_cons] at ih ⊢
      omega

theorem readUntil_joined {α : Type} (item : List Char → Option (α × List Char))
    (write : α → List Char) (close : Char) (rest : List Char) (hclose : close ≠ ',') (xs : List α)
    (hitem : ∀ x ∈ xs, ∀ c, c = ',' ∨ c = close → ∀ rest,
      item (write x ++ c :: rest) = some (x, c :: rest))
    (hfirst : ∀ x ∈ xs, ∃ c cs, write x = c :: cs ∧ c ≠ close) :
    readUntil item close (joined (xs.map write) ++ close :: rest) = some (xs, rest) := by
  cases xs with
  | nil => simp [joined, readUntil]
  | cons x xs =>
    obtain ⟨c, cs, hwrite, hc⟩ := hfirst x (by simp)
    have hhead : (joined ((x :: xs).map write) ++ close :: rest).head? = some c := by
      cases xs <;> simp [joined, List.intercalate_cons_cons, hwrite]
    have hlength := length_joined ((x :: xs).map write)
    have hitems := readItems_joined item write close rest hclose (x :: xs) (by simp) hitem
      (joined ((x :: xs).map write) ++ close :: rest).length (by
        simp only [List.length_map, List.length_append, List.length_cons] at hlength ⊢
        omega)
    rw [readUntil, hhead, if_neg (by simpa using hc), hitems]
    simp

theorem Scalar.write_first (s : Scalar) : ∃ c cs, s.write = c :: cs ∧ c ≠ ']' ∧ c ≠ '[' := by
  cases s with
  | text s => exact ⟨_, _, rfl, by decide, by decide⟩
  | number n =>
    obtain ⟨d, ds, hdigits, hd⟩ := toDigits_first n
    refine ⟨d, ds, hdigits, ?_, ?_⟩
    · rintro rfl
      cases hd
    · rintro rfl
      cases hd

theorem Value.read_write (v : Value) (c : Char) (rest : List Char) (hc : c.isDigit = false) :
    Value.read (v.write ++ c :: rest) = some (v, c :: rest) := by
  cases v with
  | scalar s =>
    obtain ⟨d, ds, hwrite, -, hd⟩ := s.write_first
    have hread := s.read_write c rest hc
    rw [hwrite] at hread
    simp only [Value.write, hwrite, List.cons_append] at hread ⊢
    simp [Value.read, hd, hread]
  | array items =>
    have hitems := readUntil_joined Scalar.read Scalar.write ']' (c :: rest) (by decide) items
      (fun s _ d hd rest => s.read_write d rest (by rcases hd with rfl | rfl <;> decide))
      (fun s _ => by
        obtain ⟨d, ds, hwrite, hd, -⟩ := s.write_first
        exact ⟨d, ds, hwrite, hd⟩)
    simp only [Value.write, List.cons_append, List.append_assoc, List.nil_append, Value.read,
      hitems, Option.map_some]

theorem readField_write (field : String × Value) (c : Char) (rest : List Char)
    (hc : c.isDigit = false) : readField (writeField field ++ c :: rest) = some (field, c :: rest) := by
  have hname := Scalar.read_write (.text field.1) ':' (field.2.write ++ c :: rest) (by decide)
  have hvalue := field.2.read_write c rest hc
  simp only [Scalar.write] at hname
  simp only [writeField, List.append_assoc, List.cons_append, readField, hname, hvalue,
    Option.map_some]

/-- The fields of a record read back, whatever stands behind it. -/
theorem readFields_write (r : Record) (rest : List Char) :
    readUntil readField '\x7d' (joined (r.map writeField) ++ '\x7d' :: rest) = some (r, rest) :=
  readUntil_joined readField writeField '\x7d' rest (by decide) r
    (fun field _ d hd rest => readField_write field d rest (by rcases hd with rfl | rfl <;> decide))
    (fun field _ => ⟨_, _, rfl, by decide⟩)

theorem read_write (r : Record) : read (write r) = some r := by
  simp only [write, read, readFields_write]

/-- A record reads back from its bytes. -/
theorem decode_encode (r : Record) : decode (encode r) = some r := by
  rw [decode, encode, ofUtf8_utf8, Option.bind_some, String.toList_ofList, read_write]

/-- An object opens with a brace. -/
theorem encode_opens (r : Record) : (encode r).head? = some 0x7B := by
  have hbrace : utf8 (String.singleton '\x7b') = [0x7B] := by
    rw [utf8, toList_eq]
    decide
  rw [encode, write, String.ofList_cons, utf8_append, hbrace]
  rfl

end JsonText
