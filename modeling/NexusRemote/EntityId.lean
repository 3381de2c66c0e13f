import Mathlib

/-!
# Entity identifiers (`crates/nexus-common/src/id.rs`)

All identifier types of the platform share one validation: one to 128 bytes of
printable ASCII. An identifier cannot be built without it.
-/

namespace EntityId

def minIdLen : Nat := 1
def maxIdLen : Nat := 128

inductive IdError where
  | empty
  | tooLong (max actual : Nat)
  | invalidCharacter (c : Char) (offset : Nat)
  deriving DecidableEq, Repr

/-- The text of an error; `debug` is how a character is printed for debugging. -/
def IdError.message (debug : Char → String) : IdError → String
  | empty => "ID cannot be empty"
  | tooLong max actual =>
    "ID length " ++ toString actual ++ " exceeds maximum allowed length of " ++ toString max
  | invalidCharacter c offset =>
    "ID contains invalid character '" ++ debug c ++ "' at byte offset " ++ toString offset

/-- `!c.is_ascii() || c.is_ascii_control()`. -/
def refused (c : Char) : Bool := c.toNat ≥ 128 || c.toNat < 32 || c.toNat = 127

/-- The first refused character with its byte offset. -/
def findRefused : Nat → List Char → Option (Char × Nat)
  | _, [] => none
  | offset, c :: cs => if refused c then some (c, offset) else findRefused (offset + c.utf8Size) cs

def validateId (s : String) : Except IdError Unit :=
  if s.utf8ByteSize = 0 then .error .empty
  else if s.utf8ByteSize > maxIdLen then .error (.tooLong maxIdLen s.utf8ByteSize)
  else
    match findRefused 0 s.toList with
    | some (c, offset) => .error (.invalidCharacter c offset)
    | none => .ok ()

inductive IdKind where
  | device
  | user
  | session
  | tenant
  deriving DecidableEq, Repr

/-- A validated identifier of one kind of entity. -/
structure Id (kind : IdKind) where
  value : String
  valid : validateId value = .ok ()

abbrev DeviceId := Id .device
abbrev UserId := Id .user
abbrev SessionId := Id .session
abbrev TenantId := Id .tenant

variable {kind : IdKind}

instance : DecidableEq (Id kind) := fun a b =>
  decidable_of_iff (a.value = b.value) (by
    cases a
    cases b
    simp)

def Id.new (kind : IdKind) (s : String) : Except IdError (Id kind) :=
  match h : validateId s with
  | .error e => .error e
  | .ok () => .ok ⟨s, h⟩

theorem findRefused_none (cs : List Char) (offset : Nat) :
    findRefused offset cs = none ↔ ∀ c ∈ cs, refused c = false := by
  induction cs generalizing offset with
  | nil => simp [findRefused]
  | cons c cs ih =>
    by_cases hc : refused c = true
    · simp [findRefused, hc]
    · simp only [Bool.not_eq_true] at hc
      simp [findRefused, hc, ih]

/-- What validation accepts. -/
theorem validateId_ok (s : String) :
    validateId s = .ok () ↔
      minIdLen ≤ s.utf8ByteSize ∧ s.utf8ByteSize ≤ maxIdLen ∧ ∀ c ∈ s.toList, refused c = false := by
  rw [← findRefused_none s.toList 0]
  unfold validateId minIdLen
  by_cases h₀ : s.utf8ByteSize = 0
  · simp [h₀]
  · by_cases h₁ : s.utf8ByteSize > maxIdLen
    · have : ¬s.utf8ByteSize ≤ maxIdLen := by omega
      simp [h₀, h₁, this]
    · have hpos : 1 ≤ s.utf8ByteSize := by omega
      have hle : s.utf8ByteSize ≤ maxIdLen := by omega
      cases hf : findRefused 0 s.toList <;> simp [h₀, h₁, hpos, hle]

theorem Id.size (i : Id kind) :
    minIdLen ≤ i.value.utf8ByteSize ∧ i.value.utf8ByteSize ≤ maxIdLen := by
  obtain ⟨hmin, hmax, -⟩ := (validateId_ok i.value).mp i.valid
  exact ⟨hmin, hmax⟩

theorem Id.eq_of_value (i j : Id kind) (h : i.value = j.value) : i = j := by
  cases i
  cases j
  simpa using h

/-- `new` succeeds exactly on valid text and keeps it. -/
theorem Id.new_ok (kind : IdKind) (s : String) (i : Id kind) :
    Id.new kind s = .ok i ↔ i.value = s := by
  obtain ⟨value, valid⟩ := i
  unfold Id.new
  split
  · rename_i e h
    constructor
    · intro he
      cases he
    · rintro rfl
      rw [h] at valid
      cases valid
  · simp only [Except.ok.injEq, Id.mk.injEq]
    exact eq_comm

end EntityId
