import NexusRemote.BigEndian
import NexusRemote.EntityId

/-!
# Audit events and their hash chain (`crates/nexus-audit`)

Every event is appended to a chain in which its hash covers its position, its
canonical text and the hash before it. The canonical text and the hash function
come from other crates and are parameters.
-/

namespace AuditLog

open BigEndian EntityId

inductive AuditEventType where
  | userLogin
  | userMfa
  | deviceEnroll
  | deviceRevoke
  | sessionRequest
  | sessionAuthorize
  | sessionDeny
  | sessionStart
  | sessionDisconnect
  | sessionEnd
  | clipboardRead
  | clipboardWrite
  | fileUpload
  | fileDownload
  | accessRequest
  | accessApprove
  | policyUpdate
  deriving DecidableEq, Repr

def AuditEventType.asStr : AuditEventType → String
  | userLogin => "user.login"
  | userMfa => "user.mfa"
  | deviceEnroll => "device.enroll"
  | deviceRevoke => "device.revoke"
  | sessionRequest => "session.request"
  | sessionAuthorize => "session.authorize"
  | sessionDeny => "session.deny"
  | sessionStart => "session.start"
  | sessionDisconnect => "session.disconnect"
  | sessionEnd => "session.end"
  | clipboardRead => "clipboard.read"
  | clipboardWrite => "clipboard.write"
  | fileUpload => "file.upload"
  | fileDownload => "file.download"
  | accessRequest => "access.request"
  | accessApprove => "access.approve"
  | policyUpdate => "policy.update"

/-- `from_str`, or the text of its error. -/
def AuditEventType.fromStr (s : String) : Except String AuditEventType :=
  match s with
  | "user.login" => .ok userLogin
  | "user.mfa" => .ok userMfa
  | "device.enroll" => .ok deviceEnroll
  | "device.revoke" => .ok deviceRevoke
  | "session.request" => .ok sessionRequest
  | "session.authorize" => .ok sessionAuthorize
  | "session.deny" => .ok sessionDeny
  | "session.start" => .ok sessionStart
  | "session.disconnect" => .ok sessionDisconnect
  | "session.end" => .ok sessionEnd
  | "clipboard.read" => .ok clipboardRead
  | "clipboard.write" => .ok clipboardWrite
  | "file.upload" => .ok fileUpload
  | "file.download" => .ok fileDownload
  | "access.request" => .ok accessRequest
  | "access.approve" => .ok accessApprove
  | "policy.update" => .ok policyUpdate
  | _ => .error ("unknown audit event type: " ++ s)

/-- `serde_json::Value`. A number is kept as it is written, an object as its members in the
order of their keys. -/
inductive Json where
  | null
  | bool (b : Bool)
  | number (literal : String)
  | string (s : String)
  | array (items : List Json)
  | object (members : List (String × Json))

structure AuditEvent where
  eventId : String
  timestamp : UInt64
  organizationId : TenantId
  userId : Option UserId
  deviceId : Option DeviceId
  sessionId : Option SessionId
  eventType : AuditEventType
  metadata : Json

inductive AuditEventBuildError where
  | missingField (field : String)
  deriving DecidableEq, Repr

structure AuditEventBuilder where
  eventId : Option String := none
  timestamp : Option UInt64 := none
  organizationId : Option TenantId := none
  userId : Option UserId := none
  deviceId : Option DeviceId := none
  sessionId : Option SessionId := none
  eventType : Option AuditEventType := none
  metadata : Option Json := none

def AuditEventBuilder.build (b : AuditEventBuilder) : Except AuditEventBuildError AuditEvent :=
  match b.eventId, b.timestamp, b.organizationId, b.eventType with
  | none, _, _, _ => .error (.missingField "event_id")
  | _, none, _, _ => .error (.missingField "timestamp")
  | _, _, none, _ => .error (.missingField "organization_id")
  | _, _, _, none => .error (.missingField "event_type")
  | some eventId, some timestamp, some organizationId, some eventType =>
    .ok ⟨eventId, timestamp, organizationId, b.userId, b.deviceId, b.sessionId, eventType,
      b.metadata.getD .null⟩

/-- `to_hex` and `{:02x}`: two lower-case digits for every byte. -/
def hex (bytes : Bytes) : String :=
  String.ofList (bytes.flatMap fun b => [Nat.digitChar (b.toNat / 16), Nat.digitChar (b.toNat % 16)])

theorem utf8ByteSize_hex (bytes : Bytes) : (hex bytes).utf8ByteSize = 2 * bytes.length := by
  have hdigit : ∀ n < 16, (Nat.digitChar n).utf8Size = 1 := by decide
  induction bytes with
  | nil => rfl
  | cons b bytes ih =>
    have hb := b.toNat_lt
    have hhigh := hdigit (b.toNat / 16) (by omega)
    have hlow := hdigit (b.toNat % 16) (by omega)
    simp only [hex] at ih
    simp only [hex, List.flatMap_cons, List.cons_append, List.nil_append, String.ofList_cons,
      String.utf8ByteSize_append, String.utf8ByteSize_singleton, hhigh, hlow, ih, List.length_cons]
    omega

/-- Hexadecimal text may stand in an identifier. -/
theorem not_refused_of_mem_hex (bytes : Bytes) (c : Char) (h : c ∈ (hex bytes).toList) :
    refused c = false := by
  have hdigit : ∀ n < 16, refused (Nat.digitChar n) = false := by decide
  simp only [hex, String.toList_ofList, List.mem_flatMap, List.mem_cons, List.not_mem_nil,
    or_false] at h
  obtain ⟨b, -, rfl | rfl⟩ := h
  · exact hdigit _ (by have hb := b.toNat_lt; omega)
  · exact hdigit _ (by omega)

/-- What the chain takes from other crates: the JSON text of an event and BLAKE3. -/
structure Digest where
  canonicalJson : AuditEvent → Except String String
  blake3 : Bytes → Octets 32

structure ChainedAuditEvent where
  sequence : UInt64
  event : AuditEvent
  previousHash : String
  hash : String

inductive ChainVerificationError where
  | nonMonotonicSequence (expected actual : UInt64)
  | hashMismatch (sequence : UInt64) (expected actual : String)
  | previousHashMismatch (sequence : UInt64) (expected actual : String)
  | serializationError (text : String)
  deriving DecidableEq, Repr

abbrev ChainError := ChainVerificationError

def ChainVerificationError.message : ChainVerificationError → String
  | nonMonotonicSequence expected actual =>
    "non-monotonic sequence number: expected " ++ toString expected.toNat ++ ", got " ++
      toString actual.toNat
  | hashMismatch sequence expected actual =>
    "hash mismatch at sequence " ++ toString sequence.toNat ++ ": expected " ++ expected ++
      ", got " ++ actual
  | previousHashMismatch sequence expected actual =>
    "previous hash mismatch at sequence " ++ toString sequence.toNat ++ ": expected " ++ expected ++
      ", got " ++ actual
  | serializationError text => "serialization error: " ++ text

def computeHash (D : Digest) (sequence : UInt64) (canonicalBytes : Bytes) (previousHash : String) :
    String :=
  hex (D.blake3 (toBytes 8 sequence.toNat ++ canonicalBytes ++ previousHash.toUTF8.toList)).1

def computeEventHash (D : Digest) (sequence : UInt64) (event : AuditEvent) (previousHash : String) :
    Except ChainError String :=
  match D.canonicalJson event with
  | .error text => .error (.serializationError text)
  | .ok json => .ok (computeHash D sequence json.toUTF8.toList previousHash)

structure AuditChain where
  genesisSeed : String
  lastHash : String
  sequence : UInt64
  events : List ChainedAuditEvent

def genesisHash : String := "0000000000000000000000000000000000000000000000000000000000000000"

def AuditChain.new (genesisSeed : Option String) : AuditChain :=
  let initial := genesisSeed.getD genesisHash
  ⟨initial, initial, 0, []⟩

def AuditChain.append (D : Digest) (chain : AuditChain) (event : AuditEvent) :
    Except ChainError (ChainedAuditEvent × AuditChain) :=
  let nextSeq := chain.sequence + 1
  match computeEventHash D nextSeq event chain.lastHash with
  | .error e => .error e
  | .ok hash =>
    let chained : ChainedAuditEvent := ⟨nextSeq, event, chain.lastHash, hash⟩
    .ok (chained,
      { chain with sequence := nextSeq, lastHash := hash, events := chain.events ++ [chained] })

/-! ## Verification -/

/-- The loop of `verify_chain`, at the event with index `i`. -/
def verifyFrom (D : Digest) (i : Nat) (expectedPrev : String) :
    List ChainedAuditEvent → Except ChainVerificationError Unit
  | [] => .ok ()
  | chained :: rest =>
    let expectedSeq := UInt64.ofNat i + 1
    if chained.sequence ≠ expectedSeq then
      .error (.nonMonotonicSequence expectedSeq chained.sequence)
    else if chained.previousHash ≠ expectedPrev then
      .error (.previousHashMismatch chained.sequence expectedPrev chained.previousHash)
    else
      match computeEventHash D chained.sequence chained.event chained.previousHash with
      | .error e => .error e
      | .ok recomputed =>
        if chained.hash ≠ recomputed then
          .error (.hashMismatch chained.sequence recomputed chained.hash)
        else verifyFrom D (i + 1) chained.hash rest

def verifyChain (D : Digest) (events : List ChainedAuditEvent) (genesisSeed : Option String) :
    Except ChainVerificationError Unit :=
  verifyFrom D 0 (genesisSeed.getD genesisHash) events

/-- One event continues a chain of `i` events that ends in the hash `prev`. -/
structure Continues (D : Digest) (i : Nat) (prev : String) (chained : ChainedAuditEvent) : Prop where
  sequence : chained.sequence = UInt64.ofNat i + 1
  previous : chained.previousHash = prev
  hash : computeEventHash D chained.sequence chained.event chained.previousHash = .ok chained.hash

variable {D : Digest} {i : Nat} {prev : String}

@[simp] theorem verifyFrom_nil : verifyFrom D i prev [] = .ok () := rfl

theorem verifyFrom_cons (chained : ChainedAuditEvent) (rest : List ChainedAuditEvent) :
    verifyFrom D i prev (chained :: rest) = .ok () ↔
      Continues D i prev chained ∧ verifyFrom D (i + 1) chained.hash rest = .ok () := by
  simp only [verifyFrom]
  constructor
  · intro h
    split at h
    · cases h
    · rename_i hseq
      split at h
      · cases h
      · rename_i hprev
        split at h
        · cases h
        · rename_i recomputed hhash
          split at h
          · cases h
          · rename_i hsame
            rw [not_not] at hseq hprev hsame
            exact ⟨⟨hseq, hprev, hsame ▸ hhash⟩, h⟩
  · rintro ⟨⟨hseq, hprev, hhash⟩, hrest⟩
    rw [if_neg (not_not.mpr hseq), if_neg (not_not.mpr hprev), hhash]
    simpa using hrest

/-- The hash that the next event has to name. -/
def endHash (prev : String) (events : List ChainedAuditEvent) : String :=
  (events.getLast?.map ChainedAuditEvent.hash).getD prev

theorem endHash_cons (chained : ChainedAuditEvent) (rest : List ChainedAuditEvent) :
    endHash prev (chained :: rest) = endHash chained.hash rest := by
  cases rest with
  | nil => rfl
  | cons next rest => simp [endHash, List.getLast?_cons]

/-- A chain is verified piece by piece. -/
theorem verifyFrom_append (events later : List ChainedAuditEvent) :
    verifyFrom D i prev (events ++ later) = .ok () ↔
      verifyFrom D i prev events = .ok () ∧
        verifyFrom D (i + events.length) (endHash prev events) later = .ok () := by
  induction events generalizing i prev with
  | nil => simp [endHash]
  | cons first rest ih =>
    rw [List.cons_append, verifyFrom_cons, ih, verifyFrom_cons, endHash_cons, List.length_cons,
      and_assoc, Nat.add_right_comm, Nat.add_assoc]

/-- A verified chain is numbered without a gap. -/
theorem sequence_of_verified (events : List ChainedAuditEvent)
    (h : verifyFrom D i prev events = .ok ()) :
    events.map ChainedAuditEvent.sequence =
      (List.range' i events.length).map fun j => UInt64.ofNat j + 1 := by
  induction events generalizing i prev with
  | nil => rfl
  | cons first rest ih =>
    obtain ⟨hfirst, hrest⟩ := (verifyFrom_cons first rest).mp h
    rw [List.map_cons, List.length_cons, List.range'_succ, List.map_cons, hfirst.sequence, ih hrest]

/-- The numbers of a verified chain that fits its column are those of its positions. -/
theorem sequence_toNat (events : List ChainedAuditEvent) (h : verifyFrom D 0 prev events = .ok ())
    (hfits : ∀ chained ∈ events, chained.sequence.toNat < 2 ^ 63) :
    events.length < 2 ^ 63 ∧
      events.map (fun chained => chained.sequence.toNat) = List.range' 1 events.length := by
  have hmap := sequence_of_verified events h
  have hget : ∀ (j : Nat) (hj : j < events.length), events[j].sequence = UInt64.ofNat j + 1 := by
    intro j hj
    have hj' := congrArg (fun l => l[j]?) hmap
    simpa [hj] using hj'
  have hlength : events.length < 2 ^ 63 := by
    by_contra hlong
    have hj : 2 ^ 63 - 1 < events.length := by omega
    have hlast := hfits _ (List.getElem_mem hj)
    rw [hget _ hj] at hlast
    exact absurd hlast (by decide)
  refine ⟨hlength, List.ext_getElem (by simp) ?_⟩
  intro j hj _
  simp only [List.length_map] at hj
  simp only [List.getElem_map, List.getElem_range', hget j hj, UInt64.toNat_add, UInt64.toNat_ofNat',
    UInt64.toNat_one]
  omega

/-- Sorting by a key brings back any order of a list whose keys increase. -/
theorem mergeSort_of_perm {α β : Type} [LinearOrder β] (key : α → β) (l l' : List α)
    (hl : (l.map key).Pairwise (· < ·)) (hperm : l'.Perm l) :
    l'.mergeSort (fun a b => key a ≤ key b) = l := by
  have hsorted : (l'.mergeSort fun a b => key a ≤ key b).Pairwise fun a b => key a ≤ key b := by
    have hmerged : (l'.mergeSort fun a b => key a ≤ key b).Pairwise
        fun a b => decide (key a ≤ key b) = true := by
      refine List.pairwise_mergeSort ?_ ?_ l'
      · intro a b c hab hbc
        simp only [decide_eq_true_eq] at hab hbc ⊢
        exact hab.trans hbc
      · intro a b
        simpa using le_total (key a) (key b)
    exact hmerged.imp fun hle => of_decide_eq_true hle
  have hordered : l.Pairwise fun a b => key a ≤ key b :=
    (List.pairwise_map.mp hl).imp fun hlt => hlt.le
  have hsame := (List.mergeSort_perm l' fun a b => key a ≤ key b).trans hperm
  have hdistinct : (l.map key).Nodup := hl.imp fun hlt => hlt.ne
  refine List.Perm.eq_of_pairwise ?_ hsorted hordered hsame
  intro a b ha hb hab hba
  exact List.inj_on_of_nodup_map hdistinct (hsame.mem_iff.mp ha) hb (le_antisymm hab hba)

/-- What the chain in memory remembers beside its events follows from them. -/
structure AuditChain.Valid (D : Digest) (chain : AuditChain) : Prop where
  verified : verifyChain D chain.events (some chain.genesisSeed) = .ok ()
  sequence : chain.sequence = UInt64.ofNat chain.events.length
  lastHash : chain.lastHash = endHash chain.genesisSeed chain.events

theorem new_valid (seed : Option String) : (AuditChain.new seed).Valid D := ⟨rfl, rfl, rfl⟩

/-- What appending adds. -/
theorem append_ok (chain next : AuditChain) (event : AuditEvent) (chained : ChainedAuditEvent)
    (h : chain.append D event = .ok (chained, next)) :
    next.genesisSeed = chain.genesisSeed ∧ next.events = chain.events ++ [chained] ∧
      chained.event = event ∧ (chain.Valid D → next.Valid D) := by
  unfold AuditChain.append at h
  simp only at h
  split at h
  · cases h
  · rename_i hash hhash
    obtain ⟨rfl, rfl⟩ := Prod.mk.inj (Except.ok.inj h)
    refine ⟨rfl, rfl, rfl, ?_⟩
    intro hvalid
    refine ⟨?_, ?_, ?_⟩
    · refine (verifyFrom_append _ _).mpr
        ⟨hvalid.verified, (verifyFrom_cons _ _).mpr ⟨⟨?_, ?_, hhash⟩, rfl⟩⟩
      · simp [hvalid.sequence]
      · exact hvalid.lastHash
    · simp [hvalid.sequence]
    · simp [endHash]

/-- An event is appended, with the next number, unless it has no canonical text. -/
theorem append_cases (D : Digest) (chain : AuditChain) (event : AuditEvent) :
    (∃ text, D.canonicalJson event = .error text ∧
        chain.append D event = .error (.serializationError text)) ∨
      ∃ json chained next, D.canonicalJson event = .ok json ∧
        chain.append D event = .ok (chained, next) ∧ chained.event = event ∧
        chained.sequence = chain.sequence + 1 := by
  cases hjson : D.canonicalJson event with
  | error text => exact .inl ⟨text, rfl, by simp [AuditChain.append, computeEventHash, hjson]⟩
  | ok json =>
    have happend : ∃ hash next, chain.append D event =
        .ok (⟨chain.sequence + 1, event, chain.lastHash, hash⟩, next) := by
      simp only [AuditChain.append, computeEventHash, hjson]
      exact ⟨_, _, rfl⟩
    obtain ⟨hash, next, happend⟩ := happend
    exact .inr ⟨json, _, next, rfl, happend, rfl, rfl⟩

end AuditLog
