import NexusRemote.AuditRestarts

/-!
# The last hash of an audit chain binds the whole chain

The hashed text is a position, a JSON text and the hash before it, with nothing
between them. The position has a fixed width, and so has every hash but the seed,
which is the same for both chains; therefore the text can be taken apart.
-/

namespace AuditEvidence

open BigEndian AuditLog

/-- What the hash of an event covers, given the JSON text of the event. -/
def hashedText (chained : ChainedAuditEvent) (json : String) : Bytes :=
  toBytes 8 chained.sequence.toNat ++ json.toUTF8.toList ++ chained.previousHash.toUTF8.toList

/-- All that is hashed when these events are verified. -/
def hashedTexts (D : Digest) (events : List ChainedAuditEvent) : Set Bytes :=
  { text | ∃ chained ∈ events, ∃ json, D.canonicalJson chained.event = .ok json ∧
      text = hashedText chained json }

/-- Among these events the hash has no collision, and different events have different texts. -/
structure Binding (D : Digest) (events : List ChainedAuditEvent) : Prop where
  hash : Set.InjOn D.blake3 (hashedTexts D events)
  text : ∀ chained ∈ events, ∀ chained' ∈ events, ∀ json,
    D.canonicalJson chained.event = .ok json → D.canonicalJson chained'.event = .ok json →
      chained.event = chained'.event

theorem hex_injective : Function.Injective hex := by
  have hdigit : ∀ m < 16, ∀ n < 16, Nat.digitChar m = Nat.digitChar n → m = n := by decide
  intro bytes bytes' h
  have hlist := congrArg String.toList h
  simp only [hex, String.toList_ofList] at hlist
  clear h
  induction bytes generalizing bytes' with
  | nil =>
    cases bytes' with
    | nil => rfl
    | cons b' bytes' => simp at hlist
  | cons b bytes ih =>
    cases bytes' with
    | nil => simp at hlist
    | cons b' bytes' =>
      simp only [List.flatMap_cons, List.cons_append, List.nil_append, List.cons.injEq] at hlist
      obtain ⟨hhigh, hlow, hrest⟩ := hlist
      have hb := b.toNat_lt
      have hb' := b'.toNat_lt
      have hhigh' := hdigit _ (by omega) _ (by omega) hhigh
      have hlow' := hdigit _ (by omega) _ (by omega) hlow
      have hsame : b = b' := UInt8.toNat_inj.mp (by omega)
      rw [hsame, ih hrest]

variable {D : Digest}

/-- The hash of an accepted event is the hash of its text. -/
theorem hash_eq {i : Nat} {prev : String} {chained : ChainedAuditEvent}
    (h : Continues D i prev chained) :
    ∃ json, D.canonicalJson chained.event = .ok json ∧
      chained.hash = hex (D.blake3 (hashedText chained json)).1 := by
  have hhash := h.hash
  unfold computeEventHash at hhash
  split at hhash
  · cases hhash
  · rename_i json hjson
    exact ⟨json, hjson, (Except.ok.inj hhash).symm⟩

/-- The last event of an accepted chain continues the chain before it. -/
theorem verifyFrom_concat {i : Nat} {prev : String} (init : List ChainedAuditEvent)
    (last : ChainedAuditEvent) (h : verifyFrom D i prev (init ++ [last]) = .ok ()) :
    verifyFrom D i prev init = .ok () ∧
      Continues D (i + init.length) (endHash prev init) last := by
  obtain ⟨hinit, hlast⟩ := (verifyFrom_append init [last]).mp h
  exact ⟨hinit, ((verifyFrom_cons last []).mp hlast).1⟩

theorem endHash_concat (prev : String) (init : List ChainedAuditEvent) (last : ChainedAuditEvent) :
    endHash prev (init ++ [last]) = last.hash := by
  simp [endHash]

/-- After an event the next hash to name has 64 characters. -/
theorem size_endHash {i : Nat} {prev : String} (events : List ChainedAuditEvent)
    (hne : events ≠ []) (h : verifyFrom D i prev events = .ok ()) :
    (endHash prev events).utf8ByteSize = 64 := by
  obtain ⟨init, last, rfl⟩ := (List.eq_nil_or_concat' events).resolve_left hne
  obtain ⟨json, -, hhash⟩ := hash_eq (verifyFrom_concat init last h).2
  rw [endHash_concat, hhash, utf8ByteSize_hex, (D.blake3 _).2]

/-- Two hashed texts with last parts of the same length are equal part by part. -/
theorem hashedText_inj (chained chained' : ChainedAuditEvent) (json json' : String)
    (hsize : chained.previousHash.utf8ByteSize = chained'.previousHash.utf8ByteSize)
    (h : hashedText chained json = hashedText chained' json') :
    json = json' ∧ chained.previousHash = chained'.previousHash := by
  simp only [hashedText, List.append_assoc] at h
  obtain ⟨-, hrest⟩ := List.append_inj h (by simp)
  obtain ⟨hjson, hprev⟩ := List.append_inj' hrest (by rw [length_utf8, length_utf8, hsize])
  exact ⟨utf8_injective hjson, utf8_injective hprev⟩

theorem sequence_of_hashedText (chained chained' : ChainedAuditEvent) (json json' : String)
    (h : hashedText chained json = hashedText chained' json') :
    chained.sequence = chained'.sequence := by
  simp only [hashedText, List.append_assoc] at h
  obtain ⟨hsequence, -⟩ := List.append_inj h (by simp)
  rw [← word64 chained.sequence, ← word64 chained'.sequence]
  exact congrArg (fun b => UInt64.ofNat (ofBytes b)) hsequence

/-- Accepted events with the same hash have the same hashed text. -/
theorem hashedText_of_hash {i i' : Nat} {prev prev' : String} {events : List ChainedAuditEvent}
    {chained chained' : ChainedAuditEvent} (hbinding : Binding D events)
    (hmem : chained ∈ events) (hmem' : chained' ∈ events) (h : Continues D i prev chained)
    (h' : Continues D i' prev' chained') (hsame : chained.hash = chained'.hash) :
    ∃ json json', D.canonicalJson chained.event = .ok json ∧
      D.canonicalJson chained'.event = .ok json' ∧
        hashedText chained json = hashedText chained' json' := by
  obtain ⟨json, hjson, hhash⟩ := hash_eq h
  obtain ⟨json', hjson', hhash'⟩ := hash_eq h'
  rw [hhash, hhash'] at hsame
  have hdigest := Subtype.ext (hex_injective hsame)
  exact ⟨json, json', hjson, hjson',
    hbinding.hash ⟨chained, hmem, json, hjson, rfl⟩ ⟨chained', hmem', json', hjson', rfl⟩ hdigest⟩

/-- Two accepted chains of one length with the same last hash are equal. -/
theorem eq_of_endHash {seed : String} {all : List ChainedAuditEvent} (hbinding : Binding D all)
    (events events' : List ChainedAuditEvent) (hall : events ⊆ all) (hall' : events' ⊆ all)
    (hlength : events.length = events'.length) (h : verifyFrom D 0 seed events = .ok ())
    (h' : verifyFrom D 0 seed events' = .ok ())
    (hend : endHash seed events = endHash seed events') : events = events' := by
  -- From the last event backwards: its text gives the hash that the chain before it ends in.
  induction events using List.reverseRecOn generalizing events' with
  | nil => exact (List.length_eq_zero_iff.mp hlength.symm).symm
  | append_singleton init last ih =>
    obtain ⟨init', last', rfl⟩ := (List.eq_nil_or_concat' events').resolve_left (by
      rintro rfl
      simp at hlength)
    have hlength' : init.length = init'.length := by simpa using hlength
    obtain ⟨hinit, hcontinues⟩ := verifyFrom_concat init last h
    obtain ⟨hinit', hcontinues'⟩ := verifyFrom_concat init' last' h'
    have hhash : last.hash = last'.hash := by rwa [endHash_concat, endHash_concat] at hend
    have hmem : last ∈ all := hall (by simp)
    have hmem' : last' ∈ all := hall' (by simp)
    obtain ⟨json, json', hjson, hjson', htext⟩ :=
      hashedText_of_hash hbinding hmem hmem' hcontinues hcontinues' hhash
    have hsize : last.previousHash.utf8ByteSize = last'.previousHash.utf8ByteSize := by
      rw [hcontinues.previous, hcontinues'.previous]
      by_cases hnil : init = []
      · have hnil' : init' = [] := List.length_eq_zero_iff.mp (by rw [← hlength', hnil]; rfl)
        rw [hnil, hnil']
      · have hnil' : init' ≠ [] := by
          intro hnil'
          exact hnil (List.length_eq_zero_iff.mp (by rw [hlength', hnil']; rfl))
        rw [size_endHash init hnil hinit, size_endHash init' hnil' hinit']
    obtain ⟨rfl, hprevious⟩ := hashedText_inj last last' json json' hsize htext
    have hevent := hbinding.text last hmem last' hmem' json hjson hjson'
    have hsequence := sequence_of_hashedText last last' json json htext
    obtain rfl : last = last' := by
      cases last
      cases last'
      simp_all
    rw [ih init' (fun c hc => hall (by simp [hc])) (fun c hc => hall' (by simp [hc])) hlength' hinit
      hinit' (by rw [← hcontinues.previous, hprevious, hcontinues'.previous])]

/-- Two accepted chains with the same last hash have the same length. -/
theorem length_of_endHash {seed : String} {all : List ChainedAuditEvent} (hbinding : Binding D all)
    (events events' : List ChainedAuditEvent) (hall : events ⊆ all) (hall' : events' ⊆ all)
    (hne : events ≠ []) (hne' : events' ≠ []) (hshort : events.length < 2 ^ 64)
    (hshort' : events'.length < 2 ^ 64) (h : verifyFrom D 0 seed events = .ok ())
    (h' : verifyFrom D 0 seed events' = .ok ())
    (hlast : (events.getLast hne).hash = (events'.getLast hne').hash) :
    events.length = events'.length := by
  obtain ⟨init, last, rfl⟩ := (List.eq_nil_or_concat' events).resolve_left hne
  obtain ⟨init', last', rfl⟩ := (List.eq_nil_or_concat' events').resolve_left hne'
  obtain ⟨-, hcontinues⟩ := verifyFrom_concat init last h
  obtain ⟨-, hcontinues'⟩ := verifyFrom_concat init' last' h'
  have hhash : last.hash = last'.hash := by simpa using hlast
  obtain ⟨json, json', -, -, htext⟩ :=
    hashedText_of_hash hbinding (hall (by simp)) (hall' (by simp)) hcontinues hcontinues' hhash
  have hsequence := sequence_of_hashedText last last' json json' htext
  rw [hcontinues.sequence, hcontinues'.sequence] at hsequence
  have hnumber := congrArg UInt64.toNat (add_right_cancel hsequence)
  simp only [List.length_append, List.length_singleton] at hshort hshort' ⊢
  simp only [UInt64.toNat_ofNat'] at hnumber
  omega

/-- Two nonempty chains that are accepted with one seed and end in the same hash are the same
chain. A slice is indexed by a machine word, so its length is below `2 ^ 64`. -/
theorem tamper_evident (D : Digest) (seed : Option String) (events events' : List ChainedAuditEvent)
    (hne : events ≠ []) (hne' : events' ≠ []) (hshort : events.length < 2 ^ 64)
    (hshort' : events'.length < 2 ^ 64) (hbinding : Binding D (events ++ events'))
    (h : verifyChain D events seed = .ok ()) (h' : verifyChain D events' seed = .ok ())
    (hlast : (events.getLast hne).hash = (events'.getLast hne').hash) : events = events' := by
  have hall : events ⊆ events ++ events' := fun c hc => by simp [hc]
  have hall' : events' ⊆ events ++ events' := fun c hc => by simp [hc]
  have hlength :=
    length_of_endHash hbinding events events' hall hall' hne hne' hshort hshort' h h' hlast
  refine eq_of_endHash hbinding events events' hall hall' hlength h h' ?_
  simp only [endHash, List.getLast?_eq_some_getLast hne, List.getLast?_eq_some_getLast hne',
    Option.map_some, Option.getD_some, hlast]

/-! ## When the hash has no collision -/

theorem Binding.mono {events all : List ChainedAuditEvent} (h : Binding D all)
    (hall : events ⊆ all) : Binding D events where
  hash := by
    refine h.hash.mono ?_
    rintro text ⟨c, hc, htext⟩
    exact ⟨c, hall hc, htext⟩
  text := fun c hc c' hc' => h.text c (hall hc) c' (hall hc')

theorem hash_of_verified {i : Nat} {prev : String} (events : List ChainedAuditEvent)
    (h : verifyFrom D i prev events = .ok ()) (chained : ChainedAuditEvent)
    (hmem : chained ∈ events) (json : String) (hjson : D.canonicalJson chained.event = .ok json) :
    chained.hash = hex (D.blake3 (hashedText chained json)).1 := by
  induction events generalizing i prev with
  | nil => cases hmem
  | cons first rest ih =>
    obtain ⟨hcontinues, hrest⟩ := (verifyFrom_cons first rest).mp h
    rcases List.mem_cons.mp hmem with rfl | hlater
    · obtain ⟨json', hjson', hhash⟩ := hash_eq hcontinues
      obtain rfl : json' = json := Except.ok.inj (hjson'.symm.trans hjson)
      exact hhash
    · exact ih hrest hlater

/-- In an accepted chain the hashes themselves show that there is no collision. -/
theorem binding_of_distinct {seed : Option String} {events : List ChainedAuditEvent}
    (h : verifyChain D events seed = .ok ()) (hhashes : (events.map ChainedAuditEvent.hash).Nodup)
    (htexts : (events.map fun c => D.canonicalJson c.event).Nodup) : Binding D events where
  hash := by
    rintro _ ⟨c, hc, json, hjson, rfl⟩ _ ⟨c', hc', json', hjson', rfl⟩ hsame
    have hhash : c.hash = c'.hash := by
      rw [hash_of_verified events h c hc json hjson, hash_of_verified events h c' hc' json' hjson',
        hsame]
    obtain rfl := List.inj_on_of_nodup_map hhashes hc hc' hhash
    obtain rfl : json = json' := Except.ok.inj (hjson.symm.trans hjson')
    rfl
  text := by
    intro c hc c' hc' json hjson hjson'
    rw [List.inj_on_of_nodup_map htexts hc hc' (hjson.trans hjson'.symm)]

open AuditRecording AuditRestarts

theorem logins_recorded :
    (recordAll sampleDigest (opened .empty) [login "evt-a", login "evt-b"]).isSome = true := by
  decide +kernel

/-- A control plane that has recorded two logins. -/
def recorded : SessionRequest.Shared :=
  (recordAll sampleDigest (opened .empty) [login "evt-a", login "evt-b"]).get logins_recorded

theorem recorded_settled :
    Settled sampleDigest recorded ∧ verifyChain sampleDigest recorded.auditSink none = .ok () ∧
      recorded.auditSink.map ChainedAuditEvent.event = [login "evt-a", login "evt-b"] := by
  have hrun : recordAll sampleDigest (opened .empty) [login "evt-a", login "evt-b"] =
    some recorded := (Option.some_get logins_recorded).symm
  obtain ⟨hverified, hevents, -⟩ := instance_chain sampleDigest .empty recorded _ hrun
  exact ⟨(recordAll_settled sampleDigest _ recorded _ (settled_opened sampleDigest .empty) hrun).1,
    hverified, hevents⟩

/-- The sink and the chain in memory hold the same two logins. -/
theorem tamper_evident_logins :
    verifyChain sampleDigest recorded.auditSink none = .ok () ∧
      recorded.auditSink.map ChainedAuditEvent.event = [login "evt-a", login "evt-b"] ∧
      recorded.auditSink = recorded.auditChain.events := by
  obtain ⟨hsettled, hverified, hevents⟩ := recorded_settled
  have hsink := hsettled.sink
  have hlength : recorded.auditSink.length = 2 := by
    simpa using congrArg List.length hevents
  have hne : recorded.auditSink ≠ [] := List.ne_nil_of_length_eq_add_one hlength
  have hhashes : (recorded.auditSink.map ChainedAuditEvent.hash).Nodup := by decide +kernel
  have htexts : (recorded.auditSink.map fun c => sampleDigest.canonicalJson c.event).Nodup := by
    decide +kernel
  have hbinding := binding_of_distinct hverified hhashes htexts
  have hboth : Binding sampleDigest (recorded.auditSink ++ recorded.auditChain.events) :=
    hbinding.mono (by simp [hsink])
  refine ⟨hverified, hevents, tamper_evident sampleDigest none _ _ hne (hsink ▸ hne)
    (by rw [hlength]; decide) (by rw [← hsink, hlength]; decide) hboth hverified
    (by rw [← hsink]; exact hverified) ?_⟩
  simp only [hsink]

end AuditEvidence
