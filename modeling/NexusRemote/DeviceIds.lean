import NexusRemote.EnrollmentRequest
import NexusRemote.Mealy

/-!
# The identifiers of enrolled devices

The identifier of a device consists of the type of the device and the first
eight bytes of the token's identifier. Here requests are handled one after the
other, without failures, while tokens are being stored.
-/

namespace DeviceIds

open EntityId AuditLog DeviceCredentials DeviceRegistration ControlStore Transactions EnrollmentRequest
open SessionRequest (AppState Shared)
open EnrollmentStore (storeEnrollmentToken)

/-! ## What an identifier is derived from -/

/-- The handler derives the identifier from the token. -/
def Derives (token : EnrollmentToken) (id : DeviceId) : Prop := deviceIdStr token = some id.value

/-- The first eight bytes of a token's identifier, or all of them. -/
def Begins (token : EnrollmentToken) (start : String) : Prop :=
  (∃ rest, token.tokenId = start ++ rest) ∧ start.utf8ByteSize = min token.tokenId.utf8ByteSize 8

theorem deviceIdStr_eq_some (token : EnrollmentToken) (text : String) :
    deviceIdStr token = some text ↔
      ∃ start, Begins token start ∧ text = "dev-" ++ token.deviceType.asStr ++ "-" ++ start := by
  unfold deviceIdStr
  rw [Option.map_eq_some_iff]
  constructor
  · rintro ⟨start, hslice, rfl⟩
    exact ⟨start, (TextSlices.sliceTo_eq_some _ _ _).mp hslice, rfl⟩
  · rintro ⟨start, hbegins, rfl⟩
    exact ⟨start, (TextSlices.sliceTo_eq_some _ _ _).mpr hbegins, rfl⟩

theorem deviceIdStr_isSome (token : EnrollmentToken) :
    deviceIdStr token ≠ none ↔ ∃ start, Begins token start := by
  rw [Option.ne_none_iff_exists']
  constructor
  · rintro ⟨text, htext⟩
    obtain ⟨start, hbegins, -⟩ := (deviceIdStr_eq_some token text).mp htext
    exact ⟨start, hbegins⟩
  · rintro ⟨start, hbegins⟩
    exact ⟨_, (deviceIdStr_eq_some token _).mpr ⟨start, hbegins, rfl⟩⟩

/-- The text is an identifier if its last part is printable ASCII. -/
theorem deviceId_valid (deviceType : DeviceType) (start : String) (hsize : start.utf8ByteSize ≤ 8) :
    validateId ("dev-" ++ deviceType.asStr ++ "-" ++ start) = .ok () ↔
      ∀ c ∈ start.toList, refused c = false := by
  have hsizes : deviceType.asStr.utf8ByteSize ≤ 6 := by cases deviceType <;> decide
  have hchars : ∀ text : String, (text.toList.all fun c => !refused c) = true →
      ∀ c ∈ text.toList, refused c = false := by
    intro text htext c hc
    simpa using List.all_eq_true.mp htext c hc
  have hdev := hchars "dev-" (by decide)
  have htype := hchars deviceType.asStr (by cases deviceType <;> decide)
  have hdash := hchars "-" (by decide)
  have hdevSize : "dev-".utf8ByteSize = 4 := by decide
  have hdashSize : "-".utf8ByteSize = 1 := by decide
  rw [validateId_ok]
  simp only [String.utf8ByteSize_append, String.toList_append, List.forall_mem_append, minIdLen, maxIdLen]
  constructor
  · rintro ⟨-, -, -, hstart⟩
    exact hstart
  · intro hstart
    exact ⟨by omega, by omega, ⟨⟨hdev, htype⟩, hdash⟩, hstart⟩

/-- The text determines the type of the device and the beginning. -/
theorem deviceId_injective (s t : DeviceType) (start start' : String)
    (h : "dev-" ++ s.asStr ++ "-" ++ start = "dev-" ++ t.asStr ++ "-" ++ start') :
    s = t ∧ start = start' := by
  have hlist := congrArg String.toList h
  cases s <;> cases t <;> simp [DeviceType.asStr, String.toList_inj] at hlist ⊢
  all_goals exact hlist

/-- Two tokens lead to no common identifier exactly if they are for different types of devices or
begin differently, as far as their beginnings are printable. -/
theorem derives_disjoint_iff (s t : EnrollmentToken) :
    (∀ id, ¬(Derives s id ∧ Derives t id)) ↔
      ∀ start, (∀ c ∈ start.toList, refused c = false) → Begins s start → Begins t start →
        s.deviceType ≠ t.deviceType := by
  constructor
  · intro hdisjoint start hprintable hs ht htype
    have hvalid := (deviceId_valid s.deviceType start (hs.2 ▸ min_le_right _ _)).mpr hprintable
    have hleft := (deviceIdStr_eq_some s _).mpr ⟨start, hs, rfl⟩
    have hright := (deviceIdStr_eq_some t _).mpr ⟨start, ht, rfl⟩
    rw [← htype] at hright
    exact hdisjoint ⟨_, hvalid⟩ ⟨hleft, hright⟩
  · rintro hbegin id ⟨hs, ht⟩
    obtain ⟨start, hstart, htext⟩ := (deviceIdStr_eq_some s _).mp hs
    obtain ⟨start', hstart', htext'⟩ := (deviceIdStr_eq_some t _).mp ht
    obtain ⟨htype, rfl⟩ := deviceId_injective _ _ start start' (htext.symm.trans htext')
    have hprintable := (deviceId_valid s.deviceType start (hstart.2 ▸ min_le_right _ _)).mp
      (htext ▸ id.valid)
    exact hbegin start hprintable hstart hstart' htype

/-! ## Runs -/

inductive Input where
  | store (token : EnrollmentToken)
  | request (req : DeviceRegistrationRequest) (now : UInt64)

variable {state : AppState} (C : Crates state)

/-- Handles one input. For a request, the output says how the call has ended. -/
def step (shared : Shared) : Input → Option Phase × Shared
  | .store token =>
    (none, { shared with
      database := (transaction (storeEnrollmentToken {} token) shared.database).2 })
  | .request req now =>
    let (phase, shared) := enrollDeviceHandler C req now {} shared
    (some phase, shared)

theorem step_request (shared : Shared) (req : DeviceRegistrationRequest) (now : UInt64) :
    step C shared (.request req now) =
      (some (enrollDeviceHandler C req now {} shared).1, (enrollDeviceHandler C req now {} shared).2) := rfl

/-- The control plane before the first input. -/
def initial : Shared := AuditRecording.opened Database.empty

def Input.token : Input → Option EnrollmentToken
  | .store token => some token
  | .request _ _ => none

def Input.req : Input → Option DeviceRegistrationRequest
  | .store _ => none
  | .request req _ => some req

/-- The error of `enroll_device`, if a request gets there. -/
def enrollmentError (shared : Shared) (req : DeviceRegistrationRequest) (now : UInt64) :
    Option EnrollmentError :=
  match start C req now with
  | .enroll device =>
    match shared.database.enrollDevice req.enrollmentToken.tokenId now device with
    | .error e => some e
    | .ok _ => none
  | _ => none

/-- Every request is genuine, and its token has been stored once and is not used more often than it
may be. -/
structure Legitimate (inputs : List Input) : Prop where
  genuine : ∀ req now, Input.request req now ∈ inputs → Genuine C req now
  storedOnce : ((inputs.filterMap Input.token).map EnrollmentToken.tokenId).Nodup
  storedBefore : ∀ before req now, before ++ [Input.request req now] <+: inputs →
    req.enrollmentToken ∈ before.filterMap Input.token
  uses : ∀ token,
    ((inputs.filterMap Input.req).map DeviceRegistrationRequest.enrollmentToken).count token ≤
      token.maxUses.toNat

/-- No call panics, no two requests lead to the same identifier, and no enrollment fails because the
device is there already. -/
structure Fresh (inputs : List Input) : Prop where
  noPanic : some Phase.panicked ∉ Mealy.trace (step C) initial inputs
  distinct : (inputs.filterMap Input.req).Pairwise fun r s =>
    ∀ id, ¬(Derives r.enrollmentToken id ∧ Derives s.enrollmentToken id)
  noDuplicate : ∀ before req now, before ++ [Input.request req now] <+: inputs →
    ∀ e, enrollmentError C (Mealy.after (step C) initial before) req now = some e → ¬Duplicate e

/-- Every token identifier has a character boundary at its eighth byte, unless it is shorter, and of
two requests that begin alike, in printable ASCII, the devices have different types. -/
structure Separated (requests : List DeviceRegistrationRequest) : Prop where
  boundary : ∀ r ∈ requests, ∃ start, Begins r.enrollmentToken start
  different : requests.Pairwise fun r s =>
    ∀ start, (∀ c ∈ start.toList, refused c = false) → Begins r.enrollmentToken start →
      Begins s.enrollmentToken start → r.enrollmentToken.deviceType ≠ s.enrollmentToken.deviceType

/-! ## Panics -/

theorem advance_panicked (req : DeviceRegistrationRequest) (now : UInt64) (failures : Failures)
    (call : Phase × Shared) :
    (advance state req now failures call).1 = .panicked ↔ call.1 = .panicked := by
  obtain ⟨phase, shared⟩ := call
  cases phase with
  | enroll device =>
    simp only [advance]
    split <;> simp [enrollEvent, AuditEventBuilder.build]
  | record stage credential =>
    simp only [advance, reduceCtorEq, iff_false]
    generalize (AuditRecording.turn state.digest shared (failures.at stage) stage).1 = next
    intro hpanicked
    rcases next with _ | _ | _ | ⟨_ | _⟩ <;> cases hpanicked
  | answered answer => simp [advance]
  | panicked => simp [advance]

/-- A call panics only before its first await. -/
theorem enrollDeviceHandler_panicked (req : DeviceRegistrationRequest) (now : UInt64)
    (failures : Failures) (shared : Shared) :
    (enrollDeviceHandler C req now failures shared).1 = .panicked ↔ start C req now = .panicked := by
  simp only [enrollDeviceHandler, Function.iterate_succ, Function.iterate_zero, Function.comp_apply,
    id_eq, advance_panicked]

theorem issue_panicked (req : DeviceRegistrationRequest) (now : UInt64) :
    issue C req now = .panicked ↔ deviceIdStr req.enrollmentToken = none := by
  unfold issue
  split
  · rename_i hnone
    simp [hnone]
  · rename_i text htext
    simp only [htext, reduceCtorEq, iff_false]
    split
    · nofun
    · split
      · nofun
      · split <;> nofun

/-- A run of genuine requests panics exactly if an identifier has no character boundary. -/
theorem trace_panicked (shared : Shared) (inputs : List Input)
    (h : ∀ req now, Input.request req now ∈ inputs → Genuine C req now) :
    some Phase.panicked ∉ Mealy.trace (step C) shared inputs ↔
      ∀ r ∈ inputs.filterMap Input.req, ∃ start, Begins r.enrollmentToken start := by
  induction inputs generalizing shared with
  | nil => simp
  | cons input inputs ih =>
    have hrest := ih (step C shared input).2 fun req now hmem => h req now (List.mem_cons_of_mem _ hmem)
    rw [Mealy.trace_cons, List.mem_cons, not_or, hrest]
    cases input with
    | store token => simp [step, Input.req]
    | request req now =>
      have hgenuine := h req now List.mem_cons_self
      have hfirst : some Phase.panicked = (step C shared (.request req now)).1 ↔
          deviceIdStr req.enrollmentToken = none := by
        rw [← issue_panicked C req now, ← start_genuine C req now hgenuine,
          ← enrollDeviceHandler_panicked C req now {} shared]
        simp only [step, Option.some.injEq]
        exact eq_comm
      rw [hfirst, ← ne_eq, deviceIdStr_isSome]
      simp [Input.req]

/-! ## The devices that there are -/

/-- Every device, and every credential, has an identifier that a request led to. -/
def Known (db : Database) (requests : List DeviceRegistrationRequest) : Prop :=
  ∀ id : String, db.devices.contains id = true ∨ db.deviceCredentials.contains id = true →
    ∃ r ∈ requests, deviceIdStr r.enrollmentToken = some id

theorem Known.congr {db db' : Database} {requests : List DeviceRegistrationRequest}
    (h : Known db requests) (hdevices : db'.devices = db.devices)
    (hcredentials : db'.deviceCredentials = db.deviceCredentials) : Known db' requests := by
  intro id hid
  rw [hdevices, hcredentials] at hid
  exact h id hid

theorem Known.mono {db : Database} {requests more : List DeviceRegistrationRequest}
    (h : Known db requests) : Known db (requests ++ more) := by
  intro id hid
  obtain ⟨r, hr, htext⟩ := h id hid
  exact ⟨r, List.mem_append_left _ hr, htext⟩

theorem inserted_known (db db' : Database) (device : RegisteredDevice)
    (requests : List DeviceRegistrationRequest) (req : DeviceRegistrationRequest) (h : Known db requests)
    (hid : deviceIdStr req.enrollmentToken = some device.credential.deviceId.value)
    (hinserted : Inserted db device db') : Known db' (requests ++ [req]) := by
  obtain ⟨row, -, -, -, hdevices⟩ := hinserted.devices
  intro id hcontains
  rw [hdevices, hinserted.credentials, Std.TreeMap.contains_insert, Std.TreeMap.contains_insert,
    Bool.or_eq_true, Bool.or_eq_true, beq_iff_eq, Std.LawfulEqCmp.compare_eq_iff_eq] at hcontains
  by_cases hnew : device.credential.deviceId.value = id
  · exact ⟨req, by simp, hnew ▸ hid⟩
  · exact h.mono id (hcontains.imp (Or.resolve_left · hnew) (Or.resolve_left · hnew))

theorem step_known (shared : Shared) (input : Input) (requests : List DeviceRegistrationRequest)
    (h : Known shared.database requests) :
    Known (step C shared input).2.database (requests ++ input.req.toList) := by
  cases input with
  | store token =>
    rcases hstored : transaction (storeEnrollmentToken {} token) shared.database with ⟨e | _, db⟩
    · have hsame := transaction_error _ shared.database e (congrArg Prod.fst hstored)
      simp only [step, hsame]
      exact h.mono
    · have hok := EnrollmentStore.storeEnrollmentToken_committed {} _ db token hstored
      obtain ⟨-, hdevices, hcredentials⟩ := storeEnrollmentToken_ok _ _ token hok
      simp only [step, hstored]
      exact h.mono.congr hdevices hcredentials
  | request req now =>
    rcases enrollDeviceHandler_cases C req now {} shared with ⟨hkeeps, -⟩ |
      ⟨device, token, database, event, hdevice, htransaction, -, hhandler⟩
    · exact h.mono.congr hkeeps.devices hkeeps.credentials
    · have hcommitted := EnrollmentStore.enrollDevice_committed {} _ database _ now device token htransaction
      obtain ⟨row, -, -, -, -, -, hinserted⟩ := enrollDevice_ok _ _ _ _ _ _ hcommitted
      obtain ⟨-, hissue⟩ := start_enroll C req now device hdevice
      obtain ⟨hid, -⟩ := issue_enroll C req now device hissue
      have hknown : Known database (requests ++ [req]) := by
        refine inserted_known _ database device requests req ?_ hid hinserted
        exact h.congr rfl rfl
      have hlater := AuditRecording.recordAlone_keeps state.digest none none
        { shared with database := database } event
      simp only [step, hhandler]
      exact hknown.congr hlater.devices hlater.credentials

theorem after_known (shared : Shared) (inputs : List Input) (requests : List DeviceRegistrationRequest)
    (h : Known shared.database requests) :
    Known (Mealy.after (step C) shared inputs).database (requests ++ inputs.filterMap Input.req) := by
  induction inputs generalizing shared requests with
  | nil => simpa using h
  | cons input inputs ih =>
    have hnext := ih (step C shared input).2 _ (step_known C shared input requests h)
    rw [List.append_assoc] at hnext
    cases input <;> exact hnext

theorem enrollmentError_eq_some (shared : Shared) (req : DeviceRegistrationRequest) (now : UInt64)
    (e : EnrollmentError) (h : enrollmentError C shared req now = some e) :
    ∃ device, start C req now = .enroll device ∧
      shared.database.enrollDevice req.enrollmentToken.tokenId now device = .error e := by
  unfold enrollmentError at h
  split at h
  · rename_i device hdevice
    split at h
    · rename_i herror
      obtain rfl := Option.some.inj h
      exact ⟨device, hdevice, herror⟩
    · cases h
  · cases h

/-- If no two requests lead to the same identifier, no enrollment meets a device that is there. -/
theorem noDuplicate_of_distinct (inputs : List Input)
    (hdistinct : (inputs.filterMap Input.req).Pairwise fun r s =>
      ∀ id, ¬(Derives r.enrollmentToken id ∧ Derives s.enrollmentToken id))
    (before : List Input) (req : DeviceRegistrationRequest) (now : UInt64)
    (hbefore : before ++ [Input.request req now] <+: inputs) (e : EnrollmentError)
    (h : enrollmentError C (Mealy.after (step C) initial before) req now = some e) : ¬Duplicate e := by
  intro hduplicate
  obtain ⟨device, hdevice, herror⟩ := enrollmentError_eq_some C _ req now e h
  obtain ⟨-, hissue⟩ := start_enroll C req now device hdevice
  obtain ⟨hid, -⟩ := issue_enroll C req now device hissue
  have hempty : Known initial.database [] := by
    intro id hid
    simp [initial, AuditRecording.opened, Database.empty] at hid
  have hknown := after_known C initial before [] hempty
  obtain ⟨r, hr, htext⟩ := hknown _ (enrollDevice_duplicate _ _ _ device e herror hduplicate)
  obtain ⟨rest, rfl⟩ := hbefore
  rw [List.append_assoc, List.filterMap_append, List.pairwise_append] at hdistinct
  exact hdistinct.2.2 r hr req (by simp [Input.req]) device.credential.deviceId ⟨htext, hid⟩

/-- In a legitimate run the devices get fresh identifiers exactly if the token identifiers have
character boundaries and tell the requests apart within their first eight bytes. -/
theorem fresh_iff (inputs : List Input) (h : Legitimate C inputs) :
    Fresh C inputs ↔ Separated (inputs.filterMap Input.req) := by
  constructor
  · intro hfresh
    refine ⟨(trace_panicked C initial inputs h.genuine).mp hfresh.noPanic, ?_⟩
    exact hfresh.distinct.imp fun hrs => (derives_disjoint_iff _ _).mp hrs
  · intro hseparated
    have hdistinct := hseparated.different.imp fun hrs => (derives_disjoint_iff _ _).mpr hrs
    exact ⟨(trace_panicked C initial inputs h.genuine).mpr hseparated.boundary, hdistinct,
      noDuplicate_of_distinct C inputs hdistinct⟩

/-! ## Some tokens, each for one host -/

/-- The tokens are stored, and then each of them is used. -/
def hosts (tokenIds : List String) : List Input :=
  tokenIds.map (fun id => .store (signedToken id 1)) ++
    tokenIds.map fun id => .request (registration id 1) 2000

theorem hosts_token (tokenIds : List String) :
    (hosts tokenIds).filterMap Input.token = tokenIds.map fun id => signedToken id 1 := by
  simp [hosts, List.filterMap_append, List.filterMap_map, Function.comp_def, Input.token]

theorem hosts_req (tokenIds : List String) :
    (hosts tokenIds).filterMap Input.req = tokenIds.map fun id => registration id 1 := by
  simp [hosts, List.filterMap_append, List.filterMap_map, Function.comp_def, Input.req]

theorem hosts_legitimate (tokenIds : List String) (h : tokenIds.Nodup) :
    Legitimate crates (hosts tokenIds) where
  genuine := by
    intro req now hmem
    obtain ⟨id, -, rfl, rfl⟩ : ∃ id ∈ tokenIds, registration id 1 = req ∧ 2000 = now := by
      simpa [hosts] using hmem
    exact registration_genuine id 1
  storedOnce := by
    rw [hosts_token, List.map_map]
    exact (List.map_id tokenIds).symm ▸ h
  storedBefore := by
    intro before req now hbefore
    -- All the tokens are stored before the first request.
    have hstores : tokenIds.map (fun id => Input.store (signedToken id 1)) <+: before := by
      rcases List.prefix_or_prefix_of_prefix hbefore (List.prefix_append _ _) with hshort | hlong
      · have hmem := hshort.subset (List.mem_append_right before List.mem_cons_self)
        simp at hmem
      · rcases List.prefix_concat_iff.mp hlong with hall | hstores
        · have hmem : Input.request req now ∈ tokenIds.map fun id => Input.store (signedToken id 1) := by
            rw [hall]
            exact List.mem_append_right before List.mem_cons_self
          simp at hmem
        · exact hstores
    have hrequest := hbefore.subset (List.mem_append_right before List.mem_cons_self)
    obtain ⟨id, hid, rfl, -⟩ : ∃ id ∈ tokenIds, registration id 1 = req ∧ 2000 = now := by
      simpa [hosts] using hrequest
    exact List.mem_filterMap.mpr ⟨_, hstores.subset (List.mem_map_of_mem hid), rfl⟩
  uses := by
    intro token
    rw [hosts_req, List.map_map]
    have hnodup : (tokenIds.map fun id => signedToken id 1).Nodup :=
      h.map fun id id' hid => congrArg EnrollmentToken.tokenId hid
    by_cases hmem : token ∈ tokenIds.map fun id => signedToken id 1
    · obtain ⟨id, -, rfl⟩ := List.mem_map.mp hmem
      exact List.nodup_iff_count_le_one.mp hnodup _
    · exact (List.count_eq_zero_of_not_mem hmem).le.trans (Nat.zero_le _)

/-- A token identifier of at most eight bytes begins with itself. -/
theorem begins_short (token : EnrollmentToken) (start : String) (h : token.tokenId.utf8ByteSize ≤ 8) :
    Begins token start ↔ start = token.tokenId := by
  unfold Begins
  rw [min_eq_left h]
  constructor
  · rintro ⟨⟨rest, hrest⟩, hsize⟩
    have hempty : rest.utf8ByteSize = 0 := by
      have hlength := congrArg String.utf8ByteSize hrest
      rw [String.utf8ByteSize_append] at hlength
      omega
    rw [String.utf8ByteSize_eq_zero_iff] at hempty
    rw [hrest, hempty, String.append_empty]
  · rintro rfl
    exact ⟨⟨"", String.append_empty.symm⟩, rfl⟩

theorem hosts_pair (first second : String) :
    (hosts [first, second]).take 3 ++ [.request (registration second 1) 2000] <+: hosts [first, second] := by
  simp [hosts]

/-- The state after the first of two requests. -/
theorem after_first (first second : String) :
    Mealy.after (step crates) initial ((hosts [first, second]).take 3) =
      ((advance ControlGrants.plainState (registration first 1) 2000 {})^[4]
        (issue crates (registration first 1) 2000,
          Mealy.after (step crates) initial ((hosts [first, second]).take 2))).2 := by
  have hsplit : (hosts [first, second]).take 3 =
      (hosts [first, second]).take 2 ++ [.request (registration first 1) 2000] := by simp [hosts]
  rw [hsplit, Mealy.after_concat, step_request,
    enrollDeviceHandler_genuine crates _ 2000 {} _ (registration_genuine first 1)]

/-- Two tokens that begin alike: the second device is refused, because it would get the identifier of
the first one. And a token whose eighth byte is within a character: the call panics. -/
theorem identifiers_collide :
    (Legitimate crates (hosts ["tok-enroll-1", "tok-enroll-2"]) ∧
      enrollmentError crates
          (Mealy.after (step crates) initial ((hosts ["tok-enroll-1", "tok-enroll-2"]).take 3))
          (registration "tok-enroll-2" 1) 2000 = some (.storage (uniqueFailed "devices.id")) ∧
      ¬Fresh crates (hosts ["tok-enroll-1", "tok-enroll-2"])) ∧
    Legitimate crates (hosts ["tok-acmé"]) ∧
      some Phase.panicked ∈ Mealy.trace (step crates) initial (hosts ["tok-acmé"]) := by
  have haccent := hosts_legitimate ["tok-acmé"] (by decide)
  have hsecond : enrollmentError crates
      (Mealy.after (step crates) initial ((hosts ["tok-enroll-1", "tok-enroll-2"]).take 3))
      (registration "tok-enroll-2" 1) 2000 = some (.storage (uniqueFailed "devices.id")) := by
    rw [after_first, enrollmentError, start_genuine _ _ _ (registration_genuine "tok-enroll-2" 1)]
    decide +kernel
  refine ⟨⟨hosts_legitimate _ (by decide), hsecond, ?_⟩, haccent, ?_⟩
  · intro hfresh
    exact hfresh.noDuplicate _ _ 2000 (hosts_pair _ _) _ hsecond (.inl rfl)
  · by_contra hnot
    have hbegins := (trace_panicked crates initial _ haccent.genuine).mp hnot
      (registration "tok-acmé" 1) (by simp [hosts_req])
    rw [← deviceIdStr_isSome] at hbegins
    exact hbegins (by decide +kernel)

/-- Two tokens with short identifiers. -/
theorem fresh_short : Fresh crates (hosts ["acme-1", "acme-2"]) := by
  have hfirst : ∀ start, Begins (signedToken "acme-1" 1) start ↔ start = "acme-1" :=
    fun start => begins_short (signedToken "acme-1" 1) start (by decide)
  have hsecond : ∀ start, Begins (signedToken "acme-2" 1) start ↔ start = "acme-2" :=
    fun start => begins_short (signedToken "acme-2" 1) start (by decide)
  refine (fresh_iff crates _ (hosts_legitimate _ (by decide))).mpr ?_
  rw [hosts_req]
  constructor
  · intro r hr
    simp only [List.map_cons, List.map_nil, List.mem_cons, List.not_mem_nil, or_false] at hr
    rcases hr with rfl | rfl
    · exact ⟨_, (hfirst _).mpr rfl⟩
    · exact ⟨_, (hsecond _).mpr rfl⟩
  · simp only [List.map_cons, List.map_nil, List.pairwise_cons, List.mem_singleton, forall_eq,
      List.not_mem_nil, false_imp_iff, implies_true, List.Pairwise.nil, and_true]
    intro start _ hs ht
    exact absurd (((hfirst start).mp hs).symm.trans ((hsecond start).mp ht)) (by decide)

end DeviceIds
