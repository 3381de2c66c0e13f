import NexusRemote.ControlEncoding
import NexusRemote.ControlPlane

/-!
# What the control plane hands out over whole runs

Two consequences of how the handler asks the policy engine: it always asks for
viewing and never shows the sessions that exist, and what it signs is the whole
union of the eligible roles.
-/

namespace ControlGrants

open BigEndian EntityId PolicyModel PolicyEngine PolicyDecision
open ControlStore SessionRequest ControlPlane

variable {state : AppState}

/-! ## Control exclusivity -/

def CarriesControl (c : SessionCapability) : Prop := "desktop.control" ∈ c.permissions

instance : DecidablePred CarriesControl := fun c =>
  inferInstanceAs (Decidable ("desktop.control" ∈ c.permissions))

/-- No two live sessions control the same device. -/
def Exclusive (p : Plane state) : Prop :=
  p.live.Pairwise fun a b =>
    ¬(a.targetDeviceId = b.targetDeviceId ∧ CarriesControl a ∧ CarriesControl b)

instance (p : Plane state) : Decidable (Exclusive p) :=
  inferInstanceAs (Decidable (p.live.Pairwise fun a b =>
    ¬(a.targetDeviceId = b.targetDeviceId ∧ CarriesControl a ∧ CarriesControl b)))

/-- Some role that counts for every session request allows desktop control. -/
def ControlEligible (engine : Engine) : Prop :=
  ∃ role, Eligible engine role ∧ Action.desktopControl ∈ role.allowedActions

/-- If the event answers a request by an authorization, then no eligible role allows
control or no session on the requested device is live. -/
def Uncontested (p : Plane state) (event : Event) : Prop :=
  ∀ payload, Answering p event payload →
    ¬ControlEligible state.policyEngine ∨
      ∀ c ∈ p.live, c.targetDeviceId ≠ payload.targetDeviceId.value

/-- A capability carries control exactly if some eligible role allows it, whatever
was requested. -/
theorem carriesControl_iff {payload : SessionRequestPayload} {issue : Issue state}
    (h : Authorized payload issue) :
    CarriesControl issue.capability ↔ ControlEligible state.policyEngine := by
  rw [CarriesControl, mem_permissions h]
  constructor
  · rintro ⟨role, hrole, a, ha, htext⟩
    obtain rfl : a = .desktopControl := Action.asStr_injective htext
    exact ⟨role, hrole, ha⟩
  · rintro ⟨role, hrole, ha⟩
    exact ⟨role, hrole, _, ha, rfl⟩

/-- The issues belong to their requests and the live capabilities were such issues. -/
structure Inv (p : Plane state) : Prop where
  sound : AllSound p
  live : ∀ c ∈ p.live, CarriesControl c ↔ ControlEligible state.policyEngine

theorem inv_start (shared : Shared) : Inv (Plane.start shared : Plane state) :=
  ⟨by simp [AllSound, Plane.start], by simp [Plane.start]⟩

theorem step_inv (p : Plane state) (event : Event) (h : Inv p) : Inv (step p event).2 := by
  refine ⟨step_allSound p event h.sound, ?_⟩
  intro c hc
  have hlive := step_live p event
  cases hout : (step p event).1 with
  | none =>
    rw [hout] at hlive
    exact h.live c (hlive.subset hc)
  | some out =>
    obtain ⟨payload, issue⟩ := out
    simp only [hout] at hlive
    rw [hlive, List.mem_append, List.mem_singleton] at hc
    rcases hc with hc | rfl
    · exact h.live c hc
    · exact carriesControl_iff (step_authorized p event payload issue h.sound hout)

/-- One event keeps exclusivity exactly if it is uncontested. -/
theorem step_exclusive (p : Plane state) (event : Event) (hinv : Inv p) (h : Exclusive p) :
    Exclusive (step p event).2 ↔ Uncontested p event := by
  have hlive := step_live p event
  simp only [Uncontested, answering_iff]
  cases hout : (step p event).1 with
  | none =>
    rw [hout] at hlive
    exact ⟨fun _ payload hp => by simp at hp, fun _ => h.sublist hlive⟩
  | some out =>
    obtain ⟨payload, issue⟩ := out
    have hauth := step_authorized p event payload issue hinv.sound hout
    simp only [hout] at hlive
    simp only [Option.some.injEq, Prod.mk.injEq, exists_and_left, exists_eq', and_true, forall_eq']
    rw [Exclusive, hlive, List.pairwise_append]
    simp only [List.pairwise_singleton, List.mem_singleton, forall_eq, carriesControl_iff hauth,
      hauth.target, true_and]
    constructor
    · -- All capabilities carry control as soon as one does, so the target alone decides.
      rintro ⟨-, hnew⟩
      by_cases helig : ControlEligible state.policyEngine
      · exact .inr fun c hc htarget => hnew c hc ⟨htarget, (hinv.live c hc).mpr helig, helig⟩
      · exact .inl helig
    · intro hcond
      refine ⟨h, ?_⟩
      rintro c hc ⟨htarget, -, helig⟩
      rcases hcond with hno | hfree
      · exact hno helig
      · exact hfree c hc htarget

/-- Along a run of any requests in any interleaving, desktop control stays exclusive
exactly if every event of the run is uncontested. -/
theorem control_exclusive_run_iff (state : AppState) (shared : Shared) (events : List Event) :
    (∀ before, before <+: events →
      Exclusive (Mealy.after step (Plane.start shared : Plane state) before)) ↔
    ∀ before event, before ++ [event] <+: events →
      Uncontested (Mealy.after step (Plane.start shared : Plane state) before) event :=
  Mealy.always_iff step_inv step_exclusive _ events (inv_start shared)
    (by simp [Exclusive, Plane.start])

/-! ## Two requests for one device -/

def organization : TenantId := ⟨"org-acme", by decide⟩
def host : DeviceId := ⟨"dev-host-01", by decide⟩
def alice : UserId := ⟨"user-alice", by decide⟩

/-- The credential of a host, as the enrollment handler fills it in; the signature is not looked at. -/
def hostCredential (deviceId : DeviceId) (organizationId : TenantId) :
    DeviceCredentials.DeviceCredential where
  deviceId := deviceId
  organizationId := organizationId
  publicKey := List.replicate 32 5
  deviceType := .host
  os := "windows"
  architecture := "x86_64"
  capabilities := ["desktop.view", "desktop.control"]
  issuedAt := 1000
  expiresAt := 31537000
  signature := List.replicate 64 9

/-- A control plane with one enrolled and active device. -/
def enrolledHost : Shared where
  database :=
    { organizations := Std.TreeMap.empty.insert "org-acme" 1000
      enrollmentTokens := ∅
      devices := Std.TreeMap.empty.insert "dev-host-01" ⟨"org-acme", "host", "0.1.0", "active", 1000⟩
      deviceCredentials := Std.TreeMap.empty.insert "dev-host-01" (hostCredential host organization)
      sessions := ∅
      auditEvents := ∅ }
  auditChain := .new none
  auditSink := []

def plainState : AppState := ControlEncoding.deployed (List.Vector.replicate 32 7) "nexusd-primary"

/-- Somebody asks for access to the host. -/
def requestBy (user : UserId) (requestedActions : List String) : SessionRequestPayload where
  organizationId := organization
  subjectUserId := user
  clientDeviceId := ⟨"dev-client-01", by decide⟩
  targetDeviceId := host
  requestedActions := requestedActions
  clientEphemeralPublicKey := List.replicate 32 33

/-- Alice asks for the view of the host. -/
def viewHost : SessionRequestPayload := requestBy alice ["desktop.view"]

/-- A turn without a failure; `n` stands for what it draws. -/
def drawn (n : UInt8) : Inputs := ⟨none, List.Vector.replicate 16 n, List.Vector.replicate 16 n⟩

/-- A call that runs to its end without a failure. -/
def call (index : Nat) (payload : SessionRequestPayload) (n : UInt8) : List Event :=
  .request payload 2000 :: List.replicate 5 (.turn index (drawn n))

/-- Two users ask for control of one device, one after the other, and both get it. -/
theorem second_controller_issued :
    ¬∀ before, before <+: call 0 (requestBy ⟨"user-alice", by decide⟩ ["desktop.control"]) 1 ++
        call 1 (requestBy ⟨"user-bob", by decide⟩ ["desktop.control"]) 2 →
      Exclusive (Mealy.after step (Plane.start enrolledHost : Plane plainState) before) := by
  intro h
  have hlast := h _ (List.prefix_refl _)
  exact absurd hlast (by decide +kernel)

/-! ## Least privilege -/

/-- Everything that a run hands out belongs to the request that it answers. -/
theorem handed_out_authorized (shared : Shared) (events : List Event)
    (payload : SessionRequestPayload) (issue : Issue state)
    (h : some (payload, issue) ∈ Mealy.trace step (Plane.start shared : Plane state) events) :
    Authorized payload issue := by
  have hall := Mealy.trace_always (P := fun out : Option (SessionRequestPayload × Issue state) =>
      ∀ payload issue, out = some (payload, issue) → Authorized payload issue)
    step_allSound (fun p event hp payload issue hout => step_authorized p event payload issue hp hout)
    (Plane.start shared) events (inv_start shared).sound
  exact hall _ h payload issue rfl

/-- What an authorized request receives stays within what it asked for exactly if
every action of every eligible role was asked for. -/
theorem least_privilege_iff (state : AppState) (shared : Shared) (events : List Event)
    (payload : SessionRequestPayload) (issue : Issue state)
    (h : some (payload, issue) ∈ Mealy.trace step (Plane.start shared : Plane state) events) :
    (∀ text ∈ issue.capability.permissions, text ∈ payload.requestedActions) ↔
      ∀ role, Eligible state.policyEngine role →
        ∀ a ∈ role.allowedActions, a.asStr ∈ payload.requestedActions := by
  have hauth := handed_out_authorized shared events payload issue h
  simp only [mem_permissions hauth]
  constructor
  · intro hall role hrole a ha
    exact hall a.asStr ⟨role, hrole, a, ha, rfl⟩
  · rintro hall text ⟨role, hrole, a, ha, rfl⟩
    exact hall role hrole a ha

/-- The request and the permissions that one event of a run hands out. -/
def permissionsAt (state : AppState) (shared : Shared) (events : List Event) (n : Nat) :
    Option (SessionRequestPayload × List String) :=
  ((Mealy.trace step (Plane.start shared : Plane state) events)[n]?.bind id).map fun out =>
    (out.1, out.2.capability.permissions)

theorem exists_issue (state : AppState) (shared : Shared) (events : List Event) (n : Nat)
    (payload : SessionRequestPayload) (permissions : List String)
    (h : permissionsAt state shared events n = some (payload, permissions)) :
    ∃ issue : Issue state,
      some (payload, issue) ∈ Mealy.trace step (Plane.start shared : Plane state) events ∧
        issue.capability.permissions = permissions := by
  obtain ⟨⟨payload', issue⟩, hout, heq⟩ := Option.map_eq_some_iff.mp h
  obtain ⟨out, hget, rfl⟩ := Option.bind_eq_some_iff.mp hout
  obtain ⟨rfl, rfl⟩ := Prod.mk.inj heq
  exact ⟨issue, List.mem_of_getElem? hget, rfl⟩

/-- A user who asks for viewing only is also given control of the device. -/
theorem view_request_receives_control :
    ∃ issue : Issue plainState,
      some (requestBy ⟨"user-alice", by decide⟩ ["desktop.view"], issue) ∈
        Mealy.trace step (Plane.start enrolledHost : Plane plainState)
          (call 0 (requestBy ⟨"user-alice", by decide⟩ ["desktop.view"]) 1) ∧
      ¬∀ text ∈ issue.capability.permissions, text ∈ ["desktop.view"] := by
  obtain ⟨issue, hmem, hperm⟩ := exists_issue plainState enrolledHost
    (call 0 (requestBy ⟨"user-alice", by decide⟩ ["desktop.view"]) 1) 5
    (requestBy ⟨"user-alice", by decide⟩ ["desktop.view"]) (Action.all.map Action.asStr)
    (by decide +kernel)
  refine ⟨issue, hmem, ?_⟩
  rw [hperm]
  decide

/-- A user who asks for every action receives nothing else. -/
theorem least_privilege_all_requested :
    ∃ issue : Issue plainState,
      some (requestBy ⟨"user-alice", by decide⟩ (Action.all.map Action.asStr), issue) ∈
        Mealy.trace step (Plane.start enrolledHost : Plane plainState)
          (call 0 (requestBy ⟨"user-alice", by decide⟩ (Action.all.map Action.asStr)) 1) ∧
      ∀ text ∈ issue.capability.permissions, text ∈ Action.all.map Action.asStr := by
  obtain ⟨issue, hmem, -⟩ := exists_issue plainState enrolledHost
    (call 0 (requestBy ⟨"user-alice", by decide⟩ (Action.all.map Action.asStr)) 1) 5
    (requestBy ⟨"user-alice", by decide⟩ (Action.all.map Action.asStr))
    (Action.all.map Action.asStr) (by decide +kernel)
  refine ⟨issue, hmem, (least_privilege_iff plainState enrolledHost _ _ issue hmem).mpr ?_⟩
  intro role _ a _
  exact List.mem_map_of_mem (Action.mem_all a)

end ControlGrants
