import NexusRemote.PolicyEngine

/-!
# The decision, declaratively

`Qualifies` says what it takes for a role to authorize a request, and `Explains`
which reason a denial has to give. `evaluate` grants the union of the qualifying
roles and otherwise gives the reason of the first stage that leaves no role.
-/

namespace PolicyDecision

open EntityId IpRange PolicyModel PolicyEngine

/-! ## The declarative account -/

/-- Desktop control is requested while an active session holds it. -/
def ControlConflict (resource : ResourceContext) (action : Action) : Prop :=
  action = .desktopControl ∧ ∃ s ∈ resource.activeSessionsOnDevice,
    s.isActive = true ∧ Action.desktopControl ∈ s.grantedActions

/-- The subject carries the name of the role. -/
def Assigned (engine : Engine) (subject : SubjectContext) (role : Role) : Prop :=
  ∃ name ∈ subject.roles, engine.roles[name]? = some role

/-- The role applies to the device. -/
def Selects (resource : ResourceContext) (role : Role) : Prop :=
  role.deviceLabelSelectors = [] ∨
    ∃ selector ∈ role.deviceLabelSelectors, selector.matches resource.deviceLabels = true

/-- The subject satisfies the role's conditions. -/
structure Satisfies (subject : SubjectContext) (role : Role) : Prop where
  mfa : role.conditions.requireMfa = true → subject.mfaAuthenticated = true
  managed : role.conditions.managedClientDevice = true → subject.clientDeviceManaged = true
  ip : role.conditions.allowedIpRanges = [] ∨ ∃ ip, subject.clientIp = some ip ∧
    ∃ range ∈ role.conditions.allowedIpRanges, ipMatchesRange ip range = true

structure Qualifies (engine : Engine) (subject : SubjectContext) (resource : ResourceContext)
    (action : Action) (role : Role) : Prop where
  assigned : Assigned engine subject role
  permits : action ∈ role.allowedActions
  selects : Selects resource role
  satisfies : Satisfies subject role

/-- The condition that the subject fails first. -/
inductive Fails (subject : SubjectContext) (role : Role) : DenialReason → Prop
  | mfa : role.conditions.requireMfa = true → subject.mfaAuthenticated = false →
      Fails subject role .mfaRequired
  | managed : (role.conditions.requireMfa = true → subject.mfaAuthenticated = true) →
      role.conditions.managedClientDevice = true → subject.clientDeviceManaged = false →
      Fails subject role .managedClientDeviceRequired
  | ip : (role.conditions.requireMfa = true → subject.mfaAuthenticated = true) →
      (role.conditions.managedClientDevice = true → subject.clientDeviceManaged = true) →
      role.conditions.allowedIpRanges ≠ [] →
      (∀ ip, subject.clientIp = some ip → ∀ range ∈ role.conditions.allowedIpRanges,
        ipMatchesRange ip range = false) →
      Fails subject role .ipAddressNotAllowed

/-- The reason that a denial of roles has to give: the first stage that leaves no
role, or the failure of the first role that reaches the conditions. -/
inductive Explains (engine : Engine) (subject : SubjectContext) (resource : ResourceContext)
    (action : Action) : DenialReason → Prop
  | unknown : (∀ role, ¬Assigned engine subject role) →
      Explains engine subject resource action .noMatchingRole
  | action : (∃ role, Assigned engine subject role) →
      (∀ role, Assigned engine subject role → action ∉ role.allowedActions) →
      Explains engine subject resource action .actionNotAllowed
  | device : (∃ role, Assigned engine subject role ∧ action ∈ role.allowedActions) →
      (∀ role, Assigned engine subject role → action ∈ role.allowedActions →
        ¬Selects resource role) →
      Explains engine subject resource action .deviceNotMatched
  | conditions (before after : List String) (name : String) (role : Role) (reason : DenialReason) :
      subject.roles = before ++ name :: after → engine.roles[name]? = some role →
      action ∈ role.allowedActions → Selects resource role →
      (∀ n ∈ before, ∀ r, engine.roles[n]? = some r →
        ¬(action ∈ r.allowedActions ∧ Selects resource r)) →
      Fails subject role reason → Explains engine subject resource action reason

/-! ## The conditions of one role -/

theorem Fails.not_satisfies {subject : SubjectContext} {role : Role} {reason : DenialReason}
    (h : Fails subject role reason) : ¬Satisfies subject role := by
  intro hs
  cases h with
  | mfa hreq hno => simp [hs.mfa hreq] at hno
  | managed _ hreq hno => simp [hs.managed hreq] at hno
  | ip _ _ hne hnone =>
    rcases hs.ip with hnil | ⟨ip, hip, range, hrange, hmatch⟩
    · exact hne hnil
    · rw [hnone ip hip range hrange] at hmatch
      cases hmatch

/-- The address condition is the last one to be checked. -/
theorem abac_ip (role : Role) (subject : SubjectContext)
    (hmfa : role.conditions.requireMfa = true → subject.mfaAuthenticated = true)
    (hmanaged : role.conditions.managedClientDevice = true → subject.clientDeviceManaged = true) :
    (evaluateRoleAbac role subject = .ok () ∧ Satisfies subject role) ∨
      (evaluateRoleAbac role subject = .error .ipAddressNotAllowed ∧
        Fails subject role .ipAddressNotAllowed) := by
  have h₁ : (role.conditions.requireMfa && !subject.mfaAuthenticated) = false := by
    cases hr : role.conditions.requireMfa
    · rfl
    · simp [hmfa hr]
  have h₂ : (role.conditions.managedClientDevice && !subject.clientDeviceManaged) = false := by
    cases hr : role.conditions.managedClientDevice
    · rfl
    · simp [hmanaged hr]
  simp only [evaluateRoleAbac, h₁, h₂, Bool.false_eq_true, ↓reduceIte]
  by_cases hnil : role.conditions.allowedIpRanges = []
  · exact .inl ⟨by simp [hnil], hmfa, hmanaged, .inl hnil⟩
  · have hempty : (!role.conditions.allowedIpRanges.isEmpty) = true := by simp [hnil]
    rw [if_pos hempty]
    cases hip : subject.clientIp with
    | none => exact .inr ⟨rfl, .ip hmfa hmanaged hnil (by simp [hip])⟩
    | some ip =>
      by_cases hany : (role.conditions.allowedIpRanges.any fun range => ipMatchesRange ip range) = true
      · obtain ⟨range, hrange, hmatch⟩ := List.any_eq_true.mp hany
        exact .inl ⟨by simp only [if_pos hany], hmfa, hmanaged,
          .inr ⟨ip, hip, range, hrange, hmatch⟩⟩
      · refine .inr ⟨by simp only [if_neg hany], .ip hmfa hmanaged hnil ?_⟩
        intro ip' hip' range hrange
        rw [hip, Option.some.injEq] at hip'
        subst hip'
        by_contra hmatch
        exact hany (List.any_eq_true.mpr ⟨range, hrange, by simpa using hmatch⟩)

/-- The conditions pass or the first failing one is reported. -/
theorem abac_cases (role : Role) (subject : SubjectContext) :
    (evaluateRoleAbac role subject = .ok () ∧ Satisfies subject role) ∨
      ∃ reason, evaluateRoleAbac role subject = .error reason ∧ Fails subject role reason := by
  by_cases hmfa : role.conditions.requireMfa = true → subject.mfaAuthenticated = true
  · by_cases hmanaged :
      role.conditions.managedClientDevice = true → subject.clientDeviceManaged = true
    · rcases abac_ip role subject hmfa hmanaged with h | h
      · exact .inl h
      · exact .inr ⟨_, h⟩
    · push Not at hmanaged
      obtain ⟨hreq, hno⟩ := hmanaged
      simp only [ne_eq, Bool.not_eq_true] at hno
      refine .inr ⟨.managedClientDeviceRequired, ?_, .managed hmfa hreq hno⟩
      cases hr : role.conditions.requireMfa
      · simp [evaluateRoleAbac, hr, hreq, hno]
      · simp [evaluateRoleAbac, hmfa hr, hreq, hno]
  · push Not at hmfa
    obtain ⟨hreq, hno⟩ := hmfa
    simp only [ne_eq, Bool.not_eq_true] at hno
    exact .inr ⟨.mfaRequired, by simp [evaluateRoleAbac, hreq, hno], .mfa hreq hno⟩

/-! ## The stages -/

/-- The role passes its conditions. -/
def passes (subject : SubjectContext) (role : Role) : Bool :=
  match evaluateRoleAbac role subject with
  | .ok () => true
  | .error _ => false

def failure (subject : SubjectContext) (role : Role) : Option DenialReason :=
  match evaluateRoleAbac role subject with
  | .ok () => none
  | .error reason => some reason

theorem passes_iff (subject : SubjectContext) (role : Role) :
    passes subject role = true ↔ Satisfies subject role := by
  rcases abac_cases role subject with ⟨hok, hs⟩ | ⟨reason, herr, hf⟩
  · simp [passes, hok, hs]
  · simp [passes, herr, hf.not_satisfies]

theorem failure_fails (subject : SubjectContext) (role : Role) (h : passes subject role = false) :
    ∃ reason, failure subject role = some reason ∧ Fails subject role reason := by
  rcases abac_cases role subject with ⟨hok, hs⟩ | ⟨reason, herr, hf⟩
  · simp [passes, hok] at h
  · exact ⟨reason, by simp [failure, herr], hf⟩

/-- The loop keeps the roles that pass and remembers the first failure. -/
theorem abacStage_eq (subject : SubjectContext) (roles : List Role) :
    abacStage subject roles =
      (roles.filter (passes subject), roles.findSome? (failure subject)) := by
  have hloop : ∀ (roles : List Role) (acc : List Role × Option DenialReason),
      roles.foldl (abacStep subject) acc =
        (acc.1 ++ roles.filter (passes subject), acc.2.or (roles.findSome? (failure subject))) := by
    intro roles
    induction roles with
    | nil => simp
    | cons role roles ih =>
      intro acc
      rw [List.foldl_cons, ih]
      cases hr : evaluateRoleAbac role subject with
      | ok u => simp [abacStep, hr, passes, failure]
      | error reason => cases hacc : acc.2 <;> simp [abacStep, hr, passes, failure, hacc]
  rw [abacStage, hloop]
  simp

/-- The roles that reach the conditions. -/
def candidates (engine : Engine) (subject : SubjectContext) (resource : ResourceContext)
    (action : Action) : List Role :=
  ((engine.assignedRoles subject).filter (·.allowsAction action)).filter
    (·.matchesDevice resource.deviceLabels)

/-- The roles that pass every stage. -/
def matchingRoles (engine : Engine) (subject : SubjectContext) (resource : ResourceContext)
    (action : Action) : List Role :=
  (candidates engine subject resource action).filter (passes subject)

theorem mem_assignedRoles (engine : Engine) (subject : SubjectContext) (role : Role) :
    role ∈ engine.assignedRoles subject ↔ Assigned engine subject role := by
  simp [Engine.assignedRoles, Assigned]

theorem selects_iff (resource : ResourceContext) (role : Role) :
    role.matchesDevice resource.deviceLabels = true ↔ Selects resource role :=
  role.matchesDevice_iff resource.deviceLabels

theorem mem_candidates (engine : Engine) (subject : SubjectContext) (resource : ResourceContext)
    (action : Action) (role : Role) :
    role ∈ candidates engine subject resource action ↔
      Assigned engine subject role ∧ action ∈ role.allowedActions ∧ Selects resource role := by
  simp only [candidates, List.mem_filter, mem_assignedRoles, selects_iff, Role.allowsAction,
    decide_eq_true_eq, and_assoc]

theorem mem_matchingRoles (engine : Engine) (subject : SubjectContext) (resource : ResourceContext)
    (action : Action) (role : Role) :
    role ∈ matchingRoles engine subject resource action ↔
      Qualifies engine subject resource action role := by
  simp only [matchingRoles, List.mem_filter, mem_candidates, passes_iff]
  constructor
  · rintro ⟨⟨ha, hp, hd⟩, hs⟩
    exact ⟨ha, hp, hd, hs⟩
  · intro h
    exact ⟨⟨h.assigned, h.permits, h.selects⟩, h.satisfies⟩

/-- The candidate that a role name stands for, if it does. -/
def candidateNamed (engine : Engine) (resource : ResourceContext) (action : Action)
    (name : String) : Option Role :=
  ((engine.roles[name]?).filter (·.allowsAction action)).filter
    (·.matchesDevice resource.deviceLabels)

theorem candidates_eq (engine : Engine) (subject : SubjectContext) (resource : ResourceContext)
    (action : Action) :
    candidates engine subject resource action =
      subject.roles.filterMap (candidateNamed engine resource action) := by
  rw [candidates, Engine.assignedRoles, List.filter_filterMap, List.filter_filterMap]
  rfl

theorem candidateNamed_some (engine : Engine) (resource : ResourceContext) (action : Action)
    (name : String) (role : Role) :
    candidateNamed engine resource action name = some role ↔
      engine.roles[name]? = some role ∧ action ∈ role.allowedActions ∧ Selects resource role := by
  simp only [candidateNamed, Option.filter_eq_some_iff, selects_iff, Role.allowsAction,
    decide_eq_true_eq, and_assoc]

/-- The first candidate stands behind names that give no candidate. -/
theorem candidates_head (engine : Engine) (subject : SubjectContext) (resource : ResourceContext)
    (action : Action) (role : Role) (rest : List Role)
    (h : candidates engine subject resource action = role :: rest) :
    ∃ before name after, subject.roles = before ++ name :: after ∧
      engine.roles[name]? = some role ∧ action ∈ role.allowedActions ∧ Selects resource role ∧
      ∀ n ∈ before, ∀ r, engine.roles[n]? = some r →
        ¬(action ∈ r.allowedActions ∧ Selects resource r) := by
  rw [candidates_eq, List.filterMap_eq_cons_iff] at h
  obtain ⟨before, name, after, hsplit, hbefore, hname, -⟩ := h
  obtain ⟨hlookup, hact, hsel⟩ := (candidateNamed_some engine resource action name role).mp hname
  refine ⟨before, name, after, hsplit, hlookup, hact, hsel, ?_⟩
  intro n hn r hr hcand
  have hsome := (candidateNamed_some engine resource action n r).mpr ⟨hr, hcand⟩
  rw [hbefore n hn] at hsome
  cases hsome

/-- With candidates left, the conditions decide. -/
theorem evaluateRoles_conditions (engine : Engine) (subject : SubjectContext)
    (resource : ResourceContext) (action : Action)
    (h : candidates engine subject resource action ≠ []) :
    engine.evaluateRoles subject resource action =
      if (matchingRoles engine subject resource action).isEmpty then
        .denied (((candidates engine subject resource action).findSome?
          (failure subject)).getD .noMatchingRole)
      else grant (matchingRoles engine subject resource action) := by
  have h₂ : (engine.assignedRoles subject).filter (·.allowsAction action) ≠ [] := by
    intro hnil
    exact h (by rw [candidates, hnil]; rfl)
  have h₁ : engine.assignedRoles subject ≠ [] := by
    intro hnil
    exact h₂ (by rw [hnil]; rfl)
  simp only [Engine.evaluateRoles, List.isEmpty_iff, h₁, h₂, if_false, abacStage_eq]
  rw [candidates] at h
  rw [if_neg h]
  rfl

/-- If no candidate passes its conditions, the first one gives the reason. -/
theorem first_failure_explains (engine : Engine) (subject : SubjectContext)
    (resource : ResourceContext) (action : Action)
    (h : candidates engine subject resource action ≠ [])
    (hnone : matchingRoles engine subject resource action = []) :
    ∃ reason, (candidates engine subject resource action).findSome? (failure subject) =
        some reason ∧ Explains engine subject resource action reason := by
  obtain ⟨role, rest, hcand⟩ := List.exists_cons_of_ne_nil h
  have hfail : passes subject role = false := by
    rw [matchingRoles, hcand, List.filter_eq_nil_iff] at hnone
    simpa using hnone role (by simp)
  obtain ⟨reason, hreason, hfails⟩ := failure_fails subject role hfail
  obtain ⟨before, name, after, hsplit, hlookup, hact, hsel, hfirst⟩ :=
    candidates_head engine subject resource action role rest hcand
  refine ⟨reason, ?_, .conditions before after name role reason hsplit hlookup hact hsel hfirst
    hfails⟩
  rw [hcand, List.findSome?_cons_of_isSome (by simp [hreason]), hreason]

/-- Without candidates, the first stage that leaves no role gives the reason. -/
theorem evaluateRoles_no_candidate (engine : Engine) (subject : SubjectContext)
    (resource : ResourceContext) (action : Action)
    (h : candidates engine subject resource action = []) :
    ∃ reason, engine.evaluateRoles subject resource action = .denied reason ∧
      Explains engine subject resource action reason := by
  by_cases h₁ : engine.assignedRoles subject = []
  · refine ⟨.noMatchingRole, by simp [Engine.evaluateRoles, h₁], .unknown ?_⟩
    intro role hrole
    rw [← mem_assignedRoles, h₁] at hrole
    cases hrole
  · obtain ⟨role₁, hrole₁⟩ := List.exists_mem_of_ne_nil _ h₁
    rw [mem_assignedRoles] at hrole₁
    by_cases h₂ : (engine.assignedRoles subject).filter (·.allowsAction action) = []
    · refine ⟨.actionNotAllowed, by simp [Engine.evaluateRoles, h₁, h₂], .action ⟨role₁, hrole₁⟩ ?_⟩
      intro role hrole hact
      rw [List.filter_eq_nil_iff] at h₂
      exact h₂ role ((mem_assignedRoles engine subject role).mpr hrole)
        (by simpa [Role.allowsAction] using hact)
    · obtain ⟨role₂, hrole₂⟩ := List.exists_mem_of_ne_nil _ h₂
      rw [List.mem_filter, mem_assignedRoles, Role.allowsAction, decide_eq_true_eq] at hrole₂
      refine ⟨.deviceNotMatched, ?_, .device ⟨role₂, hrole₂⟩ ?_⟩
      · rw [candidates] at h
        simp [Engine.evaluateRoles, h₁, h₂, h]
      · intro role hrole hact hsel
        have hmem := (mem_candidates engine subject resource action role).mpr ⟨hrole, hact, hsel⟩
        rw [h] at hmem
        cases hmem

/-- The stages either leave matching roles, which are granted, or give the reason. -/
theorem evaluateRoles_cases (engine : Engine) (subject : SubjectContext)
    (resource : ResourceContext) (action : Action) :
    (matchingRoles engine subject resource action ≠ [] ∧
      engine.evaluateRoles subject resource action =
        grant (matchingRoles engine subject resource action)) ∨
    (matchingRoles engine subject resource action = [] ∧
      ∃ reason, engine.evaluateRoles subject resource action = .denied reason ∧
        Explains engine subject resource action reason) := by
  by_cases hcand : candidates engine subject resource action = []
  · exact .inr ⟨by simp [matchingRoles, hcand],
      evaluateRoles_no_candidate engine subject resource action hcand⟩
  · have heval := evaluateRoles_conditions engine subject resource action hcand
    by_cases hmatch : matchingRoles engine subject resource action = []
    · obtain ⟨reason, hreason, hexplains⟩ :=
        first_failure_explains engine subject resource action hcand hmatch
      refine .inr ⟨hmatch, reason, ?_, hexplains⟩
      rw [heval, if_pos (by simp [hmatch]), hreason]
      rfl
    · exact .inl ⟨hmatch, by rw [heval, if_neg (by simpa using hmatch)]⟩

/-! ## What is granted -/

/-- A grant allows exactly the union of the roles' actions. -/
theorem grant_allowed (roles : List Role) :
    ∃ granted restrictions names, grant roles = .allowed granted restrictions names ∧
      ∀ a, a ∈ granted ↔ ∃ role ∈ roles, a ∈ role.allowedActions := by
  have hunion : ∀ (roles : List Role) (acc : ActionSet) (a : Action),
      a ∈ roles.foldl (fun acc role => acc ∪ role.allowedActions) acc ↔
        a ∈ acc ∨ ∃ role ∈ roles, a ∈ role.allowedActions := by
    intro roles
    induction roles with
    | nil => simp
    | cons role roles ih =>
      intro acc a
      simp [ih, or_assoc]
  match roles with
  | [role] => exact ⟨_, _, _, rfl, by simp⟩
  | [] => exact ⟨_, _, _, rfl, by simp⟩
  | role₁ :: role₂ :: roles =>
    refine ⟨_, _, _, rfl, ?_⟩
    intro a
    rw [hunion]
    simp

theorem controlHolder_none (resource : ResourceContext)
    (h : ¬ControlConflict resource .desktopControl) : controlHolder resource = none := by
  rw [controlHolder, List.find?_eq_none]
  intro s hs hholds
  simp only [Bool.and_eq_true, decide_eq_true_eq] at hholds
  exact h ⟨rfl, s, hs, hholds⟩

/-- Without a conflict the decision is the one of the role stages. -/
theorem evaluate_eq (engine : Engine) (subject : SubjectContext) (resource : ResourceContext)
    (action : Action) (h : ¬ControlConflict resource action) :
    engine.evaluate subject resource action = engine.evaluateRoles subject resource action := by
  unfold Engine.evaluate
  split
  · rename_i hcontrol
    subst hcontrol
    rw [controlHolder_none resource h]
  · rfl

/-- The policy decision is exactly the role and condition specification. -/
theorem evaluate_exact (engine : Engine) (subject : SubjectContext) (resource : ResourceContext)
    (action : Action) (hconflict : ¬ControlConflict resource action) :
    ((engine.evaluate subject resource action).isAllowed = true ↔
      ∃ role, Qualifies engine subject resource action role) ∧
    (∀ granted restrictions names,
      engine.evaluate subject resource action = .allowed granted restrictions names →
        action ∈ granted ∧ ∀ a, a ∈ granted ↔
          ∃ role, Qualifies engine subject resource action role ∧ a ∈ role.allowedActions) ∧
    ∀ reason, engine.evaluate subject resource action = .denied reason →
      Explains engine subject resource action reason := by
  rw [evaluate_eq engine subject resource action hconflict]
  rcases evaluateRoles_cases engine subject resource action with
    ⟨hne, heval⟩ | ⟨hnil, reason, heval, hexplains⟩
  · obtain ⟨granted, restrictions, names, hgrant, hunion⟩ :=
      grant_allowed (matchingRoles engine subject resource action)
    obtain ⟨role, hrole⟩ := List.exists_mem_of_ne_nil _ hne
    rw [mem_matchingRoles] at hrole
    simp only [mem_matchingRoles] at hunion
    rw [heval, hgrant]
    refine ⟨⟨fun _ => ⟨role, hrole⟩, fun _ => rfl⟩, ?_, by simp⟩
    intro granted' restrictions' names' h
    obtain ⟨rfl, -, -⟩ := EvaluationDecision.allowed.inj h
    exact ⟨(hunion action).mpr ⟨role, hrole, hrole.permits⟩, hunion⟩
  · have hnone : ¬∃ role, Qualifies engine subject resource action role := by
      rintro ⟨role, hrole⟩
      rw [← mem_matchingRoles, hnil] at hrole
      cases hrole
    rw [heval]
    refine ⟨⟨fun h => (by cases h), fun h => absurd h hnone⟩, by simp, ?_⟩
    intro reason' h
    rw [← EvaluationDecision.denied.inj h]
    exact hexplains

/-- A subject without a second factor: the stricter role drops out and the other
one authorizes the request. -/
theorem evaluate_exact_two_roles :
    let engine := Engine.new
      [(Role.new "viewer").withActions [.desktopView],
        ((Role.new "admin").withActions [.desktopView, .desktopControl]).withConditions
          { PolicyConditions.default with requireMfa := true }]
    let subject : SubjectContext :=
      ⟨⟨"usr-alice", by decide⟩, ["admin", "viewer"], false, false, none⟩
    let resource : ResourceContext := ⟨⟨"dev-prod-1", by decide⟩, ∅, []⟩
    engine.evaluate subject resource .desktopView =
        .allowed {.desktopView} ⟨true, true, true, 3600, none⟩ "viewer" ∧
      ∃ role, Qualifies engine subject resource .desktopView role := by
  intro engine subject resource
  have heval : engine.evaluate subject resource .desktopView =
      .allowed {.desktopView} ⟨true, true, true, 3600, none⟩ "viewer" := by decide +kernel
  have hexact := evaluate_exact engine subject resource .desktopView (by
    rintro ⟨h, -⟩
    cases h)
  exact ⟨heval, hexact.1.mp (by rw [heval]; rfl)⟩

end PolicyDecision
