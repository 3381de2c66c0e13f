import NexusRemote.PolicyDecision

/-!
# What a decision hands out

Two questions about the decision as a whole: whether it can hand out desktop
control while another session holds it, and what the merge of several roles
permits.
-/

namespace PolicyGrants

open EntityId IpRange PolicyModel PolicyEngine PolicyDecision

/-! ## Control exclusivity -/

/-- An active session on the device holds desktop control. -/
def HasControlHolder (resource : ResourceContext) : Prop :=
  ∃ s ∈ resource.activeSessionsOnDevice, s.isActive = true ∧ Action.desktopControl ∈ s.grantedActions

/-- The decision hands out desktop control. -/
def GrantsControl (decision : EvaluationDecision) : Prop :=
  ∃ granted restrictions names, decision = .allowed granted restrictions names ∧
    Action.desktopControl ∈ granted

theorem evaluate_conflict (engine : Engine) (subject : SubjectContext) (resource : ResourceContext)
    (h : HasControlHolder resource) :
    ∃ reason, engine.evaluate subject resource .desktopControl = .denied reason := by
  obtain ⟨s, hs, hholds⟩ := h
  cases hholder : controlHolder resource with
  | none =>
    rw [controlHolder, List.find?_eq_none] at hholder
    exact absurd (by simpa using hholds) (hholder s hs)
  | some session =>
    exact ⟨.concurrentControlConflict session.sessionId, by simp [Engine.evaluate, hholder]⟩

/-- Away from a conflict, control comes from a qualifying role that allows it. -/
theorem grantsControl_iff (engine : Engine) (subject : SubjectContext) (resource : ResourceContext)
    (action : Action) (h : ¬ControlConflict resource action) :
    GrantsControl (engine.evaluate subject resource action) ↔
      ∃ role, Qualifies engine subject resource action role ∧
        Action.desktopControl ∈ role.allowedActions := by
  rw [evaluate_eq engine subject resource action h]
  rcases evaluateRoles_cases engine subject resource action with
    ⟨-, heval⟩ | ⟨hnil, reason, heval, -⟩
  · obtain ⟨granted, restrictions, names, hgrant, hunion⟩ :=
      grant_allowed (matchingRoles engine subject resource action)
    simp only [mem_matchingRoles] at hunion
    rw [heval, hgrant, ← hunion]
    constructor
    · rintro ⟨granted', restrictions', names', heq, hmem⟩
      obtain ⟨rfl, -, -⟩ := EvaluationDecision.allowed.inj heq
      exact hmem
    · intro hmem
      exact ⟨_, _, _, rfl, hmem⟩
  · rw [heval]
    constructor
    · rintro ⟨_, _, _, heq, -⟩
      cases heq
    · rintro ⟨role, hrole, -⟩
      rw [← mem_matchingRoles, hnil] at hrole
      cases hrole

/-- When `evaluate` keeps desktop control exclusive: nobody holds it, it was
asked for by name, or no role that qualifies for the requested action allows it. -/
theorem control_exclusive_iff (engine : Engine) (subject : SubjectContext)
    (resource : ResourceContext) (action : Action) :
    (HasControlHolder resource → ¬GrantsControl (engine.evaluate subject resource action)) ↔
      (¬HasControlHolder resource ∨ action = .desktopControl ∨
        ∀ role, Qualifies engine subject resource action role →
          Action.desktopControl ∉ role.allowedActions) := by
  by_cases hholder : HasControlHolder resource
  · by_cases hcontrol : action = .desktopControl
    · subst hcontrol
      obtain ⟨reason, hdenied⟩ := evaluate_conflict engine subject resource hholder
      rw [hdenied]
      simp [GrantsControl]
    · have hgrants := grantsControl_iff engine subject resource action fun h => hcontrol h.1
      rw [hgrants]
      simp [hholder, hcontrol]
  · simp [hholder]

/-- A view request hands out the control that another session holds. -/
theorem view_request_grants_control :
    let engine := Engine.new [(Role.new "admin").withActions [.desktopView, .desktopControl]]
    let subject : SubjectContext := ⟨⟨"usr-bob", by decide⟩, ["admin"], false, false, none⟩
    let device : DeviceId := ⟨"dev-target", by decide⟩
    let resource : ResourceContext := ⟨device, ∅,
      [⟨⟨"sess-active-control", by decide⟩, device, {.desktopView, .desktopControl}, true⟩]⟩
    HasControlHolder resource ∧
      GrantsControl (engine.evaluate subject resource .desktopView) := by
  intro engine subject device resource
  have heval : engine.evaluate subject resource .desktopView =
      .allowed {.desktopView, .desktopControl} ⟨true, true, true, 3600, none⟩ "admin" := by
    decide +kernel
  exact ⟨⟨_, List.mem_singleton_self _, rfl, by decide⟩, _, _, _, heval, by decide⟩

/-! ## The merge of several roles -/

/-- The flag that governs an action, if one does. -/
def flagFor (clipboard fileTransfer audio : Bool) : Action → Bool
  | .clipboardRead | .clipboardWrite => clipboard
  | .fileUpload | .fileDownload => fileTransfer
  | .audioListen | .audioSend => audio
  | _ => true

/-- The grant permits an action at a resolution for a duration. -/
def Permits (actions : ActionSet) (r : SessionRestrictions) (a : Action) (w h t : Nat) : Prop :=
  a ∈ actions ∧ flagFor r.clipboardEnabled r.fileTransferEnabled r.audioEnabled a = true ∧
    (∀ limit, r.maxResolution = some limit → w ≤ limit.1.toNat ∧ h ≤ limit.2.toNat) ∧
    t ≤ r.maxDurationSeconds.toNat

/-- The role's own duration, with the default for an absent one. -/
def duration (role : Role) : Nat :=
  (role.conditions.maxDurationSeconds.getD defaultMaxDurationSeconds).toNat

def roleFlag (role : Role) (a : Action) : Bool :=
  flagFor role.conditions.clipboardEnabled role.conditions.fileTransferEnabled
    role.conditions.audioEnabled a

/-- What one role permits on its own, with each configured dimension a limit. -/
def RolePermits (role : Role) (a : Action) (w h t : Nat) : Prop :=
  a ∈ role.allowedActions ∧ roleFlag role a = true ∧
    (∀ limit, role.conditions.maxResolutionWidth = some limit → w ≤ limit.toNat) ∧
    (∀ limit, role.conditions.maxResolutionHeight = some limit → h ≤ limit.toNat) ∧
    t ≤ duration role

/-- The largest of some values, read through a map to numbers. -/
theorem le_max?_iff {α : Type} [Max α] (f : α → Nat) (hf : ∀ a b, f (max a b) = max (f a) (f b))
    (xs : List α) (m : α) (h : xs.max? = some m) (t : Nat) : t ≤ f m ↔ ∃ x ∈ xs, t ≤ f x := by
  cases xs with
  | nil => cases h
  | cons x xs =>
    rw [List.max?_cons', Option.some.injEq] at h
    subst h
    induction xs generalizing x with
    | nil => simp
    | cons y ys ih =>
      rw [List.foldl_cons, ih (max x y)]
      simp only [List.mem_cons, exists_eq_or_imp, hf, le_max_iff, or_assoc]

theorem max?_isSome_of_ne_nil {α : Type} [Max α] (xs : List α) (h : xs ≠ []) :
    ∃ m, xs.max? = some m := by
  obtain ⟨x, xs, rfl⟩ := List.exists_cons_of_ne_nil h
  exact ⟨_, List.max?_cons'⟩

/-- A single role is merged with itself. -/
theorem merged_single (role : Role) :
    mergedRestrictions [role] =
      SessionRestrictions.fromConditions role.conditions defaultMaxDurationSeconds := by
  cases hw : role.conditions.maxResolutionWidth <;>
    cases hh : role.conditions.maxResolutionHeight <;>
    simp [mergedRestrictions, SessionRestrictions.fromConditions, PolicyConditions.maxResolution,
      hw, hh]

/-- Whatever the number of roles, the restrictions are the merged ones. -/
theorem grant_restrictions (roles : List Role) :
    ∃ granted names, grant roles = .allowed granted (mergedRestrictions roles) names ∧
      ∀ a, a ∈ granted ↔ ∃ role ∈ roles, a ∈ role.allowedActions := by
  obtain ⟨granted, restrictions, names, hgrant, hunion⟩ := grant_allowed roles
  refine ⟨granted, names, ?_, hunion⟩
  match roles with
  | [role] =>
    rw [merged_single]
    obtain ⟨rfl, -, rfl⟩ := EvaluationDecision.allowed.inj hgrant
    rfl
  | [] =>
    obtain ⟨rfl, -, rfl⟩ := EvaluationDecision.allowed.inj hgrant
    rfl
  | role₁ :: role₂ :: roles =>
    obtain ⟨rfl, -, rfl⟩ := EvaluationDecision.allowed.inj hgrant
    rfl

theorem merged_flag (roles : List Role) (a : Action) (hne : roles ≠ []) :
    flagFor (mergedRestrictions roles).clipboardEnabled
        (mergedRestrictions roles).fileTransferEnabled (mergedRestrictions roles).audioEnabled a =
      true ↔ ∃ role ∈ roles, roleFlag role a = true := by
  obtain ⟨role, hrole⟩ := List.exists_mem_of_ne_nil roles hne
  cases a <;>
    simp only [flagFor, roleFlag, mergedRestrictions, List.any_eq_true, and_true, true_iff] <;>
    exact ⟨role, hrole⟩

theorem merged_duration (roles : List Role) (hne : roles ≠ []) (t : Nat) :
    t ≤ (mergedRestrictions roles).maxDurationSeconds.toNat ↔
      ∃ role ∈ roles, t ≤ duration role := by
  obtain ⟨m, hm⟩ := max?_isSome_of_ne_nil
    (roles.map fun r => r.conditions.maxDurationSeconds.getD defaultMaxDurationSeconds)
    (by simpa using hne)
  have hle := le_max?_iff UInt64.toNat (fun a b => UInt64.toNat_max ..) _ m hm t
  simp only [mergedRestrictions, hm, Option.getD_some]
  rw [hle]
  simp [duration]

/-- The merged resolution limit: none as soon as one role has none, otherwise the
widest and the highest limit, from whatever roles they come. -/
theorem merged_resolution (roles : List Role) (hne : roles ≠ []) (w h : Nat) :
    (∀ limit, (mergedRestrictions roles).maxResolution = some limit →
      w ≤ limit.1.toNat ∧ h ≤ limit.2.toNat) ↔
    (∃ role ∈ roles, role.conditions.maxResolution = none) ∨
      ((∃ role ∈ roles, ∃ limit, role.conditions.maxResolutionWidth = some limit ∧
          w ≤ limit.toNat) ∧
        ∃ role ∈ roles, ∃ limit, role.conditions.maxResolutionHeight = some limit ∧
          h ≤ limit.toNat) := by
  by_cases hnone : ∃ role ∈ roles, role.conditions.maxResolution = none
  · have hany : roles.any (·.conditions.maxResolution.isNone) = true := by simpa using hnone
    simp [mergedRestrictions, hany, hnone]
  · have hany : roles.any (·.conditions.maxResolution.isNone) = false := by simpa using hnone
    obtain ⟨role, hrole⟩ := List.exists_mem_of_ne_nil roles hne
    have hboth : role.conditions.maxResolution ≠ none := fun he => hnone ⟨role, hrole, he⟩
    have hwidth : roles.filterMap (·.conditions.maxResolutionWidth) ≠ [] := by
      intro hnil
      have hw := List.filterMap_eq_nil_iff.mp hnil role hrole
      exact hboth (by simp [PolicyConditions.maxResolution, hw])
    have hheight : roles.filterMap (·.conditions.maxResolutionHeight) ≠ [] := by
      intro hnil
      have hh := List.filterMap_eq_nil_iff.mp hnil role hrole
      exact hboth (by simp [PolicyConditions.maxResolution, hh])
    obtain ⟨mw, hmw⟩ := max?_isSome_of_ne_nil _ hwidth
    obtain ⟨mh, hmh⟩ := max?_isSome_of_ne_nil _ hheight
    have hmerged : (mergedRestrictions roles).maxResolution = some (mw, mh) := by
      simp only [mergedRestrictions, hany, Bool.false_eq_true, ↓reduceIte, hmw, hmh]
    have hlew := le_max?_iff UInt32.toNat (fun a b => UInt32.toNat_max ..) _ mw hmw w
    have hleh := le_max?_iff UInt32.toNat (fun a b => UInt32.toNat_max ..) _ mh hmh h
    simp only [hmerged, Option.some.injEq, forall_eq', hlew, hleh, hnone, false_or,
      List.mem_filterMap]
    constructor
    · rintro ⟨⟨x, ⟨r, hr, hx⟩, hle⟩, y, ⟨q, hq, hy⟩, hle'⟩
      exact ⟨⟨r, hr, x, hx, hle⟩, q, hq, y, hy, hle'⟩
    · rintro ⟨⟨r, hr, x, hx, hle⟩, q, hq, y, hy, hle'⟩
      exact ⟨⟨x, ⟨r, hr, hx⟩, hle⟩, y, ⟨q, hq, hy⟩, hle'⟩

theorem evaluate_allowed (engine : Engine) (subject : SubjectContext) (resource : ResourceContext)
    (action : Action) (granted : ActionSet) (restrictions : SessionRestrictions) (names : String)
    (h : engine.evaluate subject resource action = .allowed granted restrictions names) :
    matchingRoles engine subject resource action ≠ [] ∧
      restrictions = mergedRestrictions (matchingRoles engine subject resource action) ∧
      ∀ a, a ∈ granted ↔ ∃ role ∈ matchingRoles engine subject resource action,
        a ∈ role.allowedActions := by
  have hconflict : ¬ControlConflict resource action := by
    rintro ⟨rfl, hholder⟩
    obtain ⟨reason, hdenied⟩ := evaluate_conflict engine subject resource hholder
    rw [hdenied] at h
    cases h
  rw [evaluate_eq engine subject resource action hconflict] at h
  rcases evaluateRoles_cases engine subject resource action with
    ⟨hne, heval⟩ | ⟨-, reason, heval, -⟩
  · obtain ⟨granted', names', hgrant, hunion⟩ :=
      grant_restrictions (matchingRoles engine subject resource action)
    rw [heval, hgrant] at h
    obtain ⟨rfl, rfl, rfl⟩ := EvaluationDecision.allowed.inj h
    exact ⟨hne, rfl, hunion⟩
  · rw [heval] at h
    cases h

/-- What a merged decision permits: every component is permitted by some
qualifying role, and different components may come from different roles. A
resolution limit counts only when both of its dimensions are configured. -/
theorem merged_grant_exact (engine : Engine) (subject : SubjectContext) (resource : ResourceContext)
    (action : Action) (granted : ActionSet) (restrictions : SessionRestrictions) (names : String)
    (heval : engine.evaluate subject resource action = .allowed granted restrictions names)
    (a : Action) (w h t : Nat) :
    Permits granted restrictions a w h t ↔
      (∃ role, Qualifies engine subject resource action role ∧ a ∈ role.allowedActions) ∧
      (∃ role, Qualifies engine subject resource action role ∧ roleFlag role a = true) ∧
      ((∃ role, Qualifies engine subject resource action role ∧
          role.conditions.maxResolution = none) ∨
        ((∃ role, Qualifies engine subject resource action role ∧
            ∃ limit, role.conditions.maxResolutionWidth = some limit ∧ w ≤ limit.toNat) ∧
          ∃ role, Qualifies engine subject resource action role ∧
            ∃ limit, role.conditions.maxResolutionHeight = some limit ∧ h ≤ limit.toNat)) ∧
      ∃ role, Qualifies engine subject resource action role ∧ t ≤ duration role := by
  obtain ⟨hne, rfl, hunion⟩ :=
    evaluate_allowed engine subject resource action granted restrictions names heval
  rw [Permits, hunion, merged_flag _ a hne, merged_resolution _ hne, merged_duration _ hne]
  simp only [mem_matchingRoles]

/-- A role that may stay for long and a role that may control. -/
def longAndControl : Engine :=
  Engine.new
    [((Role.new "long").withActions [.desktopView]).withConditions
        { PolicyConditions.default with maxDurationSeconds := some 7200 },
      ((Role.new "control").withActions [.desktopView, .desktopControl]).withConditions
        { PolicyConditions.default with maxDurationSeconds := some 60 }]

def longAndControlSubject : SubjectContext :=
  ⟨⟨"usr-alice", by decide⟩, ["long", "control"], false, false, none⟩

def plainDevice : ResourceContext := ⟨⟨"dev-prod-1", by decide⟩, ∅, []⟩

/-- Together they permit two hours of control, which neither does. -/
theorem merged_grant_exceeds_roles :
    ∃ granted restrictions names,
      longAndControl.evaluate longAndControlSubject plainDevice .desktopView =
        .allowed granted restrictions names ∧
      Permits granted restrictions .desktopControl 1920 1080 7200 ∧
      ¬∃ role, Qualifies longAndControl longAndControlSubject plainDevice .desktopView role ∧
        RolePermits role .desktopControl 1920 1080 7200 := by
  have heval : longAndControl.evaluate longAndControlSubject plainDevice .desktopView =
      .allowed {.desktopView, .desktopControl} ⟨true, true, true, 7200, none⟩ "long,control" := by
    decide +kernel
  have hroles : (matchingRoles longAndControl longAndControlSubject plainDevice .desktopView).all
      (fun role => decide (Action.desktopControl ∉ role.allowedActions ∨ duration role < 7200)) =
      true := by decide +kernel
  refine ⟨_, _, _, heval, ⟨by decide, rfl, by simp, by decide⟩, ?_⟩
  rintro ⟨role, hrole, hact, -, -, -, hdur⟩
  have hmem := (mem_matchingRoles _ _ _ _ role).mpr hrole
  have hno := List.all_eq_true.mp hroles role hmem
  simp only [decide_eq_true_eq] at hno
  rcases hno with hno | hno
  · exact hno hact
  · omega

/-- The merged decision of the two roles is covered component by component. -/
theorem merged_grant_exact_two_roles :
    ∃ granted restrictions names,
      longAndControl.evaluate longAndControlSubject plainDevice .desktopView =
        .allowed granted restrictions names ∧
      (∃ role, Qualifies longAndControl longAndControlSubject plainDevice .desktopView role ∧
        Action.desktopControl ∈ role.allowedActions) ∧
      ∃ role, Qualifies longAndControl longAndControlSubject plainDevice .desktopView role ∧
        7200 ≤ duration role := by
  have heval : longAndControl.evaluate longAndControlSubject plainDevice .desktopView =
      .allowed {.desktopView, .desktopControl} ⟨true, true, true, 7200, none⟩ "long,control" := by
    decide +kernel
  have hpermits : Permits {.desktopView, .desktopControl} ⟨true, true, true, 7200, none⟩
      .desktopControl 1920 1080 7200 := ⟨by decide, rfl, by simp, by decide⟩
  obtain ⟨hact, -, -, hdur⟩ := (merged_grant_exact _ _ _ _ _ _ _ heval _ _ _ _).mp hpermits
  exact ⟨_, _, _, heval, hact, hdur⟩

end PolicyGrants
