import NexusRemote.PolicyGrants

/-!
# Narrowing (`crates/nexus-policy/src/narrowing.rs`)

A pushed policy update is checked against the actions and restrictions of the
running session. Both pairs have a place in one order: the product of the action
sets, the three flags, the durations and the resolutions, where no limit is the
largest resolution. An update is accepted exactly if it is below the original,
and what several roles grant is the least upper bound of what each of them does.
-/

namespace PolicyNarrowing

open EntityId IpRange PolicyModel PolicyEngine PolicyDecision PolicyGrants

inductive NarrowingError where
  | actionEscalationAttempted (unauthorizedActions : ActionSet)
  | restrictionWidened (reason : String)
  deriving DecidableEq

def validatePolicyNarrowing (originalActions proposedActions : ActionSet)
    (originalRestrictions proposedRestrictions : SessionRestrictions) :
    Except NarrowingError SessionRestrictions :=
  if ¬proposedActions ⊆ originalActions then
    .error (.actionEscalationAttempted (proposedActions \ originalActions))
  else if !originalRestrictions.clipboardEnabled && proposedRestrictions.clipboardEnabled then
    .error (.restrictionWidened "cannot enable clipboard if originally disabled")
  else if !originalRestrictions.fileTransferEnabled && proposedRestrictions.fileTransferEnabled then
    .error (.restrictionWidened "cannot enable file transfer if originally disabled")
  else if !originalRestrictions.audioEnabled && proposedRestrictions.audioEnabled then
    .error (.restrictionWidened "cannot enable audio if originally disabled")
  else if proposedRestrictions.maxDurationSeconds > originalRestrictions.maxDurationSeconds then
    .error (.restrictionWidened "cannot extend max session duration")
  else
    match originalRestrictions.maxResolution with
    | none => .ok proposedRestrictions
    | some (origW, origH) =>
      match proposedRestrictions.maxResolution with
      | none => .error (.restrictionWidened "cannot remove max resolution constraint")
      | some (propW, propH) =>
        if propW > origW ∨ propH > origH then
          .error (.restrictionWidened "cannot increase max resolution width or height")
        else .ok proposedRestrictions

/-! ## The order -/

/-- No limit is above every limit. -/
def resolution (limit : Option (UInt32 × UInt32)) : WithTop (ℕ × ℕ) :=
  match limit with
  | none => ⊤
  | some (w, h) => ((w.toNat, h.toNat) : ℕ × ℕ)

/-- How much a pair of actions and restrictions allows. -/
abbrev Ceiling := Finset Action × (Bool × Bool × Bool) × ℕ × WithTop (ℕ × ℕ)

def ceiling (actions : ActionSet) (r : SessionRestrictions) : Ceiling :=
  (actions, (r.clipboardEnabled, r.fileTransferEnabled, r.audioEnabled),
    r.maxDurationSeconds.toNat, resolution r.maxResolution)

theorem resolution_injective : Function.Injective resolution := by
  intro x y h
  match x, y with
  | none, none => rfl
  | none, some (w, h') => exact absurd h.symm (WithTop.coe_ne_top)
  | some (w, h'), none => exact absurd h (WithTop.coe_ne_top)
  | some (w, h'), some (w', h'') =>
    have hpair := WithTop.coe_inj.mp h
    rw [Prod.mk.injEq, UInt32.toNat_inj, UInt32.toNat_inj] at hpair
    rw [hpair.1, hpair.2]

/-- The ceiling says everything about the pair. -/
theorem ceiling_injective {actions actions' : ActionSet} {r r' : SessionRestrictions}
    (h : ceiling actions r = ceiling actions' r') : actions = actions' ∧ r = r' := by
  simp only [ceiling, Prod.mk.injEq] at h
  obtain ⟨hactions, ⟨hclipboard, hfile, haudio⟩, hduration, hresolution⟩ := h
  refine ⟨hactions, ?_⟩
  cases r
  cases r'
  simp only [SessionRestrictions.mk.injEq]
  exact ⟨hclipboard, hfile, haudio, UInt64.toNat_inj.mp hduration,
    resolution_injective hresolution⟩

theorem flag_le_iff (original proposed : Bool) :
    proposed ≤ original ↔ ¬(!original && proposed) = true := by
  cases original <;> cases proposed <;> decide

theorem resolution_le_iff (original proposed : Option (UInt32 × UInt32)) :
    resolution proposed ≤ resolution original ↔
      ∀ origW origH, original = some (origW, origH) →
        ∃ propW propH, proposed = some (propW, propH) ∧ ¬(propW > origW ∨ propH > origH) := by
  match original, proposed with
  | none, proposed => simp [resolution]
  | some (w, h), none => simp [resolution]
  | some (w, h), some (w', h') =>
    simp [resolution, WithTop.coe_le_coe, UInt32.le_iff_toNat_le]

theorem ceiling_le_iff (originalActions proposedActions : ActionSet)
    (original proposed : SessionRestrictions) :
    ceiling proposedActions proposed ≤ ceiling originalActions original ↔
      proposedActions ⊆ originalActions ∧
      ¬(!original.clipboardEnabled && proposed.clipboardEnabled) = true ∧
      ¬(!original.fileTransferEnabled && proposed.fileTransferEnabled) = true ∧
      ¬(!original.audioEnabled && proposed.audioEnabled) = true ∧
      ¬proposed.maxDurationSeconds > original.maxDurationSeconds ∧
      resolution proposed.maxResolution ≤ resolution original.maxResolution := by
  simp only [ceiling, Prod.mk_le_mk, flag_le_iff, gt_iff_lt, UInt64.not_lt,
    UInt64.le_iff_toNat_le, and_assoc]

/-- An update is accepted exactly if it is below the original, and then it is what comes back. -/
theorem validatePolicyNarrowing_ok_iff (originalActions proposedActions : ActionSet)
    (original proposed result : SessionRestrictions) :
    validatePolicyNarrowing originalActions proposedActions original proposed = .ok result ↔
      result = proposed ∧ ceiling proposedActions proposed ≤ ceiling originalActions original := by
  rw [ceiling_le_iff, resolution_le_iff, validatePolicyNarrowing]
  by_cases hactions : proposedActions ⊆ originalActions
  · rw [if_neg (not_not.mpr hactions)]
    by_cases hclipboard : (!original.clipboardEnabled && proposed.clipboardEnabled) = true
    · simp [hclipboard]
    rw [if_neg hclipboard]
    by_cases hfile : (!original.fileTransferEnabled && proposed.fileTransferEnabled) = true
    · simp [hfile]
    rw [if_neg hfile]
    by_cases haudio : (!original.audioEnabled && proposed.audioEnabled) = true
    · simp [haudio]
    rw [if_neg haudio]
    by_cases hduration : proposed.maxDurationSeconds > original.maxDurationSeconds
    · simp [hduration]
    rw [if_neg hduration]
    simp only [hactions, hclipboard, hfile, haudio, hduration, Bool.false_eq_true,
      not_false_eq_true, true_and]
    match original.maxResolution, proposed.maxResolution with
    | none, _ => simp [eq_comm]
    | some (w, h), none => simp
    | some (w, h), some (w', h') =>
      dsimp only
      by_cases hlimit : w' > w ∨ h' > h
      · rw [if_pos hlimit]
        refine iff_of_false (by intro he; cases he) ?_
        rintro ⟨-, hall⟩
        obtain ⟨w₁, h₁, heq, hle⟩ := hall w h rfl
        cases heq
        exact hle hlimit
      · rw [if_neg hlimit, Except.ok.injEq, eq_comm]
        refine (and_iff_left ?_).symm
        intro w₁ h₁ heq
        cases heq
        exact ⟨w', h', rfl, hlimit⟩
  · simp [hactions]

/-- The update is accepted. -/
def Accepts (original proposed : ActionSet × SessionRestrictions) : Prop :=
  ∃ result, validatePolicyNarrowing original.1 proposed.1 original.2 proposed.2 = .ok result

theorem accepts_iff (original proposed : ActionSet × SessionRestrictions) :
    Accepts original proposed ↔
      ceiling proposed.1 proposed.2 ≤ ceiling original.1 original.2 := by
  simp [Accepts, validatePolicyNarrowing_ok_iff]

/-! ## Pushes -/

/-- The operation is granted and its flag is on. -/
def AllowsOperation (p : ActionSet × SessionRestrictions) (a : Action) : Prop :=
  a ∈ p.1 ∧ flagFor p.2.clipboardEnabled p.2.fileTransferEnabled p.2.audioEnabled a = true

def AllowsResolution (p : ActionSet × SessionRestrictions) (w h : Nat) : Prop :=
  ∀ limit, p.2.maxResolution = some limit → w ≤ limit.1.toNat ∧ h ≤ limit.2.toNat

def AllowsDuration (p : ActionSet × SessionRestrictions) (t : Nat) : Prop :=
  t ≤ p.2.maxDurationSeconds.toNat

theorem allowsResolution_iff (p : ActionSet × SessionRestrictions) (w h : Nat) :
    AllowsResolution p w h ↔ ((w, h) : ℕ × ℕ) ≤ resolution p.2.maxResolution := by
  unfold AllowsResolution
  match p.2.maxResolution with
  | none => simp [resolution]
  | some (w', h') => simp [resolution, WithTop.coe_le_coe]

theorem flagFor_mono {c f s c' f' s' : Bool} (hc : c ≤ c') (hf : f ≤ f') (hs : s ≤ s') (a : Action)
    (h : flagFor c f s a = true) : flagFor c' f' s' a = true := by
  cases a <;> first | exact hc h | exact hf h | exact hs h | rfl

/-- Whatever is below a pair allows no more than it. -/
theorem allows_mono {original proposed : ActionSet × SessionRestrictions}
    (h : ceiling proposed.1 proposed.2 ≤ ceiling original.1 original.2) :
    (∀ a, AllowsOperation proposed a → AllowsOperation original a) ∧
    (∀ w h, AllowsResolution proposed w h → AllowsResolution original w h) ∧
    ∀ t, AllowsDuration proposed t → AllowsDuration original t := by
  obtain ⟨hactions, ⟨hclipboard, hfile, haudio⟩, hduration, hresolution⟩ := h
  refine ⟨?_, ?_, ?_⟩
  · rintro a ⟨hmem, hflag⟩
    exact ⟨hactions hmem, flagFor_mono hclipboard hfile haudio a hflag⟩
  · intro w h hallows
    rw [allowsResolution_iff] at hallows ⊢
    exact hallows.trans hresolution
  · intro t hallows
    exact Nat.le_trans hallows hduration

/-- Accepted updates add up: acceptance is a partial order, the accepted restrictions are those
that were proposed, and nothing is allowed by a proposal that the original does not allow. -/
theorem narrowing_cumulative :
    (∀ (first : ActionSet × SessionRestrictions) (pushes : List (ActionSet × SessionRestrictions)),
      List.IsChain Accepts (first :: pushes) → Accepts first (pushes.getLastD first)) ∧
    (∀ p, Accepts p p) ∧
    (∀ p q, Accepts p q → Accepts q p → p = q) ∧
    (∀ (originalActions proposedActions : ActionSet) (original proposed result : SessionRestrictions),
      validatePolicyNarrowing originalActions proposedActions original proposed = .ok result →
        result = proposed) ∧
    ∀ original proposed, Accepts original proposed →
      (∀ a, AllowsOperation proposed a → AllowsOperation original a) ∧
      (∀ w h, AllowsResolution proposed w h → AllowsResolution original w h) ∧
      ∀ t, AllowsDuration proposed t → AllowsDuration original t := by
  have hrefl : ∀ p, Accepts p p := fun p => (accepts_iff p p).mpr le_rfl
  have htrans : ∀ p q r, Accepts p q → Accepts q r → Accepts p r := by
    intro p q r hpq hqr
    rw [accepts_iff] at hpq hqr ⊢
    exact hqr.trans hpq
  refine ⟨?_, hrefl, ?_, ?_, ?_⟩
  · intro first pushes hchain
    induction pushes generalizing first with
    | nil => exact hrefl first
    | cons push pushes ih =>
      obtain ⟨hfirst, hrest⟩ := List.isChain_cons_cons.mp hchain
      rw [List.getLastD_cons]
      exact htrans _ _ _ hfirst (ih push hrest)
  · intro p q hpq hqp
    rw [accepts_iff] at hpq hqp
    obtain ⟨hactions, hrestrictions⟩ := ceiling_injective (le_antisymm hqp hpq)
    exact Prod.ext hactions hrestrictions
  · intro originalActions proposedActions original proposed result h
    exact ((validatePolicyNarrowing_ok_iff _ _ _ _ _).mp h).1
  · intro original proposed h
    exact allows_mono ((accepts_iff original proposed).mp h)

/-- Control goes first, then the resolution is limited, then the clipboard is closed. -/
theorem narrowing_cumulative_three :
    let first : ActionSet × SessionRestrictions :=
      ({.desktopView, .desktopControl}, ⟨true, true, true, 3600, none⟩)
    let last : ActionSet × SessionRestrictions :=
      ({.desktopView}, ⟨false, true, true, 1800, some (1280, 720)⟩)
    Accepts first last ∧ AllowsResolution first 1280 720 := by
  intro first last
  have hchain : List.IsChain Accepts [first,
      ({.desktopView}, ⟨true, true, true, 3600, some (1920, 1080)⟩), last] :=
    .cons_cons ⟨_, rfl⟩ (.cons_cons ⟨_, rfl⟩ (.singleton _))
  obtain ⟨hlast, -, -, -, hallows⟩ := narrowing_cumulative
  have haccepts := hlast first _ hchain
  refine ⟨haccepts, (hallows first last haccepts).2.1 1280 720 ?_⟩
  intro limit hlimit
  cases hlimit
  decide

/-! ## Roles -/

/-- What the role grants when it is the only one. -/
def roleCeiling (role : Role) : Ceiling :=
  ceiling role.allowedActions
    (SessionRestrictions.fromConditions role.conditions defaultMaxDurationSeconds)

/-- Some value is true exactly if the least upper bound is. -/
theorem isLUB_any (roles : List Role) (flag : Role → Bool) :
    IsLUB (flag '' { role | role ∈ roles }) (roles.any flag) := by
  constructor
  · rintro _ ⟨role, hrole, rfl⟩ htrue
    exact List.any_eq_true.mpr ⟨role, hrole, htrue⟩
  · intro b hb hany
    obtain ⟨role, hrole, htrue⟩ := List.any_eq_true.mp hany
    exact hb ⟨role, hrole, rfl⟩ htrue

theorem isLUB_duration (roles : List Role) (hne : roles ≠ []) :
    IsLUB (duration '' { role | role ∈ roles })
      (mergedRestrictions roles).maxDurationSeconds.toNat := by
  constructor
  · rintro _ ⟨role, hrole, rfl⟩
    exact (merged_duration roles hne _).mpr ⟨role, hrole, le_rfl⟩
  · intro b hb
    obtain ⟨role, hrole, hle⟩ := (merged_duration roles hne _).mp le_rfl
    exact hle.trans (hb ⟨role, hrole, rfl⟩)

/-- A resolution is given by the pairs below it. -/
theorem resolution_le_of_pairs {x y : WithTop (ℕ × ℕ)}
    (h : ∀ p : ℕ × ℕ, (p : WithTop (ℕ × ℕ)) ≤ x → (p : WithTop (ℕ × ℕ)) ≤ y) : x ≤ y := by
  cases x with
  | coe x => exact h x le_rfl
  | top =>
    cases y with
    | top => exact le_rfl
    | coe y =>
      -- Not even the pair that is one wider than `y` is below it.
      have hwider := WithTop.coe_le_coe.mp (h (y.1 + 1, y.2) le_top)
      exact absurd hwider.1 (Nat.not_succ_le_self y.1)

theorem maxResolution_some (c : PolicyConditions) (limit : UInt32 × UInt32) :
    c.maxResolution = some limit ↔
      c.maxResolutionWidth = some limit.1 ∧ c.maxResolutionHeight = some limit.2 := by
  unfold PolicyConditions.maxResolution
  match c.maxResolutionWidth, c.maxResolutionHeight with
  | some w, some h => simp [Prod.ext_iff]
  | some w, none => simp
  | none, _ => simp

/-- The merged limit is the smallest above the limits of all roles. -/
theorem isLUB_resolution (roles : List Role) (hne : roles ≠ []) :
    IsLUB ((fun role : Role => resolution role.conditions.maxResolution) '' { role | role ∈ roles })
      (resolution (mergedRestrictions roles).maxResolution) := by
  have hmerged : ∀ p : ℕ × ℕ,
      (p : WithTop (ℕ × ℕ)) ≤ resolution (mergedRestrictions roles).maxResolution ↔ _ :=
    fun p => (allowsResolution_iff (∅, mergedRestrictions roles) p.1 p.2).symm.trans
      (merged_resolution roles hne p.1 p.2)
  constructor
  · rintro _ ⟨role, hrole, rfl⟩
    apply resolution_le_of_pairs
    intro p hp
    rw [hmerged]
    cases hlimit : role.conditions.maxResolution with
    | none => exact .inl ⟨role, hrole, hlimit⟩
    | some limit =>
      obtain ⟨hwidth, hheight⟩ := (maxResolution_some _ limit).mp hlimit
      simp only [hlimit] at hp
      have hle := WithTop.coe_le_coe.mp hp
      exact .inr ⟨⟨role, hrole, limit.1, hwidth, hle.1⟩, role, hrole, limit.2, hheight, hle.2⟩
  · intro b hb
    apply resolution_le_of_pairs
    intro p hp
    by_cases hnone : ∃ role ∈ roles, role.conditions.maxResolution = none
    · obtain ⟨role, hrole, hlimit⟩ := hnone
      have hrole := hb ⟨role, hrole, rfl⟩
      simp only [hlimit] at hrole
      exact le_top.trans hrole
    · -- Width and height may come from different roles, each with a limit of its own.
      obtain ⟨⟨role, hrole, w, hwidth, hw⟩, role', hrole', h, hheight, hh⟩ :=
        ((hmerged p).mp hp).resolve_left hnone
      have hlimits : ∀ role ∈ roles, ∃ limit, role.conditions.maxResolution = some limit :=
        fun role hrole => Option.ne_none_iff_exists'.mp fun hn => hnone ⟨role, hrole, hn⟩
      obtain ⟨limit, hlimit⟩ := hlimits role hrole
      obtain ⟨limit', hlimit'⟩ := hlimits role' hrole'
      have hbelow := hb ⟨role, hrole, rfl⟩
      have hbelow' := hb ⟨role', hrole', rfl⟩
      simp only [hlimit] at hbelow
      simp only [hlimit'] at hbelow'
      rw [((maxResolution_some _ limit).mp hlimit).1, Option.some.injEq] at hwidth
      rw [((maxResolution_some _ limit').mp hlimit').2, Option.some.injEq] at hheight
      subst hwidth hheight
      cases b with
      | top => exact le_top
      | coe b =>
        exact WithTop.coe_le_coe.mpr ⟨hw.trans (WithTop.coe_le_coe.mp hbelow).1,
          hh.trans (WithTop.coe_le_coe.mp hbelow').2⟩

theorem isLUB_actions (roles : List Role) (granted : ActionSet)
    (h : ∀ a, a ∈ granted ↔ ∃ role ∈ roles, a ∈ role.allowedActions) :
    IsLUB (Role.allowedActions '' { role | role ∈ roles }) granted := by
  constructor
  · rintro _ ⟨role, hrole, rfl⟩ a ha
    exact (h a).mpr ⟨role, hrole, ha⟩
  · intro b hb a ha
    obtain ⟨role, hrole, ha⟩ := (h a).mp ha
    exact hb ⟨role, hrole, rfl⟩ ha

/-- What some roles grant together is the least upper bound of what each of them grants. -/
theorem isLUB_roles (roles : List Role) (hne : roles ≠ []) (granted : ActionSet)
    (h : ∀ a, a ∈ granted ↔ ∃ role ∈ roles, a ∈ role.allowedActions) :
    IsLUB (roleCeiling '' { role | role ∈ roles })
      (ceiling granted (mergedRestrictions roles)) := by
  simp only [isLUB_prod, Set.image_image]
  exact ⟨isLUB_actions roles granted h,
    ⟨isLUB_any roles (·.conditions.clipboardEnabled),
      isLUB_any roles (·.conditions.fileTransferEnabled),
      isLUB_any roles (·.conditions.audioEnabled)⟩,
    isLUB_duration roles hne, isLUB_resolution roles hne⟩

/-- The same for a decision and the roles that qualify. -/
theorem isLUB_evaluate {engine : Engine} {subject : SubjectContext} {resource : ResourceContext}
    {action : Action} {granted : ActionSet} {restrictions : SessionRestrictions} {names : String}
    (h : engine.evaluate subject resource action = .allowed granted restrictions names) :
    IsLUB (roleCeiling '' { role | Qualifies engine subject resource action role })
      (ceiling granted restrictions) := by
  obtain ⟨hne, rfl, hunion⟩ := evaluate_allowed _ _ _ _ _ _ _ h
  simpa only [mem_matchingRoles] using isLUB_roles _ hne granted hunion

/-- A request is allowed if control is free and some role qualifies. -/
theorem isAllowed_iff (engine : Engine) (subject : SubjectContext) (resource : ResourceContext)
    (action : Action) :
    (engine.evaluate subject resource action).isAllowed = true ↔
      ¬ControlConflict resource action ∧ ∃ role, Qualifies engine subject resource action role := by
  by_cases hconflict : ControlConflict resource action
  · obtain ⟨rfl, hholder⟩ := hconflict
    obtain ⟨reason, hdenied⟩ := evaluate_conflict engine subject resource hholder
    rw [hdenied]
    exact iff_of_false Bool.false_ne_true fun h => h.1 ⟨rfl, hholder⟩
  · rw [evaluate_eq engine subject resource action hconflict]
    rcases evaluateRoles_cases engine subject resource action with
      ⟨hne, heval⟩ | ⟨hnil, reason, heval, -⟩
    · obtain ⟨granted, names, hgrant, -⟩ :=
        grant_restrictions (matchingRoles engine subject resource action)
      obtain ⟨role, hrole⟩ := List.exists_mem_of_ne_nil _ hne
      rw [heval, hgrant]
      exact iff_of_true rfl ⟨hconflict, role, (mem_matchingRoles ..).mp hrole⟩
    · rw [heval]
      refine iff_of_false Bool.false_ne_true ?_
      rintro ⟨-, role, hrole⟩
      rw [← mem_matchingRoles, hnil] at hrole
      cases hrole

theorem allowed_of_isAllowed (decision : EvaluationDecision) (h : decision.isAllowed = true) :
    ∃ granted restrictions names, decision = .allowed granted restrictions names := by
  cases decision with
  | allowed granted restrictions names => exact ⟨granted, restrictions, names, rfl⟩
  | denied reason => cases h

theorem qualifies_mono {engine : Engine} {subject : SubjectContext} {resource : ResourceContext}
    {action : Action} {role : Role} {roles : List String} (hsub : subject.roles ⊆ roles)
    (h : Qualifies engine subject resource action role) :
    Qualifies engine { subject with roles := roles } resource action role where
  assigned := by
    obtain ⟨name, hname, hlookup⟩ := h.assigned
    exact ⟨name, hsub hname, hlookup⟩
  permits := h.permits
  selects := h.selects
  satisfies := ⟨h.satisfies.mfa, h.satisfies.managed, h.satisfies.ip⟩

/-- More role names never mean less. -/
theorem evaluate_mono {engine : Engine} {subject : SubjectContext} {resource : ResourceContext}
    {action : Action} {roles : List String} (hsub : subject.roles ⊆ roles)
    {granted : ActionSet} {restrictions : SessionRestrictions} {names : String}
    (h : engine.evaluate subject resource action = .allowed granted restrictions names) :
    ∃ granted' restrictions' names',
      engine.evaluate { subject with roles := roles } resource action =
        .allowed granted' restrictions' names' ∧
      ceiling granted restrictions ≤ ceiling granted' restrictions' := by
  have hallowed : (engine.evaluate subject resource action).isAllowed = true := by rw [h]; rfl
  obtain ⟨hfree, role, hrole⟩ := (isAllowed_iff ..).mp hallowed
  obtain ⟨granted', restrictions', names', h'⟩ :=
    allowed_of_isAllowed _ ((isAllowed_iff ..).mpr ⟨hfree, role, qualifies_mono hsub hrole⟩)
  refine ⟨granted', restrictions', names', h', (isLUB_evaluate h).mono (isLUB_evaluate h') ?_⟩
  exact Set.image_mono fun role hrole => qualifies_mono hsub hrole

/-- The order and the repetition of role names do not matter, and a list that contains all of
them allows at least as much. -/
theorem roles_matter_as_set (engine : Engine) (subject : SubjectContext)
    (resource : ResourceContext) (action : Action) (roles : List String) :
    (roles.Perm subject.roles ∨ (∀ name, name ∈ roles ↔ name ∈ subject.roles) →
      (engine.evaluate { subject with roles := roles } resource action).isAllowed =
          (engine.evaluate subject resource action).isAllowed ∧
        (engine.evaluate { subject with roles := roles } resource action).grantedActions =
          (engine.evaluate subject resource action).grantedActions ∧
        (engine.evaluate { subject with roles := roles } resource action).restrictions =
          (engine.evaluate subject resource action).restrictions) ∧
    ∀ granted restrictions names, subject.roles ⊆ roles →
      engine.evaluate subject resource action = .allowed granted restrictions names →
      ∃ granted' restrictions' names',
        engine.evaluate { subject with roles := roles } resource action =
          .allowed granted' restrictions' names' ∧
        validatePolicyNarrowing granted' granted restrictions' restrictions = .ok restrictions := by
  constructor
  · intro hsame
    have hmem : ∀ name, name ∈ roles ↔ name ∈ subject.roles := by
      rcases hsame with hperm | hmem
      · exact fun name => hperm.mem_iff
      · exact hmem
    have hsub : subject.roles ⊆ roles := fun name => (hmem name).mpr
    have hsup : ({ subject with roles := roles } : SubjectContext).roles ⊆ subject.roles :=
      fun name => (hmem name).mp
    cases h : engine.evaluate subject resource action with
    | allowed granted restrictions names =>
      obtain ⟨granted', restrictions', names', h', hle⟩ := evaluate_mono hsub h
      obtain ⟨granted'', restrictions'', names'', h'', hge⟩ := evaluate_mono hsup h'
      rw [h] at h''
      obtain ⟨rfl, rfl, rfl⟩ := EvaluationDecision.allowed.inj h''
      obtain ⟨rfl, rfl⟩ := ceiling_injective (le_antisymm hle hge)
      rw [h']
      exact ⟨rfl, rfl, rfl⟩
    | denied reason =>
      cases h' : engine.evaluate { subject with roles := roles } resource action with
      | allowed granted restrictions names =>
        obtain ⟨_, _, _, h'', -⟩ := evaluate_mono hsup h'
        rw [h] at h''
        cases h''
      | denied reason' => exact ⟨rfl, rfl, rfl⟩
  · intro granted restrictions names hsub h
    obtain ⟨granted', restrictions', names', h', hle⟩ := evaluate_mono hsub h
    exact ⟨granted', restrictions', names', h',
      (validatePolicyNarrowing_ok_iff _ _ _ _ _).mpr ⟨rfl, hle⟩⟩

/-- The two roles the other way round, and a role that is joined by another one. -/
theorem roles_matter_as_set_two_roles :
    (longAndControl.evaluate { longAndControlSubject with roles := ["control", "long"] }
        plainDevice .desktopView).restrictions =
      (longAndControl.evaluate longAndControlSubject plainDevice .desktopView).restrictions ∧
    ∃ granted restrictions names,
      longAndControl.evaluate { longAndControlSubject with roles := ["control", "long", "long"] }
        plainDevice .desktopView = .allowed granted restrictions names ∧
      validatePolicyNarrowing granted {.desktopView} restrictions ⟨true, true, true, 7200, none⟩ =
        .ok ⟨true, true, true, 7200, none⟩ := by
  have hperm : ["control", "long"].Perm longAndControlSubject.roles := .swap _ _ _
  have heval : longAndControl.evaluate { longAndControlSubject with roles := ["long"] } plainDevice
      .desktopView = .allowed {.desktopView} ⟨true, true, true, 7200, none⟩ "long" := by
    decide +kernel
  obtain ⟨hsame, -⟩ := roles_matter_as_set longAndControl longAndControlSubject plainDevice
    .desktopView ["control", "long"]
  obtain ⟨-, hmore⟩ := roles_matter_as_set longAndControl
    { longAndControlSubject with roles := ["long"] } plainDevice .desktopView
    ["control", "long", "long"]
  exact ⟨(hsame (.inl hperm)).2.2, hmore _ _ _ (by simp) heval⟩

end PolicyNarrowing
