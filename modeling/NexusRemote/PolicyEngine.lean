import NexusRemote.EntityId
import NexusRemote.IpRange
import NexusRemote.PolicyModel

/-!
# The policy engine (`crates/nexus-policy/src/engine.rs`)

`evaluate` checks control exclusivity, then filters the subject's roles in four
stages and builds the decision from the roles that are left.
-/

namespace PolicyEngine

open EntityId IpRange PolicyModel

structure SubjectContext where
  userId : UserId
  roles : List String
  mfaAuthenticated : Bool
  clientDeviceManaged : Bool
  clientIp : Option IpAddr

structure ActiveSessionSummary where
  sessionId : SessionId
  targetDeviceId : DeviceId
  grantedActions : ActionSet
  isActive : Bool

structure ResourceContext where
  targetDeviceId : DeviceId
  deviceLabels : Labels
  activeSessionsOnDevice : List ActiveSessionSummary

inductive DenialReason where
  | noMatchingRole
  | actionNotAllowed
  | deviceNotMatched
  | mfaRequired
  | managedClientDeviceRequired
  | ipAddressNotAllowed
  | concurrentControlConflict (activeSessionId : SessionId)
  deriving DecidableEq

def DenialReason.message : DenialReason → String
  | noMatchingRole => "no matching role found for subject"
  | actionNotAllowed => "action is not allowed by assigned roles"
  | deviceNotMatched => "target device does not match role label selectors"
  | mfaRequired => "multi-factor authentication is required"
  | managedClientDeviceRequired => "managed client device is required"
  | ipAddressNotAllowed => "client IP address is not allowed"
  | concurrentControlConflict activeSessionId =>
    "concurrent control conflict with active session " ++ activeSessionId.value

inductive EvaluationDecision where
  | allowed (grantedActions : ActionSet) (restrictions : SessionRestrictions) (matchedRole : String)
  | denied (reason : DenialReason)
  deriving DecidableEq

def EvaluationDecision.isAllowed : EvaluationDecision → Bool
  | allowed .. => true
  | denied _ => false

def EvaluationDecision.grantedActions : EvaluationDecision → Option ActionSet
  | allowed grantedActions _ _ => some grantedActions
  | denied _ => none

def EvaluationDecision.restrictions : EvaluationDecision → Option SessionRestrictions
  | allowed _ restrictions _ => some restrictions
  | denied _ => none

structure Engine where
  roles : Std.TreeMap String Role

/-- Later roles replace earlier ones of the same name. -/
def Engine.new (roles : List Role) : Engine :=
  ⟨roles.foldl (fun map role => map.insert role.name role) ∅⟩

def evaluateRoleAbac (role : Role) (subject : SubjectContext) : Except DenialReason Unit :=
  if role.conditions.requireMfa && !subject.mfaAuthenticated then .error .mfaRequired
  else if role.conditions.managedClientDevice && !subject.clientDeviceManaged then
    .error .managedClientDeviceRequired
  else if !role.conditions.allowedIpRanges.isEmpty then
    match subject.clientIp with
    | some ip =>
      if role.conditions.allowedIpRanges.any fun range => ipMatchesRange ip range then .ok ()
      else .error .ipAddressNotAllowed
    | none => .error .ipAddressNotAllowed
  else .ok ()

/-- One turn of the ABAC loop: the roles that passed and the first failure. -/
def abacStep (subject : SubjectContext) (acc : List Role × Option DenialReason) (role : Role) :
    List Role × Option DenialReason :=
  match evaluateRoleAbac role subject with
  | .ok () => (acc.1 ++ [role], acc.2)
  | .error reason => (acc.1, if acc.2.isNone then some reason else acc.2)

def abacStage (subject : SubjectContext) (roles : List Role) : List Role × Option DenialReason :=
  roles.foldl (abacStep subject) ([], none)

/-- The effective restrictions of several roles, each field on its own. -/
def mergedRestrictions (roles : List Role) : SessionRestrictions where
  clipboardEnabled := roles.any (·.conditions.clipboardEnabled)
  fileTransferEnabled := roles.any (·.conditions.fileTransferEnabled)
  audioEnabled := roles.any (·.conditions.audioEnabled)
  maxDurationSeconds :=
    ((roles.map fun r => r.conditions.maxDurationSeconds.getD defaultMaxDurationSeconds).max?).getD
      defaultMaxDurationSeconds
  maxResolution :=
    if roles.any (·.conditions.maxResolution.isNone) then none
    else
      match (roles.filterMap (·.conditions.maxResolutionWidth)).max?,
        (roles.filterMap (·.conditions.maxResolutionHeight)).max? with
      | some w, some h => some (w, h)
      | _, _ => none

/-- The decision for the roles that passed every stage. -/
def grant : List Role → EvaluationDecision
  | [role] =>
    .allowed role.allowedActions
      (SessionRestrictions.fromConditions role.conditions defaultMaxDurationSeconds) role.name
  | roles =>
    .allowed (roles.foldl (fun acc role => acc ∪ role.allowedActions) ∅) (mergedRestrictions roles)
      (String.intercalate "," (roles.map (·.name)))

/-- The first active session on the device that holds desktop control. -/
def controlHolder (resource : ResourceContext) : Option ActiveSessionSummary :=
  resource.activeSessionsOnDevice.find? fun s => s.isActive && Action.desktopControl ∈ s.grantedActions

def Engine.assignedRoles (engine : Engine) (subject : SubjectContext) : List Role :=
  subject.roles.filterMap fun name => engine.roles[name]?

/-- The stages after the exclusivity check. -/
def Engine.evaluateRoles (engine : Engine) (subject : SubjectContext) (resource : ResourceContext)
    (requestedAction : Action) : EvaluationDecision :=
  let assignedRoles := engine.assignedRoles subject
  if assignedRoles.isEmpty then .denied .noMatchingRole
  else
    let actionRoles := assignedRoles.filter (·.allowsAction requestedAction)
    if actionRoles.isEmpty then .denied .actionNotAllowed
    else
      let deviceRoles := actionRoles.filter (·.matchesDevice resource.deviceLabels)
      if deviceRoles.isEmpty then .denied .deviceNotMatched
      else
        let (matchingRoles, firstAbacFailure) := abacStage subject deviceRoles
        if matchingRoles.isEmpty then .denied (firstAbacFailure.getD .noMatchingRole)
        else grant matchingRoles

def Engine.evaluate (engine : Engine) (subject : SubjectContext) (resource : ResourceContext)
    (requestedAction : Action) : EvaluationDecision :=
  if requestedAction = .desktopControl then
    match controlHolder resource with
    | some session => .denied (.concurrentControlConflict session.sessionId)
    | none => engine.evaluateRoles subject resource requestedAction
  else engine.evaluateRoles subject resource requestedAction

end PolicyEngine
