import NexusRemote.Tables

/-!
# Policy vocabulary (`crates/nexus-policy/src/action.rs`, `model.rs`)

Actions, action sets, device label selectors, conditions, restrictions and
roles.
-/

namespace PolicyModel

inductive Action where
  | desktopView
  | desktopControl
  | clipboardRead
  | clipboardWrite
  | fileUpload
  | fileDownload
  | audioListen
  | audioSend
  | sessionRecord
  | sessionRequest
  | sessionApprove
  deriving DecidableEq, Repr

namespace Action

/-- `Action::ALL`, which is also the order of the enumeration. -/
def all : List Action :=
  [desktopView, desktopControl, clipboardRead, clipboardWrite, fileUpload, fileDownload,
    audioListen, audioSend, sessionRecord, sessionRequest, sessionApprove]

def asStr : Action → String
  | desktopView => "desktop.view"
  | desktopControl => "desktop.control"
  | clipboardRead => "clipboard.read"
  | clipboardWrite => "clipboard.write"
  | fileUpload => "file.upload"
  | fileDownload => "file.download"
  | audioListen => "audio.listen"
  | audioSend => "audio.send"
  | sessionRecord => "session.record"
  | sessionRequest => "session.request"
  | sessionApprove => "session.approve"

theorem mem_all (a : Action) : a ∈ all := by cases a <;> decide

/-- Different actions have different texts. -/
theorem asStr_injective : Function.Injective asStr := by
  intro a b h
  cases a <;> cases b <;> first | rfl | exact absurd h (by decide)

end Action

abbrev ActionSet := Finset Action

/-- Iteration over a set, in the order of the enumeration. -/
def ActionSet.iter (s : ActionSet) : List Action := Action.all.filter (· ∈ s)

@[simp] theorem ActionSet.mem_iter (s : ActionSet) (a : Action) :
    a ∈ ActionSet.iter s ↔ a ∈ s := by
  simp [ActionSet.iter, Action.mem_all]

/-- Device labels, by key. -/
abbrev Labels := Std.TreeMap String String

inductive DeviceLabelSelector where
  | wildcard
  | exact (key value : String)
  | matchAll (labels : Labels)

/-- `match_all`: the pairs are collected into a map. -/
def DeviceLabelSelector.matchAllOf (pairs : List (String × String)) : DeviceLabelSelector :=
  matchAll (Tables.collect pairs)

/-- The test of one key and value, with `*` standing for anything. -/
def labelMatches (labels : Labels) (key value : String) : Bool :=
  if key = "*" ∧ value = "*" then true
  else if value = "*" then labels.contains key
  else if key = "*" then labels.values.any (· == value)
  else labels[key]? == some value

def DeviceLabelSelector.matches (selector : DeviceLabelSelector) (labels : Labels) : Bool :=
  match selector with
  | wildcard => true
  | exact key value => labelMatches labels key value
  | matchAll selectorLabels => selectorLabels.toList.all fun p => labelMatches labels p.1 p.2

def defaultMaxDurationSeconds : UInt64 := 3600

structure PolicyConditions where
  requireMfa : Bool
  managedClientDevice : Bool
  clipboardEnabled : Bool
  fileTransferEnabled : Bool
  audioEnabled : Bool
  maxDurationSeconds : Option UInt64
  maxResolutionWidth : Option UInt32
  maxResolutionHeight : Option UInt32
  allowedIpRanges : List String
  deriving DecidableEq, Repr

namespace PolicyConditions

def default : PolicyConditions where
  requireMfa := false
  managedClientDevice := false
  clipboardEnabled := true
  fileTransferEnabled := true
  audioEnabled := true
  maxDurationSeconds := none
  maxResolutionWidth := none
  maxResolutionHeight := none
  allowedIpRanges := []

/-- A resolution limit counts only when both dimensions are set. -/
def maxResolution (c : PolicyConditions) : Option (UInt32 × UInt32) :=
  match c.maxResolutionWidth, c.maxResolutionHeight with
  | some w, some h => some (w, h)
  | _, _ => none

end PolicyConditions

structure SessionRestrictions where
  clipboardEnabled : Bool
  fileTransferEnabled : Bool
  audioEnabled : Bool
  maxDurationSeconds : UInt64
  maxResolution : Option (UInt32 × UInt32)
  deriving DecidableEq, Repr

def SessionRestrictions.fromConditions (c : PolicyConditions) (defaultDurationSeconds : UInt64) :
    SessionRestrictions where
  clipboardEnabled := c.clipboardEnabled
  fileTransferEnabled := c.fileTransferEnabled
  audioEnabled := c.audioEnabled
  maxDurationSeconds := c.maxDurationSeconds.getD defaultDurationSeconds
  maxResolution := c.maxResolution

structure Role where
  name : String
  allowedActions : ActionSet
  deviceLabelSelectors : List DeviceLabelSelector
  conditions : PolicyConditions

namespace Role

def new (name : String) : Role := ⟨name, ∅, [], .default⟩

def withActions (r : Role) (actions : List Action) : Role :=
  { r with allowedActions := actions.toFinset }

def withConditions (r : Role) (conditions : PolicyConditions) : Role :=
  { r with conditions := conditions }

def allowsAction (r : Role) (action : Action) : Bool := action ∈ r.allowedActions

def matchesDevice (r : Role) (labels : Labels) : Bool :=
  if r.deviceLabelSelectors.isEmpty then true
  else r.deviceLabelSelectors.any fun selector => selector.matches labels

theorem matchesDevice_iff (r : Role) (labels : Labels) :
    r.matchesDevice labels = true ↔ r.deviceLabelSelectors = [] ∨
      ∃ selector ∈ r.deviceLabelSelectors, selector.matches labels = true := by
  cases h : r.deviceLabelSelectors <;> simp [matchesDevice, h]

end Role

end PolicyModel
