import Samgr.Schedule.EnableOnce
import Mathlib.Data.List.Sort

/-! The on-demand policies of the abilities of an instance, the plugins that judge conditions, and the
controls that an event asks for. -/
namespace Samgr

def DEVICE_ONLINE : Int := 1
def LOW_PRIORITY : Nat := 3

structure OnDemandCondition where
  eventId : Int
  name : String
  value : String
  extraMessages : List (String × String) := []
  deriving DecidableEq, Repr

/-- An on-demand event with what a profile says of it. -/
structure PolicyEvent extends OnDemandEvent where
  persistence : Bool := false
  conditions : List OnDemandCondition := []
  enableOnce : Bool := false
  loadPriority : Nat := LOW_PRIORITY
  extraMessages : List (String × String) := []
  deriving DecidableEq, Repr

structure CollMgrSaProfile where
  saId : Int
  startOnDemandEvents : List PolicyEvent
  stopOnDemandEvents : List PolicyEvent
  cacheCommonEvent : Bool := false
  deriving DecidableEq, Repr

structure PolicyControl extends SaControlInfo where
  loadPriority : Nat := LOW_PRIORITY
  cacheCommonEvent : Bool := false
  deriving DecidableEq, Repr

inductive OnDemandPolicyType where
  | startPolicy
  | stopPolicy
  deriving DecidableEq, Repr

/-- A plugin as the collect manager uses it: how it judges a condition now, and an event against
the extra messages of a policy. -/
structure CollectPlugin where
  checkCondition : OnDemandCondition → Bool := fun _ => false
  checkExtraMessage : Int → PolicyEvent → Bool := fun _ _ => true

/-- The collect manager as far as it judges an event: the policies and the plugins. -/
structure DeviceStatusCollectManager where
  onDemandSaProfiles : List CollMgrSaProfile
  collectPluginMap : Int → Option CollectPlugin

namespace DeviceStatusCollectManager

variable (c : DeviceStatusCollectManager)

def isSameEvent (event policy : PolicyEvent) : Bool :=
  event.eventId == policy.eventId && event.name == policy.name &&
    event.persistence == policy.persistence && (event.value == policy.value || "" == policy.value)

def checkConditions (policy : PolicyEvent) : Bool :=
  policy.conditions.all fun condition =>
    (c.collectPluginMap condition.eventId).any fun plugin => plugin.checkCondition condition

def checkExtraMessages (event policy : PolicyEvent) : Bool :=
  (c.collectPluginMap event.eventId).any fun plugin =>
    plugin.checkExtraMessage event.extraDataId policy

/-- The first policy that the event meets. -/
def matched (event : PolicyEvent) (policies : List PolicyEvent) : Option PolicyEvent :=
  policies.find? fun policy =>
    isSameEvent event policy && c.checkConditions policy && c.checkExtraMessages event policy

def control (ondemandId : Int) (profile : CollMgrSaProfile) (policy : PolicyEvent) : PolicyControl :=
  { ondemandId, saId := profile.saId, enableOnce := policy.enableOnce
    loadPriority := policy.loadPriority, cacheCommonEvent := profile.cacheCommonEvent }

/-- At most one control of each kind for an ability. -/
def getSaControlListByEvent (event : PolicyEvent) : List PolicyControl :=
  c.onDemandSaProfiles.flatMap fun profile =>
    ((c.matched event profile.startOnDemandEvents).map (control START_ON_DEMAND profile)).toList ++
      ((c.matched event profile.stopOnDemandEvents).map (control STOP_ON_DEMAND profile)).toList

/-- The sort keeps the order of controls of one priority. -/
def sortSaControlListByLoadPriority (saControlList : List PolicyControl) : List PolicyControl :=
  saControlList.insertionSort fun control other => control.loadPriority ≤ other.loadPriority

end DeviceStatusCollectManager

end Samgr
