import Samgr.Schedule.Operations
import Mathlib.Algebra.GroupWithZero.Nat

/-! The data of the manager: the registry, the abilities that are being started with the
callbacks that wait for them, the listeners, the registered processes, and the queue of the
work handler. -/
namespace Samgr

structure SAInfo where
  remoteObj : Nat
  isDistributed : Bool
  deriving DecidableEq, Repr

inductive AbilityState where
  | init
  | starting
  | started
  deriving DecidableEq, Repr

inductive ListenerState where
  | init
  | notified
  deriving DecidableEq, Repr

structure SAListener where
  listener : RemoteInterface
  callingPid : Int
  state : ListenerState := .init
  deriving DecidableEq, Repr

/-- A callback that waits for an ability, with the pid it is counted for. The number of the
entry and the moment of its request are no data of the source: `id` tells two entries for
one callback apart, and `since` is the length of the registry's history at the request. -/
structure CallbackItem where
  callback : RemoteInterface
  callingPid : Int
  id : Nat
  since : Nat
  deriving DecidableEq, Repr

structure AbilityItem where
  state : AbilityState := .init
  callbackMap : Std.TreeMap String (List CallbackItem) := ∅
  event : OnDemandEvent := { eventId := 0, name := "" }

/-- The callbacks of all devices, in the order of the map. -/
def AbilityItem.callbacks (item : AbilityItem) : List CallbackItem :=
  item.callbackMap.toList.flatMap Prod.snd

/-- The tasks of `workHandler_`. -/
inductive WorkTask where
  | notifyAdded (systemAbilityId : Int) (remoteObject : Nat)
  | notifyRemoved (systemAbilityId : Int)
  | checkLoaded (systemAbilityId : Int) (name srcDeviceId : String) (callback : RemoteInterface)
  | notifyLoaded (systemAbilityId : Int) (remoteObject : Nat) (callback : RemoteInterface)
      (since : Nat)
  | notifyLoadFail (systemAbilityId : Int) (callbackItem : CallbackItem)
  | listenerNotify (systemAbilityId : Int) (listener : RemoteInterface)
  | startOnDemand (procName : String) (systemAbilityId : Int)
  deriving DecidableEq, Repr

/-- A call to a client, a listener or a service process. -/
inductive Report where
  | onLoadSystemAbilitySuccess (systemAbilityId : Int) (remoteObject : Nat)
      (callback : RemoteInterface) (since : Nat) (entry : Option Nat)
  | onLoadSystemAbilityFail (systemAbilityId : Int) (errCode : Int) (callback : RemoteInterface)
      (entry : Nat)
  | onAddSystemAbility (systemAbilityId : Int) (listener : RemoteInterface)
  | onRemoveSystemAbility (systemAbilityId : Int) (listener : RemoteInterface)
  | startAbility (procName : String) (systemAbilityId : Int) (event : OnDemandEvent)
  deriving DecidableEq, Repr

abbrev Registry : Type := Std.TreeMap Int SAInfo

/-- `history` lists the contents the registry has had, the newest first, and `nextEntry` is
the number of the next callback entry; the source has neither. -/
structure Manager where
  saProfiles : List SaProfile := []
  abilityMap : Registry := ∅
  history : List Registry := [∅]
  listenerMap : Std.TreeMap Int (List SAListener) := ∅
  subscribeCountMap : Quota.Counts Int := ∅
  abilityStatusDeath : DeathRecipients := fun _ => 0
  startingAbilityMap : Std.TreeMap Int AbilityItem := ∅
  callbackCountMap : Quota.Counts Int := ∅
  nextEntry : Nat := 0
  onDemandAbilityMap : Std.TreeMap Int String := ∅
  systemProcessMap : Std.TreeMap String Nat := ∅
  startingProcessMap : Std.TreeMap String Int := ∅
  workHandler : TaskQueue Int WorkTask := {}
  sched : Scheduler := {}
  reports : List Report := []

def MAX_SERVICES : Nat := 1000
def LOAD_SA_TIMEOUT : Int := 999

def checkInputSysAbilityId (sysAbilityId : Int) : Bool :=
  0 ≤ sysAbilityId && sysAbilityId ≤ 0x00ffffff

def MAX_NAME_SIZE : Nat := 200

/-- The text without the first occurrence of a mark, if there is one. -/
def deleteMark (mark : List Char) : List Char → Option (List Char)
  | [] => none
  | c :: rest =>
      if mark.isPrefixOf (c :: rest) then some ((c :: rest).drop mark.length)
      else (deleteMark mark rest).map (c :: ·)

/-- At most `bound` occurrences of a mark are deleted, each found from the start again. -/
def deleteAllMark (mark : List Char) : (bound : Nat) → List Char → List Char
  | 0, text => text
  | bound + 1, text =>
      match deleteMark mark text with
      | none => text
      | some left => deleteAllMark mark bound left

/-- The marks are a blank and the two-character texts the source writes for control
characters. -/
def deleteBlank (text : List Char) : List Char :=
  [[' '], ['/', 't'], ['/', 'n'], ['/', 'r']].foldl
    (fun left mark => deleteAllMark mark text.length left) text

/-- The number of UTF-16 units of a name. -/
def utf16Size (name : String) : Nat :=
  (name.toList.map fun c => if c.toNat < 0x10000 then 1 else 2).sum

def isNameInValid (name : String) : Bool :=
  name.isEmpty || decide (utf16Size name > MAX_NAME_SIZE) || (deleteBlank name.toList).isEmpty

namespace Manager

/-- The manager after its initialisation with the profiles. -/
def init (saProfiles : List SaProfile) : Manager :=
  { saProfiles, sched := Scheduler.init saProfiles }

variable (m : Manager)

/-- The profile map keeps the last profile of an id. -/
def getSaProfile (systemAbilityId : Int) : Option SaProfile :=
  m.saProfiles.reverse.find? fun saProfile => saProfile.saId == systemAbilityId

def isDistributedSystemAbility (systemAbilityId : Int) : Bool :=
  (m.getSaProfile systemAbilityId).any SaProfile.distributed

def checkSystemAbility (systemAbilityId : Int) : Option Nat :=
  if checkInputSysAbilityId systemAbilityId then
    m.abilityMap[systemAbilityId]?.map SAInfo.remoteObj
  else none

def setRegistry (abilityMap : Registry) : Manager :=
  { m with abilityMap, history := abilityMap :: m.history }

def postTask (task : WorkTask) : Manager :=
  { m with workHandler := m.workHandler.post task }

def setItem (systemAbilityId : Int) (abilityItem : AbilityItem) : Manager :=
  { m with startingAbilityMap := m.startingAbilityMap.insert systemAbilityId abilityItem }

/-- What `startingAbilityMap_[id]` refers to: a new item if there is none. -/
def itemAt (systemAbilityId : Int) : AbilityItem :=
  (m.startingAbilityMap[systemAbilityId]?).getD {}

end Manager

end Samgr
