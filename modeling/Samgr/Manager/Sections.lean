import Samgr.Manager.State

/-! The sections of the manager: what its functions do while they hold one of its locks. -/
namespace Samgr

namespace Manager

variable (m : Manager)

def refreshListenerState (systemAbilityId : Int) : Manager :=
  { m with listenerMap := m.listenerMap.modify systemAbilityId fun listeners =>
      listeners.map fun item => { item with state := .init } }

/-- `AddSystemAbility` under the registry's lock: nothing if the registry is full. A covering
registration posts its removed message before it replaces the entry. -/
def insertAbility (systemAbilityId : Int) (saInfo : SAInfo) : Option Manager :=
  if m.abilityMap.size ≥ MAX_SERVICES then none
  else
    let covered :=
      if systemAbilityId ∈ m.abilityMap then m.postTask (.notifyRemoved systemAbilityId) else m
    some (covered.setRegistry (m.abilityMap.insert systemAbilityId saInfo))

/-- `RemoveSystemAbility` and `RemoveDiedSystemAbility` under the registry's lock. -/
def eraseAbility (systemAbilityId : Int) : Option Manager :=
  if systemAbilityId ∈ m.abilityMap then
    some (m.setRegistry (m.abilityMap.erase systemAbilityId))
  else none

/-- The first id under which the object is registered. -/
def findObject (ability : Nat) : Option Int :=
  (m.abilityMap.toList.find? fun entry => entry.2.remoteObj == ability).map Prod.fst

def removeCheckLoadedMsg (systemAbilityId : Int) : Manager :=
  { m with workHandler := m.workHandler.removeTask systemAbilityId }

def sendCheckLoadedMsg (systemAbilityId : Int) (name srcDeviceId : String)
    (callback : RemoteInterface) : Manager :=
  { m with
    workHandler := m.workHandler.postNamed systemAbilityId
      (.checkLoaded systemAbilityId name srcDeviceId callback) }

/-- The counts after the listed callbacks have gone. -/
def uncount (counts : Quota.Counts Int) (items : List CallbackItem) : Quota.Counts Int :=
  Quota.releaseAll (· == 0) counts (items.map CallbackItem.callingPid)

/-- `DoLoadSystemAbility` under `onDemandLock_`: a code if the callback is not added. The
item, and its empty list for the local device, stay even then. -/
def registerCallback (systemAbilityId : Int) (callback : RemoteInterface) (callingPid : Int)
    (event : OnDemandEvent) (since : Nat) : Manager × Option ErrCode :=
  let item := m.itemAt systemAbilityId
  let callbacks := (item.callbackMap[LOCAL_DEVICE]?).getD []
  let opened := m.setItem systemAbilityId
    { item with callbackMap := item.callbackMap.insert LOCAL_DEVICE callbacks }
  if callbacks.any fun other => other.callback.object == callback.object then
    (opened, some .errOk)
  else if Quota.count m.callbackCountMap callingPid ≥ Scheduler.MAX_SUBSCRIBE_COUNT then
    (opened, some .callbackMapSizeLimit)
  else
    let added : CallbackItem := { callback, callingPid, id := m.nextEntry, since }
    ({ m.setItem systemAbilityId
        { item with
          callbackMap := item.callbackMap.insert LOCAL_DEVICE (callbacks ++ [added])
          event } with
      callbackCountMap := Quota.charge m.callbackCountMap callingPid
      nextEntry := m.nextEntry + 1 }, none)

/-- `DoLoadSystemAbilityFromRpc` under `onDemandLock_`, before it starts the process. -/
def registerRpcCallback (systemAbilityId : Int) (srcDeviceId : String)
    (callback : RemoteInterface) (since : Nat) : Manager :=
  let item := m.itemAt systemAbilityId
  let callbacks := (item.callbackMap[srcDeviceId]?).getD []
  let added : CallbackItem := { callback, callingPid := 0, id := m.nextEntry, since }
  { m.setItem systemAbilityId
      { item with callbackMap := item.callbackMap.insert srcDeviceId (callbacks ++ [added]) } with
    nextEntry := m.nextEntry + 1 }

def startOnDemandAbilityInner (procName : String) (systemAbilityId : Int)
    (abilityItem : AbilityItem) : Manager × ErrCode :=
  if abilityItem.state ≠ .init ∨ procName ∉ m.systemProcessMap then (m, .errInvalidValue)
  else
    ({ m.setItem systemAbilityId { abilityItem with state := .starting } with
      reports := .startAbility procName systemAbilityId abilityItem.event :: m.reports }, .errOk)

/-- `StartOnDemandAbilityLocked(systemAbilityId, isExist)`. -/
def startOnDemandAbilityLocked (systemAbilityId : Int) : Manager × ErrCode :=
  match m.onDemandAbilityMap[systemAbilityId]? with
  | none => (m, .errInvalidValue)
  | some procName =>
      let item := m.itemAt systemAbilityId
      (m.setItem systemAbilityId item).startOnDemandAbilityInner procName systemAbilityId item

/-- `StartOnDemandAbilityLocked(procName, systemAbilityId)`. -/
def startNamedAbilityLocked (procName : String) (systemAbilityId : Int) : Manager :=
  match m.startingAbilityMap[systemAbilityId]? with
  | none => m
  | some item => (m.startOnDemandAbilityInner procName systemAbilityId item).1

/-- `DoLoadOnDemandAbility` after it has not found the ability in the registry: its result
and `isExist`. -/
def doLoadOnDemandAbility (systemAbilityId : Int) : Manager × Bool × Bool :=
  if (m.startingAbilityMap[systemAbilityId]?).any fun item => item.state == .starting then
    (m, true, true)
  else if systemAbilityId ∉ m.onDemandAbilityMap then (m, false, false)
  else
    let asked := m.setItem systemAbilityId
      { m.itemAt systemAbilityId with event := { eventId := INTERFACE_CALL, name := "get" } }
    let started := asked.startOnDemandAbilityLocked systemAbilityId
    (started.1, started.2 == .errOk, true)

/-- Each callback of the item is called and no longer counted, and the item is erased. -/
def reportItem (systemAbilityId : Int) (item : AbilityItem) (report : CallbackItem → Report) :
    Manager :=
  { m with
    startingAbilityMap := m.startingAbilityMap.erase systemAbilityId
    callbackCountMap := uncount m.callbackCountMap item.callbacks
    reports := (item.callbacks.map report).reverse ++ m.reports }

def notifySystemAbilityLoaded (systemAbilityId : Int) (remoteObject : Nat) : Manager :=
  match m.startingAbilityMap[systemAbilityId]? with
  | none => m
  | some item => m.reportItem systemAbilityId item fun callbackItem =>
      .onLoadSystemAbilitySuccess systemAbilityId remoteObject callbackItem.callback
        callbackItem.since (some callbackItem.id)

/-- `OnStartSystemAbilityFail` under `onDemandLock_`. -/
def onStartSystemAbilityFail (systemAbilityId errCode : Int) (process : String) : Manager :=
  let known :=
    if systemAbilityId ∈ m.onDemandAbilityMap then m
    else { m with onDemandAbilityMap := m.onDemandAbilityMap.insert systemAbilityId process }
  match known.startingAbilityMap[systemAbilityId]? with
  | none => known
  | some item =>
      (known.removeCheckLoadedMsg systemAbilityId).reportItem systemAbilityId item
        fun callbackItem =>
          .onLoadSystemAbilityFail systemAbilityId errCode callbackItem.callback callbackItem.id

/-- `RemoveStartingAbilityCallbackForDevice` on one item. -/
def dropCallback (remoteObject : Nat) (item : AbilityItem) : AbilityItem :=
  { item with
    callbackMap := item.callbackMap.filterMap fun _ callbacks =>
      let left := callbacks.eraseP fun other => other.callback.object == remoteObject
      if left.isEmpty then none else some left }

/-- The callbacks that the death of the object takes out of the item. -/
def droppedCallbacks (remoteObject : Nat) (item : AbilityItem) : List CallbackItem :=
  item.callbackMap.toList.flatMap fun pair =>
    (pair.2.find? fun other => other.callback.object == remoteObject).toList

/-- `OnAbilityCallbackDied`: an item that has no callback goes, whether or not it had one. -/
def onAbilityCallbackDied (remoteObject : Nat) : Manager :=
  { m with
    startingAbilityMap := m.startingAbilityMap.filterMap fun _ item =>
      let left := dropCallback remoteObject item
      if left.callbackMap.isEmpty then none else some left
    callbackCountMap := uncount m.callbackCountMap
      (m.startingAbilityMap.toList.flatMap fun pair => droppedCallbacks remoteObject pair.2) }

/-- The entry that the timeout of a callback reports. -/
def failingCallback (srcDeviceId : String) (callback : RemoteInterface) (item : AbilityItem) :
    Option CallbackItem :=
  ((item.callbackMap[srcDeviceId]?).getD []).find? fun other =>
    other.callback.object == callback.object

/-- The item without the reported entry: `list::remove` takes out every entry with the same
pointer and pid, and an empty list leaves the map. -/
def withoutCallback (srcDeviceId : String) (failing : Option CallbackItem) (item : AbilityItem) :
    AbilityItem :=
  let left := ((item.callbackMap[srcDeviceId]?).getD []).filter fun other =>
    failing.all fun found =>
      other.callback ≠ found.callback ∨ other.callingPid ≠ found.callingPid
  { item with
    callbackMap :=
      if left.isEmpty then item.callbackMap.erase srcDeviceId
      else item.callbackMap.insert srcDeviceId left }

/-- The reported entry is posted once and no longer counted. -/
def failCallback (systemAbilityId : Int) : Option CallbackItem → Manager
  | none => m
  | some found =>
      { m.postTask (.notifyLoadFail systemAbilityId found) with
        callbackCountMap := uncount m.callbackCountMap [found] }

/-- `CleanCallbackForLoadFailed` under `onDemandLock_`. -/
def cleanCallbackForLoadFailed (systemAbilityId : Int) (srcDeviceId : String)
    (callback : RemoteInterface) : Manager :=
  match m.startingAbilityMap[systemAbilityId]? with
  | none => m
  | some item =>
      let failing := failingCallback srcDeviceId callback item
      let posted := m.failCallback systemAbilityId failing
      let left := withoutCallback srcDeviceId failing item
      if left.callbackMap.isEmpty then
        { posted with startingAbilityMap := m.startingAbilityMap.erase systemAbilityId }
      else posted.setItem systemAbilityId left

/-- `AddOnDemandSystemAbilityInfo` under `onDemandLock_`. -/
def addOnDemandSystemAbilityInfo (systemAbilityId : Int) (procName : String) : Manager :=
  if m.onDemandAbilityMap.size ≥ MAX_SERVICES ∨ procName ∉ m.systemProcessMap then m
  else
    let known := { m with
      onDemandAbilityMap := m.onDemandAbilityMap.insert systemAbilityId procName }
    if systemAbilityId ∈ m.startingAbilityMap then
      known.postTask (.startOnDemand procName systemAbilityId)
    else known

def removeOnDemandSaInDiedProc (processName : String) : Manager :=
  { m with
    onDemandAbilityMap := (m.sched.process processName).saList.foldl
      (fun known systemAbilityId => known.erase systemAbilityId) m.onDemandAbilityMap }

/-- `FindSystemAbilityNotify` with the add code: only those not yet notified are. -/
def notifyListenersAdded (systemAbilityId : Int) : Manager :=
  let listeners := (m.listenerMap[systemAbilityId]?).getD []
  let notified := listeners.filter fun item => item.state == .init
  { m with
    listenerMap := m.listenerMap.modify systemAbilityId fun listeners =>
      listeners.map fun item => { item with state := .notified }
    reports := (notified.map fun item =>
      Report.onAddSystemAbility systemAbilityId item.listener).reverse ++ m.reports }

/-- `FindSystemAbilityNotify` with the remove code. -/
def notifyListenersRemoved (systemAbilityId : Int) : Manager :=
  let listeners := (m.listenerMap[systemAbilityId]?).getD []
  { m with
    listenerMap := m.listenerMap.modify systemAbilityId fun listeners =>
      listeners.map fun item => { item with state := .init }
    reports := (listeners.map fun item =>
      Report.onRemoveSystemAbility systemAbilityId item.listener).reverse ++ m.reports }

/-- `SubscribeSystemAbilityInner` under `listenerMapLock_`; true if the listener was added. -/
def subscribeSystemAbility (systemAbilityId : Int) (listener : RemoteInterface)
    (callingPid : Int) : Manager × Bool :=
  let listeners := (m.listenerMap[systemAbilityId]?).getD []
  let opened := { m with listenerMap := m.listenerMap.insert systemAbilityId listeners }
  if listeners.any fun item => item.listener.object == listener.object then (opened, false)
  else if Quota.count m.subscribeCountMap callingPid ≥ Scheduler.MAX_SUBSCRIBE_COUNT then
    (opened, false)
  else
    ({ m with
      listenerMap := m.listenerMap.insert systemAbilityId (listeners ++ [{ listener, callingPid }])
      subscribeCountMap := Quota.charge m.subscribeCountMap callingPid
      abilityStatusDeath := m.abilityStatusDeath.add listener.object }, true)

/-- `CheckListenerNotify` under `listenerMapLock_`. Its log line reads the count of the entry's
pid with `operator[]`. -/
def checkListenerNotify (systemAbilityId : Int) (listener : RemoteInterface) : Manager :=
  let listeners := (m.listenerMap[systemAbilityId]?).getD []
  match listeners.find? fun item => item.listener.object == listener.object with
  | some { state := .init, callingPid, .. } =>
      { m.postTask (.listenerNotify systemAbilityId listener) with
        subscribeCountMap := m.subscribeCountMap.insertIfNew callingPid 0
        listenerMap := m.listenerMap.insert systemAbilityId (listeners.replaceF fun item =>
          if item.listener.object == listener.object then some { item with state := .notified }
          else none) }
  | _ => { m with listenerMap := m.listenerMap.insert systemAbilityId listeners }

/-- `UnSubscribeSystemAbilityLocked` on one list, with the pids it no longer counts. -/
def dropListener (remoteObject : Nat) (listeners : List SAListener) : List SAListener :=
  listeners.eraseP fun item => item.listener.object == remoteObject

def droppedPids (remoteObject : Nat) (listeners : List SAListener) : List Int :=
  ((listeners.find? fun item => item.listener.object == remoteObject).map
    SAListener.callingPid).toList

/-- The registration of the caller's object is removed whether or not it had an entry. -/
def unSubscribeSystemAbility (systemAbilityId : Int) (listener : RemoteInterface) : Manager :=
  let listeners := (m.listenerMap[systemAbilityId]?).getD []
  { m with
    listenerMap := m.listenerMap.insert systemAbilityId (dropListener listener.object listeners)
    subscribeCountMap := Quota.releaseAll (· == 0) m.subscribeCountMap
      (droppedPids listener.object listeners)
    abilityStatusDeath := m.abilityStatusDeath.remove listener.object }

def unSubscribeDiedObject (remoteObject : Nat) : Manager :=
  { m with
    listenerMap := m.listenerMap.map fun _ listeners => dropListener remoteObject listeners
    subscribeCountMap := Quota.releaseAll (· == 0) m.subscribeCountMap
      (m.listenerMap.toList.flatMap fun pair => droppedPids remoteObject pair.2)
    abilityStatusDeath := m.abilityStatusDeath.remove remoteObject }

/-- `AddSystemProcess` under `systemProcessMapLock_`: nothing if the map is full. -/
def insertProcess (procName : String) (procObject : Nat) : Option Manager :=
  if m.systemProcessMap.size ≥ MAX_SERVICES then none
  else some { m with systemProcessMap := m.systemProcessMap.insert procName procObject }

/-- The first name under which the process object is registered. -/
def findProcess (procObject : Nat) : Option String :=
  (m.systemProcessMap.toList.find? fun entry => entry.2 == procObject).map Prod.fst

def eraseProcess (procName : String) : Manager :=
  { m with systemProcessMap := m.systemProcessMap.erase procName }

def eraseStartingProcess (procName : String) : Manager :=
  { m with startingProcessMap := m.startingProcessMap.erase procName }

/-- The starting mark of a process; nothing if it carries one already. -/
def markStartingProcess (procName : String) (systemAbilityId : Int) : Option Manager :=
  if procName ∈ m.startingProcessMap then none
  else some { m with startingProcessMap := m.startingProcessMap.insert procName systemAbilityId }

end Manager

end Samgr
