import Samgr.Schedule.Scheduler

/-! The scheduler as one machine: every request, event, subscription and task step is an
operation, and a run is any sequence of them. -/
namespace Samgr

namespace Scheduler

variable (env : Env) (s : Scheduler)

def MAX_SUBSCRIBE_COUNT : Nat := 256

/-- A new item comes with a registration of `processListenerDeath_` on the listener's object. -/
def subscribeSystemProcess (listener : RemoteInterface) (foregroundOnly : Bool) : Scheduler :=
  if s.processListeners.any fun item => item.listener.object == listener.object then
    { s with processListeners := s.processListeners.replaceF fun item =>
        if item.listener.object == listener.object then
          some (if foregroundOnly then { item with hasForegroundSubscription := true }
            else { item with hasDirectSubscription := true })
        else none }
  else
    { s with
      processListenerDeath := s.processListenerDeath.add listener.object
      processListeners := s.processListeners ++
        [{ listener
           hasDirectSubscription := !foregroundOnly
           hasForegroundSubscription := foregroundOnly }] }

/-- An item without one of its two sources. -/
def withoutSource (foregroundOnly : Bool) (item : ProcessListener) : ProcessListener :=
  if foregroundOnly then { item with hasForegroundSubscription := false }
  else { item with hasDirectSubscription := false }

/-- The first item of the listener loses one source. With its last source it leaves the list
and its registration goes. -/
def unSubscribeSystemProcess (listener : RemoteInterface) (foregroundOnly : Bool) : Scheduler :=
  match s.processListeners.find? fun item => item.listener.object == listener.object with
  | none => s
  | some item =>
      let left := withoutSource foregroundOnly item
      if !left.hasDirectSubscription && !left.hasForegroundSubscription then
        { s with
          processListenerDeath := s.processListenerDeath.remove listener.object
          processListeners := s.processListeners.eraseP fun item =>
            item.listener.object == listener.object }
      else
        { s with processListeners := s.processListeners.replaceF fun item =>
            if item.listener.object == listener.object then some left else none }

def unSubscribeDiedListener (remoteObject : Nat) : Scheduler :=
  { s with processListeners := s.processListeners.filter fun item =>
      item.listener.object != remoteObject }

/-- One process of `SubscribeSystemProcessList`, and whether the call goes on: the pointer is
looked for, and the quota is that of the caller. -/
def subscribeOneProcess (listener : RemoteInterface) (callingPid : Int) (procName : String) :
    Scheduler × Bool :=
  if procName ∉ s.processNames then (s, true)
  else
    let listeners := (s.procListenerMap[procName]?).getD []
    let keyed := { s with procListenerMap := s.procListenerMap.insert procName listeners }
    if listeners.any fun item => item.listener == listener then (keyed, true)
    else if Quota.count s.subscribeProcCountMap callingPid ≥ MAX_SUBSCRIBE_COUNT then (keyed, false)
    else
      ({ s with
        processListenerDeath := s.processListenerDeath.add listener.object
        procListenerMap := s.procListenerMap.insert procName
          (listeners ++ [{ listener, subscriber := callingPid }])
        subscribeProcCountMap := Quota.charge s.subscribeProcCountMap callingPid }, true)

def subscribeSystemProcessList (listener : RemoteInterface) (callingPid : Int) :
    List String → Scheduler → Scheduler × ErrCode
  | [], s => (s, .errOk)
  | procName :: rest, s =>
      let subscribed := s.subscribeOneProcess listener callingPid procName
      if subscribed.2 then subscribeSystemProcessList listener callingPid rest subscribed.1
      else (subscribed.1, .errPermissionDenied)

/-- One process of `UnSubscribeSystemProcessList`: the object is looked for, and what is found
is taken off the count of the caller. -/
def unSubscribeOneProcess (listener : RemoteInterface) (callingPid : Int) (s : Scheduler)
    (procName : String) : Scheduler :=
  match s.procListenerMap[procName]? with
  | none => s
  | some listeners =>
      { s with
        processListenerDeath := s.processListenerDeath.remove listener.object
        procListenerMap := s.procListenerMap.insert procName
          (listeners.eraseP fun item => item.listener.object == listener.object)
        subscribeProcCountMap :=
          if listeners.any fun item => item.listener.object == listener.object then
            Quota.release (· ≤ 0) s.subscribeProcCountMap callingPid
          else s.subscribeProcCountMap }

def unSubscribeSystemProcessList (listener : RemoteInterface) (callingPid : Int)
    (procNames : List String) : Scheduler :=
  procNames.foldl (unSubscribeOneProcess listener callingPid) s

/-- A waiting delayed task of one of the handlers becomes ready. -/
inductive Expiry where
  | unloadEvent (handle : Nat)
  | processTask (handle : Nat)
  deriving DecidableEq, Repr

inductive Op where
  | load (loadRequestInfo : LoadRequestInfo)
  | checkStart (systemAbilityId : Int)
  | unload (unloadRequestInfo : Option UnloadRequestInfo)
  | cancelUnload (systemAbilityId : Int)
  | abilityEvent (systemAbilityId : Int) (event : AbilityStateEvent)
  | processEvent (processInfo : ProcessInfo) (event : ProcessStateEvent)
  | unloadProcess (processName : String)
  | updateLimitDelayUnloadTime (systemAbilityId : Int)
  | expire (expiry : Expiry)
  | startProcessTask
  | stepUnloadTimeout
  | startUnloadEvent
  | stepUnloadEvent
  | runRecoverTask
  | subscribe (listener : RemoteInterface) (foregroundOnly : Bool)
  | unSubscribe (listener : RemoteInterface) (foregroundOnly : Bool)
  | listenerDied (remoteObject : Nat)
  | subscribeList (procNames : List String) (listener : RemoteInterface) (callingPid : Int)
  | unSubscribeList (procNames : List String) (listener : RemoteInterface) (callingPid : Int)
  deriving DecidableEq, Repr

/-- The process handler is serial: nothing is started while its timeout task is running. -/
def startProcessTask : Scheduler :=
  match s.unloadTimeoutRunning, s.processHandler.pop with
  | none, some (task, rest) => { s with processHandler := rest }.runProcessTask env task
  | _, _ => s

def stepUnloadTimeout : Scheduler :=
  match s.unloadTimeoutRunning with
  | none => s
  | some (processName, .dequeued) =>
      { s with
        processHandler := s.processHandler.delTask processName
        unloadTimeoutRunning := some (processName, .waitingForLock) }
  | some (processName, .waitingForLock) =>
      { s with unloadTimeoutRunning := none }.unloadTimeoutTask env processName

def startUnloadEvent : Scheduler :=
  match s.unloadEventRunning, s.unloadEventHandler.pop with
  | none, some (systemAbilityId, rest) =>
      { s with unloadEventHandler := rest, unloadEventRunning := some (systemAbilityId, .dequeued) }
  | _, _ => s

/-- `UnloadEventHandler::ProcessEvent`: delete the handle, then wait for the lock. -/
def stepUnloadEvent : Scheduler :=
  match s.unloadEventRunning with
  | none => s
  | some (systemAbilityId, .dequeued) =>
      { s with
        unloadEventHandler := s.unloadEventHandler.delTask systemAbilityId
        unloadEventRunning := some (systemAbilityId, .waitingForLock) }
  | some (systemAbilityId, .waitingForLock) =>
      ({ s with unloadEventRunning := none }.processDelayUnloadEvent env systemAbilityId).1

def runRecoverTask : Scheduler :=
  match s.recoverHandler.pop with
  | none => s
  | some (systemAbilityId, rest) =>
      { s with recoverHandler := rest }.processPendingLoadOverflow env systemAbilityId

/-- The state after an operation and the code it returns; a task returns nothing. -/
def exec : Op → Scheduler × ErrCode
  | .load loadRequestInfo => s.handleLoadAbilityEvent env loadRequestInfo
  | .checkStart systemAbilityId =>
      let answer := s.checkStartAbilityEvent env systemAbilityId
      (answer.1, answer.2.1)
  | .unload unloadRequestInfo => s.handleUnloadAbilityEvent env unloadRequestInfo
  | .cancelUnload systemAbilityId => s.handleCancelUnloadAbilityEvent env systemAbilityId
  | .abilityEvent systemAbilityId event => s.sendAbilityStateEvent env systemAbilityId event
  | .processEvent processInfo event => s.sendProcessStateEvent env processInfo event
  | .unloadProcess processName => s.unloadProcess env processName
  | .updateLimitDelayUnloadTime systemAbilityId =>
      (s.postProcessTask env (.updateLimitDelayUnloadTime systemAbilityId), .errOk)
  | .expire (.unloadEvent handle) =>
      ({ s with unloadEventHandler := s.unloadEventHandler.expire handle }, .errOk)
  | .expire (.processTask handle) =>
      ({ s with processHandler := s.processHandler.expire handle }, .errOk)
  | .startProcessTask => (s.startProcessTask env, .errOk)
  | .stepUnloadTimeout => (s.stepUnloadTimeout env, .errOk)
  | .startUnloadEvent => (s.startUnloadEvent, .errOk)
  | .stepUnloadEvent => (s.stepUnloadEvent env, .errOk)
  | .runRecoverTask => (s.runRecoverTask env, .errOk)
  | .subscribe listener foregroundOnly => (s.subscribeSystemProcess listener foregroundOnly, .errOk)
  | .unSubscribe listener foregroundOnly =>
      (s.unSubscribeSystemProcess listener foregroundOnly, .errOk)
  | .listenerDied remoteObject => (s.unSubscribeDiedListener remoteObject, .errOk)
  | .subscribeList procNames listener callingPid =>
      subscribeSystemProcessList listener callingPid procNames s
  | .unSubscribeList procNames listener callingPid =>
      (s.unSubscribeSystemProcessList listener callingPid procNames, .errOk)

/-- One step: an operation with the answers its environment gives during it. -/
def step (s : Scheduler) (label : Env × Op) : Scheduler := (s.exec label.1 label.2).1

/-- The scheduler after `Init` on the profiles and a sequence of operations. -/
def runFrom (saProfiles : List SaProfile) (ops : List (Env × Op)) : Scheduler :=
  Runs.run step (init saProfiles) ops

/-- A load request of a local client through the interface. -/
def localLoad (systemAbilityId callingPid : Int) (object : Nat) : LoadRequestInfo :=
  { deviceId := LOCAL_DEVICE
    callback := some ⟨object, object⟩
    systemAbilityId
    callingPid
    loadEvent := { eventId := INTERFACE_CALL, name := "load" } }

/-- An unload request of a local client through the interface. -/
def localUnload (systemAbilityId callingPid : Int) : UnloadRequestInfo :=
  { unloadEvent := { eventId := INTERFACE_CALL, name := "unload" }, systemAbilityId, callingPid }

end Scheduler

end Samgr
