import Samgr.Schedule.Context

/-! The state machine of abilities and processes, and what the scheduler does on
entering a state. Every function runs under the lock of the process concerned and
passes the whole scheduler along. -/
namespace Samgr

/-- `CanEnter` of the handler of the next ability state, on the current one. -/
def SystemAbilityState.canEnter : SystemAbilityState → SystemAbilityState → Bool
  | .notLoaded, fromState => fromState != .notLoaded
  | .loading, fromState => fromState == .notLoaded
  | .loaded, fromState =>
      fromState == .notLoaded || fromState == .loading || fromState == .unloadable
  | .unloadable, fromState => fromState == .loaded
  | .unloading, fromState => fromState == .unloadable

def SystemProcessState.canEnter : SystemProcessState → SystemProcessState → Bool
  | .notStarted, fromState => fromState != .notStarted
  | .started, fromState => fromState == .notStarted
  | .stopping, fromState => fromState == .started

def LOCAL_DEVICE : String := "local"
def MAX_DELAY_TIME : Int := 5 * 60 * 1000
def MAX_DURATION : Int := 10 * 60 * 1000
def ONCE_DELAY_TIME : Int := 10 * 1000
def MAX_PENDING_LOAD_COUNT : Nat := 50
def PENDING_LOAD_TIMEOUT_MS : Int := 60 * 1000
def RESTART_TIMES_LIMIT : Nat := 4
def RESTART_TIME_INTERVAL_LIMIT : Int := 20 * 1000
def SUBSYS_ACCOUNT_SYS_ABILITY_ID_BEGIN : Int := 200
def PARAM_LOW_MEM_PREPARE_NAME : String := "resourceschedule.memmgr.low.memory.prepare"

/-- Moves one ability of the process between two counters; fails on an empty one. -/
def updateStateCount (context : SystemProcessContext) (fromState toState : SystemAbilityState) :
    Option SystemProcessContext :=
  if context.abilityStateCountMap fromState = 0 then none
  else
    let left := Function.update context.abilityStateCountMap fromState
      (context.abilityStateCountMap fromState - 1)
    some { context with abilityStateCountMap := Function.update left toState (left toState + 1) }

namespace Scheduler

variable (env : Env) (s : Scheduler)

/-- `onEnter` is that of the handler of `nextState`. The handler map holds a handler
for each state, so the checks for a missing one have no counterpart here. -/
def abilityStateTransitionLocked (onEnter : Scheduler → Int → Scheduler) (systemAbilityId : Int)
    (nextState : SystemAbilityState) : Scheduler × ErrCode :=
  let currentState := (s.ability systemAbilityId).state
  let report := Event.transition systemAbilityId currentState nextState
  if currentState = nextState then (s.emit (report .errOk), .errOk)
  else if !nextState.canEnter currentState then
    (s.emit (report .transitSaStateFail), .transitSaStateFail)
  else
    match updateStateCount (s.ownProcess systemAbilityId) currentState nextState with
    | none => (s.emit (report .updateStateCountFail), .updateStateCountFail)
    | some processContext =>
        let entered := (((s.setProcess (s.ownProcessName systemAbilityId) fun _ =>
          processContext).setAbility systemAbilityId fun context =>
          { context with state := nextState }).emit (report .errOk))
        (onEnter entered systemAbilityId, .errOk)

def processStateTransitionLocked (onEnter : Scheduler → String → Scheduler) (processName : String)
    (nextState : SystemProcessState) : Scheduler × ErrCode :=
  let currentState := (s.process processName).state
  if currentState = nextState then (s, .errOk)
  else if !nextState.canEnter currentState then (s, .transitProcStateFail)
  else
    (onEnter (s.setProcess processName fun context => { context with state := nextState })
      processName, .errOk)

/-- Posts an unnamed task to the process handler; a refused submission leaves no task. -/
def postProcessTask (task : ProcessTask) : Scheduler :=
  if env.submitted s.now then { s with processHandler := s.processHandler.post task } else s

/-- The delay only fixes when the task becomes ready, and the queue has no clock; a
negative delay is rejected because it is converted to an unsigned number. -/
def sendDelayUnloadEventLocked (systemAbilityId delayTime : Int) : Scheduler × ErrCode :=
  if s.unloadEventHandler.hasNamed systemAbilityId then (s, .errOk)
  else if delayTime < 0 || !env.submitted s.now then (s, .sendEventFail)
  else
    ({ s with unloadEventHandler :=
        s.unloadEventHandler.postNamed systemAbilityId systemAbilityId }, .errOk)

def removeDelayUnloadEventLocked (systemAbilityId : Int) : Scheduler :=
  if s.unloadEventHandler.hasNamed systemAbilityId then
    { s with unloadEventHandler := s.unloadEventHandler.removeTask systemAbilityId }
  else s

def removePendingUnloadEventLocked (systemAbilityId : Int) : Scheduler :=
  if (s.ability systemAbilityId).pendingEvent = .unloadAbilityEvent then
    s.setAbility systemAbilityId fun context => { context with pendingEvent := .noEvent }
  else s

def systemProcessInfo (processName : String) : SystemProcessInfo :=
  { processName
    pid := (s.process processName).pid
    uid := (s.process processName).uid }

/-- Appends one notification for each listener, in the order of the list. -/
def notifyAll (listeners : List RemoteInterface) (event : RemoteInterface → Event) : Scheduler :=
  { s with log := (listeners.map event).reverse ++ s.log }

/-- The listeners that a process notification reaches: a listener subscribed only for
the foreground user is skipped while another user is in the foreground. -/
def processListenersReached : List RemoteInterface :=
  (s.processListeners.filter fun item =>
    item.hasDirectSubscription || !item.hasForegroundSubscription || env.isForegroundUser).map
      ProcessListener.listener

def notifyProcessStarted (processName : String) : Scheduler :=
  s.notifyAll (s.processListenersReached env) fun listener =>
    .onSystemProcessStarted listener (s.systemProcessInfo processName)

def notifyProcessStopped (processName : String) : Scheduler :=
  s.notifyAll (s.processListenersReached env) fun listener =>
    .onSystemProcessStopped listener (s.systemProcessInfo processName)

/-- The listeners of one process that are told when it becomes active or idle. -/
def procListeners (processName : String) : List RemoteInterface :=
  ((s.procListenerMap[processName]?).getD []).map ProcSubscription.listener

def notifyProcessActivated (processName : String) : Scheduler :=
  s.notifyAll (s.procListeners processName) fun listener =>
    .onSystemProcessActivated listener (s.systemProcessInfo processName)

def notifyProcessIdled (processName : String) : Scheduler :=
  s.notifyAll (s.procListeners processName) fun listener =>
    .onSystemProcessIdled listener (s.systemProcessInfo processName)

def isProcessActivatedLocked (processName : String) : Bool :=
  s.procListenerMap.contains processName &&
    (s.process processName).abilityStateCountMap .loaded == 1

def isProcessIdledLocked (processName : String) : Bool :=
  s.procListenerMap.contains processName &&
    (s.process processName).abilityStateCountMap .loaded == 0 &&
    (s.process processName).abilityStateCountMap .loading == 0

/-- `NotLoadedStateHandler::OnEnter`, which is `OnAbilityNotLoadedLocked`. -/
def onAbilityNotLoadedLocked (systemAbilityId : Int) : Scheduler :=
  let cleared := (s.removeDelayUnloadEventLocked systemAbilityId).removePendingUnloadEventLocked
    systemAbilityId
  match (cleared.ownProcess systemAbilityId).state with
  | .stopping => cleared.postProcessTask env
      (.tryKillSystemProcess (cleared.ownProcessName systemAbilityId))
  | .started => cleared.postProcessTask env
      (.tryUnloadAllSystemAbility (cleared.ownProcessName systemAbilityId))
  | .notStarted => cleared

/-- Entering LOADING or UNLOADING, and a process entering STOPPING, does nothing: the
scheduler keeps the listener's empty default there. -/
def onEnterNothing {κ : Type} (s : Scheduler) (_ : κ) : Scheduler := s

/-- `LoadedStateHandler::OnEnter` with `OnAbilityLoadedLocked`. -/
def onAbilityLoadedLocked (systemAbilityId : Int) : Scheduler :=
  let entered := s.setAbility systemAbilityId fun context => { context with lastIdleTime := -1 }
  let posted := entered.postProcessTask env (.pendingUnload systemAbilityId)
  let processName := posted.ownProcessName systemAbilityId
  if posted.isProcessActivatedLocked processName then posted.notifyProcessActivated processName
  else posted

def doUnloadSystemAbilityLocked (systemAbilityId : Int) : Scheduler × ErrCode :=
  match (s.ability systemAbilityId).unloadRequest with
  | none => (s, .errInvalidValue)
  | some request =>
      let result := env.doUnloadSystemAbility s.now
      let asked := s.emit (.doUnloadSystemAbility systemAbilityId request.unloadEvent result)
      if result = .errOk then
        asked.abilityStateTransitionLocked onEnterNothing systemAbilityId .unloading
      else (asked, result)

/-- `UnloadableStateHandler::OnEnter` with `OnAbilityUnloadableLocked`: an ability that
unloads independently leaves UNLOADABLE again from inside its own entry. -/
def onAbilityUnloadableLocked (systemAbilityId : Int) : Scheduler :=
  let entered := s.setAbility systemAbilityId fun context =>
    { context with lastIdleTime := env.getTickCount s.now 0 }
  let processName := entered.ownProcessName systemAbilityId
  let notified :=
    if entered.isProcessIdledLocked processName then entered.notifyProcessIdled processName
    else entered
  let unloaded :=
    if (notified.ability systemAbilityId).independentUnload then
      (notified.doUnloadSystemAbilityLocked env systemAbilityId).1
    else notified
  unloaded.postProcessTask env (.tryUnloadAllSystemAbility processName)

def toNotLoaded (systemAbilityId : Int) : Scheduler × ErrCode :=
  s.abilityStateTransitionLocked (onAbilityNotLoadedLocked env) systemAbilityId .notLoaded

def toLoading (systemAbilityId : Int) : Scheduler × ErrCode :=
  s.abilityStateTransitionLocked onEnterNothing systemAbilityId .loading

def toLoaded (systemAbilityId : Int) : Scheduler × ErrCode :=
  s.abilityStateTransitionLocked (onAbilityLoadedLocked env) systemAbilityId .loaded

def toUnloadable (systemAbilityId : Int) : Scheduler × ErrCode :=
  s.abilityStateTransitionLocked (onAbilityUnloadableLocked env) systemAbilityId .unloadable

end Scheduler

end Samgr
