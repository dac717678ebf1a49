import Samgr.Schedule.StateMachine
import Samgr.Lib.Runs

/-! The operations of the state scheduler. Each one is a section under the lock of one
process; the load and the check-and-start request are cut where they call into the
manager, so that the parts before and after the call can be used on their own. -/
namespace Samgr

def limitDelayUnloadTime (delayUnloadTime : Int) : Int :=
  if delayUnloadTime < 0 then 0
  else if delayUnloadTime > MAX_DELAY_TIME then MAX_DELAY_TIME
  else delayUnloadTime

namespace Scheduler

/-- One profile of `InitStateContext`. A profile without a process is skipped, and a
profile that repeats an id replaces the ability context but stays in both lists. -/
def initStateContext (s : Scheduler) (saProfile : SaProfile) : Scheduler :=
  if saProfile.process = "" then s
  else
    let named :=
      if saProfile.process ∈ s.processNames then s
      else { s with processNames := s.processNames ++ [saProfile.process] }
    let listed := named.setProcess saProfile.process fun context =>
      { context with
        saList := context.saList ++ [saProfile.saId]
        abilityStateCountMap := Function.update context.abilityStateCountMap .notLoaded
          (context.abilityStateCountMap .notLoaded + 1) }
    { listed with
      abilityIds :=
        if saProfile.saId ∈ listed.abilityIds then listed.abilityIds
        else listed.abilityIds ++ [saProfile.saId]
      ability := Function.update listed.ability saProfile.saId
        { ownProcessContext := saProfile.process
          systemAbilityId := saProfile.saId
          isAutoRestart := saProfile.autoRestart
          independentUnload := saProfile.independentUnload
          delayUnloadTime := limitDelayUnloadTime saProfile.delayTime } }

/-- The scheduler after `Init`. -/
def init (saProfiles : List SaProfile) : Scheduler := saProfiles.foldl initStateContext {}

variable (env : Env) (s : Scheduler)

def isSystemAbilityUnloading (systemAbilityId : Int) : Bool :=
  systemAbilityId ∈ s.abilityIds &&
    ((s.ability systemAbilityId).state == .unloading ||
      (s.ownProcess systemAbilityId).state == .stopping)

/-- The task is dropped if it cannot be submitted; the request is refused either way. -/
def handlePendingLoadOverflow (systemAbilityId : Int) : Scheduler × ErrCode :=
  if env.submitted s.now then
    ({ s with recoverHandler := s.recoverHandler.post systemAbilityId }, .pendLoadEventSizeLimit)
  else (s, .pendLoadEventSizeLimit)

def pendLoadEventLocked (systemAbilityId : Int) (loadRequestInfo : LoadRequestInfo) :
    Scheduler × ErrCode :=
  match loadRequestInfo.callback with
  | none => (s, .callbackNull)
  | some callback =>
      let processName := s.ownProcessName systemAbilityId
      let stamped :=
        if (s.process processName).pendingLoadFirstTimestamp = 0 then
          s.setProcess processName fun context =>
            { context with pendingLoadFirstTimestamp := env.getTickCount s.now 0 }
        else s
      let elapsed :=
        env.getTickCount s.now 1 - (stamped.process processName).pendingLoadFirstTimestamp
      let abilityContext := stamped.ability systemAbilityId
      let isExist := abilityContext.pendingLoadEventList.any fun item =>
        item.callback.any fun pended => pended.object == callback.object
      if isExist then (stamped, .errOk)
      else
        let count := abilityContext.pendingLoadEventCountMap loadRequestInfo.callingPid
        if count ≥ MAX_PENDING_LOAD_COUNT ∨ elapsed ≥ PENDING_LOAD_TIMEOUT_MS then
          stamped.handlePendingLoadOverflow env systemAbilityId
        else
          ((stamped.setAbility systemAbilityId fun context =>
            { context with
              pendingLoadEventCountMap := Function.update context.pendingLoadEventCountMap
                loadRequestInfo.callingPid (count + 1)
              pendingLoadEventList := context.pendingLoadEventList ++ [loadRequestInfo]
              pendingEvent := .loadAbilityEvent }).emit (.pended systemAbilityId loadRequestInfo),
            .errOk)

def activeSystemAbilityLocked (systemAbilityId : Int) (activeReason : OnDemandEvent) :
    Scheduler × ErrCode :=
  let result := env.activeSystemAbility s.now
  let asked := s.emit (.activeSystemAbility systemAbilityId activeReason result)
  if result then asked.toLoaded env systemAbilityId else (asked, .activeSaFail)

/-- The condition under which a load request is kept for later. -/
def pendsLoad (systemAbilityId : Int) : Bool :=
  (s.ability systemAbilityId).state == .unloading ||
    (s.ownProcess systemAbilityId).state == .stopping

/-- `HandleLoadAbilityEventLocked` up to the call of `DoLoadSystemAbilityLocked`: a code
if the request is answered without that call. -/
def beginLoad (systemAbilityId : Int) (loadRequestInfo : LoadRequestInfo) :
    Scheduler × Option ErrCode :=
  let entered := s.emit (.handleLoad systemAbilityId loadRequestInfo)
  if entered.pendsLoad systemAbilityId then
    let pended := entered.pendLoadEventLocked env systemAbilityId loadRequestInfo
    (pended.1, some pended.2)
  else
    match (entered.ability systemAbilityId).state with
    | .loading => (entered.removePendingUnloadEventLocked systemAbilityId, none)
    | .loaded => (entered.removeDelayUnloadEventLocked systemAbilityId, none)
    | .unloadable =>
        let active := entered.activeSystemAbilityLocked env systemAbilityId
          loadRequestInfo.loadEvent
        (active.1, if active.2 = .errOk then none else some active.2)
    | .notLoaded => (entered, none)
    | .unloading => (entered, some .invalidSaState)

/-- `DoLoadSystemAbilityLocked` after the manager has answered. -/
def finishLoad (systemAbilityId : Int) (result : ErrCode) : Scheduler × ErrCode :=
  if result = .errOk ∧ (s.ability systemAbilityId).state = .notLoaded then
    s.toLoading systemAbilityId
  else (s, result)

def doLoadSystemAbilityLocked (systemAbilityId : Int) (loadRequestInfo : LoadRequestInfo) :
    Scheduler × ErrCode :=
  let result := env.doLoadSystemAbility s.now
  (s.emit (.doLoadSystemAbility systemAbilityId loadRequestInfo result)).finishLoad
    systemAbilityId result

def handleLoadAbilityEventLocked (systemAbilityId : Int) (loadRequestInfo : LoadRequestInfo) :
    Scheduler × ErrCode :=
  match s.beginLoad env systemAbilityId loadRequestInfo with
  | (begun, some result) => (begun, result)
  | (begun, none) => begun.doLoadSystemAbilityLocked env systemAbilityId loadRequestInfo

def handleLoadAbilityEvent (loadRequestInfo : LoadRequestInfo) : Scheduler × ErrCode :=
  if loadRequestInfo.systemAbilityId ∈ s.abilityIds then
    s.handleLoadAbilityEventLocked env loadRequestInfo.systemAbilityId loadRequestInfo
  else (s, .getSaContextFail)

/-- The check-and-start form of `HandleLoadAbilityEvent` up to the call of
`DoLoadOnDemandAbility`: the result and `isExist` if there is no such call. -/
def beginCheckStart (systemAbilityId : Int) : Option (ErrCode × Bool) :=
  if systemAbilityId ∉ s.abilityIds then some (.errInvalidValue, false)
  else
    match (s.ownProcess systemAbilityId).state with
    | .notStarted => some (.errInvalidValue, false)
    | .started =>
        if (s.ability systemAbilityId).state = .notLoaded then none else some (.errOk, true)
    | .stopping => some (.errOk, true)

def finishCheckStart (systemAbilityId : Int) (result : Bool) : Scheduler × ErrCode :=
  if result then s.toLoading systemAbilityId else (s, .errInvalidValue)

def checkStartAbilityEvent (systemAbilityId : Int) : Scheduler × ErrCode × Bool :=
  match s.beginCheckStart systemAbilityId with
  | some answer => (s, answer)
  | none =>
      let answer := env.doLoadOnDemandAbility s.now
      let asked := s.emit (.doLoadOnDemandAbility systemAbilityId answer.1 answer.2)
      let finished := asked.finishCheckStart systemAbilityId answer.1
      (finished.1, finished.2, answer.2)

def processDelayUnloadEventLocked (systemAbilityId : Int) : Scheduler × ErrCode :=
  match (s.ability systemAbilityId).unloadRequest with
  | none => (s, .unloadRequestNull)
  | some request =>
      if (s.ability systemAbilityId).state ≠ .loaded then (s, .errOk)
      else
        let answer := env.idleSystemAbility s.now
        let asked := s.emit (.idleSystemAbility systemAbilityId request.unloadEvent answer)
        match answer with
        | none => (asked, .idleSaFail)
        | some delayTime =>
            if delayTime < 0 then (asked, .errOk)
            else if delayTime = 0 then asked.toUnloadable env systemAbilityId
            else asked.sendDelayUnloadEventLocked env systemAbilityId (min delayTime MAX_DELAY_TIME)

def processDelayUnloadEvent (systemAbilityId : Int) : Scheduler × ErrCode :=
  if systemAbilityId ∈ s.abilityIds then s.processDelayUnloadEventLocked env systemAbilityId
  else (s, .getSaContextFail)

def pendUnloadEventLocked (systemAbilityId : Int) (unloadRequestInfo : UnloadRequestInfo) :
    Scheduler × ErrCode :=
  (s.setAbility systemAbilityId fun context =>
    { context with
      pendingEvent := .unloadAbilityEvent
      pendingUnloadEvent := some unloadRequestInfo }, .errOk)

def handleUnloadAbilityEventLocked (systemAbilityId : Int)
    (unloadRequestInfo : Option UnloadRequestInfo) : Scheduler × ErrCode :=
  match unloadRequestInfo with
  | none => (s, .unloadRequestNull)
  | some request =>
      let noted := s.setAbility systemAbilityId fun context =>
        { context with unloadRequest := some request }
      match (noted.ability systemAbilityId).state with
      | .loading => noted.pendUnloadEventLocked systemAbilityId request
      | .loaded =>
          if request.unloadEvent.eventId = INTERFACE_CALL
              ∨ request.unloadEvent.name = PARAM_LOW_MEM_PREPARE_NAME then
            noted.processDelayUnloadEventLocked env systemAbilityId
          else
            noted.sendDelayUnloadEventLocked env systemAbilityId
              (noted.ability systemAbilityId).delayUnloadTime
      | _ => (noted, .errOk)

def handleUnloadAbilityEvent (unloadRequestInfo : Option UnloadRequestInfo) :
    Scheduler × ErrCode :=
  match unloadRequestInfo with
  | none => (s, .unloadRequestNull)
  | some request =>
      if request.systemAbilityId ∈ s.abilityIds then
        s.handleUnloadAbilityEventLocked env request.systemAbilityId (some request)
      else (s, .getSaContextFail)

def cancelUnloadReason : OnDemandEvent :=
  { eventId := INTERFACE_CALL, name := "cancelUnload" }

def handleCancelUnloadAbilityEvent (systemAbilityId : Int) : Scheduler × ErrCode :=
  if systemAbilityId ∉ s.abilityIds then (s, .errInvalidValue)
  else
    match (s.ability systemAbilityId).state with
    | .unloadable => s.activeSystemAbilityLocked env systemAbilityId cancelUnloadReason
    | _ => (s, .errOk)

/-- The task posted on entering LOADED. -/
def handlePendingUnloadEventLocked (systemAbilityId : Int) : Scheduler × ErrCode :=
  if (s.ability systemAbilityId).pendingEvent ≠ .unloadAbilityEvent then (s, .errOk)
  else
    (s.setAbility systemAbilityId fun context =>
      { context with pendingEvent := .noEvent }).handleUnloadAbilityEventLocked env systemAbilityId
        (s.ability systemAbilityId).pendingUnloadEvent

def handleAbilityLoadFailedEventLocked (systemAbilityId : Int) : Scheduler × ErrCode :=
  match (s.ability systemAbilityId).state with
  | .loading => (s.removePendingUnloadEventLocked systemAbilityId).toNotLoaded env systemAbilityId
  | _ => (s, .errInvalidValue)

def handleAbilityLoadSuccessEventLocked (systemAbilityId : Int) : Scheduler × ErrCode :=
  match (s.ability systemAbilityId).state with
  | .notLoaded => s.toLoaded env systemAbilityId
  | .loading => s.toLoaded env systemAbilityId
  | _ => (s, .errInvalidValue)

def handleAbilityUnLoadSuccessEventLocked (systemAbilityId : Int) : Scheduler × ErrCode :=
  match (s.ability systemAbilityId).state with
  | .loading => (s.removePendingUnloadEventLocked systemAbilityId).toNotLoaded env systemAbilityId
  | .loaded => s.toNotLoaded env systemAbilityId
  | .unloadable => s.toNotLoaded env systemAbilityId
  | .unloading => s.toNotLoaded env systemAbilityId
  | .notLoaded => (s, .errInvalidValue)

def sendAbilityStateEvent (systemAbilityId : Int) (event : AbilityStateEvent) :
    Scheduler × ErrCode :=
  if systemAbilityId ∉ s.abilityIds then (s, .errInvalidValue)
  else
    match event with
    | .abilityLoadFailedEvent => s.handleAbilityLoadFailedEventLocked env systemAbilityId
    | .abilityLoadSuccessEvent => s.handleAbilityLoadSuccessEventLocked env systemAbilityId
    | .abilityUnloadSuccessEvent => s.handleAbilityUnLoadSuccessEventLocked env systemAbilityId

/-- The loop of `HandlePendingLoadEventLocked`. The requests replayed are those that were
in the list when the loop began: a replayed request that is pended again finds its own
callback there and is not appended. -/
def replayPendingLoads (systemAbilityId : Int) : List LoadRequestInfo → Scheduler → Scheduler
  | [], s => s
  | loadRequestInfo :: rest, s =>
      replayPendingLoads systemAbilityId rest
        (s.handleLoadAbilityEventLocked env systemAbilityId loadRequestInfo).1

def clearPendingLoads (systemAbilityId : Int) : Scheduler :=
  s.setAbility systemAbilityId fun context =>
    { context with pendingLoadEventList := [], pendingLoadEventCountMap := fun _ => 0 }

def handlePendingLoadEventLocked (systemAbilityId : Int) : Scheduler :=
  if (s.ability systemAbilityId).pendingEvent ≠ .loadAbilityEvent then s
  else
    let begun := s.setAbility systemAbilityId fun context => { context with pendingEvent := .noEvent }
    (replayPendingLoads env systemAbilityId (s.ability systemAbilityId).pendingLoadEventList
      begun).clearPendingLoads systemAbilityId

/-- One ability of the stopped process in `OnProcessNotStartedLocked`. -/
def stopAbility (systemAbilityId : Int) : Scheduler :=
  if systemAbilityId ∉ s.abilityIds then s
  else
    let stopped := s.toNotLoaded env systemAbilityId
    if stopped.2 = .errOk then stopped.1.handlePendingLoadEventLocked env systemAbilityId
    else stopped.1

/-- One ability of the stopped process in `GetAbnormallyDiedAbilityLocked`: the log, and
whether the ability is to be restarted. -/
def abnormallyDied (systemAbilityId : Int) : Scheduler × Bool :=
  if systemAbilityId ∉ s.abilityIds then (s, false)
  else
    match (s.ability systemAbilityId).state with
    | .loaded | .loading =>
        let crashed := s.emit (.sendUpdateSaState systemAbilityId)
        let reported :=
          if (s.ability systemAbilityId).systemAbilityId = SUBSYS_ACCOUNT_SYS_ABILITY_ID_BEGIN then
            crashed.emit .removeWhiteCommonEvent
          else crashed
        (reported, (s.ability systemAbilityId).isAutoRestart && !env.minMemoryWatermark reported.now)
    | _ => (s, false)

def getAbnormallyDiedAbilityLocked : List Int → Scheduler → Scheduler × List Int
  | [], s => (s, [])
  | systemAbilityId :: rest, s =>
      let died := s.abnormallyDied env systemAbilityId
      let others := getAbnormallyDiedAbilityLocked rest died.1
      (others.1, if died.2 then systemAbilityId :: others.2 else others.2)

def canRestartProcessLocked (processName : String) : Scheduler × Bool :=
  let context := s.process processName
  if !context.enableRestart then (s, false)
  else
    let curtime := env.getTickCount s.now 0
    if context.restartCountsCtrl.length < RESTART_TIMES_LIMIT then
      (s.setProcess processName fun context =>
        { context with restartCountsCtrl := context.restartCountsCtrl ++ [curtime] }, true)
    else if context.restartCountsCtrl.length = RESTART_TIMES_LIMIT then
      if curtime - context.restartCountsCtrl.headD 0 < RESTART_TIME_INTERVAL_LIMIT then
        (s.setProcess processName fun context => { context with enableRestart := false }, false)
      else
        (s.setProcess processName fun context =>
          { context with restartCountsCtrl := (context.restartCountsCtrl ++ [curtime]).tail }, true)
    else (s, false)

def restartRequest (systemAbilityId : Int) : LoadRequestInfo :=
  { deviceId := LOCAL_DEVICE
    callback := some env.newLoadCallback
    systemAbilityId
    loadEvent := { eventId := INTERFACE_CALL, name := "restart" } }

def restartAbility (systemAbilityId : Int) : Scheduler :=
  ((s.emit (.removeDiedSystemAbility systemAbilityId)).handleLoadAbilityEventLocked env
    systemAbilityId (restartRequest env systemAbilityId)).1

def handleAbnormallyDiedAbilityLocked (processName : String) (died : List Int) : Scheduler :=
  if died = [] then s
  else
    let allowed := s.canRestartProcessLocked env processName
    if allowed.2 then died.foldl (restartAbility env) allowed.1 else allowed.1

/-- `OnProcessNotStartedLocked` before its loop over the abilities of the process. -/
def leaveProcess (processName : String) : Scheduler :=
  let notified := s.notifyProcessStopped env processName
  { notified with
    processHandler := notified.processHandler.removeTask processName }.emit
      (.removeOnDemandSaInDiedProc processName)

/-- `NotStartedStateHandler::OnEnter` with `OnProcessNotStartedLocked`. -/
def onProcessNotStartedLocked (processName : String) : Scheduler :=
  let entered := s.setProcess processName fun context =>
    { context with
      lastStopTime := env.getTickCount s.now 0
      pendingLoadFirstTimestamp := 0 }
  let left := entered.leaveProcess env processName
  let died := getAbnormallyDiedAbilityLocked env (left.process processName).saList left
  let stopped := (died.1.process processName).saList.foldl (stopAbility env) died.1
  stopped.handleAbnormallyDiedAbilityLocked env processName died.2

def handleProcessStartedEventLocked (processInfo : ProcessInfo) : Scheduler × ErrCode :=
  let noted := s.setProcess processInfo.processName fun context =>
    { context with pid := processInfo.pid, uid := processInfo.uid }
  match (noted.process processInfo.processName).state with
  | .notStarted => noted.processStateTransitionLocked (notifyProcessStarted env)
      processInfo.processName .started
  | _ => (noted, .errInvalidValue)

def handleProcessStoppedEventLocked (processInfo : ProcessInfo) : Scheduler × ErrCode :=
  match (s.process processInfo.processName).state with
  | .started => s.processStateTransitionLocked (onProcessNotStartedLocked env)
      processInfo.processName .notStarted
  | .stopping => s.processStateTransitionLocked (onProcessNotStartedLocked env)
      processInfo.processName .notStarted
  | .notStarted => (s, .errInvalidValue)

def addRunningProcessLocked (processName : String) : Scheduler :=
  if s.runningProcessList.any fun info => info.processName == processName then
    { s with runningProcessList := s.runningProcessList.replaceF fun info =>
        if info.processName == processName then some (s.systemProcessInfo processName) else none }
  else
    { s with runningProcessList := s.runningProcessList ++ [s.systemProcessInfo processName] }

def removeRunningProcessLocked (processName : String) : Scheduler :=
  { s with runningProcessList :=
      s.runningProcessList.eraseP fun info => info.processName == processName }

def sendProcessStateEvent (processInfo : ProcessInfo) (event : ProcessStateEvent) :
    Scheduler × ErrCode :=
  if processInfo.processName ∉ s.processNames then (s, .errInvalidValue)
  else
    match event with
    | .processStartedEvent =>
        let handled := s.handleProcessStartedEventLocked env processInfo
        if handled.2 = .errOk then
          (handled.1.addRunningProcessLocked processInfo.processName, .errOk)
        else handled
    | .processStoppedEvent =>
        let handled := s.handleProcessStoppedEventLocked env processInfo
        if handled.2 = .errOk then
          (handled.1.removeRunningProcessLocked processInfo.processName, .errOk)
        else handled

def checkSaIsImmediatelyRecycle (processName : String) : Bool :=
  (s.process processName).saList.any env.checkSaIsImmediatelyRecycle

def canUnloadAllSystemAbilityLocked (processName : String) (isNeedCheckRecycleStrategy : Bool) :
    Bool :=
  let context := s.process processName
  let notLoadAbilityCount := context.abilityStateCountMap .notLoaded
  let unloadableAbilityCount := context.abilityStateCountMap .unloadable
  let unloadingAbilityCount := context.abilityStateCountMap .unloading
  if unloadableAbilityCount = 0 ∧ unloadingAbilityCount = 0 then false
  else if notLoadAbilityCount + unloadableAbilityCount + unloadingAbilityCount =
      context.saList.length then
    if isNeedCheckRecycleStrategy then s.checkSaIsImmediatelyRecycle env processName else true
  else false

def unloadOne (systemAbilityId : Int) : Scheduler :=
  if systemAbilityId ∉ s.abilityIds then s
  else if (s.ability systemAbilityId).state = .unloadable then
    (s.doUnloadSystemAbilityLocked env systemAbilityId).1
  else s

/-- The timeout task is recorded under the name of the process. -/
def postUnloadTimeoutTask (processName : String) : Scheduler :=
  if env.submitted s.now then
    { s with processHandler := s.processHandler.postNamed processName (.unloadTimeout processName) }
  else s

def unloadAllSystemAbilityLocked (processName : String) : Scheduler × ErrCode :=
  let unloaded := (s.process processName).saList.foldl (unloadOne env) s
  (unloaded.postUnloadTimeoutTask env processName).processStateTransitionLocked onEnterNothing
    processName .stopping

def tryUnloadAllSystemAbility (processName : String) : Scheduler × ErrCode :=
  if s.canUnloadAllSystemAbilityLocked env processName true then
    s.unloadAllSystemAbilityLocked env processName
  else (s, .errOk)

/-- One process of `UnloadProcess` or of `UnloadAllIdleSystemAbility`: each takes the lock
of one process of its list after the other. -/
def unloadProcess (processName : String) : Scheduler × ErrCode :=
  if processName ∈ s.processNames ∧ s.canUnloadAllSystemAbilityLocked env processName false then
    s.unloadAllSystemAbilityLocked env processName
  else (s, .errOk)

def canKillSystemProcessLocked (processName : String) : Bool :=
  (s.process processName).abilityStateCountMap .notLoaded == (s.process processName).saList.length

def killSystemProcessLocked (processName : String) : Scheduler :=
  s.emit (.serviceControlStop processName (env.serviceControl s.now))

def tryKillSystemProcess (processName : String) : Scheduler :=
  if s.canKillSystemProcessLocked processName then s.killSystemProcessLocked env processName else s

def updateLimitDelayUnloadTimeTask (systemAbilityId : Int) : Scheduler :=
  if systemAbilityId ∉ s.abilityIds then s
  else
    let context := s.ability systemAbilityId
    let delayUnloadTime :=
      if context.lastStartTime ≠ 0
          ∧ env.getTickCount s.now 0 - context.lastStartTime ≤ MAX_DURATION then
        limitDelayUnloadTime (context.delayUnloadTime + ONCE_DELAY_TIME)
      else context.delayUnloadTime
    s.setAbility systemAbilityId fun context =>
      { context with delayUnloadTime, lastStartTime := env.getTickCount s.now 1 }

/-- A started task of the process handler, up to its end or, for the timeout task, up to
the point where it deletes its handle. -/
def runProcessTask : ProcessTask → Scheduler
  | .updateLimitDelayUnloadTime systemAbilityId =>
      s.updateLimitDelayUnloadTimeTask env systemAbilityId
  | .tryUnloadAllSystemAbility processName => (s.tryUnloadAllSystemAbility env processName).1
  | .unloadTimeout processName => { s with unloadTimeoutRunning := some (processName, .dequeued) }
  | .tryKillSystemProcess processName => s.tryKillSystemProcess env processName
  | .pendingUnload systemAbilityId =>
      if systemAbilityId ∈ s.abilityIds then
        (s.handlePendingUnloadEventLocked env systemAbilityId).1
      else s

def unloadTimeoutTask (processName : String) : Scheduler :=
  if (s.process processName).state = .stopping then s.killSystemProcessLocked env processName
  else s

/-- The locked part of `ProcessPendingLoadOverflow`. -/
def clearPendingLoadOverflow (systemAbilityId : Int) : Scheduler :=
  (s.clearPendingLoads systemAbilityId).setProcess (s.ownProcessName systemAbilityId)
    fun context => { context with pendingLoadFirstTimestamp := 0 }

def processPendingLoadOverflow (systemAbilityId : Int) : Scheduler :=
  let processName := s.ownProcessName systemAbilityId
  if (s.process processName).state ≠ .stopping then s
  else
    let cleared := s.clearPendingLoadOverflow systemAbilityId
    if env.checkProcessStarted then cleared.killSystemProcessLocked env processName
    else if env.getSystemProcess then cleared.emit (.removeSystemProcess processName)
    else cleared

end Scheduler

end Samgr
