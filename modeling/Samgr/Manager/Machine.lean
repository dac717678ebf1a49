import Samgr.Manager.Sections
import Samgr.Lib.Threads

/-! The manager as a machine of threads. A call becomes a thread of pieces, one for each lock
section it runs through, and the worker runs the tasks of the work handler. A piece that
takes the lock of a process and keeps it ends in the piece that releases it. -/
namespace Samgr

inductive Lock where
  | process (processName : String)
  | onDemand
  deriving DecidableEq, Repr

/-- A load request on its way: `held` is the process whose lock its thread holds, and `since`
the length of the registry's history when the request came. -/
structure Loading where
  held : String
  systemAbilityId : Int
  callback : RemoteInterface
  request : LoadRequestInfo
  since : Nat
  deriving DecidableEq, Repr

def Loading.isLocal (load : Loading) : Bool := load.request.deviceId == LOCAL_DEVICE

inductive Piece where
  -- AddSystemAbility and RemoveSystemAbility
  | refreshListenerState (systemAbilityId : Int) (saInfo : SAInfo)
  | insertAbility (systemAbilityId : Int) (saInfo : SAInfo)
  | removeCheckLoadedMsg (systemAbilityId : Int)
  | updateLimitDelayUnloadTime (systemAbilityId : Int)
  | sendAbilityStateEvent (systemAbilityId : Int) (event : AbilityStateEvent)
  | sendSystemAbilityAddedMsg (systemAbilityId : Int) (remoteObject : Nat)
  | eraseAbility (systemAbilityId : Int)
  | eraseObject (ability : Nat)
  | eraseDiedAbility (systemAbilityId : Int)
  | sendSystemAbilityRemovedMsg (systemAbilityId : Int)
  -- a load request
  | lockForLoad (load : Loading)
  | beginLoad (load : Loading)
  | doLoadSystemAbility (load : Loading)
  | sendLoadedSystemAbilityMsg (load : Loading) (remoteObject : Nat)
  | registerCallback (load : Loading)
  | startingSystemProcess (load : Loading)
  | startOnDemandAbility (load : Loading)
  | markStartingProcess (load : Loading)
  | startDynamicSystemProcess (load : Loading)
  | eraseStartingProcess (procName : String)
  | sendCheckLoadedMsg (load : Loading)
  | finishLoad (load : Loading) (result : ErrCode)
  -- CheckSystemAbility with isExist
  | isSystemAbilityUnloading (systemAbilityId : Int)
  | checkSystemAbility (systemAbilityId : Int)
  | lockForCheckStart (processName : String) (systemAbilityId : Int)
  | checkOnDemand (processName : String) (systemAbilityId : Int)
  | doLoadOnDemandAbility (processName : String) (systemAbilityId : Int)
  | finishCheckStart (processName : String) (systemAbilityId : Int) (result isExist : Bool)
  -- other sections under onDemandLock_
  | checkStartFail (systemAbilityId errCode : Int) (callingProc : String)
  | onStartSystemAbilityFail (systemAbilityId errCode : Int) (process : String)
  | onAbilityCallbackDied (remoteObject : Nat)
  | addOnDemandSystemAbilityInfo (systemAbilityId : Int) (procName : String)
  -- tasks of the work handler
  | findSystemAbilityNotify (systemAbilityId : Int) (added : Bool)
  | notifySystemAbilityLoaded (systemAbilityId : Int) (remoteObject : Nat)
  | notifyLoaded (systemAbilityId : Int) (remoteObject : Nat) (callback : RemoteInterface)
      (since : Nat)
  | notifyLoadFail (systemAbilityId : Int) (callbackItem : CallbackItem)
  | listenerNotify (systemAbilityId : Int) (listener : RemoteInterface)
  | delTask (systemAbilityId : Int)
  | checkLoaded (systemAbilityId : Int) (name srcDeviceId : String) (callback : RemoteInterface)
  | cleanCallback (systemAbilityId : Int) (srcDeviceId : String) (callback : RemoteInterface)
  | startNamedAbility (procName : String) (systemAbilityId : Int)
  -- listeners
  | subscribe (systemAbilityId : Int) (listener : RemoteInterface) (callingPid : Int)
  | checkListener (systemAbilityId : Int) (listener : RemoteInterface)
  | checkListenerNotify (systemAbilityId : Int) (listener : RemoteInterface)
  | unSubscribe (systemAbilityId : Int) (listener : RemoteInterface)
  | unSubscribeDied (remoteObject : Nat)
  -- processes
  | insertProcess (processInfo : ProcessInfo) (procObject : Nat)
  | processStarted (processInfo : ProcessInfo)
  | eraseProcess (procObject : Nat)
  | lockForStop (processName : String)
  | removeOnDemandSaInDiedProc (processName : String)
  | getAbnormallyDied (processName : String)
  | stopAbility (processName : String) (systemAbilityId : Int)
  | clearPendingLoads (systemAbilityId : Int)
  | restartDied (processName : String) (died : List Int)
  | removeRunningProcess (processName : String)
  | removeStuckProcess (processName : String)
  -- the scheduler on its own, and the end of a lock
  | schedule (op : Scheduler.Op)
  | unlock (lock : Lock)
  deriving DecidableEq, Repr

inductive Call where
  | addSystemAbility (systemAbilityId : Int) (ability : Nat) (isDistributed : Bool)
  | removeSystemAbility (systemAbilityId : Int)
  | removeObject (ability : Nat)
  | load (loadRequestInfo : LoadRequestInfo)
  | checkSystemAbility (systemAbilityId : Int)
  | onStartSystemAbilityFail (systemAbilityId errCode : Int) (callingProc : String)
  | onAbilityCallbackDied (remoteObject : Nat)
  | addOnDemandSystemAbilityInfo (systemAbilityId : Int) (procName : String)
  | subscribeSystemAbility (systemAbilityId : Int) (listener : RemoteInterface) (callingPid : Int)
  | unSubscribeSystemAbility (systemAbilityId : Int) (listener : RemoteInterface)
  | unSubscribeDied (remoteObject : Nat)
  | addSystemProcess (processInfo : ProcessInfo) (procObject : Nat)
  | removeSystemProcess (procObject : Nat)
  | schedule (op : Scheduler.Op)

/-- A delayed task of the work handler becomes ready. -/
inductive Action where
  | expire (handle : Nat)

/-- The operations that the machine runs piece by piece, through the manager. -/
def Scheduler.Op.throughManager : Scheduler.Op → Bool
  | .load _ | .checkStart _ | .abilityEvent _ _ | .processEvent _ _ => true
  | _ => false

namespace Scheduler

/-- The process whose lock a task of the process handler takes. -/
def taskLock (s : Scheduler) : ProcessTask → Option String
  | .updateLimitDelayUnloadTime systemAbilityId | .pendingUnload systemAbilityId =>
      if systemAbilityId ∈ s.abilityIds then some (s.ownProcessName systemAbilityId) else none
  | .tryUnloadAllSystemAbility processName | .tryKillSystemProcess processName => some processName
  | .unloadTimeout _ => none

/-- The process whose lock an operation takes. -/
def opLock (s : Scheduler) : Op → Option String
  | .unload (some request) =>
      if request.systemAbilityId ∈ s.abilityIds then some (s.ownProcessName request.systemAbilityId)
      else none
  | .cancelUnload systemAbilityId =>
      if systemAbilityId ∈ s.abilityIds then some (s.ownProcessName systemAbilityId) else none
  | .unloadProcess processName => some processName
  | .startProcessTask => s.processHandler.pop.bind fun popped => s.taskLock popped.1
  | .stepUnloadTimeout =>
      match s.unloadTimeoutRunning with
      | some (processName, .waitingForLock) => some processName
      | _ => none
  | .stepUnloadEvent =>
      match s.unloadEventRunning with
      | some (systemAbilityId, .waitingForLock) =>
          if systemAbilityId ∈ s.abilityIds then some (s.ownProcessName systemAbilityId) else none
      | _ => none
  | .runRecoverTask => s.recoverHandler.pop.map fun popped => s.ownProcessName popped.1
  | _ => none

/-- The entry into NOT_STARTED up to the call of `RemoveOnDemandSaInDiedProc`. -/
def enterNotStarted (env : Env) (s : Scheduler) (processName : String) : Scheduler :=
  (s.setProcess processName fun context =>
    { context with
      lastStopTime := env.getTickCount s.now 0
      pendingLoadFirstTimestamp := 0 }).leaveProcess env processName

/-- One ability of the stopped process up to the replay of its pended requests, and whether
they are replayed. -/
def beginReplay (env : Env) (s : Scheduler) (systemAbilityId : Int) : Scheduler × Bool :=
  if systemAbilityId ∉ s.abilityIds then (s, false)
  else
    let stopped := s.toNotLoaded env systemAbilityId
    if stopped.2 = .errOk ∧ (stopped.1.ability systemAbilityId).pendingEvent = .loadAbilityEvent then
      (stopped.1.setAbility systemAbilityId fun context => { context with pendingEvent := .noEvent },
        true)
    else (stopped.1, false)

end Scheduler

/-- The pieces that follow the start of the process: for a remote request they wait behind
the section that is still open. -/
def Loading.afterStart (load : Loading) (result : ErrCode) : List Piece :=
  if load.isLocal then [.sendCheckLoadedMsg load, .finishLoad load result] else []

def WorkTask.pieces : WorkTask → List Piece
  | .notifyAdded systemAbilityId remoteObject =>
      [.findSystemAbilityNotify systemAbilityId true,
        .notifySystemAbilityLoaded systemAbilityId remoteObject]
  | .notifyRemoved systemAbilityId => [.findSystemAbilityNotify systemAbilityId false]
  | .checkLoaded systemAbilityId name srcDeviceId callback =>
      [.delTask systemAbilityId, .checkLoaded systemAbilityId name srcDeviceId callback]
  | .notifyLoaded systemAbilityId remoteObject callback since =>
      [.notifyLoaded systemAbilityId remoteObject callback since]
  | .notifyLoadFail systemAbilityId callbackItem => [.notifyLoadFail systemAbilityId callbackItem]
  | .listenerNotify systemAbilityId listener => [.listenerNotify systemAbilityId listener]
  | .startOnDemand procName systemAbilityId => [.startNamedAbility procName systemAbilityId]

namespace Manager

variable (m : Manager)

def report (report : Report) : Manager := { m with reports := report :: m.reports }

/-- The pieces a call begins with, after its checks of the arguments. -/
def enter : Call → List Piece
  | .addSystemAbility systemAbilityId ability isDistributed =>
      if checkInputSysAbilityId systemAbilityId then
        [.refreshListenerState systemAbilityId ⟨ability, isDistributed⟩]
      else []
  | .removeSystemAbility systemAbilityId =>
      if checkInputSysAbilityId systemAbilityId then [.eraseAbility systemAbilityId] else []
  | .removeObject ability => [.eraseObject ability]
  | .load request =>
      match request.callback with
      | none => []
      | some callback =>
          if request.systemAbilityId ∈ m.sched.abilityIds ∧
              (request.loadEvent.eventId = INTERFACE_CALL →
                checkInputSysAbilityId request.systemAbilityId) then
            [.lockForLoad
              { held := m.sched.ownProcessName request.systemAbilityId
                systemAbilityId := request.systemAbilityId
                callback
                request
                since := m.history.length }]
          else []
  | .checkSystemAbility systemAbilityId =>
      if checkInputSysAbilityId systemAbilityId then [.isSystemAbilityUnloading systemAbilityId]
      else []
  | .onStartSystemAbilityFail systemAbilityId errCode callingProc =>
      [.checkStartFail systemAbilityId errCode callingProc]
  | .onAbilityCallbackDied remoteObject => [.onAbilityCallbackDied remoteObject]
  | .addOnDemandSystemAbilityInfo systemAbilityId procName =>
      if checkInputSysAbilityId systemAbilityId && !isNameInValid procName then
        [.addOnDemandSystemAbilityInfo systemAbilityId procName]
      else []
  | .subscribeSystemAbility systemAbilityId listener callingPid =>
      if checkInputSysAbilityId systemAbilityId then
        [.subscribe systemAbilityId listener callingPid]
      else []
  | .unSubscribeSystemAbility systemAbilityId listener =>
      if checkInputSysAbilityId systemAbilityId then [.unSubscribe systemAbilityId listener] else []
  | .unSubscribeDied remoteObject => [.unSubscribeDied remoteObject]
  | .addSystemProcess processInfo procObject =>
      if processInfo.processName ≠ "" then [.insertProcess processInfo procObject] else []
  | .removeSystemProcess procObject => [.eraseProcess procObject]
  | .schedule op => [.schedule op]

/-- The replay of a pended request: it was kept only with a callback. -/
def replay (processName : String) (systemAbilityId : Int) (request : LoadRequestInfo) :
    List Piece :=
  match request.callback with
  | none => []
  | some callback =>
      [.beginLoad { held := processName, systemAbilityId, callback, request, since := m.history.length }]

def restart (env : Env) (processName : String) (systemAbilityId : Int) : List Piece :=
  [.eraseDiedAbility systemAbilityId,
    .beginLoad
      { held := processName
        systemAbilityId
        callback := env.newLoadCallback
        request := Scheduler.restartRequest env systemAbilityId
        since := m.history.length }]

/-- What one piece does to the manager, and the pieces that follow from it. -/
def exec (env : Env) (m : Manager) : Piece → Manager × List Piece
  | .refreshListenerState sa saInfo =>
      (m.refreshListenerState sa,
        if saInfo.isDistributed = m.isDistributedSystemAbility sa then [.insertAbility sa saInfo]
        else [])
  | .insertAbility sa saInfo =>
      match m.insertAbility sa saInfo with
      | none => (m, [])
      | some inserted =>
          (inserted,
            [.removeCheckLoadedMsg sa, .updateLimitDelayUnloadTime sa,
              .sendAbilityStateEvent sa .abilityLoadSuccessEvent,
              .sendSystemAbilityAddedMsg sa saInfo.remoteObj])
  | .removeCheckLoadedMsg sa => (m.removeCheckLoadedMsg sa, [])
  | .updateLimitDelayUnloadTime sa =>
      ({ m with sched := m.sched.postProcessTask env (.updateLimitDelayUnloadTime sa) }, [])
  | .sendAbilityStateEvent sa event =>
      ({ m with sched := (m.sched.sendAbilityStateEvent env sa event).1 }, [])
  | .sendSystemAbilityAddedMsg sa remoteObject => (m.postTask (.notifyAdded sa remoteObject), [])
  | .eraseAbility sa =>
      match m.eraseAbility sa with
      | none => (m, [])
      | some erased =>
          (erased, [.sendAbilityStateEvent sa .abilityUnloadSuccessEvent,
            .sendSystemAbilityRemovedMsg sa])
  | .eraseObject ability =>
      -- an object registered under id 0 goes without a message
      match m.findObject ability with
      | none => (m, [])
      | some sa =>
          (m.setRegistry (m.abilityMap.erase sa),
            if sa ≠ 0 then [.sendSystemAbilityRemovedMsg sa] else [])
  | .eraseDiedAbility sa =>
      match m.eraseAbility sa with
      | none => (m, [])
      | some erased => (erased, [.sendSystemAbilityRemovedMsg sa])
  | .sendSystemAbilityRemovedMsg sa => (m.postTask (.notifyRemoved sa), [])
  | .lockForLoad load => (m, [.beginLoad load, .unlock (.process load.held)])
  | .beginLoad load =>
      let begun := m.sched.beginLoad env load.systemAbilityId load.request
      ({ m with sched := begun.1 },
        if begun.2 = none then [.doLoadSystemAbility load] else [])
  | .doLoadSystemAbility load =>
      (m, match m.checkSystemAbility load.systemAbilityId with
        | some remoteObject =>
            if load.isLocal ∧ load.request.loadEvent.eventId ≠ INTERFACE_CALL then
              [.finishLoad load .errOk]
            else [.sendLoadedSystemAbilityMsg load remoteObject, .finishLoad load .errOk]
        | none => [.registerCallback load])
  | .sendLoadedSystemAbilityMsg load remoteObject =>
      (m.postTask (.notifyLoaded load.systemAbilityId remoteObject load.callback load.since), [])
  | .registerCallback load =>
      if load.isLocal then
        let registered := m.registerCallback load.systemAbilityId load.callback
          load.request.callingPid load.request.loadEvent load.since
        (registered.1, match registered.2 with
          | some result => [.finishLoad load result]
          | none => [.startingSystemProcess load])
      else
        (m.registerRpcCallback load.systemAbilityId load.request.deviceId load.callback load.since,
          [.startingSystemProcess load, .unlock .onDemand, .sendCheckLoadedMsg load,
            .finishLoad load .errOk])
  | .startingSystemProcess load =>
      (m, if m.sched.ownProcessName load.systemAbilityId ∈ m.systemProcessMap then
          .startOnDemandAbility load :: load.afterStart .errOk
        else [.markStartingProcess load])
  | .startOnDemandAbility load => ((m.startOnDemandAbilityLocked load.systemAbilityId).1, [])
  | .markStartingProcess load =>
      match m.markStartingProcess (m.sched.ownProcessName load.systemAbilityId)
          load.systemAbilityId with
      | none => (m, load.afterStart .errOk)
      | some marked => (marked, [.startDynamicSystemProcess load])
  | .startDynamicSystemProcess load =>
      let result := env.serviceControl m.sched.now
      (m, if result = 0 then load.afterStart .errOk
        else .eraseStartingProcess (m.sched.ownProcessName load.systemAbilityId) ::
          load.afterStart (.other result))
  | .eraseStartingProcess procName => (m.eraseStartingProcess procName, [])
  | .sendCheckLoadedMsg load =>
      (m.sendCheckLoadedMsg load.systemAbilityId (m.sched.ownProcessName load.systemAbilityId)
        load.request.deviceId load.callback, [])
  | .finishLoad load result =>
      let answered := m.sched.emit (.doLoadSystemAbility load.systemAbilityId load.request result)
      ({ m with sched := (answered.finishLoad load.systemAbilityId result).1 }, [])
  | .isSystemAbilityUnloading sa =>
      (m, if m.sched.isSystemAbilityUnloading sa then [] else [.checkSystemAbility sa])
  | .checkSystemAbility sa =>
      (m, if m.checkSystemAbility sa = none ∧ sa ∈ m.sched.abilityIds then
          [.lockForCheckStart (m.sched.ownProcessName sa) sa]
        else [])
  | .lockForCheckStart processName sa =>
      (m, if m.sched.beginCheckStart sa = none then
          [.checkOnDemand processName sa, .unlock (.process processName)]
        else [])
  | .checkOnDemand processName sa =>
      (m, if m.checkSystemAbility sa = none then [.doLoadOnDemandAbility processName sa]
        else [.finishCheckStart processName sa true true])
  | .doLoadOnDemandAbility processName sa =>
      let started := m.doLoadOnDemandAbility sa
      (started.1, [.finishCheckStart processName sa started.2.1 started.2.2])
  | .finishCheckStart _ sa result isExist =>
      let answered := m.sched.emit (.doLoadOnDemandAbility sa result isExist)
      ({ m with sched := (answered.finishCheckStart sa result).1 }, [])
  | .checkStartFail sa errCode callingProc =>
      (m, match m.checkSystemAbility sa, m.getSaProfile sa with
        | none, some saProfile =>
            if saProfile.process = callingProc then
              [.onStartSystemAbilityFail sa errCode saProfile.process]
            else []
        | _, _ => [])
  | .onStartSystemAbilityFail sa errCode process =>
      (m.onStartSystemAbilityFail sa errCode process, [])
  | .onAbilityCallbackDied remoteObject => (m.onAbilityCallbackDied remoteObject, [])
  | .addOnDemandSystemAbilityInfo sa procName => (m.addOnDemandSystemAbilityInfo sa procName, [])
  | .findSystemAbilityNotify sa added =>
      -- a user in the background is not notified
      (if !env.isForegroundUser then m
        else if added then m.notifyListenersAdded sa else m.notifyListenersRemoved sa, [])
  | .notifySystemAbilityLoaded sa remoteObject => (m.notifySystemAbilityLoaded sa remoteObject, [])
  | .notifyLoaded sa remoteObject callback since =>
      (m.report (.onLoadSystemAbilitySuccess sa remoteObject callback since none), [])
  | .notifyLoadFail sa callbackItem =>
      (m.report (.onLoadSystemAbilityFail sa LOAD_SA_TIMEOUT callbackItem.callback callbackItem.id),
        [])
  | .listenerNotify sa listener => (m.report (.onAddSystemAbility sa listener), [])
  | .delTask sa => ({ m with workHandler := m.workHandler.delTask sa }, [])
  | .checkLoaded sa name srcDeviceId callback =>
      (m, if m.checkSystemAbility sa = none then
          [.eraseStartingProcess name, .cleanCallback sa srcDeviceId callback,
            .sendAbilityStateEvent sa .abilityLoadFailedEvent]
        else [])
  | .cleanCallback sa srcDeviceId callback =>
      (m.cleanCallbackForLoadFailed sa srcDeviceId callback, [])
  | .startNamedAbility procName sa => (m.startNamedAbilityLocked procName sa, [])
  | .subscribe sa listener callingPid =>
      let subscribed := m.subscribeSystemAbility sa listener callingPid
      (subscribed.1, if subscribed.2 then [.checkListener sa listener] else [])
  | .checkListener sa listener =>
      (m, if m.checkSystemAbility sa = none then [] else [.checkListenerNotify sa listener])
  | .checkListenerNotify sa listener => (m.checkListenerNotify sa listener, [])
  | .unSubscribe sa listener => (m.unSubscribeSystemAbility sa listener, [])
  | .unSubscribeDied remoteObject => (m.unSubscribeDiedObject remoteObject, [])
  | .insertProcess processInfo procObject =>
      match m.insertProcess processInfo.processName procObject with
      | none => (m, [])
      | some inserted =>
          (inserted, [.eraseStartingProcess processInfo.processName, .processStarted processInfo])
  | .processStarted processInfo =>
      ({ m with sched := (m.sched.sendProcessStateEvent env processInfo .processStartedEvent).1 },
        [])
  | .eraseProcess procObject =>
      match m.findProcess procObject with
      | none => (m, [])
      | some procName => (m.eraseProcess procName, [.lockForStop procName])
  | .lockForStop processName =>
      -- the event is refused for an unknown process and in NOT_STARTED
      if processName ∉ m.sched.processNames ∨ (m.sched.process processName).state = .notStarted then
        (m, [])
      else
        ({ m with sched := (m.sched.processStateTransitionLocked (Scheduler.enterNotStarted env)
            processName .notStarted).1 },
          [.removeOnDemandSaInDiedProc processName, .getAbnormallyDied processName,
            .removeRunningProcess processName, .unlock (.process processName)])
  | .removeOnDemandSaInDiedProc processName => (m.removeOnDemandSaInDiedProc processName, [])
  | .getAbnormallyDied processName =>
      let saList := (m.sched.process processName).saList
      let died := Scheduler.getAbnormallyDiedAbilityLocked env saList m.sched
      ({ m with sched := died.1 },
        saList.map (.stopAbility processName) ++ [.restartDied processName died.2])
  | .stopAbility processName sa =>
      let stopped := m.sched.beginReplay env sa
      ({ m with sched := stopped.1 },
        if stopped.2 then
          ((stopped.1.ability sa).pendingLoadEventList.flatMap (m.replay processName sa)) ++
            [.clearPendingLoads sa]
        else [])
  | .clearPendingLoads sa => ({ m with sched := m.sched.clearPendingLoads sa }, [])
  | .restartDied processName died =>
      if died = [] then (m, [])
      else
        let allowed := m.sched.canRestartProcessLocked env processName
        ({ m with sched := allowed.1 },
          if allowed.2 then died.flatMap (m.restart env processName) else [])
  | .removeRunningProcess processName =>
      ({ m with sched := m.sched.removeRunningProcessLocked processName }, [])
  | .removeStuckProcess processName =>
      (m, (m.systemProcessMap[processName]?).toList.map .eraseProcess)
  | .schedule .runRecoverTask =>
      -- the process object is looked up, and the process removed, after the lock is released
      match m.sched.recoverHandler.pop with
      | none => (m, [])
      | some (sa, _) =>
          ({ m with sched := m.sched.runRecoverTask { env with getSystemProcess := false } },
            if (m.sched.ownProcess sa).state = .stopping ∧ !env.checkProcessStarted then
              [.removeStuckProcess (m.sched.ownProcessName sa)]
            else [])
  | .schedule op =>
      (if op.throughManager then m else { m with sched := (m.sched.exec env op).1 }, [])
  | .unlock _ => (m, [])

/-- The lock that must be free for the piece to run. -/
def needs (m : Manager) : Piece → Option Lock
  | .sendAbilityStateEvent sa _ | .isSystemAbilityUnloading sa =>
      if sa ∈ m.sched.abilityIds then some (.process (m.sched.ownProcessName sa)) else none
  | .lockForLoad load => some (.process load.held)
  | .lockForCheckStart processName _ | .lockForStop processName => some (.process processName)
  | .processStarted processInfo => some (.process processInfo.processName)
  | .schedule op => (m.sched.opLock op).map .process
  | .registerCallback _ | .checkOnDemand _ _ | .onStartSystemAbilityFail _ _ _
  | .onAbilityCallbackDied _ | .addOnDemandSystemAbilityInfo _ _ | .notifySystemAbilityLoaded _ _
  | .cleanCallback _ _ _ | .startNamedAbility _ _ | .removeOnDemandSaInDiedProc _ => some .onDemand
  | .startOnDemandAbility load => if load.isLocal then some .onDemand else none
  | _ => none

end Manager

/-- A lock is released by the piece `unlock`, or at the end of the section that holds it. -/
def Piece.releases : Piece → Option Lock
  | .unlock lock => some lock
  | .doLoadOnDemandAbility _ _ => some .onDemand
  | _ => none

def managerProgram : Threads.Program Manager Call Piece Env Action Lock where
  enter := Manager.enter
  exec := Manager.exec
  take m := m.workHandler.pop.map fun popped =>
    (popped.1.pieces, { m with workHandler := popped.2 })
  act
    | m, .expire handle => { m with workHandler := m.workHandler.expire handle }
  needs := Manager.needs
  releases := Piece.releases

abbrev Machine : Type := Threads.Config Manager Piece

abbrev MachineLabel : Type := Threads.Label Call Env Action

namespace Machine

def init (saProfiles : List SaProfile) : Machine := { shared := Manager.init saProfiles }

def step (x : Machine) (label : MachineLabel) : Machine := Threads.Config.step managerProgram x label

/-- The piece that the label runs in this state, if it runs one. -/
def next (x : Machine) (label : MachineLabel) : Option Piece :=
  Threads.Config.next managerProgram x label

/-- The machine after initialisation with the profiles and a sequence of labels. -/
def runFrom (saProfiles : List SaProfile) (labels : List MachineLabel) : Machine :=
  Runs.run step (init saProfiles) labels

/-- A client runs the given number of pieces. -/
def runs (client pieces : Nat) : List MachineLabel :=
  List.replicate pieces (.run (some client) {})

/-- One process with one ability. -/
def hostOfOne : List SaProfile := [{ process := "host", saId := 1 }]

end Machine

end Samgr
