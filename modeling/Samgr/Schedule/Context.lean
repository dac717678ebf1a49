import Samgr.Lib.TaskQueue
import Samgr.Lib.Quota
import Mathlib.Logic.Function.Basic

/-! The data of the state scheduler: the contexts of abilities and processes, the
requests they carry, and the whole scheduler with its three task handlers. -/
namespace Samgr

inductive SystemAbilityState where
  | notLoaded
  | loading
  | loaded
  | unloadable
  | unloading
  deriving DecidableEq, Repr

inductive SystemProcessState where
  | notStarted
  | started
  | stopping
  deriving DecidableEq, Repr

inductive PendingEvent where
  | noEvent
  | loadAbilityEvent
  | unloadAbilityEvent
  deriving DecidableEq, Repr

inductive AbilityStateEvent where
  | abilityLoadFailedEvent
  | abilityLoadSuccessEvent
  | abilityUnloadSuccessEvent
  deriving DecidableEq, Repr

inductive ProcessStateEvent where
  | processStartedEvent
  | processStoppedEvent
  deriving DecidableEq, Repr

/-- The result codes the modelled functions return. `other` is a code of a callee
outside the model. -/
inductive ErrCode where
  | errOk
  | errInvalidValue
  | errPermissionDenied
  | callbackNull
  | callbackMapSizeLimit
  | pendLoadEventSizeLimit
  | activeSaFail
  | idleSaFail
  | getSaContextFail
  | invalidSaState
  | transitProcStateFail
  | transitSaStateFail
  | updateStateCountFail
  | unloadRequestNull
  | sendEventFail
  | other (code : Int)
  deriving DecidableEq, Repr

/-- The part of an on-demand event that the scheduler reads. -/
structure OnDemandEvent where
  eventId : Int
  name : String
  value : String := ""
  extraDataId : Int := -1
  deriving DecidableEq, Repr

def INTERFACE_CALL : Int := 0

/-- A remote interface pointer: `proxy` is the pointer itself and `object` is what
`AsObject()` returns. Two proxies may stand for one object. -/
structure RemoteInterface where
  object : Nat
  proxy : Nat
  deriving DecidableEq, Repr

structure LoadRequestInfo where
  deviceId : String
  callback : Option RemoteInterface
  systemAbilityId : Int := -1
  callingPid : Int := -1
  loadEvent : OnDemandEvent
  deriving DecidableEq, Repr

structure UnloadRequestInfo where
  unloadEvent : OnDemandEvent
  systemAbilityId : Int := -1
  callingPid : Int := -1
  deriving DecidableEq, Repr

structure ProcessInfo where
  processName : String
  pid : Int
  uid : Int
  deriving DecidableEq, Repr

/-- An entry of the running process list, and what process listeners are told. -/
structure SystemProcessInfo where
  processName : String
  pid : Int
  uid : Int
  deriving DecidableEq, Repr

/-- The part of an ability profile that the scheduler and the manager read. -/
structure SaProfile where
  process : String
  saId : Int
  autoRestart : Bool := false
  independentUnload : Bool := false
  delayTime : Int := 20000
  distributed : Bool := false
  runOnCreate : Bool := false
  deriving DecidableEq, Repr

structure SystemProcessContext where
  processName : String
  saList : List Int := []
  abilityStateCountMap : SystemAbilityState → Nat := fun _ => 0
  restartCountsCtrl : List Int := []
  pid : Int := -1
  uid : Int := -1
  state : SystemProcessState := .notStarted
  enableRestart : Bool := true
  lastStopTime : Int := -1
  pendingLoadFirstTimestamp : Int := 0

/-- `ownProcessContext` holds the name under which the shared process context is
found: the process map never replaces a context after initialisation. -/
structure SystemAbilityContext where
  pendingLoadEventCountMap : Int → Nat := fun _ => 0
  pendingLoadEventList : List LoadRequestInfo := []
  ownProcessContext : String
  pendingUnloadEvent : Option UnloadRequestInfo := none
  unloadRequest : Option UnloadRequestInfo := none
  systemAbilityId : Int := -1
  delayUnloadTime : Int := 0
  lastStartTime : Int := 0
  lastIdleTime : Int := -1
  state : SystemAbilityState := .notLoaded
  pendingEvent : PendingEvent := .noEvent
  isAutoRestart : Bool := false
  independentUnload : Bool := false

/-- The tasks of `processHandler_`. -/
inductive ProcessTask where
  | updateLimitDelayUnloadTime (systemAbilityId : Int)
  | tryUnloadAllSystemAbility (processName : String)
  | unloadTimeout (processName : String)
  | tryKillSystemProcess (processName : String)
  | pendingUnload (systemAbilityId : Int)
  deriving DecidableEq, Repr

/-- How far a started named task is: its first action deletes its handle, and only
then does it wait for the process lock. -/
inductive TaskPhase where
  | dequeued
  | waitingForLock
  deriving DecidableEq, Repr

structure ProcessListener where
  listener : RemoteInterface
  hasDirectSubscription : Bool
  hasForegroundSubscription : Bool
  deriving DecidableEq, Repr

/-- An entry of the listeners of one process. The source keeps the listener only; `subscriber`
is the pid whose call put the entry in. -/
structure ProcSubscription where
  listener : RemoteInterface
  subscriber : Int
  deriving DecidableEq, Repr

/-- How often a death recipient is registered on each object. -/
abbrev DeathRecipients : Type := Nat → Nat

/-- `AddDeathRecipient` adds a registration of the recipient on the object. -/
def DeathRecipients.add (deaths : DeathRecipients) (object : Nat) : DeathRecipients :=
  Function.update deaths object (deaths object + 1)

/-- `RemoveDeathRecipient` removes one registration if there is one. -/
def DeathRecipients.remove (deaths : DeathRecipients) (object : Nat) : DeathRecipients :=
  Function.update deaths object (deaths object - 1)

/-- What the scheduler did that can be seen outside its contexts: calls of the
manager with the answers received, notifications, and the result of every state
transition that was attempted. -/
inductive Event where
  | transition (systemAbilityId : Int) (current next : SystemAbilityState) (result : ErrCode)
  | handleLoad (systemAbilityId : Int) (request : LoadRequestInfo)
  | pended (systemAbilityId : Int) (request : LoadRequestInfo)
  | doLoadSystemAbility (systemAbilityId : Int) (request : LoadRequestInfo) (result : ErrCode)
  | doLoadOnDemandAbility (systemAbilityId : Int) (result isExist : Bool)
  | activeSystemAbility (systemAbilityId : Int) (reason : OnDemandEvent) (result : Bool)
  | idleSystemAbility (systemAbilityId : Int) (reason : OnDemandEvent) (delayTime : Option Int)
  | doUnloadSystemAbility (systemAbilityId : Int) (event : OnDemandEvent) (result : ErrCode)
  | removeOnDemandSaInDiedProc (processName : String)
  | removeDiedSystemAbility (systemAbilityId : Int)
  | removeWhiteCommonEvent
  | sendUpdateSaState (systemAbilityId : Int)
  | serviceControlStop (processName : String) (result : Int)
  | removeSystemProcess (processName : String)
  | onSystemProcessStarted (listener : RemoteInterface) (info : SystemProcessInfo)
  | onSystemProcessStopped (listener : RemoteInterface) (info : SystemProcessInfo)
  | onSystemProcessActivated (listener : RemoteInterface) (info : SystemProcessInfo)
  | onSystemProcessIdled (listener : RemoteInterface) (info : SystemProcessInfo)
  deriving DecidableEq, Repr

/-- The answers of everything outside the scheduler during one operation: clock,
handlers, the manager and the processes behind it. An answer is indexed by the
length of the log when it is asked for, so two questions may be answered differently;
the clock takes a second index for two readings in one place. -/
structure Env where
  getTickCount : Nat → Nat → Int := fun _ _ => 0
  submitted : Nat → Bool := fun _ => true
  doLoadSystemAbility : Nat → ErrCode := fun _ => .errOk
  doLoadOnDemandAbility : Nat → Bool × Bool := fun _ => (true, true)
  activeSystemAbility : Nat → Bool := fun _ => true
  idleSystemAbility : Nat → Option Int := fun _ => some 0
  doUnloadSystemAbility : Nat → ErrCode := fun _ => .errOk
  serviceControl : Nat → Int := fun _ => 0
  checkSaIsImmediatelyRecycle : Int → Bool := fun _ => true
  minMemoryWatermark : Nat → Bool := fun _ => false
  isForegroundUser : Bool := true
  newLoadCallback : RemoteInterface := ⟨0, 0⟩
  checkProcessStarted : Bool := true
  getSystemProcess : Bool := false

/-- The scheduler. A context map is a list of keys with a total function: a context
exists exactly for the listed keys, and no key is added after initialisation. -/
structure Scheduler where
  abilityIds : List Int := []
  ability : Int → SystemAbilityContext := fun _ => { ownProcessContext := "" }
  processNames : List String := []
  process : String → SystemProcessContext := fun name => { processName := name }
  runningProcessList : List SystemProcessInfo := []
  processListeners : List ProcessListener := []
  procListenerMap : Std.TreeMap String (List ProcSubscription) := ∅
  subscribeProcCountMap : Quota.Counts Int := ∅
  processListenerDeath : DeathRecipients := fun _ => 0
  unloadEventHandler : TaskQueue Int Int := {}
  unloadEventRunning : Option (Int × TaskPhase) := none
  processHandler : TaskQueue String ProcessTask := {}
  unloadTimeoutRunning : Option (String × TaskPhase) := none
  recoverHandler : TaskQueue Unit Int := {}
  log : List Event := []

namespace Scheduler

variable (s : Scheduler)

def setAbility (systemAbilityId : Int) (f : SystemAbilityContext → SystemAbilityContext) :
    Scheduler :=
  { s with ability := Function.update s.ability systemAbilityId (f (s.ability systemAbilityId)) }

def setProcess (processName : String) (f : SystemProcessContext → SystemProcessContext) :
    Scheduler :=
  { s with process := Function.update s.process processName (f (s.process processName)) }

def emit (event : Event) : Scheduler := { s with log := event :: s.log }

/-- The name of the process an ability belongs to. -/
def ownProcessName (systemAbilityId : Int) : String := (s.ability systemAbilityId).ownProcessContext

def ownProcess (systemAbilityId : Int) : SystemProcessContext :=
  s.process (s.ownProcessName systemAbilityId)

/-- The index of the next answer of the environment. -/
def now : Nat := s.log.length

end Scheduler

end Samgr
