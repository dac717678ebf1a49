import Samgr.Collect.State
import Samgr.Manager.Machine

/-! The calls of a process that provides abilities. The facade finds the instance of the caller and
lets it do the work, each call by a route of its own. -/
namespace Samgr

def PROFILE_NOT_EXIST : ErrCode := .other 1002
def INVALID_CALL_PROC : ErrCode := .other 1005

/-- The base manager or the manager of a user, with its collect manager. `isCacheCommonEvent` and
`allowUpdate` are fields of its profiles. -/
structure ManagerInstance where
  manager : Manager
  collectManager : CollectState
  commonEventCollect : CommonEventCollect := {}
  isCacheCommonEvent : Int → Bool := fun _ => false
  allowUpdate : OnDemandPolicyType → Int → Bool := fun _ _ => false

/-- What a call says of its caller: `callingProc` is the name in the command line of its process and
`nativeProcess` the one in its token, if that can be read. `collectEnv` is what the plugins meet
while they take new events. -/
structure CallContext where
  env : Env := {}
  callingPid : Int := 0
  callingUid : Int := 0
  callingProc : String := ""
  nativeProcess : Option String := none
  collectEnv : CollectEnv := {}

def OnDemandPolicyType.toInt : OnDemandPolicyType → Int
  | .startPolicy => START_POLICY
  | .stopPolicy => STOP_POLICY

inductive ProviderCall where
  | addSystemProcess (procName : String) (procObject : Nat)
  | addSystemAbility (systemAbilityId : Int) (ability : Nat) (isDistributed : Bool)
  | removeSystemAbility (systemAbilityId : Int)
  | addOnDemandSystemAbilityInfo (systemAbilityId : Int) (procName : String)
  | unloadSystemAbility (systemAbilityId : Int)
  | cancelUnloadSystemAbility (systemAbilityId : Int)
  | updateOnDemandPolicy (systemAbilityId : Int) (type : OnDemandPolicyType) (events : List PolicyEvent)
  | onStartSystemAbilityFail (systemAbilityId errCode : Int)

/-- The ability that a call is about. -/
def ProviderCall.ability : ProviderCall → Option Int
  | .addSystemProcess _ _ => none
  | .addSystemAbility systemAbilityId _ _ | .removeSystemAbility systemAbilityId
  | .addOnDemandSystemAbilityInfo systemAbilityId _ | .unloadSystemAbility systemAbilityId
  | .cancelUnloadSystemAbility systemAbilityId | .updateOnDemandPolicy systemAbilityId _ _
  | .onStartSystemAbilityFail systemAbilityId _ => some systemAbilityId

namespace ManagerInstance

variable (ctx : CallContext) (i : ManagerInstance)

def addSystemProcess (procName : String) (procObject : Nat) : ManagerInstance × ErrCode :=
  if procName = "" then (i, .errInvalidValue)
  else
    match i.manager.insertProcess procName procObject with
    | none => (i, .errInvalidValue)
    | some inserted =>
        let registered := inserted.eraseStartingProcess procName
        let processInfo : ProcessInfo :=
          { processName := procName, pid := ctx.callingPid, uid := ctx.callingUid }
        let sent := registered.sched.sendProcessStateEvent ctx.env processInfo .processStartedEvent
        ({ i with manager := { registered with sched := sent.1 } }, .errOk)

def addSystemAbility (systemAbilityId : Int) (ability : Nat) (isDistributed : Bool) :
    ManagerInstance × ErrCode :=
  if checkInputSysAbilityId systemAbilityId then
    let refreshed := i.manager.refreshListenerState systemAbilityId
    if isDistributed ≠ refreshed.isDistributedSystemAbility systemAbilityId then
      ({ i with manager := refreshed }, .errInvalidValue)
    else
      match refreshed.insertAbility systemAbilityId ⟨ability, isDistributed⟩ with
      | none => ({ i with manager := refreshed }, .errInvalidValue)
      | some inserted =>
          let loaded := inserted.removeCheckLoadedMsg systemAbilityId
          let posted := loaded.sched.postProcessTask ctx.env (.updateLimitDelayUnloadTime systemAbilityId)
          let sent := posted.sendAbilityStateEvent ctx.env systemAbilityId .abilityLoadSuccessEvent
          ({ i with manager :=
              { loaded with sched := sent.1 }.postTask (.notifyAdded systemAbilityId ability) }, .errOk)
  else (i, .errInvalidValue)

def removeSystemAbility (systemAbilityId : Int) : ManagerInstance × ErrCode :=
  if checkInputSysAbilityId systemAbilityId then
    match i.manager.eraseAbility systemAbilityId with
    | none => (i, .errInvalidValue)
    | some erased =>
        let sent := erased.sched.sendAbilityStateEvent ctx.env systemAbilityId .abilityUnloadSuccessEvent
        ({ i with
            manager := { erased with sched := sent.1 }.postTask (.notifyRemoved systemAbilityId)
            commonEventCollect :=
              if i.isCacheCommonEvent systemAbilityId then
                i.commonEventCollect.clearSaExtraDataId systemAbilityId
              else i.commonEventCollect }, .errOk)
  else (i, .errInvalidValue)

def addOnDemandSystemAbilityInfo (systemAbilityId : Int) (procName : String) : ManagerInstance × ErrCode :=
  if !checkInputSysAbilityId systemAbilityId || isNameInValid procName then (i, .errInvalidValue)
  else if i.manager.onDemandAbilityMap.size ≥ MAX_SERVICES ∨ procName ∉ i.manager.systemProcessMap then
    (i, .errInvalidValue)
  else
    ({ i with manager := i.manager.addOnDemandSystemAbilityInfo systemAbilityId procName }, .errOk)

/-- `CheckCallerProcess`. -/
def checkCallerProcess (saProfile : SaProfile) : Bool := ctx.nativeProcess == some saProfile.process

def schedule (op : Scheduler.Op) : ManagerInstance × ErrCode :=
  let done := i.manager.sched.exec ctx.env op
  ({ i with manager := { i.manager with sched := done.1 } }, done.2)

def unloadSystemAbility (systemAbilityId : Int) : ManagerInstance × ErrCode :=
  match i.manager.getSaProfile systemAbilityId with
  | none => (i, PROFILE_NOT_EXIST)
  | some saProfile =>
      if checkCallerProcess ctx saProfile then
        i.schedule ctx (.unload (some (Scheduler.localUnload systemAbilityId ctx.callingPid)))
      else (i, INVALID_CALL_PROC)

def cancelUnloadSystemAbility (systemAbilityId : Int) : ManagerInstance × ErrCode :=
  if checkInputSysAbilityId systemAbilityId then
    match i.manager.getSaProfile systemAbilityId with
    | none => (i, .errInvalidValue)
    | some saProfile =>
        if checkCallerProcess ctx saProfile then i.schedule ctx (.cancelUnload systemAbilityId)
        else (i, .errInvalidValue)
  else (i, .errInvalidValue)

def updateOnDemandPolicy (systemAbilityId : Int) (type : OnDemandPolicyType) (events : List PolicyEvent) :
    ManagerInstance × ErrCode :=
  match i.manager.getSaProfile systemAbilityId with
  | none => (i, .errInvalidValue)
  | some saProfile =>
      if checkCallerProcess ctx saProfile then
        if i.allowUpdate type systemAbilityId then
          let updated := i.collectManager.updateOnDemandEvents ctx.collectEnv systemAbilityId type.toInt events
          ({ i with collectManager := updated.1 }, updated.2)
        else (i, .errPermissionDenied)
      else (i, .errInvalidValue)

/-- `targetObject` is what `CheckSystemAbility` has found. The callbacks that wait for the ability are
called under `onDemandLock_`. -/
def onStartSystemAbilityFail (targetObject : Option Nat) (systemAbilityId errCode : Int) :
    ManagerInstance × ErrCode :=
  match targetObject with
  | some _ => (i, .errOk)
  | none =>
      match i.manager.getSaProfile systemAbilityId with
      | none => (i, .errInvalidValue)
      | some saProfile =>
          if saProfile.process = ctx.callingProc then
            ({ i with manager :=
                i.manager.onStartSystemAbilityFail systemAbilityId errCode saProfile.process }, .errOk)
          else (i, INVALID_CALL_PROC)

def perform : ProviderCall → ManagerInstance × ErrCode
  | .addSystemProcess procName procObject => i.addSystemProcess ctx procName procObject
  | .addSystemAbility systemAbilityId ability isDistributed =>
      i.addSystemAbility ctx systemAbilityId ability isDistributed
  | .removeSystemAbility systemAbilityId => i.removeSystemAbility ctx systemAbilityId
  | .addOnDemandSystemAbilityInfo systemAbilityId procName =>
      i.addOnDemandSystemAbilityInfo systemAbilityId procName
  | .unloadSystemAbility systemAbilityId => i.unloadSystemAbility ctx systemAbilityId
  | .cancelUnloadSystemAbility systemAbilityId => i.cancelUnloadSystemAbility ctx systemAbilityId
  | .updateOnDemandPolicy systemAbilityId type events =>
      i.updateOnDemandPolicy ctx systemAbilityId type events
  | .onStartSystemAbilityFail systemAbilityId errCode =>
      i.onStartSystemAbilityFail ctx (i.manager.checkSystemAbility systemAbilityId) systemAbilityId errCode

end ManagerInstance

/-- The facade with the instances it routes to. -/
@[ext] structure Facade where
  multiInstanceSaIds : List Int
  base : ManagerInstance
  multiUserManagers : Int → Option ManagerInstance
  stoppingManagers : Int → Option ManagerInstance := fun _ => none
  foregroundUserId : Int := SAMGR_INVALID_USER_ID

namespace Facade

variable (ctx : CallContext) (f : Facade)

def setUser (userId : Int) (i : ManagerInstance) : Facade :=
  { f with multiUserManagers := Function.update f.multiUserManagers userId (some i) }

def onBase (call : ProviderCall) : Facade × ErrCode :=
  let done := f.base.perform ctx call
  ({ f with base := done.1 }, done.2)

/-- The instance of the caller does the work. -/
def onCaller (caller : Int) (call : ProviderCall) : Facade × ErrCode :=
  if caller ≠ BASE_USER then
    match f.multiUserManagers caller with
    | none => (f, .errInvalidValue)
    | some i => (f.setUser caller (i.perform ctx call).1, (i.perform ctx call).2)
  else f.onBase ctx call

/-- The caller is let through to abilities of its own kind only. -/
def onAbility (caller systemAbilityId : Int) (call : ProviderCall) : Facade × ErrCode :=
  let routeResult := routeForSa f.multiInstanceSaIds systemAbilityId caller
  if routeResult ≠ .errOk then (f, routeResult) else f.onCaller ctx caller call

/-- An ability may still be removed while its user stops. -/
def removeSystemAbility (caller systemAbilityId : Int) : Facade × ErrCode :=
  let routeResult := routeForSa f.multiInstanceSaIds systemAbilityId caller
  if routeResult ≠ .errOk then (f, routeResult)
  else if caller ≠ BASE_USER then
    match f.stoppingManagers caller with
    | some i =>
        let done := i.removeSystemAbility ctx systemAbilityId
        ({ f with stoppingManagers := Function.update f.stoppingManagers caller (some done.1) }, done.2)
    | none => f.onCaller ctx caller (.removeSystemAbility systemAbilityId)
  else f.onBase ctx (.removeSystemAbility systemAbilityId)

def routeForUser (saId caller : Int) : Int :=
  if f.multiInstanceSaIds.contains saId then if caller = BASE_USER then f.foregroundUserId else caller
  else BASE_USER

/-- The facade overrides the look-up of the base manager with a routed one. -/
def checkSystemAbility (caller systemAbilityId : Int) : Option Nat :=
  let target := f.routeForUser systemAbilityId caller
  if target ≠ BASE_USER then
    (f.multiUserManagers target).bind fun i => i.manager.checkSystemAbility systemAbilityId
  else f.base.manager.checkSystemAbility systemAbilityId

def perform (caller : Int) : ProviderCall → Facade × ErrCode
  | .addSystemProcess procName procObject => f.onCaller ctx caller (.addSystemProcess procName procObject)
  | .addSystemAbility systemAbilityId ability isDistributed =>
      f.onAbility ctx caller systemAbilityId (.addSystemAbility systemAbilityId ability isDistributed)
  | .removeSystemAbility systemAbilityId => f.removeSystemAbility ctx caller systemAbilityId
  | .addOnDemandSystemAbilityInfo systemAbilityId procName =>
      f.onAbility ctx caller systemAbilityId (.addOnDemandSystemAbilityInfo systemAbilityId procName)
  | .unloadSystemAbility systemAbilityId =>
      f.onAbility ctx caller systemAbilityId (.unloadSystemAbility systemAbilityId)
  | .cancelUnloadSystemAbility systemAbilityId =>
      f.onAbility ctx caller systemAbilityId (.cancelUnloadSystemAbility systemAbilityId)
  | .updateOnDemandPolicy systemAbilityId type events =>
      f.onAbility ctx caller systemAbilityId (.updateOnDemandPolicy systemAbilityId type events)
  | .onStartSystemAbilityFail systemAbilityId errCode =>
      -- The report of a failed start is not routed, only the look-up in it is.
      let done :=
        f.base.onStartSystemAbilityFail ctx (f.checkSystemAbility caller systemAbilityId) systemAbilityId
          errCode
      ({ f with base := done.1 }, done.2)

/-- The user has this manager, and is not stopping. -/
def Active (userId : Int) (i : ManagerInstance) : Prop :=
  userId ≠ BASE_USER ∧ f.multiUserManagers userId = some i ∧ f.stoppingManagers userId = none

/-- The call does to the user's instance what it does when it is made there, and to no other; on a
base ability it does nothing. -/
def ActsOnOwn (userId : Int) (i : ManagerInstance) (call : ProviderCall) : Prop :=
  if call.ability.all fun systemAbilityId => f.multiInstanceSaIds.contains systemAbilityId then
    f.perform ctx userId call = (f.setUser userId (i.perform ctx call).1, (i.perform ctx call).2)
  else (f.perform ctx userId call).1 = f

end Facade

section StartFail

variable (ctx : CallContext) (targetObject : Option Nat)

/-- The report of a failed start finds nothing to do: the look-up has found an object, or the report is
refused, or the ability is known and nobody waits for it. -/
def ManagerInstance.Ignores (i : ManagerInstance) (systemAbilityId : Int) : Prop :=
  targetObject.isSome ∨
    ∀ saProfile, i.manager.getSaProfile systemAbilityId = some saProfile →
      saProfile.process = ctx.callingProc →
        systemAbilityId ∈ i.manager.onDemandAbilityMap ∧ systemAbilityId ∉ i.manager.startingAbilityMap

/-- How the guards of the report answer. -/
def ManagerInstance.startFailCode (i : ManagerInstance) (systemAbilityId : Int) : ErrCode :=
  if targetObject.isSome then .errOk
  else
    match i.manager.getSaProfile systemAbilityId with
    | none => .errInvalidValue
    | some saProfile => if saProfile.process = ctx.callingProc then .errOk else INVALID_CALL_PROC

/-- A report that is taken up makes the ability known, and ends the wait for it. -/
theorem Manager.onStartSystemAbilityFail_eq_self_iff (m : Manager) (systemAbilityId errCode : Int)
    (process : String) :
    m.onStartSystemAbilityFail systemAbilityId errCode process = m ↔
      systemAbilityId ∈ m.onDemandAbilityMap ∧ systemAbilityId ∉ m.startingAbilityMap := by
  constructor
  · intro same
    have known : systemAbilityId ∈ m.onDemandAbilityMap := by
      by_contra unknown
      have listed := congrArg (fun result => systemAbilityId ∈ result.onDemandAbilityMap) same
      simp only [Manager.onStartSystemAbilityFail, if_neg unknown] at listed
      split at listed <;> simp [unknown, Manager.reportItem, Manager.removeCheckLoadedMsg] at listed
    refine ⟨known, ?_⟩
    intro starting
    have left := congrArg (fun result => systemAbilityId ∈ result.startingAbilityMap) same
    simp [Manager.onStartSystemAbilityFail, if_pos known, Manager.reportItem,
      Manager.removeCheckLoadedMsg, starting] at left
  · intro ⟨known, waiting⟩
    simp only [Manager.onStartSystemAbilityFail, if_pos known,
      Std.TreeMap.getElem?_eq_none waiting]

namespace ManagerInstance

variable (i : ManagerInstance)

theorem onStartSystemAbilityFail_fst_eq_iff (systemAbilityId errCode : Int) :
    (i.onStartSystemAbilityFail ctx targetObject systemAbilityId errCode).1 = i ↔
      i.Ignores ctx targetObject systemAbilityId := by
  simp only [onStartSystemAbilityFail, Ignores]
  cases targetObject with
  | some ability => simp
  | none =>
      cases i.manager.getSaProfile systemAbilityId with
      | none => simp
      | some saProfile =>
          by_cases own : saProfile.process = ctx.callingProc
          · have taken := i.manager.onStartSystemAbilityFail_eq_self_iff systemAbilityId errCode
              saProfile.process
            simp only [own, if_true, Option.isSome_none, Bool.false_eq_true, false_or, Option.some.injEq,
              forall_eq', forall_const] at taken ⊢
            rw [← taken]
            constructor
            · intro same
              exact congrArg ManagerInstance.manager same
            · intro same
              rw [same]
          · simp [own]

theorem onStartSystemAbilityFail_snd (systemAbilityId errCode : Int) :
    (i.onStartSystemAbilityFail ctx targetObject systemAbilityId errCode).2 =
      i.startFailCode ctx targetObject systemAbilityId := by
  simp only [onStartSystemAbilityFail, startFailCode]
  cases targetObject with
  | some ability => rfl
  | none =>
      cases i.manager.getSaProfile systemAbilityId with
      | none => rfl
      | some saProfile =>
          simp only [Option.isSome_none, Bool.false_eq_true, if_false]
          split <;> rfl

end ManagerInstance

end StartFail

namespace Facade

variable (ctx : CallContext) {f : Facade} {userId : Int} {i : ManagerInstance}

theorem onCaller_of_active (active : f.Active userId i) (call : ProviderCall) :
    f.onCaller ctx userId call = (f.setUser userId (i.perform ctx call).1, (i.perform ctx call).2) := by
  simp [onCaller, active.1, active.2.1]

/-- A user gets through to its own abilities only. -/
theorem routeForSa_of_user (user : userId ≠ BASE_USER) (systemAbilityId : Int) :
    routeForSa f.multiInstanceSaIds systemAbilityId userId =
      if systemAbilityId ∈ f.multiInstanceSaIds then .errOk else SA_OPERATION_NOT_ALLOWED := by
  rw [routeForSa, if_neg user]

/-- The calls with the common route. -/
theorem actsOnOwn_of_onAbility (active : f.Active userId i) {call : ProviderCall} {systemAbilityId : Int}
    (about : call.ability = some systemAbilityId)
    (route : f.perform ctx userId call = f.onAbility ctx userId systemAbilityId call) :
    f.ActsOnOwn ctx userId i call := by
  rw [ActsOnOwn, about, route, onAbility]
  simp only [routeForSa_of_user active.1, Option.all_some, List.contains_iff_mem]
  by_cases multi : systemAbilityId ∈ f.multiInstanceSaIds
  · simp [multi, onCaller_of_active ctx active]
  · simp [multi, SA_OPERATION_NOT_ALLOWED]

/-- The route of a removal is the common one while the user does not stop. -/
theorem removeSystemAbility_of_active (active : f.Active userId i) (systemAbilityId : Int) :
    f.removeSystemAbility ctx userId systemAbilityId =
      f.onAbility ctx userId systemAbilityId (.removeSystemAbility systemAbilityId) := by
  simp [removeSystemAbility, onAbility, active.1, active.2.2]

theorem setUser_eq_self_iff (active : f.Active userId i) (other : ManagerInstance) :
    f.setUser userId other = f ↔ other = i := by
  constructor
  · intro same
    have entry := congrArg (fun facade => facade.multiUserManagers userId) same
    simpa [setUser, active.2.1] using entry
  · intro same
    ext1
    · rfl
    · rfl
    · have entry : some other = f.multiUserManagers userId := by rw [same, active.2.1]
      rw [setUser, entry]
      exact Function.update_eq_self userId f.multiUserManagers
    · rfl
    · rfl

/-- The facade looks an ability of the users up in the manager of the caller. -/
theorem checkSystemAbility_of_multi (active : f.Active userId i) {systemAbilityId : Int}
    (multi : systemAbilityId ∈ f.multiInstanceSaIds) :
    f.checkSystemAbility userId systemAbilityId = i.manager.checkSystemAbility systemAbilityId := by
  have target : f.routeForUser systemAbilityId userId = userId := by
    rw [routeForUser, if_pos (List.contains_iff_mem.mpr multi), if_neg active.1]
  simp only [checkSystemAbility, target]
  rw [if_pos active.1, active.2.1, Option.bind_some]

/-- A report of a failed start. The base instance must not take it up, and neither may the user's
own instance, which is asked for the object only. -/
theorem actsOnOwn_startFail_iff (active : f.Active userId i) (systemAbilityId errCode : Int) :
    f.ActsOnOwn ctx userId i (.onStartSystemAbilityFail systemAbilityId errCode) ↔
      f.base.Ignores ctx (f.checkSystemAbility userId systemAbilityId) systemAbilityId ∧
        (systemAbilityId ∈ f.multiInstanceSaIds →
          i.Ignores ctx (f.checkSystemAbility userId systemAbilityId) systemAbilityId ∧
            f.base.startFailCode ctx (f.checkSystemAbility userId systemAbilityId) systemAbilityId =
              i.startFailCode ctx (f.checkSystemAbility userId systemAbilityId) systemAbilityId) := by
  have untouched (other : ManagerInstance) : { f with base := other } = f ↔ other = f.base := by
    constructor
    · intro same
      exact congrArg Facade.base same
    · intro same
      rw [same]
  rw [ActsOnOwn, ← f.base.onStartSystemAbilityFail_fst_eq_iff ctx _ systemAbilityId errCode,
    ← i.onStartSystemAbilityFail_fst_eq_iff ctx _ systemAbilityId errCode,
    ← f.base.onStartSystemAbilityFail_snd ctx _ systemAbilityId errCode,
    ← i.onStartSystemAbilityFail_snd ctx _ systemAbilityId errCode]
  simp only [ProviderCall.ability, Option.all_some, List.contains_iff_mem, perform]
  by_cases multi : systemAbilityId ∈ f.multiInstanceSaIds
  · simp only [multi, if_true, forall_const, ManagerInstance.perform, Prod.mk.injEq,
      checkSystemAbility_of_multi active multi]
    constructor
    · intro ⟨same, code⟩
      -- The base field is that of the facade itself, and so is then the rest.
      have base := congrArg Facade.base same
      have kept := ((untouched _).mpr base).symm.trans same
      exact ⟨base, (setUser_eq_self_iff active _).mp kept.symm, code⟩
    · intro ⟨base, own, code⟩
      refine ⟨?_, code⟩
      rw [(setUser_eq_self_iff active _).mpr own]
      exact (untouched _).mpr base
  · simp [multi, untouched]

/-- Every call but the report of a failed start acts on the caller's own instance; the report does
when there is nothing to do in the base instance and in the caller's. -/
theorem acts_on_own_iff_not_startFail (active : f.Active userId i) (call : ProviderCall) :
    f.ActsOnOwn ctx userId i call ↔
      ∀ systemAbilityId errCode, call = .onStartSystemAbilityFail systemAbilityId errCode →
        f.base.Ignores ctx (f.checkSystemAbility userId systemAbilityId) systemAbilityId ∧
          (systemAbilityId ∈ f.multiInstanceSaIds →
            i.Ignores ctx (f.checkSystemAbility userId systemAbilityId) systemAbilityId ∧
              f.base.startFailCode ctx (f.checkSystemAbility userId systemAbilityId) systemAbilityId =
                i.startFailCode ctx (f.checkSystemAbility userId systemAbilityId) systemAbilityId) := by
  cases call with
  | addSystemProcess procName procObject =>
      simp [ActsOnOwn, ProviderCall.ability, perform, onCaller_of_active ctx active]
  | removeSystemAbility systemAbilityId =>
      have route := removeSystemAbility_of_active ctx active systemAbilityId
      exact iff_of_true (actsOnOwn_of_onAbility ctx active rfl route) nofun
  | addSystemAbility systemAbilityId ability isDistributed =>
      exact iff_of_true (actsOnOwn_of_onAbility ctx active rfl rfl) nofun
  | addOnDemandSystemAbilityInfo systemAbilityId procName =>
      exact iff_of_true (actsOnOwn_of_onAbility ctx active rfl rfl) nofun
  | unloadSystemAbility systemAbilityId =>
      exact iff_of_true (actsOnOwn_of_onAbility ctx active rfl rfl) nofun
  | cancelUnloadSystemAbility systemAbilityId =>
      exact iff_of_true (actsOnOwn_of_onAbility ctx active rfl rfl) nofun
  | updateOnDemandPolicy systemAbilityId type events =>
      exact iff_of_true (actsOnOwn_of_onAbility ctx active rfl rfl) nofun
  | onStartSystemAbilityFail systemAbilityId errCode =>
      rw [actsOnOwn_startFail_iff ctx active]
      constructor
      · intro ignored _ _ same
        cases same
        exact ignored
      · intro ignored
        exact ignored systemAbilityId errCode rfl

/-- The manager of a user that waits for its camera service. -/
def waitingInstance : ManagerInstance :=
  { manager := ((Manager.init [{ process := "camera", saId := 5000 }]).registerCallback 5000 ⟨7, 7⟩ 1
      { eventId := INTERFACE_CALL, name := "load" } 1).1
    collectManager := { onDemandSaProfiles := [] } }

/-- User 100 waits; the base instance has nothing to do with the service. -/
def waitingUser : Facade :=
  { multiInstanceSaIds := [5000]
    base := { waitingInstance with manager := Manager.init [] }
    multiUserManagers := fun userId => if userId = 100 then some waitingInstance else none }

theorem waitingUser_active : waitingUser.Active 100 waitingInstance :=
  ⟨by decide, rfl, rfl⟩

theorem waitingUser_addSystemProcess_acts_on_own :
    waitingUser.Active 100 waitingInstance ∧
      waitingUser.ActsOnOwn {} 100 waitingInstance (.addSystemProcess "camera" 3) :=
  ⟨waitingUser_active, (acts_on_own_iff_not_startFail {} waitingUser_active _).mpr nofun⟩

theorem startFail_misses_waitingUser :
    ¬ waitingUser.ActsOnOwn { callingProc := "camera" } 100 waitingInstance
      (.onStartSystemAbilityFail 5000 1) := by
  intro acts
  rw [ActsOnOwn, if_pos (by decide)] at acts
  have code := congrArg Prod.snd acts
  revert code
  decide +kernel

end Facade

end Samgr
