import Samgr.Ipc.Stub

/-! What a caller must be allowed, and what the arguments must look like, for a request to reach the
manager, whatever parcel it comes in. -/
namespace Samgr.Ipc

open Remote.Receiver

/-- A right that a caller has or does not have. -/
inductive Right where
  | nativeToken
  | permission (name : String)
  | process (name : String)
  | launch (systemAbilityId : Int32)
  | get (systemAbilityId : Int32)
  | add (systemAbilityId : Int32)
  | getRemote (systemAbilityId : Int32)
  | addRemote (systemAbilityId : Int32)
  | list
  deriving DecidableEq, Repr

def Right.heldBy (config : StubConfig) (caller : Caller) : Right → Bool
  | .nativeToken => caller.isNativeToken
  | .permission name => caller.verifyAccessToken name
  | .process name => caller.nativeProcess == some name
  | .launch systemAbilityId => !config.isPengLai || config.checkPengLaiPermission caller systemAbilityId
  | .get systemAbilityId => caller.getServiceCheck systemAbilityId
  | .add systemAbilityId => caller.addServiceCheck systemAbilityId
  | .getRemote systemAbilityId => caller.getRemoteServiceCheck systemAbilityId
  | .addRemote systemAbilityId => caller.addRemoteServiceCheck systemAbilityId
  | .list => caller.listServiceCheck

namespace Operation

/-- The rights that an operation asks of its caller. -/
def rights : (op : Operation) → op.Arguments → List Right
  | .getSystemAbility, systemAbilityId | .checkSystemAbility, systemAbilityId
  | .checkSystemAbilityImme, (systemAbilityId, _) | .getSystemAbilityWithUserId, (systemAbilityId, _)
  | .checkSystemAbilityWithUserId, (systemAbilityId, _)
  | .checkSystemAbilityByUserId, (systemAbilityId, _, _) | .loadSystemAbility, (systemAbilityId, _)
  | .loadSystemAbilityWithUserId, (systemAbilityId, _, _) => [.launch systemAbilityId, .get systemAbilityId]
  | .loadRemoteSystemAbility, (systemAbilityId, _, _) =>
      [.launch systemAbilityId, .getRemote systemAbilityId]
  | .checkRemtSystemAbility, (systemAbilityId, _) =>
      [.nativeToken, .launch systemAbilityId, .getRemote systemAbilityId]
  | .addSystemAbility, (systemAbilityId, _, extraProp) =>
      [.nativeToken, .add systemAbilityId] ++
        if extraProp.isDistributed then [.addRemote systemAbilityId] else []
  | .removeSystemAbility, systemAbilityId => [.nativeToken, .add systemAbilityId]
  | .addOndemandSystemAbility, (systemAbilityId, _) => [.nativeToken, .add systemAbilityId]
  | .listSystemAbility, _ => [.nativeToken, .list]
  | .subsSystemAbility, _ | .unSubsSystemAbility, _ | .subsSystemAbilityWithUserId, _
  | .unSubsSystemAbilityWithUserId, _ | .unloadSystemAbility, _ | .cancelUnloadSystemAbility, _
  | .unloadAllIdleSystemAbility, _ | .getOnDemandSystemAbilityIds, _ => []
  | .getLocalAbilityManagerProxy, _ | .getLocalAbilityManagerProxyWithUserId, _ =>
      [.permission PERMISSION_SVC]
  | .getRunningSaExtensionInfoList, _ => [.permission EXT_TRANSACTION_PERMISSION]
  | .unloadProcess, _ | .getLruIdleSystemAbilityProc, _ => [.process "memmgrservice"]
  | .setSamgrIpcPrior, _ => [.process "resource_schedule_service"]
  | .onUserStateChanged, _ => [.process "accountmgr"]
  | .addSystemProcess, _ | .getRunningSystemProcess, _ | .subscribeSystemProcess, _
  | .unSubscribeSystemProcess, _ | .getOnDemandReasonExtraData, _ | .getOnDemandPolicy, _
  | .updateOnDemandPolicy, _ | .getSystemProcessInfo, _ | .sendStrategy, _ | .getExtensionSaIds, _
  | .getExtensionRunningSaList, _ | .getCommonEventExtraDataIdlist, _ | .subscribeLowMemSystemProcess, _
  | .unSubscribeLowMemSystemProcess, _ | .onStartSystemAbilityFail, _
  | .getSystemProcessInfoWithUserId, _ | .subscribeSystemProcessWithUserId, _
  | .unSubscribeSystemProcessWithUserId, _ => [.nativeToken]

/-- What the manager may rely on: ids are in range, objects are there, names are not empty. -/
def valid : (op : Operation) → op.Arguments → Bool
  | .getSystemAbility, systemAbilityId | .checkSystemAbility, systemAbilityId
  | .checkSystemAbilityImme, (systemAbilityId, _) | .getSystemAbilityWithUserId, (systemAbilityId, _)
  | .checkSystemAbilityWithUserId, (systemAbilityId, _)
  | .checkSystemAbilityByUserId, (systemAbilityId, _, _)
  | .checkRemtSystemAbility, (systemAbilityId, _) | .removeSystemAbility, systemAbilityId
  | .unloadSystemAbility, systemAbilityId | .cancelUnloadSystemAbility, systemAbilityId
  | .onStartSystemAbilityFail, (systemAbilityId, _) | .getSystemProcessInfo, systemAbilityId
  | .getSystemProcessInfoWithUserId, (systemAbilityId, _)
  | .getCommonEventExtraDataIdlist, (systemAbilityId, _) | .getLocalAbilityManagerProxy, systemAbilityId
  | .getLocalAbilityManagerProxyWithUserId, (systemAbilityId, _) =>
      checkInputSysAbilityId systemAbilityId.toInt
  | .addSystemAbility, (systemAbilityId, ability, extraProp) =>
      checkInputSysAbilityId systemAbilityId.toInt && ability.isSome && 0 ≤ extraProp.dumpFlags.toInt32.toInt
  | .subsSystemAbility, (systemAbilityId, listener) | .unSubsSystemAbility, (systemAbilityId, listener)
  | .subsSystemAbilityWithUserId, (systemAbilityId, listener, _)
  | .unSubsSystemAbilityWithUserId, (systemAbilityId, listener, _)
  | .loadSystemAbility, (systemAbilityId, listener)
  | .loadSystemAbilityWithUserId, (systemAbilityId, listener, _) =>
      checkInputSysAbilityId systemAbilityId.toInt && listener.isSome
  | .loadRemoteSystemAbility, (systemAbilityId, deviceId, callback) =>
      checkInputSysAbilityId systemAbilityId.toInt && deviceId != "" && callback.isSome
  | .addOndemandSystemAbility, (systemAbilityId, localManagerName) =>
      checkInputSysAbilityId systemAbilityId.toInt && localManagerName != ""
  | .addSystemProcess, (procName, procObject) => procName != "" && procObject.isSome
  | .subscribeSystemProcess, listener | .unSubscribeSystemProcess, listener
  | .subscribeLowMemSystemProcess, listener | .unSubscribeLowMemSystemProcess, listener
  | .subscribeSystemProcessWithUserId, (listener, _)
  | .unSubscribeSystemProcessWithUserId, (listener, _) => listener.isSome
  | .onUserStateChanged, (_, userState) =>
      USER_STATE_ACTIVATING ≤ userState.toInt && userState.toInt ≤ USER_STATE_STOPPING
  | .listSystemAbility, _ | .getRunningSystemProcess, _ | .getOnDemandReasonExtraData, _
  | .getOnDemandPolicy, _ | .updateOnDemandPolicy, _ | .getOnDemandSystemAbilityIds, _ | .sendStrategy, _
  | .unloadAllIdleSystemAbility, _ | .getExtensionSaIds, _ | .getExtensionRunningSaList, _
  | .getRunningSaExtensionInfoList, _ | .unloadProcess, _ | .getLruIdleSystemAbilityProc, _
  | .setSamgrIpcPrior, _ => true

/-- A listener or a callback can be taken for one. -/
def castable (config : StubConfig) : (op : Operation) → op.Arguments → Bool
  | .subsSystemAbility, (_, listener) | .unSubsSystemAbility, (_, listener)
  | .subsSystemAbilityWithUserId, (_, listener, _) | .unSubsSystemAbilityWithUserId, (_, listener, _) =>
      listener.all (config.ifaceCast .systemAbilityStatusChange)
  | .loadSystemAbility, (_, callback) | .loadSystemAbilityWithUserId, (_, callback, _)
  | .loadRemoteSystemAbility, (_, _, callback) => callback.all (config.ifaceCast .systemAbilityLoadCallback)
  | .subscribeSystemProcess, listener | .unSubscribeSystemProcess, listener
  | .subscribeLowMemSystemProcess, listener | .unSubscribeLowMemSystemProcess, listener
  | .subscribeSystemProcessWithUserId, (listener, _)
  | .unSubscribeSystemProcessWithUserId, (listener, _) =>
      listener.all (config.ifaceCast .systemProcessStatusChange)
  | _, _ => true

end Operation

/-- The caller may ask for this. -/
structure Admits (config : StubConfig) (caller : Caller) (op : Operation) (arguments : op.Arguments) :
    Prop where
  rights : ∀ right ∈ op.rights arguments, right.heldBy config caller = true
  valid : op.valid arguments = true
  castable : op.castable config arguments = true

namespace Stub

variable {config : StubConfig} {caller : Caller}

section Checks

variable {missing invalid : Remote.Refusal Int32} {systemAbilityId : Int32}

theorem grants_saId :
    (saId missing invalid).Grants fun systemAbilityId =>
      checkInputSysAbilityId systemAbilityId.toInt = true :=
  (grants_any _).andThen fun _ _ => (grants_require _ _).andThen fun _ inRange => grants_done inRange

theorem grants_object : (object missing).Grants fun remoteObject => remoteObject.isSome = true :=
  (grants_any _).andThen fun _ _ => grants_done rfl

theorem grants_interfaceObject {interface : ClientInterface} :
    (interfaceObject config interface missing).Grants fun remoteObject =>
      remoteObject.isSome = true ∧ remoteObject.all (config.ifaceCast interface) = true :=
  (grants_any _).andThen fun _ _ => (grants_require _ _).andThen fun _ cast => grants_done ⟨rfl, cast⟩

theorem grants_nonEmpty {read : IpcReader String} :
    (nonEmpty read missing).Grants fun text => (text != "") = true :=
  (grants_any _).andThen fun _ _ => (grants_require _ _).andThen fun _ some => grants_done some

theorem heldBy_launch :
    (!(config.isPengLai && !config.checkPengLaiPermission caller systemAbilityId)) =
      (Right.launch systemAbilityId).heldBy config caller := by
  rw [Right.heldBy, Bool.not_and, Bool.not_not]

theorem grants_checkPengLai :
    (checkPengLai config caller systemAbilityId).Grants fun _ =>
      (Right.launch systemAbilityId).heldBy config caller = true := by
  rw [checkPengLai, heldBy_launch]
  exact grants_require _ _

/-- A look-up is allowed. -/
def MayGet (config : StubConfig) (caller : Caller) (systemAbilityId : Int32) : Prop :=
  (Right.launch systemAbilityId).heldBy config caller = true ∧
    (Right.get systemAbilityId).heldBy config caller = true

theorem MayGet.rights (may : MayGet config caller systemAbilityId) :
    ∀ right ∈ [Right.launch systemAbilityId, Right.get systemAbilityId],
      right.heldBy config caller = true :=
  List.forall_mem_cons.mpr ⟨may.1, List.forall_mem_singleton.mpr may.2⟩

theorem grants_saIdToGet :
    (saIdToGet config caller).Grants fun systemAbilityId =>
      checkInputSysAbilityId systemAbilityId.toInt = true ∧ MayGet config caller systemAbilityId :=
  grants_saId.andThen fun _ inRange => grants_checkPengLai.andThen fun _ launch =>
    (grants_require _ _).andThen fun _ get => grants_done ⟨inRange, launch, get⟩

theorem grants_loadSACheck :
    (loadSACheck config caller systemAbilityId).Grants fun _ =>
      checkInputSysAbilityId systemAbilityId.toInt = true ∧ MayGet config caller systemAbilityId := by
  refine (grants_require _ _).andThen fun _ inRange => grants_checkPengLai.andThen fun _ launch => ?_
  intro values _ rest taken
  exact ⟨inRange, launch, grants_require _ _ values _ rest taken⟩

theorem grants_loadRemoteSACheck :
    (loadRemoteSACheck config caller systemAbilityId).Grants fun _ =>
      checkInputSysAbilityId systemAbilityId.toInt = true ∧
        (Right.launch systemAbilityId).heldBy config caller = true ∧
          (Right.getRemote systemAbilityId).heldBy config caller = true := by
  refine (grants_require _ _).andThen fun _ inRange => grants_checkPengLai.andThen fun _ launch => ?_
  intro values _ rest taken
  exact ⟨inRange, launch, grants_require _ _ values _ rest taken⟩

theorem grants_unmarshalingSaExtraProp :
    (unmarshalingSaExtraProp config).Grants fun extraProp =>
      decide (0 ≤ extraProp.dumpFlags.toInt32.toInt) = true := by
  refine (grants_any _).andThen fun _ _ => (grants_any _).andThen fun dumpFlags _ =>
    (grants_require _ _).andThen fun _ positive => (grants_any _).andThen fun _ _ =>
      (grants_any _).andThen fun _ _ => grants_done ?_
  simpa using positive

end Checks

section Handlers

variable {sizes : IpcSizes}

theorem grants_require_then {Item : Type} {condition : Bool} {refusal : Remote.Refusal Int32}
    {next : Unit → IpcReceiver Item} {holds : Item → Prop}
    (later : condition = true → (next ()).Grants holds) :
    ((require condition refusal).andThen next).Grants holds :=
  (grants_require condition refusal).andThen fun _ now => later now

theorem grants_reading_then {Item Other : Type} {read : IpcReader Item} {refusal : Remote.Refusal Int32}
    {next : Item → IpcReceiver Other} {holds : Other → Prop} (later : ∀ item, (next item).Grants holds) :
    ((reading read refusal).andThen next).Grants holds :=
  (grants_any _).andThen fun item _ => later item

/-- One right is all that is asked for. -/
theorem admits_single {op : Operation} {arguments : op.Arguments} {right : Right}
    (asked : op.rights arguments = [right]) (held : right.heldBy config caller = true)
    (valid : op.valid arguments = true) (castable : op.castable config arguments = true) :
    Admits config caller op arguments where
  rights := by
    rw [asked]
    exact List.forall_mem_singleton.mpr held
  valid := valid
  castable := castable

theorem grants_abilityListener :
    ((abilityListenerInner config).receive caller).Grants fun arguments =>
      (checkInputSysAbilityId arguments.1.toInt && arguments.2.isSome) = true ∧
        arguments.2.all (config.ifaceCast .systemAbilityStatusChange) = true :=
  grants_saId.andThen fun _ inRange => grants_interfaceObject.andThen fun _ taken =>
    grants_done ⟨Bool.and_eq_true_iff.mpr ⟨inRange, taken.1⟩, taken.2⟩

theorem grants_userAbilityListener :
    ((userAbilityListenerInner config).receive caller).Grants fun arguments =>
      (checkInputSysAbilityId arguments.1.toInt && arguments.2.1.isSome) = true ∧
        arguments.2.1.all (config.ifaceCast .systemAbilityStatusChange) = true :=
  grants_saId.andThen fun _ inRange => grants_interfaceObject.andThen fun _ taken => grants_reading_then fun _ =>
    grants_done ⟨Bool.and_eq_true_iff.mpr ⟨inRange, taken.1⟩, taken.2⟩

theorem grants_processListener :
    ((processListenerInner config).receive caller).Grants fun listener =>
      caller.isNativeToken = true ∧ listener.isSome = true ∧
        listener.all (config.ifaceCast .systemProcessStatusChange) = true :=
  grants_require_then fun native => grants_interfaceObject.mono fun _ taken => ⟨native, taken⟩

theorem grants_userProcessListener :
    ((userProcessListenerInner config).receive caller).Grants fun arguments =>
      caller.isNativeToken = true ∧ arguments.1.isSome = true ∧
        arguments.1.all (config.ifaceCast .systemProcessStatusChange) = true :=
  grants_require_then fun native => grants_interfaceObject.andThen fun _ taken => grants_reading_then fun _ =>
    grants_done ⟨native, taken⟩

theorem grants_userLookup :
    ((userLookupInner config).receive caller).Grants fun arguments =>
      checkInputSysAbilityId arguments.1.toInt = true ∧ MayGet config caller arguments.1 :=
  grants_saIdToGet.andThen fun _ may => grants_reading_then fun _ => grants_done may

theorem grants_addSystemAbility :
    ((addSystemAbilityInner config).receive caller).Grants (Admits config caller .addSystemAbility) := by
  refine grants_require_then fun native => grants_saId.andThen fun systemAbilityId inRange =>
    grants_require_then fun add => grants_object.andThen fun ability there =>
      grants_unmarshalingSaExtraProp.andThen fun extraProp positive =>
        grants_require_then fun remote => grants_done ⟨?_, ?_, rfl⟩
  · intro right asked
    simp only [Operation.rights, List.mem_append, List.mem_cons, List.not_mem_nil, or_false] at asked
    rcases asked with (rfl | rfl) | asked
    · exact native
    · exact add
    · split at asked
      · rename_i distributed
        rw [distributed] at remote
        rw [List.mem_singleton.mp asked]
        exact remote
      · exact absurd asked List.not_mem_nil
  · simp only [Operation.valid, inRange, there, Bool.and_true, Bool.true_and]
    exact positive

theorem grants_checkRemtSystemAbility :
    ((checkRemtSystemAbilityInner config).receive caller).Grants
      (Admits config caller .checkRemtSystemAbility) :=
  grants_require_then fun native => grants_saId.andThen fun _ inRange =>
    grants_checkPengLai.andThen fun _ launch => grants_require_then fun get => grants_reading_then fun _ =>
      grants_done ⟨List.forall_mem_cons.mpr ⟨native,
        List.forall_mem_cons.mpr ⟨launch, List.forall_mem_singleton.mpr get⟩⟩, inRange, rfl⟩

theorem grants_addOndemandSystemAbility :
    ((addOndemandSystemAbilityInner config).receive caller).Grants
      (Admits config caller .addOndemandSystemAbility) :=
  grants_require_then fun native => grants_saId.andThen fun _ inRange => grants_require_then fun add =>
    grants_nonEmpty.andThen fun _ some => grants_done
      ⟨List.forall_mem_cons.mpr ⟨native, List.forall_mem_singleton.mpr add⟩,
        Bool.and_eq_true_iff.mpr ⟨inRange, some⟩, rfl⟩

theorem grants_removeSystemAbility :
    ((removeSystemAbilityInner config).receive caller).Grants (Admits config caller .removeSystemAbility) :=
  grants_require_then fun native => grants_saId.andThen fun _ inRange => grants_require_then fun add =>
    grants_done ⟨List.forall_mem_cons.mpr ⟨native, List.forall_mem_singleton.mpr add⟩, inRange, rfl⟩

theorem grants_listSystemAbility :
    ((listSystemAbilityInner config).receive caller).Grants (Admits config caller .listSystemAbility) :=
  grants_require_then fun native => grants_require_then fun list => grants_reading_then fun _ =>
    grants_done ⟨List.forall_mem_cons.mpr ⟨native, List.forall_mem_singleton.mpr list⟩, rfl, rfl⟩

theorem grants_loadSystemAbility :
    ((loadSystemAbilityInner config).receive caller).Grants (Admits config caller .loadSystemAbility) :=
  grants_reading_then fun _ => grants_loadSACheck.andThen fun _ may => grants_interfaceObject.andThen fun _ taken =>
    grants_done ⟨may.2.rights, Bool.and_eq_true_iff.mpr ⟨may.1, taken.1⟩, taken.2⟩

theorem grants_loadSystemAbilityWithUserId :
    ((loadSystemAbilityWithUserIdInner config).receive caller).Grants
      (Admits config caller .loadSystemAbilityWithUserId) :=
  grants_reading_then fun _ => grants_loadSACheck.andThen fun _ may => grants_interfaceObject.andThen fun _ taken =>
    grants_reading_then fun _ =>
      grants_done ⟨may.2.rights, Bool.and_eq_true_iff.mpr ⟨may.1, taken.1⟩, taken.2⟩

theorem grants_loadRemoteSystemAbility :
    ((loadRemoteSystemAbilityInner config).receive caller).Grants
      (Admits config caller .loadRemoteSystemAbility) :=
  grants_reading_then fun _ => grants_loadRemoteSACheck.andThen fun _ may =>
    grants_nonEmpty.andThen fun _ some => grants_interfaceObject.andThen fun _ taken => grants_done
      ⟨List.forall_mem_cons.mpr ⟨may.2.1, List.forall_mem_singleton.mpr may.2.2⟩,
        Bool.and_eq_true_iff.mpr ⟨Bool.and_eq_true_iff.mpr ⟨may.1, some⟩, taken.1⟩, taken.2⟩

theorem grants_addSystemProcess :
    ((addSystemProcessInner config).receive caller).Grants (Admits config caller .addSystemProcess) :=
  grants_require_then fun native => grants_nonEmpty.andThen fun _ some => grants_object.andThen fun _ there =>
    grants_done (admits_single rfl native (Bool.and_eq_true_iff.mpr ⟨some, there⟩) rfl)

theorem grants_onUserStateChanged :
    ((onUserStateChangedInner config).receive caller).Grants (Admits config caller .onUserStateChanged) :=
  grants_require_then fun account => grants_reading_then fun _ => grants_reading_then fun _ =>
    grants_require_then fun range => grants_done (admits_single rfl account range rfl)

/-- No handler takes a call that its caller may not make. -/
theorem inner_grants (caller : Caller) (op : Operation) :
    ((inner config sizes op).receive caller).Grants (Admits config caller op) := by
  cases op with
  | getSystemAbility | checkSystemAbility =>
      exact grants_saIdToGet.mono fun _ may => ⟨may.2.rights, may.1, rfl⟩
  | checkSystemAbilityImme =>
      exact grants_saIdToGet.andThen fun _ may => grants_reading_then fun _ =>
        grants_done ⟨may.2.rights, may.1, rfl⟩
  | getSystemAbilityWithUserId | checkSystemAbilityWithUserId =>
      exact grants_userLookup.mono fun _ may => ⟨may.2.rights, may.1, rfl⟩
  | checkSystemAbilityByUserId =>
      exact grants_saIdToGet.andThen fun _ may => grants_reading_then fun _ => grants_reading_then fun _ =>
        grants_done ⟨may.2.rights, may.1, rfl⟩
  | addSystemAbility => exact grants_addSystemAbility
  | removeSystemAbility => exact grants_removeSystemAbility
  | listSystemAbility => exact grants_listSystemAbility
  | checkRemtSystemAbility => exact grants_checkRemtSystemAbility
  | addOndemandSystemAbility => exact grants_addOndemandSystemAbility
  | addSystemProcess => exact grants_addSystemProcess
  | loadSystemAbility => exact grants_loadSystemAbility
  | loadSystemAbilityWithUserId => exact grants_loadSystemAbilityWithUserId
  | loadRemoteSystemAbility => exact grants_loadRemoteSystemAbility
  | onUserStateChanged => exact grants_onUserStateChanged
  | subsSystemAbility | unSubsSystemAbility =>
      exact grants_abilityListener.mono fun _ may =>
        ⟨fun _ asked => absurd asked List.not_mem_nil, may.1, may.2⟩
  | subsSystemAbilityWithUserId | unSubsSystemAbilityWithUserId =>
      exact grants_userAbilityListener.mono fun _ may =>
        ⟨fun _ asked => absurd asked List.not_mem_nil, may.1, may.2⟩
  | unloadSystemAbility | cancelUnloadSystemAbility =>
      exact grants_saId.mono fun _ valid => ⟨fun _ asked => absurd asked List.not_mem_nil, valid, rfl⟩
  | unloadAllIdleSystemAbility | getOnDemandSystemAbilityIds =>
      exact grants_done ⟨fun _ asked => absurd asked List.not_mem_nil, rfl, rfl⟩
  | subscribeSystemProcess | unSubscribeSystemProcess | subscribeLowMemSystemProcess
  | unSubscribeLowMemSystemProcess =>
      exact grants_processListener.mono fun _ may => admits_single rfl may.1 may.2.1 may.2.2
  | subscribeSystemProcessWithUserId | unSubscribeSystemProcessWithUserId =>
      exact grants_userProcessListener.mono fun _ may => admits_single rfl may.1 may.2.1 may.2.2
  | getRunningSystemProcess =>
      exact (grants_require _ _).mono fun _ native => admits_single rfl native rfl rfl
  | getOnDemandReasonExtraData =>
      exact grants_require_then fun native => (grants_any _).mono fun _ _ => admits_single rfl native rfl rfl
  | getOnDemandPolicy =>
      exact grants_require_then fun native => grants_reading_then fun _ => grants_reading_then fun _ =>
        grants_done (admits_single rfl native rfl rfl)
  | updateOnDemandPolicy =>
      exact grants_require_then fun native => grants_reading_then fun _ => grants_reading_then fun _ =>
        grants_reading_then fun _ => grants_done (admits_single rfl native rfl rfl)
  | sendStrategy =>
      exact grants_require_then fun native => grants_reading_then fun _ => grants_reading_then fun _ =>
        grants_reading_then fun _ => grants_reading_then fun _ => grants_done (admits_single rfl native rfl rfl)
  | getSystemProcessInfo =>
      exact grants_require_then fun native => grants_saId.mono fun _ inRange =>
        admits_single rfl native inRange rfl
  | getSystemProcessInfoWithUserId =>
      exact grants_require_then fun native => grants_saId.andThen fun _ inRange =>
        grants_reading_then fun _ => grants_done (admits_single rfl native inRange rfl)
  | getCommonEventExtraDataIdlist =>
      exact grants_require_then fun native => grants_saId.andThen fun _ inRange =>
        grants_reading_then fun _ => grants_done (admits_single rfl native inRange rfl)
  | getExtensionSaIds | getExtensionRunningSaList =>
      exact grants_require_then fun native => (grants_any _).mono fun _ _ => admits_single rfl native rfl rfl
  | getRunningSaExtensionInfoList =>
      exact grants_require_then fun granted => (grants_any _).mono fun _ _ => admits_single rfl granted rfl rfl
  | onStartSystemAbilityFail =>
      exact grants_require_then fun native => grants_reading_then fun _ => grants_reading_then fun _ =>
        grants_require_then fun inRange => grants_done (admits_single rfl native inRange rfl)
  | getLocalAbilityManagerProxy =>
      exact grants_require_then fun granted => grants_saId.mono fun _ inRange =>
        admits_single rfl granted inRange rfl
  | getLocalAbilityManagerProxyWithUserId =>
      exact grants_require_then fun granted => grants_saId.andThen fun _ inRange =>
        grants_reading_then fun _ => grants_done (admits_single rfl granted inRange rfl)
  | unloadProcess =>
      exact grants_require_then fun memmgr => (grants_any _).mono fun _ _ => admits_single rfl memmgr rfl rfl
  | getLruIdleSystemAbilityProc =>
      exact (grants_require _ _).mono fun _ memmgr => admits_single rfl memmgr rfl rfl
  | setSamgrIpcPrior =>
      exact grants_require_then fun schedule => (grants_any _).mono fun _ _ => admits_single rfl schedule rfl rfl

end Handlers

end Stub

section Requests

variable {State : Type} (config : StubConfig) (sizes : IpcSizes)
  (otherwise : UInt32 → IpcParcel → Int32 × IpcParcel)

/-- Whoever sends whatever parcels, in whatever order: the manager is left where the calls that were
let through leave it, and each of them is the call of its sender, for the operation of its code, with
the rights and the arguments that the operation asks for. What is not let through changes nothing, and
its answer says nothing of the manager. -/
theorem requests_perform_admitted_calls (service : Remote.Service systemAbilityManager Caller State) :
    let stub := Stub.systemAbilityManagerStub config sizes otherwise
    (∀ (state : State) (requests : List (Remote.Request IpcValue Caller)),
      Runs.run (fun now request => (stub.onRemoteRequest service now request).1) state requests =
        Runs.run (Remote.Service.perform service) state (requests.filterMap stub.admitted)) ∧
      ∀ request : Remote.Request IpcValue Caller,
        match stub.admitted request with
        | some call =>
            call.caller = request.caller ∧ Stub.memberFuncMap.lookup request.code = some call.op ∧
              Admits config call.caller call.op call.arguments
        | none =>
            ∃ sent, (∀ state, stub.onRemoteRequest service state request = (state, sent)) ∧
              ((Stub.memberFuncMap.lookup request.code).isSome = true → sent.1 ≠ 0) := by
  intro stub
  refine ⟨stub.run_requests service, fun request => ?_⟩
  split
  · rename_i call passed
    exact Remote.Stub.admitted_grants (fun _ op _ caller => Stub.inner_grants caller op) passed
  · rename_i refused
    exact stub.onRemoteRequest_refused service refused

end Requests

end Samgr.Ipc
