import Samgr.Ipc.Interface

/-! `SystemAbilityManagerStub`. Each handler takes the arguments of its operation from the parcel,
with the checks of the caller between them, and writes the answer of the manager into the reply. -/
namespace Samgr.Ipc

open Remote.Receiver

/-- Who sends a request: what its token and the policy of the system say of it. -/
structure Caller where
  callingUid : Int32 := 0
  isNativeToken : Bool := false
  verifyAccessToken : String → Bool := fun _ => false
  nativeProcess : Option String := none
  getServiceCheck : Int32 → Bool := fun _ => true
  addServiceCheck : Int32 → Bool := fun _ => true
  getRemoteServiceCheck : Int32 → Bool := fun _ => true
  addRemoteServiceCheck : Int32 → Bool := fun _ => true
  listServiceCheck : Bool := true

/-- What the manager takes an object of a client for. -/
inductive ClientInterface where
  | systemAbilityStatusChange
  | systemAbilityLoadCallback
  | systemProcessStatusChange
  deriving DecidableEq, Repr

/-- What the stub knows of its system; `ifaceCast` says which objects can be taken for an interface. -/
structure StubConfig where
  codes : ErrCodes
  isPengLai : Bool := false
  penglaiFunc : Option (Int32 → Int32 → Bool) := none
  ifaceCast : ClientInterface → Nat → Bool := fun _ _ => true

def EXT_TRANSACTION_PERMISSION : String := "ohos.permission.ACCESS_EXT_SYSTEM_ABILITY"

def PERMISSION_SVC : String := "ohos.permission.CONTROL_SVC_CMD"

namespace Caller

variable (caller : Caller)

def canRequest : Bool := caller.isNativeToken

def checkPermission (permission : String) : Bool := caller.verifyAccessToken permission

def checkCallerProcess (callProcess : String) : Bool := caller.nativeProcess == some callProcess

end Caller

def StubConfig.checkPengLaiPermission (config : StubConfig) (caller : Caller) (systemAbilityId : Int32) : Bool :=
  match config.penglaiFunc with
  | none => true
  | some isLaunchAllowedByUid => isLaunchAllowedByUid caller.callingUid systemAbilityId

abbrev IpcReceiver (Item : Type) : Type := Remote.Receiver IpcValue Int32 Item

abbrev IpcHandler (op : Operation) : Type :=
  Remote.Handler IpcValue Int32 Caller op.Arguments op.Answer

namespace Stub

variable (config : StubConfig) (caller : Caller)

section Checks

/-- An ability id; it is refused with one code if it is missing and with the other if it is invalid. -/
def saId (missing invalid : Remote.Refusal Int32) : IpcReceiver Int32 :=
  (reading readInt32 missing).andThen fun systemAbilityId =>
    (require (checkInputSysAbilityId systemAbilityId.toInt) invalid).andThen fun _ => done systemAbilityId

def denied (condition : Bool) : IpcReceiver Unit := require condition config.codes.permissionDenied

def canRequest : IpcReceiver Unit := denied config caller.canRequest

def checkPermission (permission : String) : IpcReceiver Unit :=
  denied config (caller.checkPermission permission)

def checkCallerProcess (callProcess : String) : IpcReceiver Unit :=
  denied config (caller.checkCallerProcess callProcess)

def checkPengLai (systemAbilityId : Int32) : IpcReceiver Unit :=
  denied config (!(config.isPengLai && !config.checkPengLaiPermission caller systemAbilityId))

def checkGetSAPermission (systemAbilityId : Int32) : IpcReceiver Unit :=
  denied config (caller.getServiceCheck systemAbilityId)

def checkAddOrRemovePermission (systemAbilityId : Int32) : IpcReceiver Unit :=
  denied config (caller.addServiceCheck systemAbilityId)

def checkGetRemoteSAPermission (systemAbilityId : Int32) : IpcReceiver Unit :=
  denied config (caller.getRemoteServiceCheck systemAbilityId)

def checkListSAPermission : IpcReceiver Unit := denied config caller.listServiceCheck

/-- An object that is there. -/
def object (missing : Remote.Refusal Int32) : IpcReceiver (Option Nat) :=
  (reading readRemoteObject missing).andThen fun remoteObject => done (some remoteObject)

/-- An object that is there and can be taken for the interface. -/
def interfaceObject (interface : ClientInterface) (missing : Remote.Refusal Int32) : IpcReceiver (Option Nat) :=
  (reading readRemoteObject missing).andThen fun remoteObject =>
    (require (config.ifaceCast interface remoteObject) missing).andThen fun _ => done (some remoteObject)

/-- A text that is not empty; one that cannot be read is. -/
def nonEmpty (read : IpcReader String) (missing : Remote.Refusal Int32) : IpcReceiver String :=
  (readingOr read "").andThen fun text => (require (text != "") missing).andThen fun _ => done text

/-- `LoadSACheck`. -/
def loadSACheck (systemAbilityId : Int32) : IpcReceiver Unit :=
  (require (checkInputSysAbilityId systemAbilityId.toInt) config.codes.invalidValue).andThen fun _ =>
    (checkPengLai config caller systemAbilityId).andThen fun _ =>
      checkGetSAPermission config caller systemAbilityId

/-- `LoadRemoteSACheck`. -/
def loadRemoteSACheck (systemAbilityId : Int32) : IpcReceiver Unit :=
  (require (checkInputSysAbilityId systemAbilityId.toInt) config.codes.invalidValue).andThen fun _ =>
    (checkPengLai config caller systemAbilityId).andThen fun _ =>
      checkGetRemoteSAPermission config caller systemAbilityId

/-- An ability that the caller may get. -/
def saIdToGet : IpcReceiver Int32 :=
  (saId config.codes.nullObject config.codes.nullObject).andThen fun systemAbilityId =>
    (checkPengLai config caller systemAbilityId).andThen fun _ =>
      (checkGetSAPermission config caller systemAbilityId).andThen fun _ => done systemAbilityId

/-- `UnmarshalingSaExtraProp`. -/
def unmarshalingSaExtraProp : IpcReceiver SAExtraProp :=
  (reading readBool config.codes.flattenObject).andThen fun isDistributed =>
    (reading readInt32 config.codes.flattenObject).andThen fun dumpFlags =>
      (require (0 ≤ dumpFlags.toInt) config.codes.flattenObject).andThen fun _ =>
        (readingOr readString16 "").andThen fun capability =>
          (readingOr readString16 "").andThen fun permission =>
            done { isDistributed, dumpFlags := dumpFlags.toUInt32, capability, permission }

end Checks

section Replies

variable {Info : Type}

/-- The code is the result, and the reply holds it too. -/
def respondCode (result : Int32) : Int32 × IpcParcel := (result, [.int32 result])

/-- The code is fine whatever the result, which is in the reply. -/
def respondResult (result : Int32) : Int32 × IpcParcel := (0, [.int32 result])

def respondObject : Option Nat → Int32 × IpcParcel
  | none => (config.codes.nullObject.1, [])
  | some remoteObject => (0, [.remoteObject remoteObject])

/-- Without an object `isExist` is not written. -/
def respondObjectAndExist : Option Nat × Bool → Int32 × IpcParcel
  | (none, _) => (config.codes.nullObject.1, [])
  | (some remoteObject, isExist) => (0, [.remoteObject remoteObject, .bool isExist])

/-- A failure is in the reply only. -/
def respondInfo (write : Info → IpcParcel) (answer : Int32 × Info) : Int32 × IpcParcel :=
  if answer.1 ≠ 0 then (0, [.int32 answer.1]) else (0, .int32 answer.1 :: write answer.2)

/-- A failure is the code and in the reply. -/
def respondInfoOrBoth (write : Info → IpcParcel) (answer : Int32 × Info) : Int32 × IpcParcel :=
  if answer.1 ≠ 0 then (answer.1, [.int32 answer.1]) else (0, .int32 answer.1 :: write answer.2)

/-- A failure is the code only. -/
def respondInfoOrCode (write : Info → IpcParcel) (answer : Int32 × Info) : Int32 × IpcParcel :=
  if answer.1 ≠ 0 then (answer.1, []) else (0, .int32 answer.1 :: write answer.2)

def writeProcessInfo (info : SystemProcessInfo) : IpcParcel :=
  [.string info.processName, .int32 info.pid, .int32 info.uid]

def writeIdleProcessInfo (info : IdleProcessInfo) : IpcParcel :=
  [.int32 info.pid, .string16 info.processName, .int64 info.lastIdleTime]

def writeSaExtensionInfo (info : SaExtensionInfo) : IpcParcel :=
  [.int32 info.saId, .remoteObject info.processObj]

end Replies

section Handlers

/-- An ability is looked up for the caller. -/
def lookupInner : Remote.Handler IpcValue Int32 Caller Int32 (Option Nat) where
  receive caller := saIdToGet config caller
  respond := respondObject config

def getSystemAbilityInner : IpcHandler .getSystemAbility := lookupInner config

def checkSystemAbilityInner : IpcHandler .checkSystemAbility := lookupInner config

def checkSystemAbilityImmeInner : IpcHandler .checkSystemAbilityImme where
  receive caller :=
    (saIdToGet config caller).andThen fun systemAbilityId =>
      (reading readBool config.codes.flattenObject).andThen fun isExist => done (systemAbilityId, isExist)
  respond := respondObjectAndExist config

def checkRemtSystemAbilityInner : IpcHandler .checkRemtSystemAbility where
  receive caller :=
    (canRequest config caller).andThen fun _ =>
      (saId config.codes.nullObject config.codes.nullObject).andThen fun systemAbilityId =>
        (checkPengLai config caller systemAbilityId).andThen fun _ =>
          (checkGetRemoteSAPermission config caller systemAbilityId).andThen fun _ =>
            (reading readString config.codes.flattenObject).andThen fun deviceId =>
              done (systemAbilityId, deviceId)
  respond := respondObject config

def addSystemAbilityInner : IpcHandler .addSystemAbility where
  receive caller :=
    (canRequest config caller).andThen fun _ =>
      (saId config.codes.nullObject config.codes.nullObject).andThen fun systemAbilityId =>
        (checkAddOrRemovePermission config caller systemAbilityId).andThen fun _ =>
          (object config.codes.nullObject).andThen fun ability =>
            (unmarshalingSaExtraProp config).andThen fun extraProp =>
              -- CheckAddRemoteSAPermission
              (denied config (!extraProp.isDistributed || caller.addRemoteServiceCheck systemAbilityId)).andThen
                fun _ => done (systemAbilityId, ability, extraProp)
  respond := respondCode

def removeSystemAbilityInner : IpcHandler .removeSystemAbility where
  receive caller :=
    (canRequest config caller).andThen fun _ =>
      (saId config.codes.nullObject config.codes.nullObject).andThen fun systemAbilityId =>
        (checkAddOrRemovePermission config caller systemAbilityId).andThen fun _ => done systemAbilityId
  respond := respondCode

def addOndemandSystemAbilityInner : IpcHandler .addOndemandSystemAbility where
  receive caller :=
    (canRequest config caller).andThen fun _ =>
      (saId config.codes.nullObject config.codes.nullObject).andThen fun systemAbilityId =>
        (checkAddOrRemovePermission config caller systemAbilityId).andThen fun _ =>
          (nonEmpty readString16 config.codes.nullObject).andThen fun localManagerName =>
            done (systemAbilityId, localManagerName)
  respond := respondCode

def listSystemAbilityInner : IpcHandler .listSystemAbility where
  receive caller :=
    (canRequest config caller).andThen fun _ =>
      (checkListSAPermission config caller).andThen fun _ =>
        (reading readInt32 config.codes.flattenObject).andThen fun dumpFlag => done dumpFlag.toUInt32
  respond saNameVector :=
    if saNameVector.isEmpty then (0, [.int32 config.codes.invalidValue.1])
    else (0, [.int32 0, .string16Vector saNameVector])

def addSystemProcessInner : IpcHandler .addSystemProcess where
  receive caller :=
    (canRequest config caller).andThen fun _ =>
      (nonEmpty readString16 config.codes.nullObject).andThen fun procName =>
        (object config.codes.nullObject).andThen fun procObject => done (procName, procObject)
  respond := respondCode

/-- A listener of an ability comes or goes. -/
def abilityListenerInner : Remote.Handler IpcValue Int32 Caller (Int32 × Option Nat) Int32 where
  receive _ :=
    (saId config.codes.nullObject config.codes.nullObject).andThen fun systemAbilityId =>
      (interfaceObject config .systemAbilityStatusChange config.codes.nullObject).andThen fun listener =>
        done (systemAbilityId, listener)
  respond := respondCode

def subsSystemAbilityInner : IpcHandler .subsSystemAbility := abilityListenerInner config

def unSubsSystemAbilityInner : IpcHandler .unSubsSystemAbility := abilityListenerInner config

/-- A listener of an ability of a user comes or goes. -/
def userAbilityListenerInner : Remote.Handler IpcValue Int32 Caller (Int32 × Option Nat × Int32) Int32 where
  receive _ :=
    (saId config.codes.nullObject config.codes.nullObject).andThen fun systemAbilityId =>
      (interfaceObject config .systemAbilityStatusChange config.codes.nullObject).andThen fun listener =>
        (reading readInt32 config.codes.nullObject).andThen fun userId =>
          done (systemAbilityId, listener, userId)
  respond := respondCode

def subsSystemAbilityWithUserIdInner : IpcHandler .subsSystemAbilityWithUserId :=
  userAbilityListenerInner config

def unSubsSystemAbilityWithUserIdInner : IpcHandler .unSubsSystemAbilityWithUserId :=
  userAbilityListenerInner config

/-- A listener of all processes comes or goes. -/
def processListenerInner : Remote.Handler IpcValue Int32 Caller (Option Nat) Int32 where
  receive caller :=
    (canRequest config caller).andThen fun _ =>
      interfaceObject config .systemProcessStatusChange config.codes.nullObject
  respond := respondCode

def subscribeSystemProcessInner : IpcHandler .subscribeSystemProcess := processListenerInner config

def unSubscribeSystemProcessInner : IpcHandler .unSubscribeSystemProcess := processListenerInner config

def subscribeLowMemSystemProcessInner : IpcHandler .subscribeLowMemSystemProcess :=
  processListenerInner config

def unSubscribeLowMemSystemProcessInner : IpcHandler .unSubscribeLowMemSystemProcess :=
  processListenerInner config

/-- A listener of the processes of a user comes or goes. -/
def userProcessListenerInner : Remote.Handler IpcValue Int32 Caller (Option Nat × Int32) Int32 where
  receive caller :=
    (canRequest config caller).andThen fun _ =>
      (interfaceObject config .systemProcessStatusChange config.codes.nullObject).andThen fun listener =>
        (reading readInt32 config.codes.nullObject).andThen fun userId => done (listener, userId)
  respond := respondCode

def subscribeSystemProcessWithUserIdInner : IpcHandler .subscribeSystemProcessWithUserId :=
  userProcessListenerInner config

def unSubscribeSystemProcessWithUserIdInner : IpcHandler .unSubscribeSystemProcessWithUserId :=
  userProcessListenerInner config

def loadSystemAbilityInner : IpcHandler .loadSystemAbility where
  receive caller :=
    (reading readInt32 config.codes.invalidValue).andThen fun systemAbilityId =>
      (loadSACheck config caller systemAbilityId).andThen fun _ =>
        (interfaceObject config .systemAbilityLoadCallback config.codes.invalidValue).andThen fun callback =>
          done (systemAbilityId, callback)
  respond := respondCode

def loadSystemAbilityWithUserIdInner : IpcHandler .loadSystemAbilityWithUserId where
  receive caller :=
    (reading readInt32 config.codes.invalidValue).andThen fun systemAbilityId =>
      (loadSACheck config caller systemAbilityId).andThen fun _ =>
        (interfaceObject config .systemAbilityLoadCallback config.codes.invalidValue).andThen fun callback =>
          (reading readInt32 config.codes.invalidValue).andThen fun userId =>
            done (systemAbilityId, callback, userId)
  respond := respondCode

def loadRemoteSystemAbilityInner : IpcHandler .loadRemoteSystemAbility where
  receive caller :=
    (reading readInt32 config.codes.invalidValue).andThen fun systemAbilityId =>
      (loadRemoteSACheck config caller systemAbilityId).andThen fun _ =>
        (nonEmpty readString config.codes.invalidValue).andThen fun deviceId =>
          (interfaceObject config .systemAbilityLoadCallback config.codes.invalidValue).andThen fun callback =>
            done (systemAbilityId, deviceId, callback)
  respond := respondCode

/-- An ability is unloaded, or kept from it; who may ask for that, the manager decides. -/
def unloadInner : Remote.Handler IpcValue Int32 Caller Int32 Int32 where
  receive _ := saId config.codes.invalidValue config.codes.invalidValue
  respond := respondCode

def unloadSystemAbilityInner : IpcHandler .unloadSystemAbility := unloadInner config

def cancelUnloadSystemAbilityInner : IpcHandler .cancelUnloadSystemAbility := unloadInner config

def unloadAllIdleSystemAbilityInner : IpcHandler .unloadAllIdleSystemAbility where
  receive _ := done ()
  respond result := (result, [])

def unloadProcessInner : IpcHandler .unloadProcess where
  receive caller :=
    (checkCallerProcess config caller "memmgrservice").andThen fun _ =>
      reading readString16Vector config.codes.nullObject
  respond result := (result, [])

def getLruIdleSystemAbilityProcInner : IpcHandler .getLruIdleSystemAbilityProc where
  receive caller := checkCallerProcess config caller "memmgrservice"
  respond := respondInfoOrBoth (writeCounted writeIdleProcessInfo)

/-- The id is checked only after the error code is read. -/
def onStartSystemAbilityFailInner : IpcHandler .onStartSystemAbilityFail where
  receive caller :=
    (canRequest config caller).andThen fun _ =>
      (reading readInt32 config.codes.invalidValue).andThen fun systemAbilityId =>
        (reading readInt32 config.codes.invalidValue).andThen fun errCode =>
          (require (checkInputSysAbilityId systemAbilityId.toInt) config.codes.nullObject).andThen fun _ =>
            done (systemAbilityId, errCode)
  respond := respondCode

def getSystemProcessInfoInner : IpcHandler .getSystemProcessInfo where
  receive caller :=
    (canRequest config caller).andThen fun _ => saId config.codes.nullObject config.codes.nullObject
  respond := respondInfo writeProcessInfo

def getSystemProcessInfoWithUserIdInner : IpcHandler .getSystemProcessInfoWithUserId where
  receive caller :=
    (canRequest config caller).andThen fun _ =>
      (saId config.codes.nullObject config.codes.nullObject).andThen fun systemAbilityId =>
        (reading readInt32 config.codes.nullObject).andThen fun userId => done (systemAbilityId, userId)
  respond := respondInfo writeProcessInfo

def getRunningSystemProcessInner : IpcHandler .getRunningSystemProcess where
  receive caller := canRequest config caller
  respond := respondInfo (writeCounted writeProcessInfo)

/-- Without extra data the request fails, and its own code does not travel back. -/
def getOnDemandReasonExtraDataInner : IpcHandler .getOnDemandReasonExtraData where
  receive caller :=
    (canRequest config caller).andThen fun _ => reading readInt64 config.codes.flattenObject
  respond
    | (result, none) => (config.codes.flattenObject.1, [.int32 result])
    | (result, some extraData) => (0, [.int32 result, .extraData extraData])

def getOnDemandPolicyInner : IpcHandler .getOnDemandPolicy where
  receive caller :=
    (canRequest config caller).andThen fun _ =>
      (reading readInt32 config.codes.flattenObject).andThen fun systemAbilityId =>
        (reading readInt32 config.codes.flattenObject).andThen fun type => done (systemAbilityId, type)
  respond answer := (0, .int32 answer.1 :: writeEvents answer.2)

variable (sizes : IpcSizes)

def updateOnDemandPolicyInner : IpcHandler .updateOnDemandPolicy where
  receive caller :=
    (canRequest config caller).andThen fun _ =>
      (reading readInt32 config.codes.flattenObject).andThen fun systemAbilityId =>
        (reading readInt32 config.codes.flattenObject).andThen fun type =>
          (reading (readEvents sizes) config.codes.flattenObject).andThen fun abilityOnDemandEvents =>
            done (systemAbilityId, type, abilityOnDemandEvents)
  respond := respondResult

def sendStrategyInner : IpcHandler .sendStrategy where
  receive caller :=
    (canRequest config caller).andThen fun _ =>
      (reading readInt32 config.codes.flattenObject).andThen fun type =>
        (reading readInt32Vector config.codes.flattenObject).andThen fun systemAbilityIds =>
          (reading readInt32 config.codes.flattenObject).andThen fun level =>
            (reading readString config.codes.flattenObject).andThen fun action =>
              done (type, systemAbilityIds, level, action)
  respond := respondResult

def getOnDemandSystemAbilityIdsInner : IpcHandler .getOnDemandSystemAbilityIds where
  receive _ := done ()
  respond := respondInfoOrCode fun systemAbilityIds => [.int32Vector systemAbilityIds]

/-- The name of an extension, from a native process. -/
def extensionName (caller : Caller) : IpcReceiver String :=
  (canRequest config caller).andThen fun _ => reading readString config.codes.flattenObject

def getExtensionSaIdsInner : IpcHandler .getExtensionSaIds where
  receive := extensionName config
  respond := respondInfoOrCode fun saIds => [.int32Vector saIds]

def getExtensionRunningSaListInner : IpcHandler .getExtensionRunningSaList where
  receive := extensionName config
  respond := respondInfoOrCode (writeCounted fun remoteObject => [.remoteObject remoteObject])

def getRunningSaExtensionInfoListInner : IpcHandler .getRunningSaExtensionInfoList where
  receive caller :=
    (checkPermission config caller EXT_TRANSACTION_PERMISSION).andThen fun _ =>
      reading readString config.codes.flattenObject
  respond := respondInfoOrBoth (writeCounted writeSaExtensionInfo)

def getCommonEventExtraDataIdlistInner : IpcHandler .getCommonEventExtraDataIdlist where
  receive caller :=
    (canRequest config caller).andThen fun _ =>
      (saId config.codes.nullObject config.codes.nullObject).andThen fun saId =>
        (reading readString config.codes.flattenObject).andThen fun eventName => done (saId, eventName)
  respond := respondInfoOrBoth fun extraDataIdList => [.int64Vector extraDataIdList]

def getLocalAbilityManagerProxyInner : IpcHandler .getLocalAbilityManagerProxy where
  receive caller :=
    (checkPermission config caller PERMISSION_SVC).andThen fun _ =>
      saId config.codes.nullObject config.codes.nullObject
  respond := respondObject config

def getLocalAbilityManagerProxyWithUserIdInner : IpcHandler .getLocalAbilityManagerProxyWithUserId where
  receive caller :=
    (checkPermission config caller PERMISSION_SVC).andThen fun _ =>
      (saId config.codes.nullObject config.codes.nullObject).andThen fun systemAbilityId =>
        (reading readInt32 config.codes.nullObject).andThen fun userId => done (systemAbilityId, userId)
  respond := respondObject config

def setSamgrIpcPriorInner : IpcHandler .setSamgrIpcPrior where
  receive caller :=
    (checkCallerProcess config caller "resource_schedule_service").andThen fun _ =>
      reading readBool config.codes.flattenObject
  respond := respondResult

def onUserStateChangedInner : IpcHandler .onUserStateChanged where
  receive caller :=
    (checkCallerProcess config caller "accountmgr").andThen fun _ =>
      (reading readInt32 config.codes.flattenObject).andThen fun userId =>
        (reading readInt32 config.codes.flattenObject).andThen fun userState =>
          (require (USER_STATE_ACTIVATING ≤ userState.toInt && userState.toInt ≤ USER_STATE_STOPPING)
            config.codes.invalidValue).andThen fun _ => done (userId, userState)
  respond := respondResult

/-- An ability of a user is looked up for the caller. -/
def userLookupInner : Remote.Handler IpcValue Int32 Caller (Int32 × Int32) (Option Nat) where
  receive caller :=
    (saIdToGet config caller).andThen fun systemAbilityId =>
      (reading readInt32 config.codes.nullObject).andThen fun userId => done (systemAbilityId, userId)
  respond := respondObject config

def getSystemAbilityWithUserIdInner : IpcHandler .getSystemAbilityWithUserId := userLookupInner config

def checkSystemAbilityWithUserIdInner : IpcHandler .checkSystemAbilityWithUserId := userLookupInner config

def checkSystemAbilityByUserIdInner : IpcHandler .checkSystemAbilityByUserId where
  receive caller :=
    (saIdToGet config caller).andThen fun systemAbilityId =>
      (reading readBool config.codes.flattenObject).andThen fun isExist =>
        (reading readInt32 config.codes.nullObject).andThen fun userId =>
          done (systemAbilityId, isExist, userId)
  respond := respondObjectAndExist config

end Handlers

section Table

variable (sizes : IpcSizes)

/-- The handler of an operation. -/
def inner : (op : Operation) → IpcHandler op
  | .getSystemAbility => getSystemAbilityInner config
  | .checkSystemAbility => checkSystemAbilityInner config
  | .addSystemAbility => addSystemAbilityInner config
  | .removeSystemAbility => removeSystemAbilityInner config
  | .listSystemAbility => listSystemAbilityInner config
  | .subsSystemAbility => subsSystemAbilityInner config
  | .loadSystemAbility => loadSystemAbilityInner config
  | .loadRemoteSystemAbility => loadRemoteSystemAbilityInner config
  | .checkRemtSystemAbility => checkRemtSystemAbilityInner config
  | .addOndemandSystemAbility => addOndemandSystemAbilityInner config
  | .checkSystemAbilityImme => checkSystemAbilityImmeInner config
  | .unSubsSystemAbility => unSubsSystemAbilityInner config
  | .addSystemProcess => addSystemProcessInner config
  | .unloadSystemAbility => unloadSystemAbilityInner config
  | .cancelUnloadSystemAbility => cancelUnloadSystemAbilityInner config
  | .getRunningSystemProcess => getRunningSystemProcessInner config
  | .subscribeSystemProcess => subscribeSystemProcessInner config
  | .unSubscribeSystemProcess => unSubscribeSystemProcessInner config
  | .getOnDemandReasonExtraData => getOnDemandReasonExtraDataInner config
  | .getOnDemandPolicy => getOnDemandPolicyInner config
  | .updateOnDemandPolicy => updateOnDemandPolicyInner config sizes
  | .getSystemProcessInfo => getSystemProcessInfoInner config
  | .getOnDemandSystemAbilityIds => getOnDemandSystemAbilityIdsInner
  | .sendStrategy => sendStrategyInner config
  | .unloadAllIdleSystemAbility => unloadAllIdleSystemAbilityInner
  | .getExtensionSaIds => getExtensionSaIdsInner config
  | .getExtensionRunningSaList => getExtensionRunningSaListInner config
  | .getRunningSaExtensionInfoList => getRunningSaExtensionInfoListInner config
  | .getCommonEventExtraDataIdlist => getCommonEventExtraDataIdlistInner config
  | .getLocalAbilityManagerProxy => getLocalAbilityManagerProxyInner config
  | .unloadProcess => unloadProcessInner config
  | .getLruIdleSystemAbilityProc => getLruIdleSystemAbilityProcInner config
  | .setSamgrIpcPrior => setSamgrIpcPriorInner config
  | .subscribeLowMemSystemProcess => subscribeLowMemSystemProcessInner config
  | .unSubscribeLowMemSystemProcess => unSubscribeLowMemSystemProcessInner config
  | .onStartSystemAbilityFail => onStartSystemAbilityFailInner config
  | .onUserStateChanged => onUserStateChangedInner config
  | .getSystemAbilityWithUserId => getSystemAbilityWithUserIdInner config
  | .checkSystemAbilityWithUserId => checkSystemAbilityWithUserIdInner config
  | .checkSystemAbilityByUserId => checkSystemAbilityByUserIdInner config
  | .getSystemProcessInfoWithUserId => getSystemProcessInfoWithUserIdInner config
  | .getLocalAbilityManagerProxyWithUserId => getLocalAbilityManagerProxyWithUserIdInner config
  | .loadSystemAbilityWithUserId => loadSystemAbilityWithUserIdInner config
  | .subsSystemAbilityWithUserId => subsSystemAbilityWithUserIdInner config
  | .unSubsSystemAbilityWithUserId => unSubsSystemAbilityWithUserIdInner config
  | .subscribeSystemProcessWithUserId => subscribeSystemProcessWithUserIdInner config
  | .unSubscribeSystemProcessWithUserId => unSubscribeSystemProcessWithUserIdInner config

/-- `memberFuncMap_`, as the constructor fills it. -/
def memberFuncMap : List (UInt32 × Operation) :=
  [(1, .getSystemAbility), (2, .checkSystemAbility), (3, .addSystemAbility), (4, .removeSystemAbility),
    (5, .listSystemAbility), (6, .subsSystemAbility), (9, .checkRemtSystemAbility),
    (10, .addOndemandSystemAbility), (12, .checkSystemAbilityImme), (18, .unSubsSystemAbility),
    (7, .loadSystemAbility), (8, .loadRemoteSystemAbility), (21, .unloadSystemAbility),
    (22, .cancelUnloadSystemAbility),
    (20, .addSystemProcess), (29, .getSystemProcessInfo), (23, .getRunningSystemProcess),
    (24, .subscribeSystemProcess), (25, .unSubscribeSystemProcess), (41, .subscribeLowMemSystemProcess),
    (42, .unSubscribeLowMemSystemProcess),
    (26, .getOnDemandReasonExtraData), (27, .getOnDemandPolicy), (28, .updateOnDemandPolicy),
    (30, .getOnDemandSystemAbilityIds), (31, .sendStrategy), (32, .unloadAllIdleSystemAbility),
    (33, .getExtensionSaIds), (34, .getExtensionRunningSaList), (35, .getRunningSaExtensionInfoList),
    (36, .getCommonEventExtraDataIdlist), (37, .getLocalAbilityManagerProxy), (38, .unloadProcess),
    (39, .getLruIdleSystemAbilityProc), (40, .setSamgrIpcPrior), (43, .onStartSystemAbilityFail),
    (44, .onUserStateChanged),
    (45, .getSystemAbilityWithUserId), (46, .checkSystemAbilityWithUserId),
    (47, .checkSystemAbilityByUserId), (48, .getSystemProcessInfoWithUserId),
    (49, .getLocalAbilityManagerProxyWithUserId), (50, .loadSystemAbilityWithUserId),
    (51, .subsSystemAbilityWithUserId), (52, .unSubsSystemAbilityWithUserId),
    (53, .subscribeSystemProcessWithUserId), (54, .unSubscribeSystemProcessWithUserId)]

/-- `EnforceInterceToken`. -/
def enforceInterceToken : IpcReceiver Unit :=
  (readingOr readInterfaceToken "").andThen fun interfaceToken =>
    denied config (interfaceToken == SAMANAGER_INTERFACE_TOKEN)

/-- Another code goes to `IPCObjectStub::OnRemoteRequest`, which knows nothing of the manager. The priority
of the thread, which `SetIpcPrior` raises before the dispatch, is left out. -/
def systemAbilityManagerStub (otherwise : UInt32 → IpcParcel → Int32 × IpcParcel) :
    Remote.Stub systemAbilityManager IpcValue Int32 Caller where
  opens := enforceInterceToken config
  lookup code := memberFuncMap.lookup code
  handler := inner config sizes
  otherwise

end Table

end Stub

end Samgr.Ipc
