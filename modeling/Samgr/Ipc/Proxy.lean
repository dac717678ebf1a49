import Samgr.Ipc.Interface

/-! `SystemAbilityManagerProxy`. Each call checks its arguments, writes them behind the interface
token, and reads from the reply what it gives back to its caller. -/
namespace Samgr.Ipc

namespace Operation

/-- What the caller of the proxy gets; a reference that it passed is filled only if the call
succeeds. -/
abbrev Seen : Operation → Type
  | .getSystemAbility | .checkSystemAbility | .checkRemtSystemAbility | .getLocalAbilityManagerProxy
  | .getSystemAbilityWithUserId | .checkSystemAbilityWithUserId
  | .getLocalAbilityManagerProxyWithUserId => Option Nat
  | .checkSystemAbilityImme | .checkSystemAbilityByUserId => Option Nat × Bool
  | .listSystemAbility => List String
  | .getRunningSystemProcess => Int32 × Option (List SystemProcessInfo)
  | .getOnDemandReasonExtraData => Int32 × Option OnDemandReasonExtraData
  | .getOnDemandPolicy => Int32 × Option (List SystemAbilityOnDemandEvent)
  | .getSystemProcessInfo | .getSystemProcessInfoWithUserId => Int32 × Option SystemProcessInfo
  | .getOnDemandSystemAbilityIds | .getExtensionSaIds => Int32 × Option (List Int32)
  | .getExtensionRunningSaList => Int32 × Option (List Nat)
  | .getRunningSaExtensionInfoList => Int32 × Option (List SaExtensionInfo)
  | .getCommonEventExtraDataIdlist => Int32 × Option (List Int64)
  | .getLruIdleSystemAbilityProc => Int32 × Option (List IdleProcessInfo)
  | _ => Int32

/-- Of these four calls the caller hears nothing but that they were sent. -/
def unheard : (op : Operation) → Option op.Seen
  | .unloadAllIdleSystemAbility | .unloadProcess | .setSamgrIpcPrior | .onUserStateChanged => some (0 : Int32)
  | _ => none

end Operation

abbrev IpcSender (op : Operation) : Type := Remote.Sender IpcValue Int32 op.Arguments op.Seen

/-- Every parcel of the proxy starts with this. -/
def interfaceToken : IpcParcel := [.interfaceToken SAMANAGER_INTERFACE_TOKEN]

namespace Proxy

variable (codes : ErrCodes) (sizes : IpcSizes)

section Parts

variable {Arguments Info Seen : Type}

/-- Arguments that the proxy checks itself. -/
def checked (condition : Bool) (refused : Seen) (data : IpcParcel) : Except Seen IpcParcel :=
  if condition then .ok data else .error refused

def writeObject : Option Nat → IpcParcel
  | none => []
  | some remoteObject => [.remoteObject remoteObject]

/-- A call whose result is a code. -/
def codeCall (code : UInt32) (marshal : Arguments → Except Int32 IpcParcel) :
    Remote.Sender IpcValue Int32 Arguments Int32 where
  code
  marshal
  failed _ err := err
  unmarshal _ reply := (readInt32 reply).1.getD codes.flattenObject.1

/-- A call that nobody waits for. -/
def asyncCall (code : UInt32) (marshal : Arguments → IpcParcel) :
    Remote.Sender IpcValue Int32 Arguments Int32 where
  code
  marshal arguments := .ok (marshal arguments)
  oneWay := true
  failed _ err := err
  unmarshal _ _ := 0

/-- A call whose result is an object. -/
def objectCall (code : UInt32) (marshal : Arguments → Except (Option Nat) IpcParcel) :
    Remote.Sender IpcValue Int32 Arguments (Option Nat) where
  code
  marshal
  failed _ _ := none
  unmarshal _ reply := (readRemoteObject reply).1

/-- A call that also fills `isExist`, which keeps its value if there is no object. -/
def existCall (code : UInt32) (isExist : Arguments → Bool)
    (marshal : Arguments → Except (Option Nat × Bool) IpcParcel) :
    Remote.Sender IpcValue Int32 Arguments (Option Nat × Bool) where
  code
  marshal
  failed arguments _ := (none, isExist arguments)
  unmarshal arguments reply :=
    match readRemoteObject reply with
    | (none, _) => (none, isExist arguments)
    | (some remoteObject, rest) =>
        match readBool rest with
        | (none, _) => (none, isExist arguments)
        | (some exist, _) => (some remoteObject, exist)

/-- What stands behind a result that is fine. -/
def readInfo (read : IpcReader Info) (reply : IpcParcel) : Int32 × Option Info :=
  match readInt32 reply with
  | (none, _) => (codes.flattenObject.1, none)
  | (some result, rest) =>
      if result ≠ 0 then (result, none)
      else
        match read rest with
        | (none, _) => (codes.flattenObject.1, none)
        | (some info, _) => (0, some info)

/-- A call whose result is a code, with something behind it. -/
def infoCall (code : UInt32) (read : IpcReader Info)
    (marshal : Arguments → Except (Int32 × Option Info) IpcParcel) :
    Remote.Sender IpcValue Int32 Arguments (Int32 × Option Info) where
  code
  marshal
  failed _ err := (err, none)
  unmarshal _ reply := readInfo codes read reply

def readProcessInfoFromParcel : IpcReader SystemProcessInfo :=
  readString.andThen fun processName => readInt32.andThen fun pid => readInt32.andThen fun uid =>
    Fifo.Reader.done { processName, pid, uid }

def readSystemProcessFromParcel : IpcReader (List SystemProcessInfo) :=
  readCounted (invalidSize sizes) readProcessInfoFromParcel

def readIdleProcessInfo : IpcReader IdleProcessInfo :=
  readInt32.andThen fun pid => readString16.andThen fun processName => readInt64.andThen fun lastIdleTime =>
    Fifo.Reader.done { pid, processName, lastIdleTime }

def readIdleProcessInfoFromParcel : IpcReader (List IdleProcessInfo) :=
  readCounted (invalidSize sizes) readIdleProcessInfo

/-- The lists of an extension have no more entries than there are abilities. -/
def tooManyAbilities (size : Int32) (_ : IpcParcel) : Bool := size.toInt > LAST_SYS_ABILITY_ID

def readSaList : IpcReader (List Nat) := readCounted tooManyAbilities readRemoteObject

def readSaExtensionInfo : IpcReader SaExtensionInfo :=
  readInt32.andThen fun saId => readRemoteObject.andThen fun processObj =>
    Fifo.Reader.done { saId, processObj }

def readSaExtensionInfoList : IpcReader (List SaExtensionInfo) :=
  readCounted tooManyAbilities readSaExtensionInfo

/-- `MarshalSAExtraProp`. -/
def marshalSAExtraProp (extraProp : SAExtraProp) : IpcParcel :=
  [.bool extraProp.isDistributed, .int32 extraProp.dumpFlags.toInt32, .string16 extraProp.capability,
    .string16 extraProp.permission]

end Parts

section Calls

/-- `CheckSystemAbility` of an id from its `CheckSystemAbilityTransaction` on, without the cache; the id
was checked before. -/
def checkSystemAbility : IpcSender .checkSystemAbility :=
  objectCall 2 fun systemAbilityId =>
    checked (checkInputSysAbilityId systemAbilityId.toInt) none [.int32 systemAbilityId]

/-- The request for an ability that the process does not provide itself. -/
def checkSystemAbilityImme : IpcSender .checkSystemAbilityImme :=
  existCall 12 (fun arguments => arguments.2) fun (systemAbilityId, isExist) =>
    checked (checkInputSysAbilityId systemAbilityId.toInt) (none, isExist)
      [.int32 systemAbilityId, .bool isExist]

def checkRemtSystemAbility : IpcSender .checkRemtSystemAbility :=
  objectCall 9 fun (systemAbilityId, deviceId) =>
    checked (checkInputSysAbilityId systemAbilityId.toInt && deviceId != "") none
      [.int32 systemAbilityId, .string deviceId]

def addOnDemandSystemAbilityInfo : IpcSender .addOndemandSystemAbility :=
  codeCall codes 10 fun (systemAbilityId, localAbilityManagerName) =>
    checked (checkInputSysAbilityId systemAbilityId.toInt && localAbilityManagerName != "")
      codes.invalidValue.1 [.int32 systemAbilityId, .string16 localAbilityManagerName]

/-- A call about one ability whose result is a code. -/
def abilityCall (code : UInt32) : Remote.Sender IpcValue Int32 Int32 Int32 :=
  codeCall codes code fun systemAbilityId =>
    checked (checkInputSysAbilityId systemAbilityId.toInt) codes.invalidValue.1 [.int32 systemAbilityId]

def removeSystemAbility : IpcSender .removeSystemAbility := abilityCall codes 4

def unloadSystemAbility : IpcSender .unloadSystemAbility := abilityCall codes 21

def cancelUnloadSystemAbility : IpcSender .cancelUnloadSystemAbility := abilityCall codes 22

def listSystemAbilities : IpcSender .listSystemAbility where
  code := 5
  marshal dumpFlags := .ok [.int32 dumpFlags.toInt32]
  failed _ _ := []
  unmarshal _ reply :=
    match readInt32 reply with
    | (none, _) => []
    | (some result, rest) => if result ≠ 0 then [] else (readString16Vector rest).1.getD []

/-- A listener or a callback for an ability. -/
def abilityListenerCall (code : UInt32) : Remote.Sender IpcValue Int32 (Int32 × Option Nat) Int32 :=
  codeCall codes code fun (systemAbilityId, listener) =>
    checked (checkInputSysAbilityId systemAbilityId.toInt && listener.isSome) codes.invalidValue.1
      (.int32 systemAbilityId :: writeObject listener)

def subscribeSystemAbility : IpcSender .subsSystemAbility := abilityListenerCall codes 6

def unSubscribeSystemAbility : IpcSender .unSubsSystemAbility := abilityListenerCall codes 18

def loadSystemAbility : IpcSender .loadSystemAbility := abilityListenerCall codes 7

/-- A listener or a callback for an ability of a user. -/
def userAbilityListenerCall (code : UInt32) :
    Remote.Sender IpcValue Int32 (Int32 × Option Nat × Int32) Int32 :=
  codeCall codes code fun (systemAbilityId, listener, userId) =>
    checked (checkInputSysAbilityId systemAbilityId.toInt && listener.isSome) codes.invalidValue.1
      (.int32 systemAbilityId :: (writeObject listener ++ [.int32 userId]))

def loadSystemAbilityWithUserId : IpcSender .loadSystemAbilityWithUserId := userAbilityListenerCall codes 50

def subscribeSystemAbilityWithUserId : IpcSender .subsSystemAbilityWithUserId :=
  userAbilityListenerCall codes 51

def unSubscribeSystemAbilityWithUserId : IpcSender .unSubsSystemAbilityWithUserId :=
  userAbilityListenerCall codes 52

def loadRemoteSystemAbility : IpcSender .loadRemoteSystemAbility :=
  codeCall codes 8 fun (systemAbilityId, deviceId, callback) =>
    checked (checkInputSysAbilityId systemAbilityId.toInt && deviceId != "" && callback.isSome)
      codes.invalidValue.1 (.int32 systemAbilityId :: .string deviceId :: writeObject callback)

def unloadAllIdleSystemAbility : IpcSender .unloadAllIdleSystemAbility := asyncCall 32 fun _ => []

def unloadProcess : IpcSender .unloadProcess := asyncCall 38 fun processList => [.string16Vector processList]

def setSamgrIpcPrior : IpcSender .setSamgrIpcPrior := asyncCall 40 fun enable => [.bool enable]

def onUserStateChanged : IpcSender .onUserStateChanged :=
  asyncCall 44 fun (userId, userState) => [.int32 userId, .int32 userState]

def getLruIdleSystemAbilityProc : IpcSender .getLruIdleSystemAbilityProc :=
  infoCall codes 39 (readIdleProcessInfoFromParcel sizes) fun _ => .ok []

def onStartSystemAbilityFail : IpcSender .onStartSystemAbilityFail :=
  codeCall codes 43 fun (systemAbilityId, errCode) =>
    checked (checkInputSysAbilityId systemAbilityId.toInt) codes.invalidValue.1
      [.int32 systemAbilityId, .int32 errCode]

/-- An object that is null cannot be written. -/
def addSystemAbility : IpcSender .addSystemAbility :=
  codeCall codes 3 fun (systemAbilityId, ability, extraProp) =>
    if checkInputSysAbilityId systemAbilityId.toInt then
      checked ability.isSome codes.flattenObject.1
        (.int32 systemAbilityId :: (writeObject ability ++ marshalSAExtraProp extraProp))
    else .error codes.invalidValue.1

def addSystemProcess : IpcSender .addSystemProcess :=
  codeCall codes 20 fun (procName, procObject) =>
    if procName != "" then
      checked procObject.isSome codes.flattenObject.1 (.string16 procName :: writeObject procObject)
    else .error codes.invalidValue.1

/-- The id is left to the stub. -/
def getSystemProcessInfo : IpcSender .getSystemProcessInfo :=
  infoCall codes 29 readProcessInfoFromParcel fun systemAbilityId => .ok [.int32 systemAbilityId]

def getSystemProcessInfoWithUserId : IpcSender .getSystemProcessInfoWithUserId :=
  infoCall codes 48 readProcessInfoFromParcel fun (systemAbilityId, userId) =>
    checked (checkInputSysAbilityId systemAbilityId.toInt) (codes.invalidValue.1, none)
      [.int32 systemAbilityId, .int32 userId]

def getRunningSystemProcess : IpcSender .getRunningSystemProcess :=
  infoCall codes 23 (readSystemProcessFromParcel sizes) fun _ => .ok []

/-- A listener of processes. -/
def processListenerCall (code : UInt32) : Remote.Sender IpcValue Int32 (Option Nat) Int32 :=
  codeCall codes code fun listener =>
    checked listener.isSome codes.invalidValue.1 (writeObject listener)

def subscribeSystemProcess : IpcSender .subscribeSystemProcess := processListenerCall codes 24

def unSubscribeSystemProcess : IpcSender .unSubscribeSystemProcess := processListenerCall codes 25

def subscribeLowMemSystemProcess : IpcSender .subscribeLowMemSystemProcess := processListenerCall codes 41

def unSubscribeLowMemSystemProcess : IpcSender .unSubscribeLowMemSystemProcess :=
  processListenerCall codes 42

/-- A listener of the processes of a user. -/
def userProcessListenerCall (code : UInt32) : Remote.Sender IpcValue Int32 (Option Nat × Int32) Int32 :=
  codeCall codes code fun (listener, userId) =>
    checked listener.isSome codes.invalidValue.1 (writeObject listener ++ [.int32 userId])

def subscribeSystemProcessWithUserId : IpcSender .subscribeSystemProcessWithUserId :=
  userProcessListenerCall codes 53

def unSubscribeSystemProcessWithUserId : IpcSender .unSubscribeSystemProcessWithUserId :=
  userProcessListenerCall codes 54

/-- The reply is the parcel that the caller passed, so the data stay in it. -/
def getOnDemandReasonExtraData : IpcSender .getOnDemandReasonExtraData where
  code := 26
  marshal extraDataId := .ok [.int64 extraDataId]
  failed _ err := (err, none)
  unmarshal _ extraDataParcel :=
    match readInt32 extraDataParcel with
    | (none, _) => (codes.flattenObject.1, none)
    | (some result, rest) => (result, (readExtraData rest).1)

def getOnDemandPolicy : IpcSender .getOnDemandPolicy :=
  infoCall codes 27 (readEvents sizes) fun (systemAbilityId, type) =>
    .ok [.int32 systemAbilityId, .int32 type]

def updateOnDemandPolicy : IpcSender .updateOnDemandPolicy :=
  codeCall codes 28 fun (systemAbilityId, type, abilityOnDemandEvents) =>
    .ok (.int32 systemAbilityId :: .int32 type :: writeEvents abilityOnDemandEvents)

def getOnDemandSystemAbilityIds : IpcSender .getOnDemandSystemAbilityIds :=
  infoCall codes 30 readInt32Vector fun _ => .ok []

def sendStrategy : IpcSender .sendStrategy :=
  codeCall codes 31 fun (type, systemAbilityIds, level, action) =>
    .ok [.int32 type, .int32Vector systemAbilityIds, .int32 level, .string action]

/-- `ListExtensionSendReq`. -/
def extensionCall {Info : Type} (code : UInt32) (read : IpcReader Info) :
    Remote.Sender IpcValue Int32 String (Int32 × Option Info) :=
  infoCall codes code read fun extension => .ok [.string extension]

def getExtensionSaIds : IpcSender .getExtensionSaIds := extensionCall codes 33 readInt32Vector

def getExtensionRunningSaList : IpcSender .getExtensionRunningSaList := extensionCall codes 34 readSaList

def getRunningSaExtensionInfoList : IpcSender .getRunningSaExtensionInfoList :=
  extensionCall codes 35 readSaExtensionInfoList

/-- The id is left to the stub. -/
def getCommonEventExtraDataIdlist : IpcSender .getCommonEventExtraDataIdlist :=
  infoCall codes 36 readInt64Vector fun (saId, eventName) => .ok [.int32 saId, .string eventName]

def getLocalAbilityManagerProxy : IpcSender .getLocalAbilityManagerProxy :=
  objectCall 37 fun systemAbilityId =>
    checked (checkInputSysAbilityId systemAbilityId.toInt) none [.int32 systemAbilityId]

/-- An object of an ability of a user. -/
def userObjectCall (code : UInt32) : Remote.Sender IpcValue Int32 (Int32 × Int32) (Option Nat) :=
  objectCall code fun (systemAbilityId, userId) =>
    checked (checkInputSysAbilityId systemAbilityId.toInt) none [.int32 systemAbilityId, .int32 userId]

def getSystemAbilityWithUserId : IpcSender .getSystemAbilityWithUserId := userObjectCall 45

def checkSystemAbilityWithUserId : IpcSender .checkSystemAbilityWithUserId := userObjectCall 46

def getLocalAbilityManagerProxyWithUserId : IpcSender .getLocalAbilityManagerProxyWithUserId :=
  userObjectCall 49

def checkSystemAbilityByUserId : IpcSender .checkSystemAbilityByUserId :=
  existCall 47 (fun arguments => arguments.2.1) fun (systemAbilityId, isExist, userId) =>
    checked (checkInputSysAbilityId systemAbilityId.toInt) (none, isExist)
      [.int32 systemAbilityId, .bool isExist, .int32 userId]

/-- How the proxy makes the call of an operation. It never asks for the ability of code 1: its
`GetSystemAbility` goes through the other look-ups. -/
def outer : (op : Operation) → Option (IpcSender op)
  | .getSystemAbility => none
  | .checkSystemAbility => some checkSystemAbility
  | .addSystemAbility => some (addSystemAbility codes)
  | .removeSystemAbility => some (removeSystemAbility codes)
  | .listSystemAbility => some listSystemAbilities
  | .subsSystemAbility => some (subscribeSystemAbility codes)
  | .loadSystemAbility => some (loadSystemAbility codes)
  | .loadRemoteSystemAbility => some (loadRemoteSystemAbility codes)
  | .checkRemtSystemAbility => some checkRemtSystemAbility
  | .addOndemandSystemAbility => some (addOnDemandSystemAbilityInfo codes)
  | .checkSystemAbilityImme => some checkSystemAbilityImme
  | .unSubsSystemAbility => some (unSubscribeSystemAbility codes)
  | .addSystemProcess => some (addSystemProcess codes)
  | .unloadSystemAbility => some (unloadSystemAbility codes)
  | .cancelUnloadSystemAbility => some (cancelUnloadSystemAbility codes)
  | .getRunningSystemProcess => some (getRunningSystemProcess codes sizes)
  | .subscribeSystemProcess => some (subscribeSystemProcess codes)
  | .unSubscribeSystemProcess => some (unSubscribeSystemProcess codes)
  | .getOnDemandReasonExtraData => some (getOnDemandReasonExtraData codes)
  | .getOnDemandPolicy => some (getOnDemandPolicy codes sizes)
  | .updateOnDemandPolicy => some (updateOnDemandPolicy codes)
  | .getSystemProcessInfo => some (getSystemProcessInfo codes)
  | .getOnDemandSystemAbilityIds => some (getOnDemandSystemAbilityIds codes)
  | .sendStrategy => some (sendStrategy codes)
  | .unloadAllIdleSystemAbility => some unloadAllIdleSystemAbility
  | .getExtensionSaIds => some (getExtensionSaIds codes)
  | .getExtensionRunningSaList => some (getExtensionRunningSaList codes)
  | .getRunningSaExtensionInfoList => some (getRunningSaExtensionInfoList codes)
  | .getCommonEventExtraDataIdlist => some (getCommonEventExtraDataIdlist codes)
  | .getLocalAbilityManagerProxy => some getLocalAbilityManagerProxy
  | .unloadProcess => some unloadProcess
  | .getLruIdleSystemAbilityProc => some (getLruIdleSystemAbilityProc codes sizes)
  | .setSamgrIpcPrior => some setSamgrIpcPrior
  | .subscribeLowMemSystemProcess => some (subscribeLowMemSystemProcess codes)
  | .unSubscribeLowMemSystemProcess => some (unSubscribeLowMemSystemProcess codes)
  | .onStartSystemAbilityFail => some (onStartSystemAbilityFail codes)
  | .onUserStateChanged => some onUserStateChanged
  | .getSystemAbilityWithUserId => some getSystemAbilityWithUserId
  | .checkSystemAbilityWithUserId => some checkSystemAbilityWithUserId
  | .checkSystemAbilityByUserId => some checkSystemAbilityByUserId
  | .getSystemProcessInfoWithUserId => some (getSystemProcessInfoWithUserId codes)
  | .getLocalAbilityManagerProxyWithUserId => some getLocalAbilityManagerProxyWithUserId
  | .loadSystemAbilityWithUserId => some (loadSystemAbilityWithUserId codes)
  | .subsSystemAbilityWithUserId => some (subscribeSystemAbilityWithUserId codes)
  | .unSubsSystemAbilityWithUserId => some (unSubscribeSystemAbilityWithUserId codes)
  | .subscribeSystemProcessWithUserId => some (subscribeSystemProcessWithUserId codes)
  | .unSubscribeSystemProcessWithUserId => some (unSubscribeSystemProcessWithUserId codes)

end Calls

section LocalAbilitys

variable (localAbilitys : Std.TreeMap Int Nat)

/-- What the process of the proxy provides itself is not asked for. -/
def answeredLocally : (op : Operation) → op.Arguments → Option op.Seen
  | .checkSystemAbilityImme, (systemAbilityId, _) =>
      if checkInputSysAbilityId systemAbilityId.toInt then
        localAbilitys[systemAbilityId.toInt]?.map fun proxy => (some proxy, true)
      else none
  | _, _ => none

/-- What the process provides after a call that has come back. -/
def localAbilitysAfter : (op : Operation) → op.Arguments → op.Seen → Std.TreeMap Int Nat
  | .addSystemAbility, (systemAbilityId, some ability, _), result =>
      if result = (0 : Int32) then localAbilitys.insert systemAbilityId.toInt ability else localAbilitys
  | .removeSystemAbility, systemAbilityId, result =>
      if result = (0 : Int32) then localAbilitys.erase systemAbilityId.toInt else localAbilitys
  | _, _, _ => localAbilitys

variable {Caller State : Type} (stub : Remote.Stub systemAbilityManager IpcValue Int32 Caller)
  (service : Remote.Service systemAbilityManager Caller State)

/-- A call of a process: the manager and the abilities of the process after it, and what is seen of it. -/
def call {op : Operation} (sender : IpcSender op) (caller : Caller) (state : State)
    (arguments : op.Arguments) : State × Std.TreeMap Int Nat × op.Seen :=
  let called :=
    match answeredLocally localAbilitys op arguments with
    | some seen => (state, seen)
    | none => sender.call stub service interfaceToken caller state arguments
  (called.1, localAbilitysAfter localAbilitys op arguments called.2, called.2)

end LocalAbilitys

end Proxy

end Samgr.Ipc
