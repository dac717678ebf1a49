import Samgr.Ipc.Parcel
import Samgr.Lib.Remote
import Samgr.Manager.State

/-! The operations of `ISystemAbilityManager` that travel, with what each takes and answers. Numbers
are as wide as in the source, and an `sptr` may be null. -/
namespace Samgr.Ipc

structure SAExtraProp where
  isDistributed : Bool
  dumpFlags : UInt32
  capability : String
  permission : String
  deriving DecidableEq, Repr

structure SystemProcessInfo where
  processName : String
  pid : Int32 := -1
  uid : Int32 := -1
  deriving DecidableEq, Repr, Inhabited

structure IdleProcessInfo where
  pid : Int32 := -1
  processName : String
  lastIdleTime : Int64 := 0
  deriving DecidableEq, Repr

structure SaExtensionInfo where
  saId : Int32 := -1
  processObj : Nat
  deriving DecidableEq, Repr

inductive Operation where
  | getSystemAbility
  | checkSystemAbility
  | addSystemAbility
  | removeSystemAbility
  | listSystemAbility
  | subsSystemAbility
  | loadSystemAbility
  | loadRemoteSystemAbility
  | checkRemtSystemAbility
  | addOndemandSystemAbility
  | checkSystemAbilityImme
  | unSubsSystemAbility
  | addSystemProcess
  | unloadSystemAbility
  | cancelUnloadSystemAbility
  | getRunningSystemProcess
  | subscribeSystemProcess
  | unSubscribeSystemProcess
  | getOnDemandReasonExtraData
  | getOnDemandPolicy
  | updateOnDemandPolicy
  | getSystemProcessInfo
  | getOnDemandSystemAbilityIds
  | sendStrategy
  | unloadAllIdleSystemAbility
  | getExtensionSaIds
  | getExtensionRunningSaList
  | getRunningSaExtensionInfoList
  | getCommonEventExtraDataIdlist
  | getLocalAbilityManagerProxy
  | unloadProcess
  | getLruIdleSystemAbilityProc
  | setSamgrIpcPrior
  | subscribeLowMemSystemProcess
  | unSubscribeLowMemSystemProcess
  | onStartSystemAbilityFail
  | onUserStateChanged
  | getSystemAbilityWithUserId
  | checkSystemAbilityWithUserId
  | checkSystemAbilityByUserId
  | getSystemProcessInfoWithUserId
  | getLocalAbilityManagerProxyWithUserId
  | loadSystemAbilityWithUserId
  | subsSystemAbilityWithUserId
  | unSubsSystemAbilityWithUserId
  | subscribeSystemProcessWithUserId
  | unSubscribeSystemProcessWithUserId
  deriving DecidableEq, Repr

namespace Operation

/-- What an operation is called with. A listener, a callback and an object may be null, and `isExist`
is the value that its variable has before the call. -/
abbrev Arguments : Operation → Type
  | .getSystemAbility | .checkSystemAbility | .removeSystemAbility | .unloadSystemAbility
  | .cancelUnloadSystemAbility | .getSystemProcessInfo | .getLocalAbilityManagerProxy => Int32
  | .addSystemAbility => Int32 × Option Nat × SAExtraProp
  | .listSystemAbility => UInt32
  | .subsSystemAbility | .unSubsSystemAbility | .loadSystemAbility => Int32 × Option Nat
  | .loadRemoteSystemAbility => Int32 × String × Option Nat
  | .checkRemtSystemAbility | .addOndemandSystemAbility | .getCommonEventExtraDataIdlist => Int32 × String
  | .checkSystemAbilityImme => Int32 × Bool
  | .addSystemProcess => String × Option Nat
  | .getRunningSystemProcess | .getOnDemandSystemAbilityIds | .unloadAllIdleSystemAbility
  | .getLruIdleSystemAbilityProc => Unit
  | .subscribeSystemProcess | .unSubscribeSystemProcess | .subscribeLowMemSystemProcess
  | .unSubscribeLowMemSystemProcess => Option Nat
  | .getOnDemandReasonExtraData => Int64
  | .getOnDemandPolicy | .onStartSystemAbilityFail | .onUserStateChanged | .getSystemAbilityWithUserId
  | .checkSystemAbilityWithUserId | .getSystemProcessInfoWithUserId
  | .getLocalAbilityManagerProxyWithUserId => Int32 × Int32
  | .updateOnDemandPolicy => Int32 × Int32 × List SystemAbilityOnDemandEvent
  | .sendStrategy => Int32 × List Int32 × Int32 × String
  | .getExtensionSaIds | .getExtensionRunningSaList | .getRunningSaExtensionInfoList => String
  | .unloadProcess => List String
  | .setSamgrIpcPrior => Bool
  | .checkSystemAbilityByUserId => Int32 × Bool × Int32
  | .loadSystemAbilityWithUserId | .subsSystemAbilityWithUserId
  | .unSubsSystemAbilityWithUserId => Int32 × Option Nat × Int32
  | .subscribeSystemProcessWithUserId | .unSubscribeSystemProcessWithUserId => Option Nat × Int32

/-- What the manager answers: an object, a code, or a code with what it has put into the reference
that it was given. -/
abbrev Answer : Operation → Type
  | .getSystemAbility | .checkSystemAbility | .checkRemtSystemAbility | .getLocalAbilityManagerProxy
  | .getSystemAbilityWithUserId | .checkSystemAbilityWithUserId
  | .getLocalAbilityManagerProxyWithUserId => Option Nat
  | .checkSystemAbilityImme | .checkSystemAbilityByUserId => Option Nat × Bool
  | .listSystemAbility => List String
  | .getRunningSystemProcess => Int32 × List SystemProcessInfo
  | .getOnDemandReasonExtraData => Int32 × Option OnDemandReasonExtraData
  | .getOnDemandPolicy => Int32 × List SystemAbilityOnDemandEvent
  | .getSystemProcessInfo | .getSystemProcessInfoWithUserId => Int32 × SystemProcessInfo
  | .getOnDemandSystemAbilityIds | .getExtensionSaIds => Int32 × List Int32
  | .getExtensionRunningSaList => Int32 × List Nat
  | .getRunningSaExtensionInfoList => Int32 × List SaExtensionInfo
  | .getCommonEventExtraDataIdlist => Int32 × List Int64
  | .getLruIdleSystemAbilityProc => Int32 × List IdleProcessInfo
  | _ => Int32

end Operation

/-- `ISystemAbilityManager`. -/
abbrev systemAbilityManager : Remote.Interface where
  Operation := Operation
  Arguments := Operation.Arguments
  Answer := Operation.Answer

/-- The codes that the two ends answer with themselves. -/
structure ErrCodes where
  nullObject : Remote.Refusal Int32
  flattenObject : Remote.Refusal Int32
  invalidValue : Remote.Refusal Int32
  permissionDenied : Remote.Refusal Int32

def SAMANAGER_INTERFACE_TOKEN : String := "ohos.samgr.accessToken"

def LAST_SYS_ABILITY_ID : Int := 0x00ffffff

def USER_STATE_ACTIVATING : Int := 0

def USER_STATE_STOPPING : Int := 2

end Samgr.Ipc
