import Samgr.Cache.Service
import Samgr.Facade.ExtraData
import Samgr.Ipc.Access
import Samgr.Lib.Visits

/-! How `SystemAbilityManager` gives the calls to the managers of the users. The base manager serves
the abilities that have one instance; of the others every user has one, with a manager of its own. -/
namespace Samgr.Ipc

/-- Where a manager is found: the base manager, that of a user, or that of a user who is stopping. -/
inductive Place where
  | base
  | user (userId : Int)
  | stopping (userId : Int)
  deriving DecidableEq, Repr

/-- What the routes look at. It changes when users come and go, and when they switch. -/
structure UserTable where
  multiInstanceSaIds : List Int
  validUserIds : List Int
  stoppingUserIds : List Int
  foregroundUserId : Int
  deriving DecidableEq, Repr

/-- The facade with its managers. -/
structure Router (Instance : Type) where
  users : UserTable
  managers : Visits.Store Place Instance
  based : (managers .base).isSome = true

/-- Where a call goes. -/
inductive Route (op : Operation) where
  /-- It is made at every place of the list, and what comes back is put together. -/
  | visit (called : Operation) (strict : Bool) (visits : List (Place × called.Arguments))
    (answer : List (Option called.Answer) → op.Answer)
  /-- The ability is looked up at the place, and the base manager does the work with what is found. -/
  | looked (place : Place) (saId : Int32) (arguments : op.Arguments) (missing : op.Answer)
  /-- `userLifecycleManager_` sees to it. -/
  | users

namespace Route

variable {op : Operation}

/-- The facade answers itself. -/
def answered (answer : op.Answer) : Route op := .visit op false [] fun _ => answer

/-- One manager does the work; `missing` is the answer where there is none. -/
def one (place : Place) (arguments : op.Arguments) (missing : op.Answer) : Route op :=
  .visit op false [(place, arguments)] fun answers => answers.head?.join.getD missing

/-- The work is done by another operation that answers the same. -/
def delegated (called : Operation) (place : Place) (arguments : called.Arguments) (missing : op.Answer)
    (answer : called.Answer → op.Answer) : Route op :=
  .visit called false [(place, arguments)] fun answers => (answers.head?.join.map answer).getD missing

end Route

namespace UserTable

variable (table : UserTable)

def isMultiInstanceSaId (saId : Int32) : Bool := table.multiInstanceSaIds.contains saId.toInt

def isValidUser (userId : Int) : Bool := table.validUserIds.contains userId

def isUserStopping (userId : Int) : Bool := table.stoppingUserIds.contains userId

def routeForUser (saId : Int32) (caller : Int) : Int :=
  if !table.isMultiInstanceSaId saId then BASE_USER
  else if caller = BASE_USER then table.foregroundUserId else caller

def routeForSa (saId : Int32) (caller : Int) : ErrCode :=
  Samgr.routeForSa table.multiInstanceSaIds saId.toInt caller

/-- The base user's call is made at the base manager, another at the manager of its user. -/
def placeOf (userId : Int) : Place := if userId = BASE_USER then .base else .user userId

/-- The base manager first, then the managers of all the users in turn. -/
def everyone : List Place := .base :: table.validUserIds.map .user

end UserTable

def SA_OPERATION_NOT_ALLOWED_CODE : Int32 := 1027

def INVALID_CALLING_USER_ID : Int32 := 1026

/-- The first code that is not zero. -/
def firstFailure (codes : List Int32) : Int32 := (codes.find? (· != 0)).getD 0

namespace Route

variable {Item : Type}

/-- The codes of the managers that are there. -/
def codeOf (answers : List (Option Int32)) : Int32 := firstFailure (answers.filterMap id)

/-- The first list is the base manager's, which is returned whatever its code is; a user's list is
taken if its manager succeeds. -/
def listOf (answers : List (Option (Int32 × List Item))) : Int32 × List Item :=
  match answers with
  | some base :: rest =>
      (firstFailure (base.1 :: (rest.filterMap id).map Prod.fst),
        base.2 ++ ((rest.filterMap id).filter (·.1 == 0)).flatMap Prod.snd)
  | _ => (0, [])

/-- `GetRunningSystemProcess` ends at a user without a manager. -/
def runningOf (invalidValue : Int32) (answers : List (Option (Int32 × List Item))) : Int32 × List Item :=
  if answers.all Option.isSome then listOf answers else (invalidValue, (listOf answers).2)

/-- `SendStrategy`: someone must have got the strategy. -/
def strategyOf (invalidValue : Int32) (answers : List (Option Int32)) : Int32 :=
  if answers.any Option.isSome then codeOf answers else invalidValue

end Route

section Routing

variable (codes : ErrCodes) (table : UserTable) (caller : Int)

/-- An ability of the users is served by the caller's manager, and for the base user by that of the
user in the foreground. -/
def forUser {op : Operation} (saId : Int32) (arguments : op.Arguments) (missing : op.Answer) : Route op :=
  .one (UserTable.placeOf (table.routeForUser saId caller)) arguments missing

/-- Users deal with abilities of the users only, and the base user with the others. -/
def forSa {op : Operation} (saId : Int32) (place : Place) (arguments : op.Arguments)
    (refused : Int32 → op.Answer) : Route op :=
  if table.routeForSa saId caller ≠ .errOk then .answered (refused SA_OPERATION_NOT_ALLOWED_CODE)
  else .one place arguments (refused codes.invalidValue.1)

/-- The base user chooses the user. -/
def withUserId {op : Operation} (called : Operation) (userId : Int32) (arguments : called.Arguments)
    (refused : Int32 → op.Answer) (answer : called.Answer → op.Answer) : Route op :=
  if caller ≠ BASE_USER then .answered (refused codes.permissionDenied.1)
  else if !table.isValidUser userId.toInt then .answered (refused INVALID_CALLING_USER_ID)
  else .delegated called (.user userId.toInt) arguments (refused codes.invalidValue.1) answer

/-- Where the caller's abilities are taken from; a user who is stopping has lost the other manager. -/
def removalPlace : Place :=
  if caller ≠ BASE_USER ∧ table.isUserStopping caller = true then .stopping caller
  else UserTable.placeOf caller

/-- A subscription of the base user to the abilities of the users is for all of them. -/
def subscription {op : Operation} (saId : Int32) (arguments : op.Arguments) (valid : Bool)
    (invalid : op.Answer) : Route op :=
  if caller = BASE_USER ∧ table.isMultiInstanceSaId saId = true then
    if valid then .users else .answered invalid
  else forUser table caller saId arguments invalid

/-- The base user's subscription to processes is for all users. -/
def processSubscription {op : Operation} (arguments : op.Arguments) (invalid : op.Answer) : Route op :=
  if caller = BASE_USER then .users else .one (.user caller) arguments invalid

/-- The same call for everyone. -/
def toEveryone {op : Operation} (strict : Bool) (arguments : op.Arguments)
    (answer : List (Option op.Answer) → op.Answer) : Route op :=
  .visit op strict (table.everyone.map fun place => (place, arguments)) answer

/-- Every strategy goes to those whose abilities it is about. -/
def sendStrategy (type : Int32) (systemAbilityIds : List Int32) (level : Int32) (action : String) :
    Route .sendStrategy :=
  if systemAbilityIds = [] then .one .base (type, [], level, action) codes.invalidValue.1
  else
    let multiSaIds := systemAbilityIds.filter table.isMultiInstanceSaId
    let baseSaIds := systemAbilityIds.filter (!table.isMultiInstanceSaId ·)
    .visit .sendStrategy false
      ((if baseSaIds = [] then [] else [(.base, (type, baseSaIds, level, action))]) ++
        if multiSaIds = [] then []
        else table.validUserIds.map fun userId => (.user userId, (type, multiSaIds, level, action)))
      (Route.strategyOf codes.invalidValue.1)

def noProcess : SystemProcessInfo := { processName := "" }

/-- The methods of `SystemAbilityManager`. -/
def route : (op : Operation) → op.Arguments → Route op
  | .getSystemAbility, saId =>
      .delegated .checkSystemAbility (UserTable.placeOf (table.routeForUser saId caller)) saId none id
  | .checkSystemAbility, saId => forUser table caller saId saId none
  | .addSystemAbility, (saId, ability, extraProp) =>
      forSa codes table caller saId (UserTable.placeOf caller) (saId, ability, extraProp) id
  | .removeSystemAbility, saId => forSa codes table caller saId (removalPlace table caller) saId id
  | .listSystemAbility, dumpFlags => .one .base dumpFlags []
  | .subsSystemAbility, (saId, listener) =>
      subscription table caller saId (saId, listener)
        (checkInputSysAbilityId saId.toInt && listener.isSome) codes.invalidValue.1
  | .loadSystemAbility, (saId, callback) =>
      forUser table caller saId (saId, callback) codes.invalidValue.1
  | .loadRemoteSystemAbility, arguments => .one .base arguments codes.invalidValue.1
  | .checkRemtSystemAbility, arguments => .one .base arguments none
  | .addOndemandSystemAbility, (saId, procName) =>
      forSa codes table caller saId (UserTable.placeOf caller) (saId, procName) id
  | .checkSystemAbilityImme, (saId, isExist) =>
      forUser table caller saId (saId, isExist) (none, isExist)
  | .unSubsSystemAbility, (saId, listener) =>
      subscription table caller saId (saId, listener) true codes.invalidValue.1
  | .addSystemProcess, arguments => .one (UserTable.placeOf caller) arguments codes.invalidValue.1
  | .unloadSystemAbility, saId => forSa codes table caller saId (UserTable.placeOf caller) saId id
  | .cancelUnloadSystemAbility, saId => forSa codes table caller saId (UserTable.placeOf caller) saId id
  | .getRunningSystemProcess, none_ => toEveryone table true none_ (Route.runningOf codes.invalidValue.1)
  | .subscribeSystemProcess, listener => processSubscription caller listener codes.invalidValue.1
  | .unSubscribeSystemProcess, listener => processSubscription caller listener codes.invalidValue.1
  | .getOnDemandReasonExtraData, extraDataId =>
      .one .base extraDataId (codes.invalidValue.1, none)
  | .getOnDemandPolicy, (saId, type) =>
      forSa codes table caller saId (UserTable.placeOf caller) (saId, type) fun code => (code, [])
  | .updateOnDemandPolicy, (saId, type, events) =>
      forSa codes table caller saId (UserTable.placeOf caller) (saId, type, events) id
  | .getSystemProcessInfo, saId => forUser table caller saId saId (codes.invalidValue.1, noProcess)
  | .getOnDemandSystemAbilityIds, none_ => .one .base none_ (codes.invalidValue.1, [])
  | .sendStrategy, (type, systemAbilityIds, level, action) =>
      sendStrategy codes table type systemAbilityIds level action
  | .unloadAllIdleSystemAbility, none_ => toEveryone table false none_ Route.codeOf
  | .getExtensionSaIds, extension => .one .base extension (codes.invalidValue.1, [])
  | .getExtensionRunningSaList, extension => toEveryone table false extension Route.listOf
  | .getRunningSaExtensionInfoList, extension => toEveryone table false extension Route.listOf
  | .getCommonEventExtraDataIdlist, (saId, eventName) =>
      forSa codes table caller saId (UserTable.placeOf caller) (saId, eventName) fun code => (code, [])
  | .getLocalAbilityManagerProxy, saId => forUser table caller saId saId none
  | .unloadProcess, processList => toEveryone table false processList Route.codeOf
  | .getLruIdleSystemAbilityProc, none_ => toEveryone table false none_ Route.listOf
  | .setSamgrIpcPrior, enable => .one .base enable codes.invalidValue.1
  | .subscribeLowMemSystemProcess, listener => .one .base listener codes.invalidValue.1
  | .unSubscribeLowMemSystemProcess, listener => .one .base listener codes.invalidValue.1
  | .onStartSystemAbilityFail, (saId, errCode) =>
      .looked (UserTable.placeOf (table.routeForUser saId caller)) saId (saId, errCode) codes.invalidValue.1
  | .onUserStateChanged, (userId, _) =>
      if userId.toInt = SAMGR_INVALID_USER_ID ∨ userId.toInt = BASE_USER then
        .answered codes.invalidValue.1
      else .users
  | .getSystemAbilityWithUserId, (saId, userId) =>
      withUserId codes table caller .checkSystemAbility userId saId (fun _ => none) id
  | .checkSystemAbilityWithUserId, (saId, userId) =>
      withUserId codes table caller .checkSystemAbility userId saId (fun _ => none) id
  | .checkSystemAbilityByUserId, (saId, _, userId) =>
      withUserId codes table caller .checkSystemAbilityImme userId (saId, false) (fun _ => (none, false)) id
  | .getSystemProcessInfoWithUserId, (saId, userId) =>
      withUserId codes table caller .getSystemProcessInfo userId saId (fun code => (code, noProcess)) id
  | .getLocalAbilityManagerProxyWithUserId, (saId, userId) =>
      withUserId codes table caller .getLocalAbilityManagerProxy userId saId (fun _ => none) id
  | .loadSystemAbilityWithUserId, (saId, callback, userId) =>
      withUserId codes table caller .loadSystemAbility userId (saId, callback) id id
  | .subsSystemAbilityWithUserId, (saId, listener, userId) =>
      withUserId codes table caller .subsSystemAbility userId (saId, listener) id id
  | .unSubsSystemAbilityWithUserId, (saId, listener, userId) =>
      withUserId codes table caller .unSubsSystemAbility userId (saId, listener) id id
  | .subscribeSystemProcessWithUserId, (listener, userId) =>
      withUserId codes table caller .subscribeSystemProcess userId listener id id
  | .unSubscribeSystemProcessWithUserId, (listener, userId) =>
      withUserId codes table caller .unSubscribeSystemProcess userId listener id id

end Routing

end Samgr.Ipc
