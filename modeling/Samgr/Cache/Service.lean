import Samgr.Manager.Sections
import Samgr.Lib.Threads
import Mathlib.Algebra.Order.Monoid.Unbundled.WithTop

/-! The service as a client with a cache sees it: the base manager and the managers of the
users, the life cycle of the users, the parameter that invalidates the caches, and the client
itself. Threads are cut at their lock sections; what a section posts to the queue of the
parameter handler is posted with the section. -/
namespace Samgr

inductive SamgrUserState where
  | activating
  | switching
  | stopping
  deriving DecidableEq, Repr

def SAMGR_INVALID_USER_ID : Int := -1
def BASE_USER : Int := 0
def RETRY_TIME_OUT_NUMBER : Nat := 6

/-- The base manager or the manager of a user. `released` says that `Destroy` has taken its
scheduler away. -/
structure Host where
  manager : Manager
  onDemandSaIdsSet : List Int
  released : Bool := false

/-- The value of the parameter that a client compares; `⊥` is the text of an unset one. -/
abbrev WaterLine : Type := WithBot Nat

structure DynamicCache where
  localPara : Option WaterLine := none
  lastQuerySaId : Int := -1
  lastQuerySaProxy : Option Nat := none

inductive QueryCode where
  | getSystemAbility
  | checkSystemAbility
  deriving DecidableEq, Repr

/-- A request to the service on its way. `waterLine` is what its answer will be cached under,
if it will be, and `timeout` the number of further tries. -/
structure Request where
  code : QueryCode
  systemAbilityId : Int
  waterLine : Option WaterLine
  timeout : Nat
  deriving DecidableEq

/-- What the manager of a user is looked up for. `own` says that the client itself calls. -/
inductive Lookup where
  | check (request : Request)
  | add (systemAbilityId : Int) (ability : Nat) (isDistributed own : Bool)
  | remove (systemAbilityId : Int) (own : Bool)
  deriving DecidableEq

inductive ServicePiece where
  | isOnDemandSystemAbility (code : QueryCode) (systemAbilityId : Int)
  | getOnDemandSystemAbilityIds (code : QueryCode) (systemAbilityId : Int)
  | getParameter (code : QueryCode) (querySaId : Int)
  | canUseCache (code : QueryCode) (querySaId : Int) (waterLine : WaterLine)
  | clearCache
  | getAbility (request : Request)
  | routeForUser (request : Request)
  | checkSystemAbility (request : Request) (host : Nat)
  | store (querySaId : Int) (waterLine : WaterLine) (res : Nat)
  | returned (res : Option Nat) (cached : Bool)
  | getMultiUserManager (userId : Int) (purpose : Lookup)
  | isUserStopping (userId systemAbilityId : Int) (own : Bool)
  | getStoppingMultiUserManager (userId systemAbilityId : Int) (own : Bool)
  | insertAbility (host : Nat) (systemAbilityId : Int) (ability : Nat) (isDistributed own : Bool)
  | updateLimitDelayUnloadTime (host : Nat) (systemAbilityId : Int) (ability : Nat)
  | addAbility (systemAbilityId : Int) (ability : Nat)
  | eraseAbility (host : Nat) (systemAbilityId : Int) (own : Bool)
  | eraseObject (host : Nat) (ability : Nat)
  | eraseDiedAbility (host : Nat) (systemAbilityId : Int)
  | invalidateCache (host : Nat) (systemAbilityId : Int) (byId own : Bool)
  | removeAbility (systemAbilityId : Int)
  | setParameter
  | handleUserActivating (userId : Int)
  | createManager (userId : Int)
  | handleUserSwitching (userId : Int)
  | handleUserStopping (userId : Int)
  | startUserStopping (userId : Int) (host : Nat)
  | destroy (userId : Int) (host : Nat)
  | eraseStoppingContext (userId : Int) (host : Nat)
  | unlockUser (userId : Int)
  deriving DecidableEq

/-- What becomes of a request outside the managers: it is served, it is turned away (the
transport fails, or the ability is unloading), or access is denied. Other pieces take
anything but `served` as a failure of what they call. -/
inductive Reply where
  | served
  | turnedAway
  | denied
  deriving DecidableEq, Repr

/-- `hosts` lists the managers ever made, the base manager first. `invalidations` is the
number of tasks in the queue of `setParmHandler_`, `dead` lists the objects that have died,
and `caller` is the user of the client. `localAbilitys` are the abilities that the client provides
itself, as its process knows them. -/
structure Service where
  allSaProfiles : List SaProfile
  multiInstanceSaIds : List Int
  hosts : List Host
  multiUserManagers : Int → Option Nat := fun _ => none
  userStateMap : Int → Option SamgrUserState := fun _ => none
  userStoppingContexts : Int → Option Nat := fun _ => none
  foregroundUserId : Int := SAMGR_INVALID_USER_ID
  invalidations : Nat := 0
  parameter : WaterLine := ⊥
  tickCount : Nat := 0
  dead : List Nat := []
  caller : Int
  cache : DynamicCache := {}
  localAbilitys : Std.TreeMap Int Nat := ∅
  onDemandSystemAbilityIdsSet : List Int := []

/-- The cached object, if it may be used for the query. -/
def DynamicCache.canUseCache (cache : DynamicCache) (dead : List Nat) (querySaId : Int)
    (waterLine : WaterLine) : Option Nat :=
  if cache.lastQuerySaId = querySaId ∧ waterLine ≠ ⊥ ∧ cache.localPara = some waterLine then
    cache.lastQuerySaProxy.filter fun object => !dead.contains object
  else none

def DynamicCache.clear (cache : DynamicCache) : DynamicCache :=
  { cache with lastQuerySaId := -1, lastQuerySaProxy := none }

/-- The manager of a user, with the multi-instance profiles. -/
def Host.ofUser (allSaProfiles : List SaProfile) (multiInstanceSaIds : List Int) : Host :=
  let filteredProfiles := allSaProfiles.filter fun saProfile =>
    multiInstanceSaIds.contains saProfile.saId
  { manager := Manager.init filteredProfiles
    onDemandSaIdsSet :=
      (filteredProfiles.filter fun saProfile => !saProfile.runOnCreate).map SaProfile.saId }

def DEVICE_INFO_SERVICE_SA : Int := 3902
def HIDUMPER_SERVICE_SA : Int := 1212
def MEDIA_ANALYSIS_SERVICE_SA : Int := 10120

/-- The base manager, with the other profiles. -/
def Host.base (allSaProfiles : List SaProfile) (multiInstanceSaIds : List Int) : Host :=
  let saInfos := allSaProfiles.filter fun saProfile =>
    !multiInstanceSaIds.contains saProfile.saId
  { manager := Manager.init saInfos
    onDemandSaIdsSet :=
      [DEVICE_INFO_SERVICE_SA, HIDUMPER_SERVICE_SA, MEDIA_ANALYSIS_SERVICE_SA] ++
        (saInfos.filter fun saProfile => !saProfile.runOnCreate).map SaProfile.saId }

/-- The requests that a query makes: `GetSystemAbilityWrapper`, which looks among the abilities of the
process first, or `CheckSystemAbilityTransaction`. -/
def request (code : QueryCode) (systemAbilityId : Int) (waterLine : Option WaterLine) :
    List ServicePiece :=
  match code with
  | .getSystemAbility =>
      if checkInputSysAbilityId systemAbilityId then
        [.getAbility ⟨code, systemAbilityId, waterLine, RETRY_TIME_OUT_NUMBER⟩]
      else [.returned none false]
  | .checkSystemAbility => [.routeForUser ⟨code, systemAbilityId, waterLine, 0⟩]

/-- What follows from an answer: it is stored, returned, or asked for again. Only
`GetSystemAbilityWrapper` asks again. -/
def Request.answered (request : Request) : Option Nat → List ServicePiece
  | some res =>
      match request.waterLine with
      | some waterLine => [.store request.systemAbilityId waterLine res]
      | none => [.returned (some res) false]
  | none =>
      match request.timeout with
      | 0 => [.returned none false]
      | timeout + 1 => [.getAbility { request with timeout }]

namespace Host

variable (host : Host)

/-- What `AddSystemAbility` checks before it takes the lock. -/
def accepts (systemAbilityId : Int) (isDistributed : Bool) : Bool :=
  checkInputSysAbilityId systemAbilityId &&
    isDistributed == host.manager.isDistributedSystemAbility systemAbilityId

/-- The ability gets into the registry. -/
def inserts (systemAbilityId : Int) (ability : Nat) (isDistributed : Bool) : Bool :=
  host.accepts systemAbilityId isDistributed &&
    (host.manager.insertAbility systemAbilityId ⟨ability, isDistributed⟩).isSome

end Host

namespace Service

/-- The service after initialisation, with its first invalidation posted, and a client that
has asked for nothing yet. -/
def init (allSaProfiles : List SaProfile) (multiInstanceSaIds : List Int) (caller : Int) : Service :=
  { allSaProfiles, multiInstanceSaIds, caller
    hosts := [Host.base allSaProfiles multiInstanceSaIds]
    invalidations := 1 }

variable (s : Service)

def isMultiInstanceSaId (saId : Int) : Bool := s.multiInstanceSaIds.contains saId

def routeForUser (saId caller : Int) : Int :=
  if s.isMultiInstanceSaId saId then
    if caller = BASE_USER then s.foregroundUserId else caller
  else BASE_USER

/-- The manager that a request of the client for the ability goes to. -/
def route (saId : Int) : Option Nat :=
  if s.routeForUser saId s.caller = BASE_USER then some 0
  else s.multiUserManagers (s.routeForUser saId s.caller)

/-- What a manager answers. -/
def checkAt (host : Nat) (systemAbilityId : Int) : Option Nat :=
  s.hosts[host]?.bind fun found => found.manager.checkSystemAbility systemAbilityId

/-- What `SystemAbilityManager::CheckSystemAbility` answers the client in this state. -/
def checkSystemAbility (systemAbilityId : Int) : Option Nat :=
  (s.route systemAbilityId).bind fun host => s.checkAt host systemAbilityId

def setHost (host : Nat) (found : Host) : Service := { s with hosts := s.hosts.set host found }

def systemAbilityInvalidateCache (host : Host) (systemAbilityId : Int) : Service :=
  if host.onDemandSaIdsSet.contains systemAbilityId then s
  else { s with invalidations := s.invalidations + 1 }

/-- The pieces of a query whose ability is known to be on demand or not. -/
def queryPieces (onDemandIds : List Int) (code : QueryCode) (systemAbilityId : Int) :
    List ServicePiece :=
  if onDemandIds.contains systemAbilityId then request code systemAbilityId none
  else [.getParameter code systemAbilityId]

/-- An ability is registered under the lock of the registry. -/
def insertAbility (host : Nat) (found : Host) (systemAbilityId : Int) (ability : Nat)
    (isDistributed : Bool) : Service :=
  if found.accepts systemAbilityId isDistributed then
    match found.manager.insertAbility systemAbilityId ⟨ability, isDistributed⟩ with
    | none => s
    | some manager =>
        let covered :=
          if systemAbilityId ∈ found.manager.abilityMap then
            s.systemAbilityInvalidateCache found systemAbilityId
          else s
        covered.setHost host { found with manager }
  else s

def eraseAt (host : Nat) (found : Host) (systemAbilityId : Int) : Service :=
  s.setHost host { found with
    manager := found.manager.setRegistry (found.manager.abilityMap.erase systemAbilityId) }

/-- The piece of `OnUserStateChanged` that takes the lock of the user. -/
def handleUserActivating (userId : Int) : List ServicePiece :=
  if s.userStateMap userId = some .stopping ∨ (s.multiUserManagers userId).isSome then []
  else [.createManager userId]

def createManager (userId : Int) : Service :=
  if (s.multiUserManagers userId).isSome then s
  else
    { s with
      hosts := s.hosts ++ [Host.ofUser s.allSaProfiles s.multiInstanceSaIds]
      multiUserManagers := Function.update s.multiUserManagers userId (some s.hosts.length)
      userStateMap := Function.update s.userStateMap userId (some .activating) }

def handleUserSwitching (userId : Int) : Service :=
  if s.userStateMap userId = some .stopping ∨ userId = s.foregroundUserId ∨
      s.multiUserManagers userId = none then s
  else
    { s with
      userStateMap := Function.update s.userStateMap userId (some .switching)
      foregroundUserId := userId }

def handleUserStopping (userId : Int) : Service × List ServicePiece :=
  if (s.userStoppingContexts userId).isSome then (s, [])
  else
    match s.multiUserManagers userId with
    | none => ({ s with userStateMap := Function.update s.userStateMap userId none }, [])
    | some host =>
        ({ s with
            userStateMap := Function.update s.userStateMap userId (some .stopping)
            multiUserManagers := Function.update s.multiUserManagers userId none
            foregroundUserId :=
              if userId = s.foregroundUserId then SAMGR_INVALID_USER_ID else s.foregroundUserId },
          [.startUserStopping userId host])

/-- A piece runs. What it leads to comes next in the same thread. -/
def exec (reply : Reply) : ServicePiece → Service × List ServicePiece
  | .isOnDemandSystemAbility code sa =>
      if s.onDemandSystemAbilityIdsSet.isEmpty then (s, [.getOnDemandSystemAbilityIds code sa])
      else (s, queryPieces s.onDemandSystemAbilityIdsSet code sa)
  | .getOnDemandSystemAbilityIds code sa =>
      let ids :=
        if reply = .served then (s.hosts[0]?.map Host.onDemandSaIdsSet).getD [] else []
      let known := ids ++ s.onDemandSystemAbilityIdsSet
      ({ s with onDemandSystemAbilityIdsSet := known }, queryPieces known code sa)
  | .getParameter code sa => (s, [.canUseCache code sa s.parameter])
  | .canUseCache code sa waterLine =>
      match s.cache.canUseCache s.dead sa waterLine with
      | some object => (s, [.returned (some object) true])
      | none => (s, .clearCache :: request code sa (some waterLine))
  | .clearCache => ({ s with cache := s.cache.clear }, [])
  | .getAbility request =>
      match s.localAbilitys[request.systemAbilityId]? with
      | some object => (s, request.answered (some object))
      | none => (s, [.routeForUser request])
  | .routeForUser request =>
      let target := s.routeForUser request.systemAbilityId s.caller
      if target = BASE_USER then (s, [.checkSystemAbility request 0])
      else (s, [.getMultiUserManager target (.check request)])
  | .checkSystemAbility request host =>
      match reply with
      | .served => (s, request.answered (s.checkAt host request.systemAbilityId))
      | .turnedAway => (s, request.answered none)
      | .denied => (s, [.returned none false])
  | .store sa waterLine res =>
      ({ s with cache := ⟨some waterLine, sa, some res⟩ }, [.returned (some res) false])
  | .returned _ _ => (s, [])
  | .getMultiUserManager userId purpose =>
      match s.multiUserManagers userId, purpose with
      | some host, .check request => (s, [.checkSystemAbility request host])
      | none, .check request => (s, request.answered none)
      | some host, .add sa ability isDistributed own =>
          (s, [.insertAbility host sa ability isDistributed own])
      | some host, .remove sa own => (s, [.eraseAbility host sa own])
      | none, _ => (s, [])
  | .isUserStopping userId sa own =>
      if (s.userStoppingContexts userId).isSome then (s, [.getStoppingMultiUserManager userId sa own])
      else (s, [.getMultiUserManager userId (.remove sa own)])
  | .getStoppingMultiUserManager userId sa own =>
      match s.userStoppingContexts userId with
      | some host => (s, [.eraseAbility host sa own])
      | none => (s, [])
  | .insertAbility host sa ability isDistributed own =>
      match s.hosts[host]? with
      | some found =>
          (s.insertAbility host found sa ability isDistributed,
            if own && found.inserts sa ability isDistributed then
              [.updateLimitDelayUnloadTime host sa ability]
            else [])
      | none => (s, [])
  | .updateLimitDelayUnloadTime host sa ability =>
      -- the call succeeds if the manager still has its scheduler
      if s.hosts[host]?.any fun found => !found.released then (s, [.addAbility sa ability]) else (s, [])
  | .addAbility sa ability => ({ s with localAbilitys := s.localAbilitys.insert sa ability }, [])
  | .eraseAbility host sa own =>
      match s.hosts[host]? with
      | some found =>
          if checkInputSysAbilityId sa && sa ∈ found.manager.abilityMap then
            (s.eraseAt host found sa, [.invalidateCache host sa true own])
          else (s, [])
      | none => (s, [])
  | .eraseObject host ability =>
      -- the death recipient of an ability runs after the death of the object only
      match s.hosts[host]? with
      | some found =>
          match found.manager.findObject ability with
          | some sa =>
              if s.dead.contains ability then
                (s.eraseAt host found sa,
                  if sa = 0 then [] else [.invalidateCache host sa false false])
              else (s, [])
          | none => (s, [])
      | none => (s, [])
  | .eraseDiedAbility host sa =>
      -- the scheduler removes what a stopped process had registered
      match s.hosts[host]? with
      | some found =>
          if (found.manager.abilityMap[sa]?).any fun saInfo => s.dead.contains saInfo.remoteObj then
            (s.eraseAt host found sa, [])
          else (s, [])
      | none => (s, [])
  | .invalidateCache host sa byId own =>
      match s.hosts[host]? with
      | some found =>
          if byId && found.released then (s, [])
          else (s.systemAbilityInvalidateCache found sa, if own then [.removeAbility sa] else [])
      | none => (s, [])
  | .removeAbility sa => ({ s with localAbilitys := s.localAbilitys.erase sa }, [])
  | .setParameter => ({ s with parameter := s.tickCount }, [])
  | .handleUserActivating userId => (s, s.handleUserActivating userId ++ [.unlockUser userId])
  | .createManager userId => (if reply = .served then s.createManager userId else s, [])
  | .handleUserSwitching userId => (s.handleUserSwitching userId, [.unlockUser userId])
  | .handleUserStopping userId =>
      ((s.handleUserStopping userId).1, (s.handleUserStopping userId).2 ++ [.unlockUser userId])
  | .startUserStopping userId host =>
      -- without processes to wait for the stop completes at once, else on the timer
      ({ s with userStoppingContexts := Function.update s.userStoppingContexts userId (some host) },
        if reply = .served then [.destroy userId host] else [])
  | .destroy userId host =>
      if s.userStoppingContexts userId = some host then
        ({ s with hosts := s.hosts.modify host fun found => { found with released := true } },
          [.eraseStoppingContext userId host])
      else (s, [])
  | .eraseStoppingContext userId host =>
      if s.userStoppingContexts userId = some host then
        ({ s with
            userStoppingContexts := Function.update s.userStoppingContexts userId none
            userStateMap :=
              if s.userStateMap userId = some .stopping then
                Function.update s.userStateMap userId none
              else s.userStateMap }, [])
      else (s, [])
  | .unlockUser _ => (s, [])

end Service

/-- Calls of the client, of other services and of the account manager, the notices of deaths,
and the timer that completes the stop of a user. The client provides abilities through its proxy. -/
inductive ServiceCall where
  | getSystemAbility (systemAbilityId : Int)
  | checkSystemAbility (systemAbilityId : Int)
  | onRemoteDied
  | proxyAddSystemAbility (systemAbilityId : Int) (ability : Nat) (isDistributed : Bool)
  | proxyRemoveSystemAbility (systemAbilityId : Int)
  | addSystemAbility (caller systemAbilityId : Int) (ability : Nat) (isDistributed : Bool)
  | removeSystemAbility (caller systemAbilityId : Int)
  | abilityDied (host ability : Nat)
  | processDied (host : Nat) (systemAbilityId : Int)
  | onUserStateChanged (userId : Int) (userState : SamgrUserState)
  | completeUserStopping (userId : Int) (host : Nat)
  deriving DecidableEq

/-- Time passes, or an object dies. -/
inductive ServiceAction where
  | elapse (ticks : Nat)
  | die (object : Nat)
  deriving DecidableEq

namespace Service

variable (s : Service)

/-- `RouteForSa`: only the base user registers base abilities, and only the other users
register multi-instance ones. -/
def routeForSa (saId caller : Int) : Bool :=
  if caller = BASE_USER then !s.isMultiInstanceSaId saId else s.isMultiInstanceSaId saId

def addSystemAbility (caller sa : Int) (ability : Nat) (isDistributed own : Bool) : List ServicePiece :=
  if s.routeForSa sa caller then
    if caller = BASE_USER then [.insertAbility 0 sa ability isDistributed own]
    else [.getMultiUserManager caller (.add sa ability isDistributed own)]
  else []

def removeSystemAbility (caller sa : Int) (own : Bool) : List ServicePiece :=
  if s.routeForSa sa caller then
    if caller = BASE_USER then [.eraseAbility 0 sa own] else [.isUserStopping caller sa own]
  else []

def enter : ServiceCall → List ServicePiece
  | .getSystemAbility sa => [.isOnDemandSystemAbility .getSystemAbility sa]
  | .checkSystemAbility sa =>
      if checkInputSysAbilityId sa then [.isOnDemandSystemAbility .checkSystemAbility sa]
      else [.returned none false]
  | .onRemoteDied => [.clearCache]
  | .proxyAddSystemAbility sa ability isDistributed =>
      if checkInputSysAbilityId sa then s.addSystemAbility s.caller sa ability isDistributed true else []
  | .proxyRemoveSystemAbility sa =>
      if checkInputSysAbilityId sa then s.removeSystemAbility s.caller sa true else []
  | .addSystemAbility caller sa ability isDistributed =>
      s.addSystemAbility caller sa ability isDistributed false
  | .removeSystemAbility caller sa => s.removeSystemAbility caller sa false
  | .abilityDied host ability => [.eraseObject host ability]
  | .processDied host sa => [.eraseDiedAbility host sa]
  | .onUserStateChanged userId userState =>
      if userId = SAMGR_INVALID_USER_ID ∨ userId = BASE_USER then []
      else
        match userState with
        | .activating => [.handleUserActivating userId]
        | .switching => [.handleUserSwitching userId]
        | .stopping => [.handleUserStopping userId]
  | .completeUserStopping userId host => [.destroy userId host]

/-- A task leaves the queue of the parameter handler. -/
def take : Option (List ServicePiece × Service) :=
  match s.invalidations with
  | 0 => none
  | invalidations + 1 => some ([.setParameter], { s with invalidations })

def act : ServiceAction → Service
  | .elapse ticks => { s with tickCount := s.tickCount + ticks }
  | .die object => { s with dead := object :: s.dead }

variable {s}

theorem take_eq_some {t : Service} {made : List ServicePiece} (taken : s.take = some (made, t)) :
    made = [.setParameter] ∧ ∃ invalidations, t = { s with invalidations } := by
  unfold take at taken
  split at taken
  · cases taken
  · cases taken
    exact ⟨rfl, _, rfl⟩

end Service

/-- The life cycle lock that a piece takes. -/
def ServicePiece.needs : ServicePiece → Option Int
  | .handleUserActivating userId => some userId
  | .handleUserSwitching userId => some userId
  | .handleUserStopping userId => some userId
  | _ => none

def ServicePiece.releases : ServicePiece → Option Int
  | .unlockUser userId => some userId
  | _ => none

/-- The threads of the client and of the service. The worker is the queue of the parameter
handler. -/
def serviceProgram : Threads.Program Service ServiceCall ServicePiece Reply ServiceAction Int where
  enter := Service.enter
  exec reply s := s.exec reply
  take := Service.take
  act := Service.act
  needs _ := ServicePiece.needs
  releases := ServicePiece.releases

abbrev Deployment : Type := Threads.Config Service ServicePiece

abbrev ServiceLabel : Type := Threads.Label ServiceCall Reply ServiceAction

namespace Deployment

def init (allSaProfiles : List SaProfile) (multiInstanceSaIds : List Int) (caller : Int) :
    Deployment :=
  { shared := Service.init allSaProfiles multiInstanceSaIds caller }

def step (x : Deployment) (label : ServiceLabel) : Deployment :=
  Threads.Config.step serviceProgram x label

def next (x : Deployment) (label : ServiceLabel) : Option ServicePiece :=
  Threads.Config.next serviceProgram x label

/-- The service and the client after initialisation and a sequence of labels. -/
def runFrom (allSaProfiles : List SaProfile) (multiInstanceSaIds : List Int) (caller : Int)
    (labels : List ServiceLabel) : Deployment :=
  Runs.run step (init allSaProfiles multiInstanceSaIds caller) labels

/-- A thread runs the given number of pieces, and every request is served. -/
def runs (client pieces : Nat) : List ServiceLabel :=
  List.replicate pieces (.run (some client) .served)

/-- The next invalidation is taken from the queue and runs. -/
def invalidate : List ServiceLabel := [.dispatch, .run none .served]

end Deployment

end Samgr
