import Samgr.Cache.Service

/-! The life cycle of the users. A change of a user's state holds the lock of that user and runs
through several sections of `userStateLock_`; the end of a stop may come later, from a task that
takes no lock of a user. Lookups of a manager run beside both. -/
namespace Samgr

/-- `BASE_ERR_OFFSET + ENOSYS`. -/
def ERR_INVALID_OPERATION : ErrCode := .other 38

/-- A stopping context. It is a shared object, and `id` tells two of them apart. -/
structure UserStopping where
  id : Nat
  manager : Nat
  processNames : List String
  deriving DecidableEq, Repr

/-- `finalizing` are the contexts whose flag is set, and `stopTasks` the tasks that wait in the
handlers of the users. The last three fields are no data of the source: the users of the managers
ever made, which are known by their place in this list, the contexts ever made, and the managers
that `Destroy` has been called for. -/
structure UserLifecycleManager where
  allSaProfiles : Bool := true
  userStateMap : Int → Option SamgrUserState := fun _ => none
  multiUserManagers : Int → Option Nat := fun _ => none
  userStoppingContexts : Int → Option UserStopping := fun _ => none
  validUserIds : Int → Bool := fun _ => false
  foregroundUserId : Int := SAMGR_INVALID_USER_ID
  stopTasks : List (Int × UserStopping) := []
  finalizing : List UserStopping := []
  managers : List Int := []
  contexts : List UserStopping := []
  destroyed : List Nat := []

/-- What a piece is told: the result of `Init`, the processes of a manager, and whether a task
could be posted. -/
structure UserInput where
  initResult : ErrCode := .errOk
  processNames : List String := []
  posted : Bool := true

/-- A state that is none of the three is `none`. The pieces of the end of a stop say whether it is
run inside the call that stops the user. -/
inductive UserPiece where
  | onUserStateChanged (userId : Int) (userState : Option SamgrUserState)
  | handleUserActivating (userId : Int)
  | initManager (userId : Int)
  | insertManager (userId : Int) (manager : Nat)
  | handleUserSwitching (userId : Int)
  | handleUserStopping (userId : Int)
  | getSystemProcessNames (userId : Int) (manager : Nat)
  | startUserStopping (userId : Int) (manager : Nat) (processNames : List String)
  | postUserStopTimeoutTask (userId : Int) (stoppingContext : UserStopping)
  | completeUserStopping (inCall : Bool) (userId : Int) (stoppingContext : UserStopping)
  | destroy (inCall : Bool) (userId : Int) (stoppingContext : UserStopping)
  | eraseStoppingContext (inCall : Bool) (userId : Int) (stoppingContext : UserStopping)
  | returned (userId : Int) (result : ErrCode)
  | timeoutTask (userId : Int) (stoppingContext : UserStopping)
  | isUserStopping (userId : Int)
  | getStoppingMultiUserManager (userId : Int)
  | getMultiUserManager (userId : Int)
  | found (userId : Int) (manager : Option Nat)
  deriving DecidableEq, Repr

inductive UserCall where
  | onUserStateChanged (userId : Int) (userState : Option SamgrUserState)
  | timeoutTask (userId : Int) (stoppingContext : UserStopping)
  | lookup (userId : Int)

namespace UserPiece

/-- A call keeps the lock of its user from its first section to its return. -/
def releases : UserPiece → Option Int
  | .handleUserActivating userId | .initManager userId | .insertManager userId _
  | .handleUserSwitching userId | .handleUserStopping userId | .getSystemProcessNames userId _
  | .startUserStopping userId _ _ | .postUserStopTimeoutTask userId _
  | .completeUserStopping true userId _ | .destroy true userId _ | .eraseStoppingContext true userId _
  | .returned userId _ => some userId
  | _ => none

def needs : UserPiece → Option Int
  | .onUserStateChanged userId _ => some userId
  | _ => none

/-- What follows the end of a stop. -/
def afterStop (inCall : Bool) (userId : Int) : List UserPiece :=
  if inCall then [.returned userId .errOk] else []

end UserPiece

namespace UserLifecycleManager

variable (s : UserLifecycleManager)

def enter : UserCall → List UserPiece
  | .onUserStateChanged userId userState => [.onUserStateChanged userId userState]
  | .timeoutTask userId stoppingContext => [.timeoutTask userId stoppingContext]
  | .lookup userId => [.isUserStopping userId]

def handleUserActivating (userId : Int) : List UserPiece :=
  if s.userStateMap userId = some .stopping then [.returned userId ERR_INVALID_OPERATION]
  else if (s.multiUserManagers userId).isSome then [.returned userId .errOk]
  else [.initManager userId]

/-- A manager that cannot be initialised is destroyed at once. -/
def initManager (userId : Int) (initResult : ErrCode) : UserLifecycleManager × List UserPiece :=
  if !s.allSaProfiles then (s, [.returned userId .errInvalidValue])
  else
    let made := { s with managers := s.managers ++ [userId] }
    if initResult ≠ .errOk then
      ({ made with destroyed := s.destroyed ++ [s.managers.length] }, [.returned userId initResult])
    else (made, [.insertManager userId s.managers.length])

def insertManager (userId : Int) (manager : Nat) : UserLifecycleManager :=
  if (s.multiUserManagers userId).isSome then { s with destroyed := s.destroyed ++ [manager] }
  else
    { s with
      multiUserManagers := Function.update s.multiUserManagers userId (some manager)
      validUserIds := Function.update s.validUserIds userId true
      userStateMap := Function.update s.userStateMap userId (some .activating) }

def handleUserSwitching (userId : Int) : UserLifecycleManager × ErrCode :=
  if s.userStateMap userId = some .stopping then (s, .errInvalidValue)
  else if userId = s.foregroundUserId then (s, .errOk)
  else if (s.multiUserManagers userId).isNone then (s, .errInvalidValue)
  else
    ({ s with
      userStateMap := Function.update s.userStateMap userId (some .switching)
      foregroundUserId := userId }, .errOk)

def handleUserStopping (userId : Int) : UserLifecycleManager × List UserPiece :=
  if (s.userStoppingContexts userId).isSome then (s, [.returned userId .errOk])
  else
    let invalid := { s with validUserIds := Function.update s.validUserIds userId false }
    match s.multiUserManagers userId with
    | none =>
        -- the state is set to STOPPING first and erased again
        ({ invalid with userStateMap := Function.update s.userStateMap userId none },
          [.returned userId .errInvalidValue])
    | some manager =>
        ({ invalid with
            userStateMap := Function.update s.userStateMap userId (some .stopping)
            multiUserManagers := Function.update s.multiUserManagers userId none
            foregroundUserId :=
              if userId = s.foregroundUserId then SAMGR_INVALID_USER_ID else s.foregroundUserId },
          [.getSystemProcessNames userId manager])

/-- The context of the stop, with the processes that were listed before. -/
def newContext (manager : Nat) (processNames : List String) : UserStopping :=
  { id := s.contexts.length, manager, processNames }

def startUserStopping (userId : Int) (manager : Nat) (processNames : List String) :
    UserLifecycleManager :=
  { s with
    userStoppingContexts :=
      Function.update s.userStoppingContexts userId (some (s.newContext manager processNames))
    contexts := s.contexts ++ [s.newContext manager processNames] }

/-- The abilities are told to stop first; then the end of the stop is run at once or posted. -/
def postUserStopTimeoutTask (userId : Int) (stoppingContext : UserStopping) (posted : Bool) :
    UserLifecycleManager × List UserPiece :=
  if stoppingContext.processNames.isEmpty || !posted then
    (s, [.completeUserStopping true userId stoppingContext])
  else
    ({ s with stopTasks := s.stopTasks ++ [(userId, stoppingContext)] }, [.returned userId .errOk])

def eraseStoppingContext (userId : Int) (stoppingContext : UserStopping) : UserLifecycleManager :=
  if s.userStoppingContexts userId = some stoppingContext then
    { s with
      userStoppingContexts := Function.update s.userStoppingContexts userId none
      userStateMap :=
        if s.userStateMap userId = some .stopping then Function.update s.userStateMap userId none
        else s.userStateMap }
  else s

/-- What one piece does, and the pieces that follow from it. The requests to the processes between
the flag and `Destroy` touch none of this state. -/
def exec (input : UserInput) (s : UserLifecycleManager) : UserPiece → UserLifecycleManager × List UserPiece
  | .onUserStateChanged userId userState =>
      (s, match userState with
        | some .activating => [.handleUserActivating userId]
        | some .switching => [.handleUserSwitching userId]
        | some .stopping => [.handleUserStopping userId]
        | none => [.returned userId .errInvalidValue])
  | .handleUserActivating userId => (s, s.handleUserActivating userId)
  | .initManager userId => s.initManager userId input.initResult
  | .insertManager userId manager => (s.insertManager userId manager, [.returned userId .errOk])
  | .handleUserSwitching userId =>
      let done := s.handleUserSwitching userId
      (done.1, [.returned userId done.2])
  | .handleUserStopping userId => s.handleUserStopping userId
  | .getSystemProcessNames userId manager =>
      (s, [.startUserStopping userId manager input.processNames])
  | .startUserStopping userId manager processNames =>
      (s.startUserStopping userId manager processNames,
        [.postUserStopTimeoutTask userId (s.newContext manager processNames)])
  | .postUserStopTimeoutTask userId stoppingContext =>
      s.postUserStopTimeoutTask userId stoppingContext input.posted
  | .completeUserStopping inCall userId stoppingContext =>
      if stoppingContext ∈ s.finalizing then (s, UserPiece.afterStop inCall userId)
      else
        ({ s with finalizing := s.finalizing ++ [stoppingContext] },
          [.destroy inCall userId stoppingContext])
  | .destroy inCall userId stoppingContext =>
      ({ s with destroyed := s.destroyed ++ [stoppingContext.manager] },
        [.eraseStoppingContext inCall userId stoppingContext])
  | .eraseStoppingContext inCall userId stoppingContext =>
      (s.eraseStoppingContext userId stoppingContext, UserPiece.afterStop inCall userId)
  | .returned _ _ => (s, [])
  | .timeoutTask userId stoppingContext =>
      if (userId, stoppingContext) ∈ s.stopTasks then
        ({ s with stopTasks := s.stopTasks.erase (userId, stoppingContext) },
          [.completeUserStopping false userId stoppingContext])
      else (s, [])
  | .isUserStopping userId =>
      (s, if (s.userStoppingContexts userId).isSome then [.getStoppingMultiUserManager userId]
        else [.getMultiUserManager userId])
  | .getStoppingMultiUserManager userId =>
      (s, [.found userId ((s.userStoppingContexts userId).map UserStopping.manager)])
  | .getMultiUserManager userId => (s, [.found userId (s.multiUserManagers userId)])
  | .found _ _ => (s, [])

end UserLifecycleManager

/-- There is no worker thread: each user has a handler of its own for the tasks. -/
def userProgram : Threads.Program UserLifecycleManager UserCall UserPiece UserInput Empty Int where
  enter _ call := UserLifecycleManager.enter call
  exec := UserLifecycleManager.exec
  take _ := none
  act s _ := s
  needs _ := UserPiece.needs
  releases := UserPiece.releases

abbrev UserMachine : Type := Threads.Config UserLifecycleManager UserPiece

abbrev UserLabel : Type := Threads.Label UserCall UserInput Empty

namespace UserMachine

/-- Before any call; `allSaProfiles` says whether the profiles have been set. -/
def init (allSaProfiles : Bool) : UserMachine := { shared := { allSaProfiles } }

def step (x : UserMachine) (label : UserLabel) : UserMachine := Threads.Config.step userProgram x label

end UserMachine

end Samgr
