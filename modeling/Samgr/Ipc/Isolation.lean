import Samgr.Ipc.Delivery
import Samgr.Ipc.Users

/-! Users do not reach each other. Whatever is sent to the facade, and by whom, a user's manager comes
to what the calls that are its own make of it. -/
namespace Samgr.Ipc

/-- The methods that only gather a list. -/
def Operation.looks : Operation → Bool
  | .getRunningSystemProcess | .getExtensionRunningSaList | .getRunningSaExtensionInfoList
  | .getLruIdleSystemAbilityProc => true
  | _ => false

/-- The methods that go to the managers of all users. -/
def Operation.reachesAll : Operation → Bool
  | .unloadAllIdleSystemAbility | .unloadProcess | .sendStrategy => true
  | _ => false

/-- What the managers of the users do when they are called. A method of the base manager may leave the
look-up of an ability to the facade; `performLooked` is the rest of it. -/
structure Managers (Instance : Type) where
  perform : UserTable → Remote.Service systemAbilityManager Caller Instance
  performLooked : UserTable → Caller → Instance → Option Nat →
    (op : Operation) → op.Arguments → Instance × op.Answer
  looks : ∀ table caller owner op arguments, op.looks = true →
    (perform table caller owner op arguments).1 = owner

def Place.of (userId : Int) (place : Place) : Bool := place == .user userId || place == .stopping userId

namespace Route

variable {op : Operation} (userId : Int)

/-- The call may change the manager of the user. -/
def concerns : Route op → Bool
  | .visit called _ visits _ => !called.looks && visits.any fun visited => visited.1.of userId
  | .looked place _ _ _ => place.of userId
  | .users => true

/-- The call asks nobody but the manager of the user. -/
def within : Route op → Bool
  | .visit _ _ visits _ => visits.all fun visited => visited.1.of userId
  | .looked .. | .users => false

def plain : Route op → Bool
  | .visit .. | .looked .. => true
  | .users => false

/-- Only a call that looks gives up where a manager is missing. -/
def Patient : Route op → Prop
  | .visit called strict _ _ => strict = true → called.looks = true
  | .looked .. | .users => True

end Route

section Facade

variable {Instance : Type}

namespace Router

variable (router : Router Instance)

def visit {Action Answer : Type} (act : Instance → Action → Instance × Answer) (strict : Bool)
    (visits : List (Place × Action)) : Router Instance × List (Option Answer) :=
  ({ router with
      managers := (Visits.visit act strict router.managers visits).1
      based := Visits.visit_isSome.trans router.based },
    (Visits.visit act strict router.managers visits).2)

end Router

variable (codes : ErrCodes) (callingUserId : Caller → Int) (managers : Managers Instance)
  (userLifecycleManager : Remote.Service systemAbilityManager Caller (Router Instance))

/-- `SystemAbilityManager` before the managers. -/
def facade : Remote.Service systemAbilityManager Caller (Router Instance) :=
  fun caller router op arguments =>
    match route codes router.users (callingUserId caller) op arguments with
    | .visit called strict visits answer =>
        let done := router.visit
          (fun owner arguments => managers.perform router.users caller owner called arguments) strict visits
        (done.1, answer done.2)
    | .looked place saId arguments missing =>
        let found := router.visit
          (fun owner saId => managers.perform router.users caller owner .checkSystemAbility saId) false
          [(place, saId)]
        let done := found.1.visit
          (fun owner arguments =>
            managers.performLooked router.users caller owner found.2.head?.join.join op arguments) false
          [(.base, arguments)]
        (done.1, done.2.head?.join.getD missing)
    | .users => userLifecycleManager caller router op arguments

/-- What happens to the facade: a request comes in, a manager takes a turn of its own, or an event is
to be processed that may be of concern to every user. -/
inductive RouterEvent (Instance : Type) where
  | request (received : Remote.Request IpcValue Caller)
  | task (place : Place) (turn : UserTable → Instance → Instance)
  | processOnDemandEvent (deviceOnline : Bool) (process reportEvent : UserTable → Instance → Instance)

variable (stub : Remote.Stub systemAbilityManager IpcValue Int32 Caller)

def Router.turns (router : Router Instance) (turns : List (Place × (UserTable → Instance → Instance))) :
    Router Instance :=
  (router.visit (fun owner turn => (turn router.users owner, ())) false turns).1

/-- Who takes part in an event that is not a request. -/
def RouterEvent.turns (table : UserTable) :
    RouterEvent Instance → List (Place × (UserTable → Instance → Instance))
  | .request _ => []
  | .task place turn => [(place, turn)]
  | .processOnDemandEvent deviceOnline process reportEvent =>
      (.base, process) ::
        if deviceOnline then table.validUserIds.map fun userId => (.user userId, reportEvent) else []

def Router.step (router : Router Instance) (event : RouterEvent Instance) : Router Instance :=
  match event with
  | .request received =>
      (stub.onRemoteRequest (facade codes callingUserId managers userLifecycleManager) router received).1
  | event => router.turns (event.turns router.users)

namespace RouterEvent

variable (table : UserTable) (userId : Int)

/-- The route of a request that is let through. -/
def routed (received : Remote.Request IpcValue Caller) : Option (Σ op, Route op) :=
  (stub.admitted received).map fun call =>
    ⟨call.op, route codes table (callingUserId call.caller) call.op call.arguments⟩

/-- The event may change the manager of the user. -/
def concerns : RouterEvent Instance → Bool
  | .request received =>
      (routed codes callingUserId stub table received).any fun routed => routed.2.concerns userId
  | event => (event.turns table).any fun turn => turn.1.of userId

/-- No user comes or goes, and nothing is done for all users at once. -/
def plain : RouterEvent Instance → Bool
  | .request received =>
      (routed codes callingUserId stub table received).all fun routed => routed.2.plain
  | _ => true

end RouterEvent

end Facade

section Routes

variable {op called : Operation} {codes : ErrCodes} {table : UserTable} {caller userId : Int} {saId : Int32}

theorem Place.of_iff {place : Place} :
    place.of userId = true ↔ place = .user userId ∨ place = .stopping userId := by
  simp [Place.of]

theorem Route.concerns_answered {answer : op.Answer} : (Route.answered answer).concerns userId = false := by
  simp [Route.answered, Route.concerns]

theorem Route.of_concerns_one {place : Place} {arguments : op.Arguments} {missing : op.Answer}
    (mine : (Route.one place arguments missing).concerns userId = true) : place.of userId = true := by
  simp only [Route.one, Route.concerns, List.any_cons, List.any_nil, Bool.or_false, Bool.and_eq_true] at mine
  exact mine.2

theorem Route.of_concerns_delegated {place : Place} {arguments : called.Arguments} {missing : op.Answer}
    {answer : called.Answer → op.Answer}
    (mine : (Route.delegated called place arguments missing answer).concerns userId = true) :
    place.of userId = true := by
  simp only [Route.delegated, Route.concerns, List.any_cons, List.any_nil, Bool.or_false,
    Bool.and_eq_true] at mine
  exact mine.2

theorem placeOf_of {other : Int} (mine : (UserTable.placeOf other).of userId = true) : other = userId := by
  rw [UserTable.placeOf] at mine
  split at mine
  · cases mine
  · rcases Place.of_iff.mp mine with same | same
    · cases same
      rfl
    · cases same

/-- A call that is routed by its ability reaches a user from that user, or from the base user. -/
theorem routeForUser_of
    (mine : (UserTable.placeOf (table.routeForUser saId caller)).of userId = true) :
    caller = userId ∨ caller = BASE_USER := by
  rw [UserTable.routeForUser] at mine
  split at mine
  · cases mine
  · split at mine
    · exact Or.inr (by assumption)
    · exact Or.inl (placeOf_of mine)

theorem forUser_from {arguments : op.Arguments} {missing : op.Answer}
    (mine : (forUser table caller saId arguments missing).concerns userId = true) :
    caller = userId ∨ caller = BASE_USER :=
  routeForUser_of (Route.of_concerns_one mine)

theorem forSa_from {place : Place} {arguments : op.Arguments} {refused : Int32 → op.Answer}
    (mine : (forSa codes table caller saId place arguments refused).concerns userId = true) :
    place.of userId = true := by
  rw [forSa] at mine
  split at mine
  · rw [Route.concerns_answered] at mine
    cases mine
  · exact Route.of_concerns_one mine

theorem removalPlace_of (mine : (removalPlace table caller).of userId = true) : caller = userId := by
  rw [removalPlace] at mine
  split at mine
  · rcases Place.of_iff.mp mine with same | same
    · cases same
    · cases same
      rfl
  · exact placeOf_of mine

theorem withUserId_from {target : Int32} {arguments : called.Arguments} {refused : Int32 → op.Answer}
    {answer : called.Answer → op.Answer}
    (mine : (withUserId codes table caller called target arguments refused answer).concerns userId = true) :
    caller = BASE_USER := by
  rw [withUserId] at mine
  split at mine
  · rw [Route.concerns_answered] at mine
    cases mine
  · rename_i base
    exact not_not.mp base

theorem subscription_from {arguments : op.Arguments} {valid : Bool} {invalid : op.Answer}
    (mine : (subscription table caller saId arguments valid invalid).concerns userId = true) :
    caller = userId ∨ caller = BASE_USER := by
  rw [subscription] at mine
  split at mine
  · rename_i base
    exact Or.inr base.1
  · exact forUser_from mine

theorem processSubscription_from {arguments : op.Arguments} {invalid : op.Answer}
    (mine : (processSubscription caller arguments invalid).concerns userId = true) :
    caller = userId ∨ caller = BASE_USER := by
  rw [processSubscription] at mine
  split at mine
  · exact Or.inr (by assumption)
  · rcases Place.of_iff.mp (Route.of_concerns_one mine) with same | same
    · cases same
      exact Or.inl rfl
    · cases same

/-- Nobody but the user and the base user reaches the user's manager, except with the calls that go to
all managers and with the change of a user. -/
theorem route_from {arguments : op.Arguments}
    (mine : (route codes table caller op arguments).concerns userId = true)
    (plain : (route codes table caller op arguments).plain = true) :
    caller = userId ∨ caller = BASE_USER ∨ op.reachesAll = true := by
  have few : caller = userId ∨ caller = BASE_USER →
      caller = userId ∨ caller = BASE_USER ∨ op.reachesAll = true :=
    fun known => known.elim Or.inl fun base => Or.inr (Or.inl base)
  cases op with
  | getSystemAbility => exact few (routeForUser_of (Route.of_concerns_delegated mine))
  | checkSystemAbility | loadSystemAbility | checkSystemAbilityImme | getSystemProcessInfo
  | getLocalAbilityManagerProxy => exact few (forUser_from mine)
  | subsSystemAbility | unSubsSystemAbility => exact few (subscription_from mine)
  | subscribeSystemProcess | unSubscribeSystemProcess => exact few (processSubscription_from mine)
  | addSystemAbility | addOndemandSystemAbility | unloadSystemAbility | cancelUnloadSystemAbility
  | updateOnDemandPolicy => exact Or.inl (placeOf_of (forSa_from mine))
  | getOnDemandPolicy | getCommonEventExtraDataIdlist =>
      rw [route] at mine
      exact Or.inl (placeOf_of (forSa_from mine))
  | removeSystemAbility => exact Or.inl (removalPlace_of (forSa_from mine))
  | addSystemProcess => exact Or.inl (placeOf_of (Route.of_concerns_one mine))
  | getSystemAbilityWithUserId | checkSystemAbilityWithUserId | checkSystemAbilityByUserId
  | getSystemProcessInfoWithUserId | getLocalAbilityManagerProxyWithUserId =>
      rw [route] at mine
      exact Or.inr (Or.inl (withUserId_from mine))
  | loadSystemAbilityWithUserId | subsSystemAbilityWithUserId | unSubsSystemAbilityWithUserId
  | subscribeSystemProcessWithUserId | unSubscribeSystemProcessWithUserId =>
      exact Or.inr (Or.inl (withUserId_from mine))
  | unloadAllIdleSystemAbility | unloadProcess | sendStrategy => exact Or.inr (Or.inr rfl)
  | getRunningSystemProcess | getExtensionRunningSaList | getRunningSaExtensionInfoList
  | getLruIdleSystemAbilityProc => cases mine
  | onUserStateChanged =>
      rw [route] at mine plain
      split at mine
      · rw [Route.concerns_answered] at mine
        cases mine
      · rw [if_neg (by assumption)] at plain
        cases plain
  | onStartSystemAbilityFail => exact few (routeForUser_of mine)
  | listSystemAbility | loadRemoteSystemAbility | checkRemtSystemAbility | getOnDemandReasonExtraData
  | getOnDemandSystemAbilityIds | getExtensionSaIds | setSamgrIpcPrior | subscribeLowMemSystemProcess
  | unSubscribeLowMemSystemProcess => cases Route.of_concerns_one mine

theorem Route.patient_one {place : Place} {arguments : op.Arguments} {missing : op.Answer} :
    (Route.one place arguments missing).Patient := fun strict => by cases strict

theorem Route.patient_answered {answer : op.Answer} : (Route.answered answer).Patient :=
  fun strict => by cases strict

theorem forSa_patient {place : Place} {arguments : op.Arguments} {refused : Int32 → op.Answer} :
    (forSa codes table caller saId place arguments refused).Patient := by
  rw [forSa]
  split
  · exact Route.patient_answered
  · exact Route.patient_one

theorem withUserId_patient {target : Int32} {arguments : called.Arguments} {refused : Int32 → op.Answer}
    {answer : called.Answer → op.Answer} :
    (withUserId codes table caller called target arguments refused answer).Patient := by
  rw [withUserId]
  split
  · exact Route.patient_answered
  · split
    · exact Route.patient_answered
    · exact fun strict => by cases strict

theorem subscription_patient {arguments : op.Arguments} {valid : Bool} {invalid : op.Answer} :
    (subscription table caller saId arguments valid invalid).Patient := by
  rw [subscription]
  split
  · split
    · trivial
    · exact Route.patient_answered
  · exact Route.patient_one

theorem processSubscription_patient {arguments : op.Arguments} {invalid : op.Answer} :
    (processSubscription caller arguments invalid).Patient := by
  rw [processSubscription]
  split
  · trivial
  · exact Route.patient_one

theorem route_patient (arguments : op.Arguments) : (route codes table caller op arguments).Patient := by
  cases op with
  | addSystemAbility | removeSystemAbility | addOndemandSystemAbility | unloadSystemAbility
  | cancelUnloadSystemAbility | updateOnDemandPolicy => exact forSa_patient
  | getOnDemandPolicy | getCommonEventExtraDataIdlist =>
      rw [route]
      exact forSa_patient
  | subsSystemAbility | unSubsSystemAbility => exact subscription_patient
  | subscribeSystemProcess | unSubscribeSystemProcess => exact processSubscription_patient
  | getSystemAbilityWithUserId | checkSystemAbilityWithUserId | checkSystemAbilityByUserId
  | getSystemProcessInfoWithUserId | getLocalAbilityManagerProxyWithUserId =>
      rw [route]
      exact withUserId_patient
  | loadSystemAbilityWithUserId | subsSystemAbilityWithUserId | unSubsSystemAbilityWithUserId
  | subscribeSystemProcessWithUserId | unSubscribeSystemProcessWithUserId => exact withUserId_patient
  | getRunningSystemProcess => exact fun _ => rfl
  | onUserStateChanged =>
      rw [route]
      split
      · exact Route.patient_answered
      · trivial
  | sendStrategy =>
      rw [route, sendStrategy]
      split
      · exact Route.patient_one
      · exact fun strict => by cases strict
  | onStartSystemAbilityFail => trivial
  | _ => exact fun strict => by cases strict

end Routes

section Apart

variable {Instance : Type} {codes : ErrCodes} {callingUserId : Caller → Int} {managers : Managers Instance}
  {userLifecycleManager : Remote.Service systemAbilityManager Caller (Router Instance)}
  {stub : Remote.Stub systemAbilityManager IpcValue Int32 Caller} {table : UserTable} {userId : Int}
  {router other : Router Instance}

/-- Two facades with the same users and the same manager of this user. -/
structure SameUser (table : UserTable) (userId : Int) (router other : Router Instance) : Prop where
  left : router.users = table
  right : other.users = table
  managers : ∀ place : Place, place.of userId = true → router.managers place = other.managers place

namespace SameUser

theorem symm (same : SameUser table userId router other) : SameUser table userId other router :=
  ⟨same.right, same.left, fun place mine => (same.managers place mine).symm⟩

theorem trans {third : Router Instance} (same : SameUser table userId router other)
    (later : SameUser table userId other third) : SameUser table userId router third :=
  ⟨same.left, later.right, fun place mine => (same.managers place mine).trans (later.managers place mine)⟩

variable {Action Answer : Type} {act : Instance → Action → Instance × Answer} {strict : Bool}
  {visits : List (Place × Action)}

/-- The same visits to both. -/
theorem visit (same : SameUser table userId router other)
    (patient : strict = true → ∀ owner action, (act owner action).1 = owner) :
    SameUser table userId (router.visit act strict visits).1 (other.visit act strict visits).1 := by
  refine ⟨same.left, same.right, fun place mine => ?_⟩
  cases strict with
  | true =>
      simp only [Router.visit, Visits.visit_looking (patient rfl)]
      exact same.managers place mine
  | false => exact Visits.visit_local (same.managers place mine)

/-- Visits to one of them that pass the user by. -/
theorem passed (same : SameUser table userId router other)
    (apart : (∀ owner action, (act owner action).1 = owner) ∨
      ∀ visited ∈ visits, visited.1.of userId = false) :
    SameUser table userId (router.visit act strict visits).1 other := by
  refine ⟨same.left, same.right, fun place mine => ?_⟩
  rcases apart with looks | apart
  · simp only [Router.visit, Visits.visit_looking looks]
    exact same.managers place mine
  · refine (Visits.visit_elsewhere fun inside => ?_).trans (same.managers place mine)
    obtain ⟨visited, listed, here⟩ := List.mem_map.mp inside
    rw [← here, apart visited listed] at mine
    cases mine

/-- A visit to the base manager is none to the user. -/
theorem atBase {action : Action} :
    ∀ visited ∈ [(Place.base, action)], visited.1.of userId = false :=
  fun visited listed => by rw [List.mem_singleton.mp listed]; rfl

variable {caller : Caller} {op : Operation} {arguments : op.Arguments}

/-- The same call of both. -/
theorem facade (same : SameUser table userId router other)
    (plain : (route codes table (callingUserId caller) op arguments).plain = true) :
    SameUser table userId
      (facade codes callingUserId managers userLifecycleManager caller router op arguments).1
      (Ipc.facade codes callingUserId managers userLifecycleManager caller other op arguments).1 := by
  have patient : (route codes table (callingUserId caller) op arguments).Patient := route_patient arguments
  simp only [Ipc.facade, same.left, same.right]
  revert plain patient
  cases route codes table (callingUserId caller) op arguments with
  | visit called strict visits answer =>
      intro _ patient
      exact same.visit fun strict owner action => managers.looks _ _ _ _ _ (patient strict)
  | looked place saId arguments missing =>
      intro _ _
      -- The look-up is the same on both sides; the base manager's part passes the user by.
      let look (owner : Instance) (saId : Int32) := managers.perform table caller owner .checkSystemAbility saId
      have found : SameUser table userId (router.visit look false [(place, saId)]).1
          (other.visit look false [(place, saId)]).1 := same.visit nofun
      exact ((found.passed (Or.inr atBase)).symm.passed (Or.inr atBase)).symm
  | users => exact fun plain => by cases plain

/-- A call of one of them that does not concern the user. -/
theorem facade_passed (same : SameUser table userId router other)
    (plain : (route codes table (callingUserId caller) op arguments).plain = true)
    (apart : (route codes table (callingUserId caller) op arguments).concerns userId = false) :
    SameUser table userId
      (Ipc.facade codes callingUserId managers userLifecycleManager caller router op arguments).1 other := by
  simp only [Ipc.facade, same.left]
  revert plain apart
  cases route codes table (callingUserId caller) op arguments with
  | visit called strict visits answer =>
      intro _ apart
      refine same.passed ?_
      rw [Route.concerns, Bool.and_eq_false_iff] at apart
      rcases apart with looks | apart
      · refine Or.inl fun owner action => managers.looks _ _ _ _ _ ?_
        simpa using looks
      · exact Or.inr fun visited listed => by simpa using List.any_eq_false.mp apart visited listed
  | looked place saId arguments missing =>
      intro _ apart
      refine SameUser.passed (same.passed (Or.inr fun visited listed => ?_)) (Or.inr atBase)
      rw [List.mem_singleton.mp listed]
      exact apart
  | users => exact fun plain => by cases plain

/-- A call that asks nobody but the user's manager has the same answer. -/
theorem facade_answer (same : SameUser table userId router other)
    (within : (route codes table (callingUserId caller) op arguments).within userId = true) :
    (Ipc.facade codes callingUserId managers userLifecycleManager caller router op arguments).2 =
      (Ipc.facade codes callingUserId managers userLifecycleManager caller other op arguments).2 := by
  simp only [Ipc.facade, same.left, same.right]
  revert within
  cases route codes table (callingUserId caller) op arguments with
  | visit called strict visits answer =>
      intro within
      refine congrArg answer (Visits.visit_answers fun visited listed => ?_)
      exact same.managers visited.1 (List.all_eq_true.mp within visited listed)
  | looked | users => exact fun within => by cases within

end SameUser

theorem unwinds : Visits.Unwinds (Router.step codes callingUserId managers userLifecycleManager stub)
    (SameUser table userId)
    (fun event => event.plain codes callingUserId stub table = true)
    (RouterEvent.concerns codes callingUserId stub table userId) where
  symm := SameUser.symm
  trans := SameUser.trans
  decides := by
    intro router other event plain same
    cases event with
    | request received =>
        simp only [Router.step, Remote.Stub.onRemoteRequest_state]
        revert plain
        simp only [RouterEvent.plain, RouterEvent.routed]
        cases stub.admitted received with
        | none => exact fun _ => same
        | some call => exact fun plain => same.facade plain
    | task place turn =>
        simp only [Router.step, Router.turns, same.left, same.right]
        exact same.visit fun strict => by cases strict
    | processOnDemandEvent deviceOnline process reportEvent =>
        simp only [Router.step, Router.turns, same.left, same.right]
        exact same.visit fun strict => by cases strict
  keeps := by
    intro router other event plain apart same
    cases event with
    | request received =>
        simp only [Router.step, Remote.Stub.onRemoteRequest_state]
        revert plain apart
        simp only [RouterEvent.plain, RouterEvent.concerns, RouterEvent.routed]
        cases stub.admitted received with
        | none => exact fun _ _ => same
        | some call => exact fun plain apart => same.facade_passed plain apart
    | task place turn =>
        simp only [Router.step, Router.turns, same.left]
        refine same.passed (Or.inr fun visited listed => ?_)
        simpa using List.any_eq_false.mp apart visited listed
    | processOnDemandEvent deviceOnline process reportEvent =>
        simp only [Router.step, Router.turns, same.left]
        refine same.passed (Or.inr fun visited listed => ?_)
        simpa using List.any_eq_false.mp apart visited listed

/-- Who an event that reaches a user may come from. -/
def RouterEvent.From (callingUserId : Caller → Int)
    (stub : Remote.Stub systemAbilityManager IpcValue Int32 Caller) (userId : Int) :
    RouterEvent Instance → Prop
  | .request received =>
      ∃ call, stub.admitted received = some call ∧
        (callingUserId call.caller = userId ∨ callingUserId call.caller = BASE_USER ∨
          call.op.reachesAll = true)
  | .task place _ => place.of userId = true
  | .processOnDemandEvent deviceOnline _ _ => deviceOnline = true

theorem from_of_concerns {event : RouterEvent Instance}
    (plain : event.plain codes callingUserId stub table = true)
    (mine : event.concerns codes callingUserId stub table userId = true) :
    event.From callingUserId stub userId := by
  cases event with
  | request received =>
      simp only [RouterEvent.plain, RouterEvent.concerns, RouterEvent.routed] at plain mine
      cases admitted : stub.admitted received with
      | none =>
          rw [admitted] at mine
          cases mine
      | some call =>
          rw [admitted] at plain mine
          exact ⟨call, admitted, route_from mine plain⟩
  | task place turn => simpa [RouterEvent.concerns, RouterEvent.turns, RouterEvent.From] using mine
  | processOnDemandEvent deviceOnline process reportEvent =>
      cases deviceOnline with
      | true => rfl
      | false => simp [RouterEvent.concerns, RouterEvent.turns, Place.of] at mine

/-- Two runs of the facade from the same manager of a user, with the same events that may change it,
whatever else is sent and happens in the one and in the other: the user's manager comes to the same,
and whoever asks it alone gets the same answer. What may change it comes from the user or the base user,
or is a call or an event for all users. -/
theorem users_are_isolated (codes : ErrCodes) (callingUserId : Caller → Int) (managers : Managers Instance)
    (userLifecycleManager : Remote.Service systemAbilityManager Caller (Router Instance))
    (stub : Remote.Stub systemAbilityManager IpcValue Int32 Caller)
    (same : SameUser table userId router other) {events others : List (RouterEvent Instance)}
    (plain : ∀ event ∈ events, event.plain codes callingUserId stub table = true)
    (alsoPlain : ∀ event ∈ others, event.plain codes callingUserId stub table = true)
    (alike : events.filter (RouterEvent.concerns codes callingUserId stub table userId) =
      others.filter (RouterEvent.concerns codes callingUserId stub table userId)) :
    let service := facade codes callingUserId managers userLifecycleManager
    let run := Runs.run (Router.step codes callingUserId managers userLifecycleManager stub)
    SameUser table userId (run router events) (run other others) ∧
      (∀ caller op arguments,
        (route codes table (callingUserId caller) op arguments).within userId = true →
          (service caller (run router events) op arguments).2 =
            (service caller (run other others) op arguments).2) ∧
      ∀ event ∈ events, event.concerns codes callingUserId stub table userId = true →
        event.From callingUserId stub userId := by
  intro service run
  have apart : SameUser table userId (run router events) (run other others) :=
    unwinds.run_apart same plain alsoPlain alike
  refine ⟨apart, fun caller op arguments within => apart.facade_answer within, ?_⟩
  exact fun event inside mine => from_of_concerns (plain event inside) mine

end Apart

/-- Managers that count what they are asked. -/
def counting : Managers Nat where
  perform _ _ count op _ := (if op.looks then count else count + 1, default)
  performLooked _ _ count _ _ _ := (count + 1, default)
  looks _ _ count op _ looks := by rw [if_pos looks]

/-- The users 100 and 101, with an ability each. -/
def someUsers : UserTable := ⟨[3001], [100, 101], [], 100⟩

def twoUsers : Router Nat where
  users := someUsers
  managers
    | .base | .user 100 | .user 101 => some 0
    | _ => none
  based := rfl

/-- The user of a process is in its uid. -/
def userOfUid (caller : Caller) : Int := caller.callingUid.toInt / 200000

/-- A process of the user 101 unloads its ability. -/
def unloadsItsOwn : RouterEvent Nat :=
  .request ⟨{ nativeCaller with callingUid := 20200000 }, 21,
    interfaceToken ++ [.int32 3001]⟩

theorem fourBytes_pos (_ : IpcValue) : 0 < 4 := Nat.succ_pos 3

def someStub : Remote.Stub systemAbilityManager IpcValue Int32 Caller :=
  Stub.systemAbilityManagerStub nativeConfig ⟨fun _ => 4, fourBytes_pos⟩ fun _ _ => (1, [])

/-- The facade of the two users after that. -/
def afterUnload : Router Nat :=
  Runs.run (Router.step someCodes userOfUid counting (fun _ router _ _ => (router, default)) someStub)
    twoUsers [unloadsItsOwn]

/-- The other user's manager has not been asked. -/
theorem unloading_leaves_other_user :
    afterUnload.managers (.user 101) = some 1 ∧ afterUnload.managers (.user 100) = some 0 := by
  have same : SameUser someUsers 100 twoUsers twoUsers := ⟨rfl, rfl, fun _ _ => rfl⟩
  have plain : unloadsItsOwn.plain someCodes userOfUid someStub someUsers = true := by decide +kernel
  have apart : unloadsItsOwn.concerns someCodes userOfUid someStub someUsers 100 = false := by decide +kernel
  have isolated := @users_are_isolated Nat someUsers 100 twoUsers twoUsers someCodes userOfUid counting
    (fun _ router _ _ => (router, default)) someStub same [unloadsItsOwn] [] (by simpa using plain) (by simp)
    (by simp [apart])
  refine ⟨by decide +kernel, ?_⟩
  exact isolated.1.managers (.user 100) (by decide)

end Samgr.Ipc
