import Samgr.User.WholeCalls

/-! Subscriptions for all users. `globalSubscriptions_` lists them; a call applies its subscription to
one active user's manager after the other and takes it back from all of them if one refuses, and a new
manager replays the list before it becomes active. The call and the replay hold
`globalSubscriptionLock_`, and the call keeps users from coming and going as well. -/
namespace Samgr

structure GlobalSystemAbilitySubscription where
  systemAbilityId : Int
  remoteObject : Nat
  callingPid : Int
  deriving DecidableEq, Repr

structure GlobalSubscriptionInfo where
  systemAbilitySubscriptions : List GlobalSystemAbilitySubscription := []
  systemProcessSubscriptions : List Nat := []
  deriving DecidableEq, Repr

/-- The listener that `iface_cast` makes from a remote object. -/
def ifaceCast (remoteObject : Nat) : RemoteInterface := ⟨remoteObject, remoteObject⟩

namespace GlobalSystemAbilitySubscription

def subscription (item : GlobalSystemAbilitySubscription) : Subscription :=
  .ability item.systemAbilityId (ifaceCast item.remoteObject) item.callingPid

def key (item : GlobalSystemAbilitySubscription) : SubscriptionKey :=
  .ability item.systemAbilityId item.remoteObject

end GlobalSystemAbilitySubscription

namespace GlobalSubscriptionInfo

variable (info : GlobalSubscriptionInfo)

/-- The subscriptions in the order in which `InitGlobalSubscriptions` replays them. -/
def subscriptions : List Subscription :=
  info.systemAbilitySubscriptions.map GlobalSystemAbilitySubscription.subscription ++
    info.systemProcessSubscriptions.map fun remoteObject => .process (ifaceCast remoteObject)

def keys : List SubscriptionKey :=
  info.systemAbilitySubscriptions.map GlobalSystemAbilitySubscription.key ++
    info.systemProcessSubscriptions.map SubscriptionKey.process

def removeExpired (dead : List Nat) : GlobalSubscriptionInfo :=
  { systemAbilitySubscriptions := info.systemAbilitySubscriptions.filter (·.remoteObject ∉ dead)
    systemProcessSubscriptions := info.systemProcessSubscriptions.filter (· ∉ dead) }

/-- The pid has as many abilities in the list as it may; processes are not counted. -/
def overflows : Subscription → Bool
  | .ability _ _ callingPid =>
      info.systemAbilitySubscriptions.countP (·.callingPid == callingPid) ≥ Scheduler.MAX_SUBSCRIBE_COUNT
  | .process _ => false

def push : Subscription → GlobalSubscriptionInfo
  | .ability systemAbilityId listener callingPid =>
      { info with
        systemAbilitySubscriptions := info.systemAbilitySubscriptions ++
          [⟨systemAbilityId, listener.object, callingPid⟩] }
  | .process listener =>
      { info with systemProcessSubscriptions := info.systemProcessSubscriptions ++ [listener.object] }

def erase (key : SubscriptionKey) : GlobalSubscriptionInfo :=
  { systemAbilitySubscriptions := info.systemAbilitySubscriptions.eraseP (·.key == key)
    systemProcessSubscriptions := info.systemProcessSubscriptions.eraseP (SubscriptionKey.process · == key) }

/-- The subscription with the pid that its entry in the list is charged to. -/
def charged : Subscription → Subscription
  | .ability systemAbilityId listener callingPid =>
      .ability systemAbilityId listener
        (((info.systemAbilitySubscriptions.find?
          (·.key == .ability systemAbilityId listener.object)).map (·.callingPid)).getD callingPid)
  | .process listener => .process listener

variable {info} {sub : Subscription} {key other : SubscriptionKey} {dead : List Nat}

theorem keys_eq : info.keys = info.subscriptions.map Subscription.key := by
  simp only [keys, subscriptions, List.map_append, List.map_map]
  rfl

@[simp] theorem charged_key : (info.charged sub).key = sub.key := by
  cases sub <;> rfl

@[simp] theorem charged_valid : (info.charged sub).valid = sub.valid := by
  cases sub <;> rfl

theorem keys_removeExpired : (info.removeExpired dead).keys = info.keys.filter (·.object ∉ dead) := by
  simp only [keys, removeExpired, List.filter_append, List.filter_map]
  rfl

theorem keys_push : (info.push sub).keys.Perm (info.keys ++ [sub.key]) := by
  cases sub with
  | ability systemAbilityId listener callingPid =>
      simp only [keys, push, List.map_append, List.append_assoc]
      exact List.Perm.append_left _ List.perm_append_comm
  | process listener =>
      simp only [keys, push, List.map_append, List.append_assoc]
      exact List.Perm.refl _

theorem map_eraseP {Entry : Type} (f : Entry → SubscriptionKey) (list : List Entry) :
    (list.eraseP (f · == other)).map f = (list.map f).erase other := by
  induction list with
  | nil => rfl
  | cons head list hypothesis =>
      by_cases same : f head = other
      · simp [same]
      · simp [same, hypothesis]

theorem mem_keys_erase (single : info.keys.Nodup) :
    key ∈ (info.erase other).keys ↔ key ∈ info.keys ∧ key ≠ other := by
  obtain ⟨abilities, processes, -⟩ := List.nodup_append.mp single
  simp only [keys, erase, map_eraseP, List.mem_append]
  rw [abilities.mem_erase_iff, processes.mem_erase_iff]
  constructor
  · rintro (⟨apart, member⟩ | ⟨apart, member⟩)
    · exact ⟨Or.inl member, apart⟩
    · exact ⟨Or.inr member, apart⟩
  · rintro ⟨member | member, apart⟩
    · exact Or.inl ⟨apart, member⟩
    · exact Or.inr ⟨apart, member⟩

/-- What the list keeps: a key has one entry, and every ability has an accepted id. -/
structure Sound (info : GlobalSubscriptionInfo) : Prop where
  single : info.keys.Nodup
  valid : ∀ sa object, .ability sa object ∈ info.keys → checkInputSysAbilityId sa = true

theorem Sound.removeExpired (good : info.Sound) : (info.removeExpired dead).Sound := by
  constructor
  · rw [keys_removeExpired]
    exact good.single.filter _
  · intro sa object member
    rw [keys_removeExpired] at member
    exact good.valid sa object (List.mem_of_mem_filter member)

theorem Sound.push (good : info.Sound) (valid : sub.valid = true) (fresh : sub.key ∉ info.keys) :
    (info.push sub).Sound := by
  constructor
  · refine keys_push.nodup_iff.mpr (List.nodup_append.mpr ⟨good.single, List.nodup_singleton _, ?_⟩)
    intro key member last same
    rw [List.mem_singleton.mp same]
    rintro rfl
    exact fresh member
  · intro sa object member
    rcases List.mem_append.mp (keys_push.mem_iff.mp member) with old | new
    · exact good.valid sa object old
    · cases sub with
      | ability systemAbilityId listener callingPid =>
          obtain ⟨rfl, -⟩ := SubscriptionKey.ability.inj (List.mem_singleton.mp new)
          exact valid
      | process listener => cases List.mem_singleton.mp new

theorem Sound.erase (good : info.Sound) : (info.erase other).Sound := by
  constructor
  · obtain ⟨abilities, processes, apart⟩ := List.nodup_append.mp good.single
    simp only [keys, GlobalSubscriptionInfo.erase, map_eraseP]
    refine List.nodup_append.mpr ⟨abilities.erase _, processes.erase _, ?_⟩
    intro key first key' second
    exact apart key (List.mem_of_mem_erase first) key' (List.mem_of_mem_erase second)
  · intro sa object member
    exact good.valid sa object ((mem_keys_erase good.single).mp member).1

end GlobalSubscriptionInfo

/-- How far the holder of `globalSubscriptionLock_` is. A call still has the users in `rest` before it;
the users it has done come last first, in the order of a rollback. -/
inductive GlobalCall where
  | subscribing (sub : Subscription) (rest subscribed : List Int)
  | rollbackSubscribe (sub : Subscription) (rest : List Int) (result : ErrCode)
  | unSubscribing (sub : Subscription) (rest unSubscribed : List Int)
  | rollbackUnsubscribe (sub : Subscription) (rest : List Int) (result : ErrCode)
  | answered (result : ErrCode)
  -- HandleUserActivating
  | activating (userId : Int) (manager : MultiSystemAbilityManager) (rest restored : List Subscription)
  | rollbackGlobal (manager : MultiSystemAbilityManager) (rest : List Subscription)
  | activated (userId : Int) (manager : MultiSystemAbilityManager)

/-- One of the calls for all users, which keeps `userStateLock_` too. -/
def GlobalCall.forAllUsers : GlobalCall → Bool
  | .activating _ _ _ _ | .rollbackGlobal _ _ | .activated _ _ => false
  | _ => true

structure AllUsers where
  globalSubscriptions : GlobalSubscriptionInfo := {}
  multiUserManagers : Std.TreeMap Int MultiSystemAbilityManager := ∅
  dead : List Nat := []
  running : Option GlobalCall := none

/-- The calls, one step of the call that runs, its return, and what happens in between: users stop,
users subscribe directly, listeners die, and managers (`none` for the one that is being activated)
hear of it. The candidates are objects whose weak pointers may have expired. -/
inductive AllUsersLabel where
  | subscribeForAllUsers (sub : Subscription)
  | unSubscribeForAllUsers (sub : Subscription)
  | activate (userId : Int) (saProfiles : List SaProfile)
  | proceed (candidates : List Nat)
  | leave
  | stop (userId : Int)
  | subscribe (userId : Int) (sub : Subscription) (candidates : List Nat)
  | unSubscribe (userId : Int) (sub : Subscription) (candidates : List Nat)
  | die (remoteObject : Nat)
  | onRemoteDied (userId : Option Int) (remoteObject : Nat) (candidates : List Nat)

namespace AllUsers

variable (s : AllUsers)

def expired (candidates : List Nat) : List Nat := candidates.filter (· ∈ s.dead)

def setManager (userId : Int) (manager : MultiSystemAbilityManager) : AllUsers :=
  { s with multiUserManagers := s.multiUserManagers.insert userId manager }

/-- A call on the manager of an active user. -/
def withManager (userId : Int) (call : MultiSystemAbilityManager → MultiSystemAbilityManager) : AllUsers :=
  match s.multiUserManagers[userId]? with
  | none => s
  | some manager => s.setManager userId (call manager)

def removeExpiredGlobalSubscriptions : AllUsers :=
  { s with globalSubscriptions := s.globalSubscriptions.removeExpired s.dead }

/-- `SubscribeSystemAbilityForAllUsers` or `SubscribeSystemProcessForAllUsers` up to the first user. -/
def beginSubscribe (sub : Subscription) : AllUsers :=
  let pruned := s.removeExpiredGlobalSubscriptions
  { pruned with
    running := some
      (if sub.key ∈ pruned.globalSubscriptions.keys then .answered .errOk
      else if pruned.globalSubscriptions.overflows sub then .answered .errPermissionDenied
      else .subscribing sub pruned.multiUserManagers.keys []) }

/-- `UnSubscribeSystemAbilityForAllUsers` or `UnSubscribeSystemProcessForAllUsers` up to the first
user. -/
def beginUnSubscribe (sub : Subscription) : AllUsers :=
  let pruned := s.removeExpiredGlobalSubscriptions
  { pruned with
    running := some
      (if sub.key ∉ pruned.globalSubscriptions.keys then .answered .errOk
      else .unSubscribing (pruned.globalSubscriptions.charged sub) pruned.multiUserManagers.keys []) }

def beginActivate (userId : Int) (saProfiles : List SaProfile) : AllUsers :=
  let pruned := s.removeExpiredGlobalSubscriptions
  { pruned with
    running := some (.activating userId { base := Manager.init saProfiles }
      pruned.globalSubscriptions.subscriptions []) }

/-- One user of a call, or one subscription of a replay. -/
def proceed (expired : List Nat) : GlobalCall → AllUsers
  | .subscribing sub [] _ =>
      { s with
        globalSubscriptions := s.globalSubscriptions.push sub
        running := some (.answered .errOk) }
  | .subscribing sub (userId :: rest) subscribed =>
      match s.multiUserManagers[userId]? with
      | none => { s with running := some (.subscribing sub rest subscribed) }
      | some manager =>
          let done := manager.subscribe expired true sub
          { s.setManager userId done.1 with
            running := some
              (if done.2 ≠ .errOk then .rollbackSubscribe sub subscribed done.2
              else .subscribing sub rest (userId :: subscribed)) }
  | .rollbackSubscribe _ [] result => { s with running := some (.answered result) }
  | .rollbackSubscribe sub (userId :: rest) result =>
      { s.withManager userId fun manager => (manager.unSubscribe expired true sub).1 with
        running := some (.rollbackSubscribe sub rest result) }
  | .unSubscribing sub [] _ =>
      { s with
        globalSubscriptions := s.globalSubscriptions.erase sub.key
        running := some (.answered .errOk) }
  | .unSubscribing sub (userId :: rest) unSubscribed =>
      match s.multiUserManagers[userId]? with
      | none => { s with running := some (.unSubscribing sub rest unSubscribed) }
      | some manager =>
          let done := manager.unSubscribe expired true sub
          { s.setManager userId done.1 with
            running := some
              (if done.2 ≠ .errOk then .rollbackUnsubscribe sub unSubscribed done.2
              else .unSubscribing sub rest (userId :: unSubscribed)) }
  | .rollbackUnsubscribe _ [] result => { s with running := some (.answered result) }
  | .rollbackUnsubscribe sub (userId :: rest) result =>
      { s.withManager userId fun manager => (manager.subscribe expired true sub).1 with
        running := some (.rollbackUnsubscribe sub rest result) }
  | .answered result => { s with running := some (.answered result) }
  | .activating userId manager [] _ => { s with running := some (.activated userId manager) }
  | .activating userId manager (sub :: rest) restored =>
      if sub.listener.object ∈ s.dead then
        { s with running := some (.activating userId manager rest restored) }
      else
        let done := manager.subscribe expired true sub
        { s with
          running := some
            (if done.2 ≠ .errOk then .rollbackGlobal done.1 restored
            else .activating userId done.1 rest (sub :: restored)) }
  | .rollbackGlobal _ [] => { s with running := none }
  | .rollbackGlobal manager (sub :: rest) =>
      { s with running := some (.rollbackGlobal (manager.unSubscribe expired true sub).1 rest) }
  | .activated userId manager =>
      -- a manager that another activation has entered meanwhile stays
      if userId ∈ s.multiUserManagers then { s with running := none }
      else { s.setManager userId manager with running := none }

def step (s : AllUsers) : AllUsersLabel → AllUsers
  | .subscribeForAllUsers sub =>
      -- the facade refuses an id that is not accepted before the call
      if s.running.isNone && sub.valid then s.beginSubscribe sub else s
  | .unSubscribeForAllUsers sub => if s.running.isNone then s.beginUnSubscribe sub else s
  | .activate userId saProfiles =>
      if s.running.isNone && !s.multiUserManagers.contains userId then s.beginActivate userId saProfiles
      else s
  | .proceed candidates =>
      match s.running with
      | none => s
      | some call => s.proceed (s.expired candidates) call
  | .leave =>
      match s.running with
      | some (.answered _) => { s with running := none }
      | _ => s
  | .stop userId =>
      if s.running.any GlobalCall.forAllUsers then s
      else { s with multiUserManagers := s.multiUserManagers.erase userId }
  | .subscribe userId sub candidates =>
      s.withManager userId fun manager => (manager.subscribe (s.expired candidates) false sub).1
  | .unSubscribe userId sub candidates =>
      s.withManager userId fun manager => (manager.unSubscribe (s.expired candidates) false sub).1
  | .die remoteObject => { s with dead := remoteObject :: s.dead }
  | .onRemoteDied userId remoteObject candidates =>
      if remoteObject ∉ s.dead then s
      else
        match userId, s.running with
        | some userId, _ =>
            s.withManager userId fun manager => manager.onRemoteDied (s.expired candidates) remoteObject
        | none, some (.activating userId manager rest restored) =>
            { s with
              running := some (.activating userId
                (manager.onRemoteDied (s.expired candidates) remoteObject) rest restored) }
        | none, some (.rollbackGlobal manager rest) =>
            { s with
              running := some (.rollbackGlobal
                (manager.onRemoteDied (s.expired candidates) remoteObject) rest) }
        | none, some (.activated userId manager) =>
            { s with
              running := some (.activated userId
                (manager.onRemoteDied (s.expired candidates) remoteObject)) }
        | none, _ => s

end AllUsers

end Samgr
