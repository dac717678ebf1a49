import Samgr.User.GlobalReach

/-! The quota of a pid, in the list of the subscriptions for all users and in the managers that
replay it. What a replay has charged and what it has still to charge never exceeds the quota, so a
new manager takes over the whole list. -/
namespace Samgr

/-- The pids that a subscription is charged to; processes are not counted. -/
def Subscription.pids : Subscription → List Int
  | .ability _ _ callingPid => [callingPid]
  | .process _ => []

namespace Manager

variable {m : Manager} {pid : Int}

/-- What a piece may charge. -/
def chargedPids : Piece → List Int
  | .subscribe _ _ callingPid => [callingPid]
  | _ => []

/-- Only a subscription adds an entry, and only one of its own pid. -/
theorem exec_subscribers_le (env : Env) (piece : Piece) : (m.exec env piece).1.subscribers.count pid ≤
    m.subscribers.count pid + (chargedPids piece).count pid := by
  have move : ListenerMove m piece (m.exec env piece).1 := exec_listeners
  cases move with
  | same sa agree entries counts deaths =>
      have whole := count_subscribers_add SAListener.callingPid agree pid
      have pids := congrArg (List.map Prod.snd) entries
      rw [List.map_map, List.map_map] at pids
      change ((m.exec env piece).1.listeners sa).map SAListener.callingPid =
        (m.listeners sa).map SAListener.callingPid at pids
      rw [pids] at whole
      simp only [subscribers]
      omega
  | added sa listener callingPid source fresh room agree after counts deaths =>
      have whole := count_subscribers_add SAListener.callingPid agree pid
      rw [after, List.map_append, List.count_append] at whole
      subst source
      simp only [subscribers, chargedPids]
      simp only [List.map_cons, List.map_nil] at whole
      omega
  | dropped sa listener source agree after counts deaths =>
      have whole := count_subscribers_add SAListener.callingPid agree pid
      have split : ((dropListener listener.object (m.listeners sa)).map SAListener.callingPid).count pid +
          (droppedPids listener.object (m.listeners sa)).count pid =
          ((m.listeners sa).map SAListener.callingPid).count pid := droppedPids_eq
      rw [after] at whole
      simp only [subscribers]
      omega
  | swept remoteObject source after counts deaths =>
      have split : (m.exec env piece).1.subscribers.count pid +
          (m.listenerMap.toList.flatMap fun pair => droppedPids remoteObject pair.2).count pid =
            m.subscribers.count pid := by
        rw [subscribers, subscribers, Quota.all, Quota.all, after, Std.TreeMap.toList_map,
          List.flatMap_map]
        exact Quota.count_flatMap_add _ fun pair _ => droppedPids_eq
      omega

end Manager

namespace MultiSystemAbilityManager

variable {m : MultiSystemAbilityManager} {expired : List Nat} {foregroundOnly : Bool}
  {sub : Subscription} {rest : List Subscription} {pid : Int}

/-- The entries of a pid. -/
def charges (m : MultiSystemAbilityManager) (pid : Int) : Nat := m.base.subscribers.count pid

theorem charges_checkListenerNotify {sa : Int} {listener : RemoteInterface} :
    (m.checkListenerNotify sa listener).charges pid ≤ m.charges pid := by
  simp only [checkListenerNotify]
  split
  · exact Nat.le_refl _
  · exact Manager.exec_subscribers_le {} (.checkListenerNotify sa listener)

theorem charges_subscribeInner {sa : Int} {listener : RemoteInterface} {callingPid : Int} :
    (m.subscribeSystemAbilityInner sa listener callingPid).1.charges pid ≤
      m.charges pid + [callingPid].count pid := by
  simp only [subscribeSystemAbilityInner]
  split
  · exact Manager.exec_subscribers_le {} (.subscribe sa listener callingPid)
  · exact Nat.le_add_right _ _

theorem charges_subscribe :
    (m.subscribe expired foregroundOnly sub).1.charges pid ≤ m.charges pid + sub.pids.count pid := by
  cases sub with
  | process listener => exact Nat.le_refl _
  | ability sa listener callingPid =>
      have inner : ((m.addSubscriberInfo expired sa listener foregroundOnly).subscribeSystemAbilityInner
          sa listener callingPid).1.charges pid ≤ m.charges pid + [callingPid].count pid :=
        charges_subscribeInner
      simp only [subscribe, subscribeSystemAbilityWithPid]
      split
      · exact inner
      · split
        · exact Nat.le_trans charges_checkListenerNotify inner
        · exact inner

theorem charges_onRemoteDied {remoteObject : Nat} :
    (m.onRemoteDied expired remoteObject).charges pid ≤ m.charges pid :=
  Manager.exec_subscribers_le {} (.unSubscribeDied remoteObject)

/-- What the manager has and what is still to be replayed fits the quota of every pid. -/
def Fits (m : MultiSystemAbilityManager) (rest : List Subscription) : Prop :=
  ∀ pid, m.charges pid + (rest.flatMap Subscription.pids).count pid ≤ Scheduler.MAX_SUBSCRIBE_COUNT

theorem Fits.skip (fits : m.Fits (sub :: rest)) : m.Fits rest := by
  intro pid
  have room := fits pid
  rw [List.flatMap_cons, List.count_append] at room
  omega

theorem Fits.subscribe (fits : m.Fits (sub :: rest)) :
    (m.subscribe expired foregroundOnly sub).1.Fits rest := by
  intro pid
  have room := fits pid
  have charged : (m.subscribe expired foregroundOnly sub).1.charges pid ≤ _ := charges_subscribe
  rw [List.flatMap_cons, List.count_append] at room
  omega

theorem Fits.onRemoteDied {remoteObject : Nat} (fits : m.Fits rest) :
    (m.onRemoteDied expired remoteObject).Fits rest := by
  intro pid
  have room := fits pid
  have fewer : (m.onRemoteDied expired remoteObject).charges pid ≤ _ := charges_onRemoteDied
  omega

/-- The next subscription of a replay is accepted. -/
theorem Fits.accepted (fits : m.Fits (sub :: rest)) (sound : m.Sound) (valid : sub.valid = true) :
    (m.subscribe expired foregroundOnly sub).2 = .errOk := by
  cases sub with
  | process listener => rfl
  | ability sa listener callingPid =>
      have room := fits callingPid
      rw [List.flatMap_cons, List.count_append, Subscription.pids, List.count_singleton_self] at room
      have counted : Quota.count m.base.subscribeCountMap callingPid = m.charges callingPid :=
        (sound.base.counted callingPid).count_eq
      have limit : Scheduler.MAX_SUBSCRIBE_COUNT = 256 := rfl
      have accepted : checkInputSysAbilityId sa = true := valid
      change (m.subscribeSystemAbilityWithPid expired sa listener foregroundOnly callingPid).2 = .errOk
      rw [subscribeWithPid_result, Manager.subscribeResult, counted, accepted, if_neg (by simp)]
      split
      · rfl
      · rw [if_neg (by omega)]

section Replay

variable (expired dead : List Nat)

/-- `RollbackGlobalSubscriptions`; the subscriptions come last first. -/
def rollbackGlobalSubscriptions (m : MultiSystemAbilityManager) (restored : List Subscription) :
    MultiSystemAbilityManager :=
  restored.foldl (fun m sub => (m.unSubscribe expired true sub).1) m

/-- The loops of `InitGlobalSubscriptions`, with what they have restored so far. -/
def replayGlobalSubscriptions (m : MultiSystemAbilityManager) :
    List Subscription → List Subscription → MultiSystemAbilityManager × ErrCode
  | [], _ => (m, .errOk)
  | sub :: rest, restored =>
      if sub.listener.object ∈ dead then m.replayGlobalSubscriptions rest restored
      else
        let done := m.subscribe expired true sub
        if done.2 ≠ .errOk then (done.1.rollbackGlobalSubscriptions expired restored, done.2)
        else done.1.replayGlobalSubscriptions rest (sub :: restored)

def initGlobalSubscriptions (m : MultiSystemAbilityManager) (info : GlobalSubscriptionInfo) :
    MultiSystemAbilityManager × ErrCode :=
  m.replayGlobalSubscriptions expired dead info.subscriptions []

theorem sound_subscribe (sound : m.Sound) : (m.subscribe expired foregroundOnly sub).1.Sound := by
  cases sub with
  | ability sa listener callingPid => exact sound_subscribeWithPid sound
  | process listener => exact ⟨⟨sound.base.counted, sound.base.bounded, sound.base.single⟩, sound.infos⟩

/-- A replay that fits is never rolled back. -/
theorem Fits.replay (fits : m.Fits rest) (sound : m.Sound) (valid : ∀ sub ∈ rest, sub.valid = true)
    (restored : List Subscription) :
    (m.replayGlobalSubscriptions expired dead rest restored).2 = .errOk := by
  induction rest generalizing m restored with
  | nil => rfl
  | cons sub rest hypothesis =>
      obtain ⟨first, later⟩ := List.forall_mem_cons.mp valid
      rw [replayGlobalSubscriptions]
      split
      · exact hypothesis fits.skip sound later restored
      · have accepted : (m.subscribe expired true sub).2 = .errOk := fits.accepted sound first
        simp only [accepted, ne_eq, not_true_eq_false, if_false]
        exact hypothesis fits.subscribe (sound_subscribe expired sound) later (sub :: restored)

end Replay

end MultiSystemAbilityManager

namespace GlobalSubscriptionInfo

variable {info : GlobalSubscriptionInfo} {sub : Subscription} {key : SubscriptionKey} {dead : List Nat}
  {pid : Int}

/-- The entries of a pid. -/
def charges (info : GlobalSubscriptionInfo) (pid : Int) : Nat :=
  info.systemAbilitySubscriptions.countP (·.callingPid == pid)

/-- No pid has more entries than its quota. -/
def Bounded (info : GlobalSubscriptionInfo) : Prop :=
  ∀ pid, info.charges pid ≤ Scheduler.MAX_SUBSCRIBE_COUNT

theorem count_pids : (info.subscriptions.flatMap Subscription.pids).count pid = info.charges pid := by
  have abilities : (info.systemAbilitySubscriptions.map
      GlobalSystemAbilitySubscription.subscription).flatMap Subscription.pids =
        info.systemAbilitySubscriptions.map (·.callingPid) := by
    rw [List.flatMap_map, List.map_eq_flatMap]
    rfl
  have processes : (info.systemProcessSubscriptions.map fun remoteObject =>
      Subscription.process (ifaceCast remoteObject)).flatMap Subscription.pids = [] := by
    rw [List.flatMap_map, List.flatMap_eq_nil_iff]
    exact fun _ _ => rfl
  rw [subscriptions, List.flatMap_append, abilities, processes, List.append_nil, List.count,
    List.countP_map]
  rfl

theorem Bounded.removeExpired (bounded : info.Bounded) : (info.removeExpired dead).Bounded :=
  fun pid => Nat.le_trans List.filter_sublist.countP_le (bounded pid)

theorem Bounded.erase (bounded : info.Bounded) : (info.erase key).Bounded :=
  fun pid => Nat.le_trans List.eraseP_sublist.countP_le (bounded pid)

/-- The check of the list comes before the subscription is entered. -/
theorem Bounded.push (bounded : info.Bounded) (room : info.overflows sub = false) :
    (info.push sub).Bounded := by
  intro pid
  have before := bounded pid
  cases sub with
  | process listener => exact before
  | ability sa listener callingPid =>
      rw [overflows, decide_eq_false_iff_not] at room
      simp only [charges, GlobalSubscriptionInfo.push, List.countP_append, List.countP_singleton] at before ⊢
      split
      · rename_i own
        rw [beq_iff_eq] at own
        subst own
        omega
      · omega

theorem Sound.valid_subscriptions (sound : info.Sound) :
    ∀ sub ∈ info.subscriptions, sub.valid = true := by
  intro sub member
  have listed : sub.key ∈ info.keys := by
    rw [keys_eq]
    exact List.mem_map_of_mem member
  cases sub with
  | ability sa listener callingPid => exact sound.valid sa listener.object listed
  | process listener => rfl

end GlobalSubscriptionInfo

namespace AllUsers

variable {s : AllUsers} {userId : Int} {sub : Subscription}

/-- A subscription that is on its way has room in the list, and a replay goes through. -/
def Roomy (s : AllUsers) : Option GlobalCall → Prop
  | some (.subscribing sub _ _) => s.globalSubscriptions.overflows sub = false
  | some (.activating _ manager rest _) =>
      manager.Fits rest ∧ ∀ sub ∈ rest, sub.valid = true
  | some (.rollbackGlobal _ _) => False
  | _ => True

/-- The quotas between any two steps. -/
structure Metered (s : AllUsers) : Prop where
  list : s.globalSubscriptions.Bounded
  running : s.Roomy s.running

/-- What leaves the list as it is. -/
theorem Metered.transfer {t : AllUsers} (metered : s.Metered)
    (list : t.globalSubscriptions = s.globalSubscriptions) (running : t.running = s.running) :
    t.Metered := by
  refine ⟨list ▸ metered.list, ?_⟩
  have roomy := metered.running
  rw [running]
  generalize s.running = call at roomy ⊢
  cases call with
  | none => trivial
  | some call =>
      cases call with
      | subscribing sub rest subscribed =>
          rw [Roomy] at roomy ⊢
          rw [list]
          exact roomy
      | activating userId manager rest restored => exact roomy
      | rollbackGlobal manager rest => exact roomy
      | _ => trivial

theorem Metered.withManager {call : MultiSystemAbilityManager → MultiSystemAbilityManager}
    (metered : s.Metered) : (s.withManager userId call).Metered := by
  have kept : (s.withManager userId call).running = s.running ∧
      (s.withManager userId call).globalSubscriptions = s.globalSubscriptions ∧
      (s.withManager userId call).dead = s.dead := running_withManager
  exact metered.transfer kept.2.1 kept.1

theorem Metered.beginSubscribe (metered : s.Metered) : (s.beginSubscribe sub).Metered := by
  refine ⟨metered.list.removeExpired, ?_⟩
  simp only [AllUsers.beginSubscribe]
  split
  · trivial
  · split
    · trivial
    · rename_i room
      exact Bool.eq_false_iff.mpr room

theorem Metered.beginUnSubscribe (metered : s.Metered) : (s.beginUnSubscribe sub).Metered := by
  refine ⟨metered.list.removeExpired, ?_⟩
  simp only [AllUsers.beginUnSubscribe]
  split <;> trivial

theorem fits_init (saProfiles : List SaProfile) {info : GlobalSubscriptionInfo} (bounded : info.Bounded) :
    MultiSystemAbilityManager.Fits { base := Manager.init saProfiles } info.subscriptions := by
  intro pid
  rw [GlobalSubscriptionInfo.count_pids]
  have none : MultiSystemAbilityManager.charges { base := Manager.init saProfiles } pid = 0 := rfl
  rw [none, Nat.zero_add]
  exact bounded pid

theorem Metered.beginActivate {saProfiles : List SaProfile} (good : s.Good) (metered : s.Metered) :
    (s.beginActivate userId saProfiles).Metered := by
  have list : (s.globalSubscriptions.removeExpired s.dead).Bounded := metered.list.removeExpired
  exact ⟨list, fits_init saProfiles list, good.sound.removeExpired.valid_subscriptions⟩

theorem Metered.proceed {expired : List Nat} {call : GlobalCall} (good : s.Good) (metered : s.Metered)
    (running : s.running = some call) : (s.proceed expired call).Metered := by
  have roomy := metered.running
  have staged := good.staged
  rw [running] at roomy staged
  cases call with
  | subscribing sub rest subscribed =>
      cases rest with
      | nil => exact ⟨metered.list.push roomy, trivial⟩
      | cons userId rest =>
          simp only [AllUsers.proceed]
          split
          · exact ⟨metered.list, roomy⟩
          · refine ⟨metered.list, ?_⟩
            simp only
            split
            · trivial
            · exact roomy
  | rollbackSubscribe sub rest result =>
      cases rest with
      | nil => exact ⟨metered.list, trivial⟩
      | cons userId rest => exact ⟨metered.withManager.list, trivial⟩
  | unSubscribing sub rest unSubscribed =>
      cases rest with
      | nil => exact ⟨metered.list.erase, trivial⟩
      | cons userId rest =>
          simp only [AllUsers.proceed]
          split
          · exact ⟨metered.list, trivial⟩
          · refine ⟨metered.list, ?_⟩
            simp only
            split <;> trivial
  | rollbackUnsubscribe sub rest result =>
      cases rest with
      | nil => exact ⟨metered.list, trivial⟩
      | cons userId rest => exact ⟨metered.withManager.list, trivial⟩
  | answered result => exact ⟨metered.list, trivial⟩
  | activating userId manager rest restored =>
      obtain ⟨fits, valid⟩ := roomy
      cases rest with
      | nil => exact ⟨metered.list, trivial⟩
      | cons sub rest =>
          obtain ⟨first, later⟩ := List.forall_mem_cons.mp valid
          simp only [AllUsers.proceed]
          split
          · exact ⟨metered.list, fits.skip, later⟩
          · have accepted : (manager.subscribe expired true sub).2 = .errOk :=
              fits.accepted staged.2.1.sound first
            simp only [accepted, ne_eq, not_true_eq_false, if_false]
            exact ⟨metered.list, fits.subscribe, later⟩
  | rollbackGlobal manager rest => exact roomy.elim
  | activated userId manager =>
      simp only [AllUsers.proceed]
      split <;> exact ⟨metered.list, trivial⟩

theorem Metered.onRemoteDied {subscriber : Option Int} {remoteObject : Nat} {candidates : List Nat}
    (metered : s.Metered) : (s.step (.onRemoteDied subscriber remoteObject candidates)).Metered := by
  have roomy := metered.running
  simp only [AllUsers.step]
  split
  · exact metered
  · split
    · exact metered.withManager
    · rename_i running
      rw [running] at roomy
      exact ⟨metered.list, roomy.1.onRemoteDied, roomy.2⟩
    · rename_i running
      rw [running] at roomy
      exact roomy.elim
    · exact ⟨metered.list, trivial⟩
    · exact metered

theorem Metered.step (good : s.Good) (metered : s.Metered) (label : AllUsersLabel) :
    (s.step label).Metered := by
  cases label with
  | subscribeForAllUsers sub =>
      simp only [AllUsers.step]
      split
      · exact metered.beginSubscribe
      · exact metered
  | unSubscribeForAllUsers sub =>
      simp only [AllUsers.step]
      split
      · exact metered.beginUnSubscribe
      · exact metered
  | activate userId saProfiles =>
      simp only [AllUsers.step]
      split
      · exact metered.beginActivate good
      · exact metered
  | proceed candidates =>
      simp only [AllUsers.step]
      split
      · exact metered
      · rename_i call running
        exact metered.proceed good running
  | leave =>
      simp only [AllUsers.step]
      split
      · exact ⟨metered.list, trivial⟩
      · exact metered
  | stop userId =>
      simp only [AllUsers.step]
      split
      · exact metered
      · exact metered.transfer rfl rfl
  | subscribe userId sub candidates => exact metered.withManager
  | unSubscribe userId sub candidates => exact metered.withManager
  | die remoteObject => exact metered.transfer rfl rfl
  | onRemoteDied userId remoteObject candidates => exact metered.onRemoteDied

theorem metered_run (labels : List AllUsersLabel) : (Runs.run step {} labels).Metered := by
  have kept : (Runs.run step {} labels).Good ∧ (Runs.run step {} labels).Metered := by
    apply Runs.run_invariant (fun s : AllUsers => s.Good ∧ s.Metered)
    · exact fun s label both => ⟨both.1.step label, both.2.step both.1 label⟩
    · exact ⟨good_run [], fun pid => Nat.zero_le _, trivial⟩
  exact kept.2

/-- A replay that nothing comes between is the whole function. -/
theorem run_activating {candidates : List Nat} {manager : MultiSystemAbilityManager}
    {rest restored : List Subscription}
    (running : s.running = some (.activating userId manager rest restored))
    (accepted : (manager.replayGlobalSubscriptions (s.expired candidates) s.dead rest restored).2 =
      .errOk) :
    (Runs.run step s (List.replicate (rest.length + 1) (.proceed candidates))).running =
      some (.activated userId
        (manager.replayGlobalSubscriptions (s.expired candidates) s.dead rest restored).1) := by
  induction rest generalizing s manager restored with
  | nil =>
      rw [List.length_nil, List.replicate_one, Runs.run_cons, Runs.run_nil]
      simp only [step, running]
      rfl
  | cons sub rest hypothesis =>
      rw [List.length_cons, List.replicate_succ, Runs.run_cons]
      rw [MultiSystemAbilityManager.replayGlobalSubscriptions] at accepted ⊢
      by_cases died : sub.listener.object ∈ s.dead
      · rw [if_pos died] at accepted ⊢
        simp only [step, running, AllUsers.proceed, if_pos died]
        exact hypothesis rfl accepted
      · rw [if_neg died] at accepted ⊢
        by_cases taken : (manager.subscribe (s.expired candidates) true sub).2 = .errOk
        · simp only [taken, ne_eq, not_true_eq_false, if_false] at accepted ⊢
          simp only [step, running, AllUsers.proceed, if_neg died, taken, ne_eq, not_true_eq_false,
            if_false]
          exact hypothesis rfl accepted
        · simp only [taken, ne_eq, not_false_eq_true, if_true] at accepted

/-- In every reachable state no pid has more subscriptions in the list than its quota, so
`InitGlobalSubscriptions` of a new manager succeeds whoever of the listeners is dead by then; and no
replay that runs between other calls is ever rolled back. -/
theorem new_user_takes_over_global_subscriptions (labels : List AllUsersLabel) :
    let s := Runs.run step {} labels
    (∀ pid, s.globalSubscriptions.systemAbilitySubscriptions.countP (·.callingPid == pid) ≤ 256) ∧
      (∀ saProfiles expired dead,
        (MultiSystemAbilityManager.initGlobalSubscriptions expired dead
          { base := Manager.init saProfiles } s.globalSubscriptions).2 = .errOk) ∧
      ∀ manager rest, s.running ≠ some (.rollbackGlobal manager rest) := by
  intro s
  have good : s.Good := good_run labels
  have metered : s.Metered := metered_run labels
  refine ⟨metered.list, fun saProfiles expired dead => ?_, fun manager rest running => ?_⟩
  · apply (fits_init saProfiles metered.list).replay
    · exact ⟨Manager.subscribed_init saProfiles, fun _ => List.nodup_nil⟩
    · exact good.sound.valid_subscriptions
  · have roomy := metered.running
    rw [running] at roomy
    exact roomy

end AllUsers

end Samgr
