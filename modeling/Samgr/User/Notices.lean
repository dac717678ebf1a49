import Samgr.User.WholeCalls
import Samgr.Manager.StatusNotices

/-! The notifications of a user's manager. Every delivery asks the subscribers of the ability first,
while the state of a listener moves whether or not its delivery was let through; the calls that
register and remove abilities post the messages, and the worker drains them. -/
namespace Samgr

namespace SubscriberInfo

/-- `ShouldNotifySubscriber` on the entries of one ability, with what its walk leaves of them. -/
def shouldNotify (isForegroundUser : Bool) (expired : List Nat) (remoteObject : Nat) :
    List SubscriberInfo → List SubscriberInfo × Bool
  | [] => ([], false)
  | info :: rest =>
      if info.remoteObject ∈ expired then shouldNotify isForegroundUser expired remoteObject rest
      else if info.remoteObject = remoteObject then
        (info :: rest,
          info.hasDirectSubscription || !info.hasForegroundSubscription || isForegroundUser)
      else
        let asked := shouldNotify isForegroundUser expired remoteObject rest
        (info :: asked.1, asked.2)

variable {infos : List SubscriberInfo} {remoteObject : Nat} {isForegroundUser : Bool}

theorem shouldNotify_infos : (shouldNotify isForegroundUser [] remoteObject infos).1 = infos := by
  induction infos with
  | nil => rfl
  | cons info infos hypothesis =>
      simp only [shouldNotify, List.not_mem_nil, if_false]
      split
      · rfl
      · rw [hypothesis]

/-- A subscriber is let through if it has a direct subscription or its user is in the foreground. -/
theorem shouldNotify_eq_true (single : Single infos)
    (subscribed : ∃ kind, Flagged infos remoteObject kind) :
    (shouldNotify isForegroundUser [] remoteObject infos).2 = true ↔
      Flagged infos remoteObject false ∨ isForegroundUser = true := by
  induction infos with
  | nil =>
      obtain ⟨kind, flagged⟩ := subscribed
      exact absurd flagged flagged_nil
  | cons info infos hypothesis =>
      have alone : ∀ kind, ¬ Flagged infos info.remoteObject kind := fun _ => not_flagged_of_single single
      simp only [shouldNotify, List.not_mem_nil, if_false]
      by_cases own : info.remoteObject = remoteObject
      · subst own
        -- its only entry has a flag
        obtain ⟨kind, flagged⟩ := subscribed
        rcases flagged_cons.mp flagged with ⟨-, set⟩ | later
        · cases kind <;> simp_all [flag]
        · exact absurd later (alone kind)
      · have rest : ∃ kind, Flagged infos remoteObject kind := by
          obtain ⟨kind, flagged⟩ := subscribed
          exact ⟨kind, (flagged_cons.mp flagged).resolve_left fun first => own first.1⟩
        simpa [own] using hypothesis (single_cons.mp single).2 rest

end SubscriberInfo

/-- The call that tells a listener of a change of an ability. -/
def Report.ofChange (systemAbilityId : Int) (added : Bool) (listener : RemoteInterface) : Report :=
  if added then .onAddSystemAbility systemAbilityId listener
  else .onRemoveSystemAbility systemAbilityId listener

/-- A task that tells listeners of a change. -/
def WorkTask.isNotice : WorkTask → Bool
  | .notifyAdded _ _ | .notifyRemoved _ | .listenerNotify _ _ => true
  | _ => false

/-- The task can tell the object that the ability is there. -/
def WorkTask.canAnnounce (systemAbilityId : Int) (remoteObject : Nat) (task : WorkTask) : Bool :=
  task.notice systemAbilityId remoteObject == some .added ||
    task.notice systemAbilityId remoteObject == some .greeting

/-- A report among the listed ones tells the object that the ability is there. -/
def Announces (reports : List Report) (systemAbilityId : Int) (remoteObject : Nat) : Prop :=
  ∃ report ∈ reports, report.notice systemAbilityId remoteObject = some true

instance (reports : List Report) (systemAbilityId : Int) (remoteObject : Nat) :
    Decidable (Announces reports systemAbilityId remoteObject) :=
  inferInstanceAs (Decidable (∃ report ∈ reports, _))

@[simp] theorem not_announces_nil {sa : Int} {object : Nat} : ¬ Announces [] sa object := by
  simp [Announces]

@[simp] theorem announces_append {first second : List Report} {sa : Int} {object : Nat} :
    Announces (first ++ second) sa object ↔ Announces first sa object ∨ Announces second sa object := by
  simp [Announces, or_and_right, exists_or]

@[simp] theorem Report.notice_ofChange {id sa : Int} {added : Bool} {listener : RemoteInterface}
    {object : Nat} : (Report.ofChange id added listener).notice sa object =
      if id = sa ∧ listener.object = object then some added else none := by
  cases added <;> rfl

namespace MultiSystemAbilityManager

section Notifications

variable (m : MultiSystemAbilityManager) (isForegroundUser : Bool) (expired : List Nat)
  (systemAbilityId : Int) (added : Bool) (listener : RemoteInterface)

def shouldNotifySubscriber : MultiSystemAbilityManager × Bool :=
  let asked := SubscriberInfo.shouldNotify isForegroundUser expired listener.object
    (m.subscriberInfoMap systemAbilityId)
  ({ m with subscriberInfoMap := Function.update m.subscriberInfoMap systemAbilityId asked.1 }, asked.2)

/-- The newest report comes first. -/
def withReports (reports : List Report) : MultiSystemAbilityManager :=
  { m with base := { m.base with reports := reports ++ m.base.reports } }

def notifySystemAbilityChanged : MultiSystemAbilityManager :=
  let asked := m.shouldNotifySubscriber isForegroundUser expired systemAbilityId listener
  if asked.2 then asked.1.withReports [.ofChange systemAbilityId added listener] else asked.1

def setStates (state : ListenerState) : MultiSystemAbilityManager :=
  { m with
    base := { m.base with
      listenerMap := m.base.listenerMap.modify systemAbilityId fun listeners =>
        listeners.map fun item => { item with state } } }

/-- The listeners that a message is for: a registration passes over those already notified. -/
def due : List SAListener :=
  (m.base.listeners systemAbilityId).filter fun item => !added || item.state == .init

/-- All of them change their state, also one that was not let through. -/
def findSystemAbilityNotify : MultiSystemAbilityManager :=
  let notified := (m.due systemAbilityId added).foldl
    (fun n item => n.notifySystemAbilityChanged isForegroundUser expired systemAbilityId added item.listener) m
  notified.setStates systemAbilityId (if added then .notified else .init)

/-- A task of the worker. The tasks of load requests are those of the base manager, which nothing
below posts; the delayed one among them is not run here. -/
def runTask : WorkTask → MultiSystemAbilityManager
  | .notifyAdded systemAbilityId remoteObject =>
      let found := m.findSystemAbilityNotify isForegroundUser expired systemAbilityId true
      { found with base := found.base.notifySystemAbilityLoaded systemAbilityId remoteObject }
  | .notifyRemoved systemAbilityId =>
      m.findSystemAbilityNotify isForegroundUser expired systemAbilityId false
  | .listenerNotify systemAbilityId listener =>
      m.notifySystemAbilityChanged isForegroundUser expired systemAbilityId true listener
  | task => { m with base := task.pieces.foldl (fun base piece => (base.exec {} piece).1) m.base }

def setReady (ready : List (Nat × WorkTask)) : MultiSystemAbilityManager :=
  { m with base := { m.base with workHandler := { m.base.workHandler with ready } } }

/-- The worker runs what is ready, the oldest first. -/
def drain : MultiSystemAbilityManager :=
  m.base.workHandler.ready.foldl (fun n entry => n.runTask isForegroundUser expired entry.2) (m.setReady [])

end Notifications

section Registrations

variable (m : MultiSystemAbilityManager) (env : Env) (systemAbilityId : Int)

def addSystemAbility (saInfo : SAInfo) : MultiSystemAbilityManager × ErrCode :=
  if !checkInputSysAbilityId systemAbilityId then (m, .errInvalidValue)
  else
    let refreshed := { m with base := m.base.refreshListenerState systemAbilityId }
    if saInfo.isDistributed ≠ m.base.isDistributedSystemAbility systemAbilityId then
      (refreshed, .errInvalidValue)
    else
      match refreshed.base.insertAbility systemAbilityId saInfo with
      | none => (refreshed, .errInvalidValue)
      | some inserted =>
          let cleared := inserted.removeCheckLoadedMsg systemAbilityId
          let updated := cleared.sched.postProcessTask env (.updateLimitDelayUnloadTime systemAbilityId)
          let sched := (updated.sendAbilityStateEvent env systemAbilityId .abilityLoadSuccessEvent).1
          ({ m with base := { cleared with sched }.postTask (.notifyAdded systemAbilityId saInfo.remoteObj) },
            .errOk)

def removeSystemAbility : MultiSystemAbilityManager × ErrCode :=
  if !checkInputSysAbilityId systemAbilityId then (m, .errInvalidValue)
  else
    match m.base.eraseAbility systemAbilityId with
    | none => (m, .errInvalidValue)
    | some erased =>
        let sched := (erased.sched.sendAbilityStateEvent env systemAbilityId .abilityUnloadSuccessEvent).1
        ({ m with base := { erased with sched }.postTask (.notifyRemoved systemAbilityId) }, .errOk)

/-- `RemoveSystemAbility` by the object. One that is registered under id 0 goes without a message. -/
def removeObject (ability : Nat) : MultiSystemAbilityManager :=
  match m.base.findObject ability with
  | none => m
  | some id =>
      let erased := m.base.setRegistry (m.base.abilityMap.erase id)
      { m with base := if id ≠ 0 then erased.postTask (.notifyRemoved id) else erased }

def removeDiedSystemAbility : MultiSystemAbilityManager :=
  match m.base.eraseAbility systemAbilityId with
  | none => m
  | some erased => { m with base := erased.postTask (.notifyRemoved systemAbilityId) }

end Registrations

section Effects

variable {m n : MultiSystemAbilityManager} {env : Env} {isForegroundUser added : Bool}
  {systemAbilityId sa : Int} {listener : RemoteInterface} {object : Nat} {state : ListenerState}
  {dead : List Nat} {saInfo : SAInfo}

/-- A delivery to the object is let through. -/
def passes (m : MultiSystemAbilityManager) (isForegroundUser : Bool) (systemAbilityId : Int) (object : Nat) :
    Bool :=
  (SubscriberInfo.shouldNotify isForegroundUser [] object (m.subscriberInfoMap systemAbilityId)).2

@[simp] theorem passes_withReports {reports : List Report} :
    (m.withReports reports).passes isForegroundUser sa object = m.passes isForegroundUser sa object := rfl

@[simp] theorem withReports_withReports {first second : List Report} :
    (m.withReports first).withReports second = m.withReports (second ++ first) := by
  simp [withReports]

theorem Consistent.passes_iff (good : m.Consistent []) (listens : m.base.Listens sa object) :
    m.passes isForegroundUser sa object = true ↔
      m.Subscribes sa object false ∨ isForegroundUser = true :=
  SubscriberInfo.shouldNotify_eq_true (good.sound.infos sa)
    ((good.agree sa object List.not_mem_nil).mp listens)

theorem notify_live : m.notifySystemAbilityChanged isForegroundUser [] systemAbilityId added listener =
    if m.passes isForegroundUser systemAbilityId listener.object then
      m.withReports [.ofChange systemAbilityId added listener]
    else m := by
  have same : (m.shouldNotifySubscriber isForegroundUser [] systemAbilityId listener).1 = m := by
    simp [shouldNotifySubscriber, SubscriberInfo.shouldNotify_infos]
  simp only [notifySystemAbilityChanged, same]
  rfl

theorem notify_foldl (items : List SAListener) :
    items.foldl (fun n item =>
        n.notifySystemAbilityChanged isForegroundUser [] systemAbilityId added item.listener) m =
      m.withReports ((items.filter fun item => m.passes isForegroundUser systemAbilityId item.object).map
        fun item => .ofChange systemAbilityId added item.listener).reverse := by
  induction items generalizing m with
  | nil => rfl
  | cons item items hypothesis =>
      rw [List.foldl_cons, notify_live, hypothesis]
      by_cases through : m.passes isForegroundUser systemAbilityId item.listener.object = true
      · have first : m.passes isForegroundUser systemAbilityId item.object = true := through
        simp [through, first]
      · have first : ¬ m.passes isForegroundUser systemAbilityId item.object = true := through
        simp [through, first]

/-- What the listeners that a message is for are told of it, the newest first. -/
def deliveries (m : MultiSystemAbilityManager) (isForegroundUser : Bool) (systemAbilityId : Int)
    (added : Bool) : List Report :=
  (((m.due systemAbilityId added).filter fun item =>
    m.passes isForegroundUser systemAbilityId item.object).map
      fun item => .ofChange systemAbilityId added item.listener).reverse

theorem find_live : m.findSystemAbilityNotify isForegroundUser [] systemAbilityId added =
    (m.withReports (m.deliveries isForegroundUser systemAbilityId added)).setStates systemAbilityId
      (if added then .notified else .init) := by
  rw [findSystemAbilityNotify, notify_foldl]
  rfl

/-- Only the listeners that the message of a registration is for are told that the ability is
there, and of these those that are let through. -/
theorem announces_deliveries {id : Int} :
    Announces (m.deliveries isForegroundUser id added) sa object ↔
      (added = true ∧ id = sa) ∧ (∃ item ∈ m.due id added, item.object = object) ∧
        m.passes isForegroundUser id object = true := by
  simp only [Announces, deliveries, List.mem_reverse, List.mem_map, List.mem_filter]
  constructor
  · rintro ⟨report, ⟨item, ⟨member, through⟩, rfl⟩, announced⟩
    rw [Report.notice_ofChange] at announced
    split at announced
    · rename_i own
      obtain ⟨rfl, rfl⟩ := own
      exact ⟨⟨Option.some.inj announced, rfl⟩, ⟨item, member, rfl⟩, through⟩
    · cases announced
  · rintro ⟨⟨rfl, rfl⟩, ⟨item, member, rfl⟩, through⟩
    refine ⟨_, ⟨item, ⟨member, through⟩, rfl⟩, ?_⟩
    simp [SAListener.object]

/-- What changes neither the entries of the tables nor their counts keeps the tables in agreement. -/
theorem Consistent.of_keys (good : m.Consistent dead) (infos : n.subscriberInfoMap = m.subscriberInfoMap)
    (agree : ∀ id, id ≠ sa → n.base.listenerMap[id]? = m.base.listenerMap[id]?)
    (entries : (n.base.listeners sa).map SAListener.key = (m.base.listeners sa).map SAListener.key)
    (counts : n.base.subscribeCountMap = m.base.subscribeCountMap)
    (processes : n.base.sched.processListeners = m.base.sched.processListeners) : n.Consistent dead := by
  have subscribes : ∀ id object kind, n.Subscribes id object kind ↔ m.Subscribes id object kind := by
    intro id object kind
    rw [Subscribes, Subscribes, infos]
  refine ⟨⟨good.sound.base.same agree entries (Or.inl counts), ?_⟩, good.processes.of_same processes, ?_, ?_⟩
  · rw [infos]
    exact good.sound.infos
  · intro id object live
    rw [Manager.listens_of_keys agree entries, good.agree id object live]
    exact exists_congr fun kind => (subscribes id object kind).symm
  · exact fun id object kind live entry => good.valid id object kind live ((subscribes id object kind).mp entry)

theorem Consistent.of_same (good : m.Consistent dead) (infos : n.subscriberInfoMap = m.subscriberInfoMap)
    (listeners : n.base.listenerMap = m.base.listenerMap)
    (counts : n.base.subscribeCountMap = m.base.subscribeCountMap)
    (processes : n.base.sched.processListeners = m.base.sched.processListeners) : n.Consistent dead := by
  have entries : (n.base.listeners 0).map SAListener.key = (m.base.listeners 0).map SAListener.key := by
    rw [Manager.listeners, Manager.listeners, listeners]
  refine good.of_keys infos (fun id _ => ?_) entries counts processes
  rw [listeners]

theorem keys_setStates : ((m.setStates sa state).base.listeners sa).map SAListener.key =
    (m.base.listeners sa).map SAListener.key := by
  have after : (m.setStates sa state).base.listeners sa =
      (m.base.listeners sa).map fun item => { item with state } := Manager.listeners_modify rfl
  rw [after, List.map_map]
  rfl

theorem agree_setStates {id : Int} (apart : id ≠ sa) :
    (m.setStates sa state).base.listenerMap[id]? = m.base.listenerMap[id]? :=
  Quota.getElem?_modify_of_ne apart

theorem Consistent.setStates (good : m.Consistent dead) : (m.setStates sa state).Consistent dead :=
  good.of_keys rfl (fun _ apart => agree_setStates apart) keys_setStates rfl rfl

/-- What a manager has between its calls besides an empty queue: the tables agree, no task is
recorded under a name, and no ability is being started. -/
structure Idle (m : MultiSystemAbilityManager) : Prop where
  consistent : m.Consistent []
  handles : ∀ name, m.base.workHandler.handles name = []
  starting : m.base.startingAbilityMap = ∅

theorem Idle.withReports (good : m.Idle) {reports : List Report} : (m.withReports reports).Idle :=
  ⟨good.consistent.of_same rfl rfl rfl rfl, good.handles, good.starting⟩

theorem Idle.setStates (good : m.Idle) : (m.setStates sa state).Idle :=
  ⟨good.consistent.setStates, good.handles, good.starting⟩

theorem Idle.setReady (good : m.Idle) {ready : List (Nat × WorkTask)} : (m.setReady ready).Idle :=
  ⟨good.consistent.of_same rfl rfl rfl rfl, good.handles, good.starting⟩

/-- What the run of a notification leaves, and what it reports. -/
structure Told (m n : MultiSystemAbilityManager) (reports : List Report) : Prop where
  idle : n.Idle
  infos : n.subscriberInfoMap = m.subscriberInfoMap
  registry : n.base.abilityMap = m.base.abilityMap
  queue : n.base.workHandler = m.base.workHandler
  reports : n.base.reports = reports ++ m.base.reports

theorem Told.refl (good : m.Idle) : Told m m [] := ⟨good, rfl, rfl, rfl, rfl⟩

theorem Told.trans {k : MultiSystemAbilityManager} {first second : List Report} (one : Told m n first)
    (two : Told n k second) : Told m k (second ++ first) where
  idle := two.idle
  infos := two.infos.trans one.infos
  registry := two.registry.trans one.registry
  queue := two.queue.trans one.queue
  reports := by rw [two.reports, one.reports, List.append_assoc]

theorem find_told (good : m.Idle) :
    Told m (m.findSystemAbilityNotify isForegroundUser [] systemAbilityId added)
      (m.deliveries isForegroundUser systemAbilityId added) := by
  rw [find_live]
  exact ⟨good.withReports.setStates, rfl, rfl, rfl, rfl⟩

/-- While nothing is being started the task of a registration only notifies. -/
theorem runTask_added (good : m.Idle) {remoteObject : Nat} :
    m.runTask isForegroundUser [] (.notifyAdded sa remoteObject) =
      m.findSystemAbilityNotify isForegroundUser [] sa true := by
  have starting : (m.findSystemAbilityNotify isForegroundUser [] sa true).base.startingAbilityMap = ∅ :=
    (find_told good).idle.starting
  simp [runTask, Manager.notifySystemAbilityLoaded, starting]

theorem greet_told (good : m.Idle) :
    Told m (m.runTask isForegroundUser [] (.listenerNotify sa listener))
      (if m.passes isForegroundUser sa listener.object then [.ofChange sa true listener] else []) := by
  have greeted : m.runTask isForegroundUser [] (.listenerNotify sa listener) =
      if m.passes isForegroundUser sa listener.object then m.withReports [.ofChange sa true listener]
      else m := notify_live
  rw [greeted]
  split
  · exact ⟨good.withReports, rfl, rfl, rfl, rfl⟩
  · exact Told.refl good

variable (isForegroundUser) in
theorem runTask_told (good : m.Idle) {task : WorkTask} (notice : task.isNotice = true) :
    ∃ reports, Told m (m.runTask isForegroundUser [] task) reports ∧
      ∀ id object, Announces reports id object → task.canAnnounce id object = true := by
  cases task with
  | notifyAdded id remoteObject =>
      refine ⟨_, runTask_added good ▸ find_told good, fun other object announced => ?_⟩
      obtain ⟨⟨-, rfl⟩, -, -⟩ := announces_deliveries.mp announced
      simp [WorkTask.canAnnounce, WorkTask.notice]
  | notifyRemoved id =>
      refine ⟨_, find_told good, fun other object announced => ?_⟩
      cases (announces_deliveries.mp announced).1.1
  | listenerNotify id listener =>
      refine ⟨_, greet_told good, fun other object announced => ?_⟩
      split at announced
      · have own : id = other ∧ listener.object = object := by simpa [Announces] using announced
        simp [WorkTask.canAnnounce, WorkTask.notice, own]
      · exact absurd announced not_announces_nil
  | _ => cases notice

variable (isForegroundUser) in
/-- Over a run of notifications only the tasks about an ability announce it. -/
theorem runTasks_told {tasks : List WorkTask} (good : m.Idle)
    (notices : ∀ task ∈ tasks, task.isNotice = true) :
    ∃ reports, Told m (tasks.foldl (fun n task => n.runTask isForegroundUser [] task) m) reports ∧
      ∀ id object, Announces reports id object → ∃ task ∈ tasks, task.canAnnounce id object = true := by
  induction tasks generalizing m with
  | nil => exact ⟨[], Told.refl good, fun _ _ announced => absurd announced not_announces_nil⟩
  | cons task tasks hypothesis =>
      obtain ⟨first, one, own⟩ := runTask_told isForegroundUser good
        (notices task List.mem_cons_self)
      obtain ⟨second, rest, later⟩ := hypothesis one.idle
        fun other member => notices other (List.mem_cons_of_mem task member)
      refine ⟨second ++ first, one.trans rest, fun id object announced => ?_⟩
      rcases announces_append.mp announced with after | now
      · obtain ⟨other, member, source⟩ := later id object after
        exact ⟨other, List.mem_cons_of_mem task member, source⟩
      · exact ⟨task, List.mem_cons_self, own id object now⟩

/-- What a call leaves for the worker. -/
structure Posts (m n : MultiSystemAbilityManager) (tasks : List WorkTask) : Prop where
  idle : n.Idle
  ready : n.base.workHandler.ready.map Prod.snd = tasks
  notices : ∀ task ∈ tasks, task.isNotice = true
  reports : n.base.reports = m.base.reports

theorem drain_eq {tasks : List WorkTask} (ready : n.base.workHandler.ready.map Prod.snd = tasks) :
    n.drain isForegroundUser [] =
      tasks.foldl (fun n task => n.runTask isForegroundUser [] task) (n.setReady []) := by
  rw [drain, ← ready, List.foldl_map]

variable (isForegroundUser) in
theorem Posts.drain {tasks : List WorkTask} (posts : Posts m n tasks) :
    ∃ reports, Told (n.setReady []) (n.drain isForegroundUser []) reports ∧
      ∀ id object, Announces reports id object → ∃ task ∈ tasks, task.canAnnounce id object = true := by
  rw [drain_eq posts.ready]
  exact runTasks_told isForegroundUser posts.idle.setReady posts.notices

end Effects

section Posting

variable {m n : MultiSystemAbilityManager} {env : Env} {isForegroundUser : Bool} {sa : Int}
  {listener : RemoteInterface} {object : Nat} {saInfo : SAInfo} {foregroundOnly : Bool} {callingPid : Int}

/-- No listener of the ability has been notified. -/
def Fresh (m : MultiSystemAbilityManager) (systemAbilityId : Int) : Prop :=
  ∀ item ∈ m.base.listeners systemAbilityId, item.state = .init

theorem fresh_setStates : (m.setStates sa .init).Fresh sa := by
  intro item member
  have after : (m.setStates sa .init).base.listeners sa =
      (m.base.listeners sa).map fun item => { item with state := .init } := Manager.listeners_modify rfl
  rw [after] at member
  obtain ⟨before, -, rfl⟩ := List.mem_map.mp member
  rfl

/-- The message of a registration is for every listener when none has been notified. -/
theorem Fresh.due_iff (fresh : m.Fresh sa) :
    (∃ item ∈ m.due sa true, item.object = object) ↔ m.base.Listens sa object := by
  simp only [due, List.mem_filter, Manager.Listens]
  constructor
  · rintro ⟨item, ⟨member, -⟩, own⟩
    exact ⟨item, member, own⟩
  · rintro ⟨item, member, own⟩
    exact ⟨item, ⟨member, by simp [fresh item member]⟩, own⟩

/-- A refused registration has at most reset the listeners' states. -/
theorem addSystemAbility_cases :
    let added := m.addSystemAbility env sa saInfo
    (added.2 = .errInvalidValue ∧ (added.1 = m ∨ added.1 = m.setStates sa .init)) ∨
    (added.2 = .errOk ∧ ∃ inserted sched,
      (m.setStates sa .init).base.insertAbility sa saInfo = some inserted ∧
      sched.processListeners = inserted.sched.processListeners ∧
      added.1 = { m with base :=
        { inserted.removeCheckLoadedMsg sa with sched }.postTask (.notifyAdded sa saInfo.remoteObj) }) := by
  intro added
  simp only [added, addSystemAbility]
  split
  · exact Or.inl ⟨rfl, Or.inl rfl⟩
  · split
    · exact Or.inl ⟨rfl, Or.inr rfl⟩
    · split
      · exact Or.inl ⟨rfl, Or.inr rfl⟩
      · rename_i inserted result
        refine Or.inr ⟨rfl, inserted, _, result, ?_, rfl⟩
        rw [Scheduler.processListeners_abilityEvent, Scheduler.processListeners_postProcessTask]
        rfl

theorem insertAbility_eq {base inserted : Manager} (result : base.insertAbility sa saInfo = some inserted) :
    inserted = (if sa ∈ base.abilityMap then base.postTask (.notifyRemoved sa) else base).setRegistry
      (base.abilityMap.insert sa saInfo) := by
  simp only [Manager.insertAbility] at result
  split at result
  · cases result
  · exact (Option.some.inj result).symm

/-- What an accepted registration leaves before its messages are run: they are posted in their
order, behind the removal of what is covered. -/
theorem addSystemAbility_posts (good : m.Idle) (empty : m.base.workHandler.ready = [])
    (accepted : (m.addSystemAbility env sa saInfo).2 = .errOk) :
    ∃ covered : List WorkTask, (∀ task ∈ covered, task = .notifyRemoved sa) ∧
      Posts m (m.addSystemAbility env sa saInfo).1 (covered ++ [.notifyAdded sa saInfo.remoteObj]) := by
  rcases addSystemAbility_cases with ⟨refused, -⟩ | ⟨-, inserted, sched, result, processes, after⟩
  · cases refused.symm.trans accepted
  · rw [after]
    obtain rfl := insertAbility_eq result
    have states : (m.setStates sa .init).Consistent [] := good.consistent.setStates
    have registry : (m.setStates sa .init).base.abilityMap = m.base.abilityMap := rfl
    have handles : ∀ q : TaskQueue Int WorkTask, q.handles = m.base.workHandler.handles →
        ∀ name, (q.removeTask sa).handles name = [] := by
      intro q same name
      by_cases own : name = sa
      · simp [TaskQueue.removeTask, own]
      · simp [TaskQueue.removeTask, own, same, good.handles]
    by_cases covering : sa ∈ m.base.abilityMap
    · rw [registry, if_pos covering] at processes ⊢
      refine ⟨[.notifyRemoved sa], fun task member => List.mem_singleton.mp member, ?_, ?_, ?_, rfl⟩
      · exact ⟨states.of_same rfl rfl rfl processes, handles _ rfl, good.starting⟩
      · simp [Manager.postTask, Manager.removeCheckLoadedMsg, Manager.setRegistry, TaskQueue.post,
          TaskQueue.removeTask, setStates, good.handles, empty]
      · simp [WorkTask.isNotice]
    · rw [registry, if_neg covering] at processes ⊢
      refine ⟨[], fun _ member => absurd member List.not_mem_nil, ?_, ?_, ?_, rfl⟩
      · exact ⟨states.of_same rfl rfl rfl processes, handles _ rfl, good.starting⟩
      · simp [Manager.postTask, Manager.removeCheckLoadedMsg, Manager.setRegistry, TaskQueue.post,
          TaskQueue.removeTask, setStates, empty]
      · simp [WorkTask.isNotice]

theorem addSystemAbility_tables (accepted : (m.addSystemAbility env sa saInfo).2 = .errOk) :
    (m.addSystemAbility env sa saInfo).1.Fresh sa ∧
      (m.addSystemAbility env sa saInfo).1.subscriberInfoMap = m.subscriberInfoMap ∧
      (m.addSystemAbility env sa saInfo).1.base.abilityMap = m.base.abilityMap.insert sa saInfo := by
  rcases addSystemAbility_cases with ⟨refused, -⟩ | ⟨-, inserted, sched, result, -, after⟩
  · cases refused.symm.trans accepted
  · rw [after]
    obtain rfl := insertAbility_eq result
    refine ⟨?_, rfl, ?_⟩
    · have fresh : (m.setStates sa .init).Fresh sa := fresh_setStates
      split <;> exact fresh
    · split <;> rfl

variable (isForegroundUser) in
theorem fresh_removals {tasks : List WorkTask} (removals : ∀ task ∈ tasks, task = .notifyRemoved sa)
    (fresh : m.Fresh sa) :
    (tasks.foldl (fun n task => n.runTask isForegroundUser [] task) m).Fresh sa := by
  induction tasks generalizing m with
  | nil => exact fresh
  | cons task tasks hypothesis =>
      obtain rfl := removals task List.mem_cons_self
      refine hypothesis (fun other member => removals other (List.mem_cons_of_mem _ member)) ?_
      have ran : m.runTask isForegroundUser [] (.notifyRemoved sa) =
          (m.withReports (m.deliveries isForegroundUser sa false)).setStates sa .init := find_live
      change (m.runTask isForegroundUser [] (.notifyRemoved sa)).Fresh sa
      rw [ran]
      exact fresh_setStates

theorem Consistent.listens_of_infos (first : m.Consistent []) (second : n.Consistent [])
    (infos : n.subscriberInfoMap = m.subscriberInfoMap) :
    n.base.Listens sa object ↔ m.base.Listens sa object := by
  rw [first.agree sa object List.not_mem_nil, second.agree sa object List.not_mem_nil]
  simp only [Subscribes, infos]

/-- An accepted registration tells exactly the listeners of the ability that are let through. -/
theorem addSystemAbility_told (good : m.Idle) (empty : m.base.workHandler.ready = [])
    (accepted : (m.addSystemAbility env sa saInfo).2 = .errOk) :
    ∃ reports, Told ((m.addSystemAbility env sa saInfo).1.setReady [])
        ((m.addSystemAbility env sa saInfo).1.drain isForegroundUser []) reports ∧
      ∀ id object, Announces reports id object ↔
        id = sa ∧ m.base.Listens sa object ∧ m.passes isForegroundUser sa object = true := by
  obtain ⟨covered, removals, posts⟩ := addSystemAbility_posts good empty accepted
  obtain ⟨fresh, infos, -⟩ := addSystemAbility_tables accepted
  generalize (m.addSystemAbility env sa saInfo).1 = n at posts fresh infos ⊢
  obtain ⟨removed, told, quiet⟩ := runTasks_told isForegroundUser posts.idle.setReady
    fun task member => posts.notices task (List.mem_append_left _ member)
  have still := @fresh_removals (n.setReady []) isForegroundUser sa covered removals fresh
  rw [drain_eq posts.ready, List.foldl_append]
  generalize covered.foldl (fun n task => n.runTask isForegroundUser [] task) (n.setReady []) = last at told still
  have known : last.subscriberInfoMap = m.subscriberInfoMap := told.infos.trans infos
  refine ⟨_, told.trans (runTask_added told.idle ▸ find_told told.idle), fun id object => ?_⟩
  rw [announces_append, announces_deliveries, still.due_iff,
    good.consistent.listens_of_infos told.idle.consistent known]
  have silent : ¬ Announces removed id object := by
    intro announced
    obtain ⟨task, member, source⟩ := quiet id object announced
    obtain rfl := removals task member
    simp [WorkTask.canAnnounce, WorkTask.notice] at source
  have passes : last.passes isForegroundUser sa object = m.passes isForegroundUser sa object := by
    rw [passes, passes, known]
  simp only [silent, or_false, passes, true_and]
  exact and_congr_left fun _ => eq_comm

/-- A call that takes abilities out at most, and announces none. -/
structure Quiet (m n : MultiSystemAbilityManager) (tasks : List WorkTask) : Prop where
  posts : Posts m n tasks
  removals : ∀ task ∈ tasks, ∃ id, task = .notifyRemoved id
  registry : ∀ id ∈ n.base.abilityMap, id ∈ m.base.abilityMap

/-- A call that leaves the queue empty. -/
theorem Quiet.unposted (idle : n.Idle) (empty : n.base.workHandler.ready = [])
    (reports : n.base.reports = m.base.reports)
    (registry : ∀ id ∈ n.base.abilityMap, id ∈ m.base.abilityMap) : Quiet m n [] where
  posts := ⟨idle, by simp [empty], fun _ member => absurd member List.not_mem_nil, reports⟩
  removals := fun _ member => absurd member List.not_mem_nil
  registry := registry

theorem Quiet.refl (good : m.Idle) (empty : m.base.workHandler.ready = []) : Quiet m m [] :=
  .unposted good empty rfl fun _ inside => inside

/-- What takes one ability out and posts the message, whatever the scheduler does about it. -/
theorem Quiet.erased (good : m.Idle) (empty : m.base.workHandler.ready = []) {id : Int}
    {sched : Scheduler} (processes : sched.processListeners = m.base.sched.processListeners) :
    Quiet m
      { m with
        base := Manager.postTask { m.base.setRegistry (m.base.abilityMap.erase id) with sched }
          (.notifyRemoved id) }
      [.notifyRemoved id] where
  posts := by
    refine ⟨⟨good.consistent.of_same rfl rfl rfl processes, good.handles, good.starting⟩, ?_, ?_, rfl⟩
    · simp [Manager.postTask, Manager.setRegistry, TaskQueue.post, empty]
    · simp [WorkTask.isNotice]
  removals := fun task member => ⟨id, List.mem_singleton.mp member⟩
  registry := fun other inside => (Std.TreeMap.mem_erase.mp inside).2

theorem eraseAbility_eq {base erased : Manager} (result : base.eraseAbility sa = some erased) :
    erased = base.setRegistry (base.abilityMap.erase sa) := by
  simp only [Manager.eraseAbility] at result
  split at result
  · exact (Option.some.inj result).symm
  · cases result

theorem addSystemAbility_quiet (good : m.Idle) (empty : m.base.workHandler.ready = [])
    (refused : (m.addSystemAbility env sa saInfo).2 ≠ .errOk) :
    ∃ tasks, Quiet m (m.addSystemAbility env sa saInfo).1 tasks := by
  rcases addSystemAbility_cases with ⟨-, same | reset⟩ | ⟨accepted, -⟩
  · rw [same]
    exact ⟨[], .refl good empty⟩
  · rw [reset]
    exact ⟨[], .unposted good.setStates empty rfl fun _ inside => inside⟩
  · exact absurd accepted refused

theorem removeSystemAbility_quiet (good : m.Idle) (empty : m.base.workHandler.ready = []) :
    ∃ tasks, Quiet m (m.removeSystemAbility env sa).1 tasks := by
  simp only [removeSystemAbility]
  split
  · exact ⟨[], .refl good empty⟩
  · split
    · exact ⟨[], .refl good empty⟩
    · rename_i erased result
      obtain rfl := eraseAbility_eq result
      exact ⟨_, .erased good empty Scheduler.processListeners_abilityEvent⟩

theorem removeDied_quiet (good : m.Idle) (empty : m.base.workHandler.ready = []) :
    ∃ tasks, Quiet m (m.removeDiedSystemAbility sa) tasks := by
  simp only [removeDiedSystemAbility]
  split
  · exact ⟨[], .refl good empty⟩
  · rename_i erased result
    obtain rfl := eraseAbility_eq result
    exact ⟨_, .erased good empty rfl⟩

theorem removeObject_quiet (good : m.Idle) (empty : m.base.workHandler.ready = []) {ability : Nat} :
    ∃ tasks, Quiet m (m.removeObject ability) tasks := by
  simp only [removeObject]
  split
  · exact ⟨[], .refl good empty⟩
  · rename_i id found
    by_cases posted : id ≠ 0
    · rw [if_pos posted]
      exact ⟨_, .erased good empty rfl⟩
    · rw [if_neg posted]
      have kept : m.Consistent [] := good.consistent
      exact ⟨[], .unposted ⟨kept.of_same rfl rfl rfl rfl, good.handles, good.starting⟩ empty rfl
        fun other inside => (Std.TreeMap.mem_erase.mp inside).2⟩

theorem unSubscribe_keeps : Keeps [.listeners] m.base
    (m.unSubscribeSystemAbility [] sa listener foregroundOnly).1.base := by
  simp only [unSubscribeSystemAbility]
  split
  · exact Keeps.refl _
  · split
    · exact Keeps.refl _
    · exact Keeps.listeners _ _ _

theorem unSubscribe_quiet (good : m.Idle) (empty : m.base.workHandler.ready = []) :
    ∃ tasks, Quiet m (m.unSubscribeSystemAbility [] sa listener foregroundOnly).1 tasks := by
  have keeps : Keeps [.listeners] m.base
      (m.unSubscribeSystemAbility [] sa listener foregroundOnly).1.base := unSubscribe_keeps
  have queue : (m.unSubscribeSystemAbility [] sa listener foregroundOnly).1.base.workHandler =
      m.base.workHandler := keeps .work (by simp)
  have registry := (keeps .registry (by simp)).1
  refine ⟨[], .unposted ⟨good.consistent.unSubscribeAbility (List.Subset.refl []), ?_, ?_⟩ ?_
    (keeps .reports (by simp)) fun id inside => registry ▸ inside⟩
  · rw [queue]
    exact good.handles
  · exact (keeps .starting (by simp)).1.trans good.starting
  · rw [queue]
    exact empty

variable (isForegroundUser) in
theorem Quiet.drain {tasks : List WorkTask} (quiet : Quiet m n tasks) :
    ∃ reports, Told (n.setReady []) (n.drain isForegroundUser []) reports ∧
      ∀ id object, ¬ Announces reports id object := by
  obtain ⟨reports, told, sources⟩ := quiet.posts.drain isForegroundUser
  refine ⟨reports, told, fun id object announced => ?_⟩
  obtain ⟨task, member, source⟩ := sources id object announced
  obtain ⟨removed, rfl⟩ := quiet.removals task member
  simp [WorkTask.canAnnounce, WorkTask.notice] at source

theorem subscribeInner_keeps : Keeps [.listeners] m.base
    (m.subscribeSystemAbilityInner sa listener callingPid).1.base := by
  simp only [subscribeSystemAbilityInner]
  split
  · exact Manager.subscribeSystemAbility_keeps
  · exact Keeps.refl _

/-- The listener is new exactly when the call is accepted and the object was not listened to. -/
theorem subscribeInner_new : (m.subscribeSystemAbilityInner sa listener callingPid).2.2 = true ↔
    m.base.subscribeResult sa listener callingPid = .errOk ∧ ¬ m.base.Listens sa listener.object := by
  simp only [subscribeSystemAbilityInner, Manager.subscribeSystemAbility, Manager.any_iff_listens,
    Manager.subscribeResult]
  split
  · rename_i valid
    split
    · rename_i heard
      simp [heard]
    · split <;> simp_all
  · rename_i invalid
    simp [invalid]

theorem subscribeInner_told
    (new : (m.subscribeSystemAbilityInner sa listener callingPid).2.2 = true) :
    (m.subscribeSystemAbilityInner sa listener callingPid).1.base.told sa listener.object = some false := by
  have valid := Manager.valid_of_accepted (subscribeInner_new.mp new).1
  simp only [subscribeSystemAbilityInner, valid, if_true] at new ⊢
  rcases @Manager.subscribe_told sa listener.object m.base sa listener callingPid with
    ⟨-, other⟩ | ⟨-, -, -, -, told⟩
  · exact absurd ⟨rfl, rfl⟩ (other new)
  · exact told

/-- The task that a subscription leaves for the worker. -/
def greetings (m : MultiSystemAbilityManager) (systemAbilityId : Int) (listener : RemoteInterface)
    (callingPid : Int) : List WorkTask :=
  if (m.base.subscribeResult systemAbilityId listener callingPid = .errOk ∧
      ¬ m.base.Listens systemAbilityId listener.object) ∧ systemAbilityId ∈ m.base.abilityMap then
    [.listenerNotify systemAbilityId listener]
  else []

/-- A new listener of a registered ability is posted for. -/
theorem checkListenerNotify_queue (valid : checkInputSysAbilityId sa = true)
    (unset : m.base.told sa listener.object = some false) :
    (m.checkListenerNotify sa listener).base.workHandler =
      if sa ∈ m.base.abilityMap then m.base.workHandler.post (.listenerNotify sa listener)
      else m.base.workHandler := by
  have known : m.base.checkSystemAbility sa = none ↔ sa ∉ m.base.abilityMap := by
    rw [Manager.checkSystemAbility, if_pos valid, Option.map_eq_none_iff, Std.TreeMap.mem_iff_isSome_getElem?,
      Option.not_isSome_iff_eq_none]
  by_cases registered : sa ∈ m.base.abilityMap
  · have check : ¬ m.base.checkSystemAbility sa = none := fun absent => known.mp absent registered
    simp only [checkListenerNotify, if_neg check, if_pos registered]
    rcases @Manager.checkListenerNotify_cases m.base sa listener with
      ⟨-, queue, -⟩ | ⟨set, -, -⟩
    · exact queue
    · exact absurd unset set
  · simp only [checkListenerNotify, if_pos (known.mpr registered), if_neg registered]

theorem checkListenerNotify_keeps : Keeps [.listeners, .work] m.base
    (m.checkListenerNotify sa listener).base := by
  simp only [checkListenerNotify]
  split
  · exact Keeps.refl _
  · exact Manager.checkListenerNotify_keeps

theorem subscribe_keeps : Keeps [.listeners, .work] m.base
    (m.subscribeSystemAbilityWithPid [] sa listener foregroundOnly callingPid).1.base := by
  have inner : Keeps [.listeners, .work] m.base ((m.addSubscriberInfo [] sa listener
      foregroundOnly).subscribeSystemAbilityInner sa listener callingPid).1.base :=
    subscribeInner_keeps.mono (by simp)
  simp only [subscribeSystemAbilityWithPid]
  split
  · exact inner
  · split
    · exact inner.trans checkListenerNotify_keeps
    · exact inner

theorem subscribe_queue :
    (m.subscribeSystemAbilityWithPid [] sa listener foregroundOnly callingPid).1.base.workHandler =
      (m.greetings sa listener callingPid).foldl TaskQueue.post m.base.workHandler := by
  have keeps : Keeps [.listeners] m.base ((m.addSubscriberInfo [] sa listener
      foregroundOnly).subscribeSystemAbilityInner sa listener callingPid).1.base := subscribeInner_keeps
  have registry := (keeps .registry (by simp)).1
  have queue : ((m.addSubscriberInfo [] sa listener foregroundOnly).subscribeSystemAbilityInner sa listener
      callingPid).1.base.workHandler = m.base.workHandler := keeps .work (by simp)
  have new : ((m.addSubscriberInfo [] sa listener foregroundOnly).subscribeSystemAbilityInner sa listener
      callingPid).2.2 = true ↔ m.base.subscribeResult sa listener callingPid = .errOk ∧
        ¬ m.base.Listens sa listener.object := subscribeInner_new
  have none : ¬ (m.base.subscribeResult sa listener callingPid = .errOk ∧
      ¬ m.base.Listens sa listener.object) → m.greetings sa listener callingPid = [] := by
    intro old
    exact if_neg fun both => old both.1
  simp only [subscribeSystemAbilityWithPid]
  split
  · rename_i refused
    rw [subscribeInner_result] at refused
    rw [none fun both => refused both.1]
    exact queue
  · split
    · rename_i fresh
      have both := new.mp fresh
      rw [checkListenerNotify_queue (Manager.valid_of_accepted both.1) (subscribeInner_told fresh), registry,
        queue]
      by_cases registered : sa ∈ m.base.abilityMap
      · have greeted : m.greetings sa listener callingPid = [.listenerNotify sa listener] :=
          if_pos ⟨both, registered⟩
        rw [greeted]
        exact if_pos registered
      · have silent : m.greetings sa listener callingPid = [] := if_neg fun all => registered all.2
        rw [silent]
        exact if_neg registered
    · rename_i old
      rw [none fun both => old (new.mpr both)]
      exact queue

theorem subscribe_posts (good : m.Idle) (empty : m.base.workHandler.ready = []) :
    Posts m (m.subscribeSystemAbilityWithPid [] sa listener foregroundOnly callingPid).1
      (m.greetings sa listener callingPid) := by
  have keeps : Keeps [.listeners, .work] m.base
      (m.subscribeSystemAbilityWithPid [] sa listener foregroundOnly callingPid).1.base := subscribe_keeps
  have queue : (m.subscribeSystemAbilityWithPid [] sa listener foregroundOnly callingPid).1.base.workHandler =
      (m.greetings sa listener callingPid).foldl TaskQueue.post m.base.workHandler := subscribe_queue
  refine ⟨⟨good.consistent.subscribeAbility (List.Subset.refl []), ?_, ?_⟩, ?_, ?_, keeps .reports (by simp)⟩
  · intro name
    rw [queue, greetings]
    split <;> exact good.handles name
  · exact (keeps .starting (by simp)).1.trans good.starting
  · rw [queue, greetings]
    split <;> simp [TaskQueue.post, empty]
  · intro task member
    rw [greetings] at member
    split at member
    · rw [List.mem_singleton.mp member]
      rfl
    · cases member

/-- A new listener of a registered ability is told that it is there if it is let through, and a
subscription announces nothing else. -/
theorem subscribe_told (good : m.Idle) (empty : m.base.workHandler.ready = []) :
    let n := (m.subscribeSystemAbilityWithPid [] sa listener foregroundOnly callingPid).1
    ∃ reports, Told (n.setReady []) (n.drain isForegroundUser []) reports ∧
      ∀ id object, Announces reports id object ↔ (id = sa ∧ object = listener.object) ∧
        m.greetings sa listener callingPid ≠ [] ∧ n.passes isForegroundUser sa listener.object = true := by
  intro n
  have posts : Posts m n (m.greetings sa listener callingPid) := subscribe_posts good empty
  rw [drain_eq posts.ready]
  by_cases greets : (m.base.subscribeResult sa listener callingPid = .errOk ∧
      ¬ m.base.Listens sa listener.object) ∧ sa ∈ m.base.abilityMap
  · rw [greetings, if_pos greets]
    refine ⟨_, greet_told posts.idle.setReady, fun id object => ?_⟩
    have same : (n.setReady []).passes isForegroundUser sa listener.object =
        n.passes isForegroundUser sa listener.object := rfl
    rw [same]
    split
    · rename_i through
      simp [Announces, through, eq_comm]
    · rename_i stopped
      simp [stopped]
  · rw [greetings, if_neg greets]
    refine ⟨[], Told.refl posts.idle.setReady, fun id object => ?_⟩
    simp

end Posting

end MultiSystemAbilityManager

end Samgr
