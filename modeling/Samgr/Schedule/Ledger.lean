import Samgr.Schedule.Refinement
import Samgr.Lib.Throttle
import Mathlib.Algebra.Order.Group.Int

/-! What the scheduler counts: the load requests pended on each ability with their number for each
caller, the time of the first one in each process with the tasks that clear the list when it is full,
and the restarts of each process. An entry changes one of these, and every function of the scheduler is
a path of such entries. -/
namespace Samgr

@[ext] structure Ledger where
  pended : Int → List LoadRequestInfo
  counts : Int → Int → Nat
  own : Int → String
  stamp : String → Int
  overflows : TaskQueue Unit Int
  limiter : String → Throttle.Limiter Int

namespace Ledger

inductive Entry where
  | pend (systemAbilityId : Int) (request : LoadRequestInfo)
  | clear (systemAbilityId : Int)
  | stamp (processName : String) (curtime : Int)
  | reset (processName : String)
  | overflow (systemAbilityId : Int) (request : LoadRequestInfo) (curtime : Int)
  | take (systemAbilityId : Int) (rest : TaskQueue Unit Int)
  | ask (processName : String) (curtime : Int)

/-- The object of the callback is among those of the list. -/
def Knows (requests : List LoadRequestInfo) (request : LoadRequestInfo) : Prop :=
  ∃ item ∈ requests, item.callback.map RemoteInterface.object =
    request.callback.map RemoteInterface.object

/-- A new request is too many: its client has as many in the list as it may have, or the first
request of the process is 60 s old. -/
def Exceeds (x : Ledger) (sa : Int) (request : LoadRequestInfo) (curtime : Int) : Prop :=
  request.callback.isSome ∧ ¬ Knows (x.pended sa) request ∧
    (MAX_PENDING_LOAD_COUNT ≤ x.counts sa request.callingPid ∨
      PENDING_LOAD_TIMEOUT_MS ≤ curtime - x.stamp (x.own sa))

/-- What an entry requires and does. -/
def Step (x y : Ledger) : Entry → Prop
  | .pend sa request =>
      request.callback.isSome ∧ ¬ Knows (x.pended sa) request ∧
      x.counts sa request.callingPid < MAX_PENDING_LOAD_COUNT ∧
      y = { x with
            pended := Function.update x.pended sa (x.pended sa ++ [request])
            counts := Function.update x.counts sa
              (Function.update (x.counts sa) request.callingPid
                (x.counts sa request.callingPid + 1)) }
  | .clear sa =>
      y = { x with
            pended := Function.update x.pended sa []
            counts := Function.update x.counts sa fun _ => 0 }
  | .stamp processName curtime =>
      x.stamp processName = 0 ∧ y = { x with stamp := Function.update x.stamp processName curtime }
  | .reset processName => y = { x with stamp := Function.update x.stamp processName 0 }
  | .overflow sa request curtime =>
      x.Exceeds sa request curtime ∧ y = { x with overflows := x.overflows.post sa }
  | .take sa rest => x.overflows.pop = some (sa, rest) ∧ y = { x with overflows := rest }
  | .ask processName curtime =>
      y = { x with
            limiter := Function.update x.limiter processName
              ((x.limiter processName).ask RESTART_TIMES_LIMIT RESTART_TIME_INTERVAL_LIMIT
                curtime).1 }

/-- A path of entries that all satisfy `P`. -/
def Path (P : Entry → Prop) : Ledger → Ledger → Prop :=
  Relation.ReflTransGen fun x y => ∃ entry, P entry ∧ Step x y entry

variable {x y : Ledger} {P Q : Entry → Prop}

@[refl, simp] theorem Path.refl (x : Ledger) : Path P x x := Relation.ReflTransGen.refl

theorem Path.trans {z : Ledger} (first : Path P x y) (second : Path P y z) : Path P x z :=
  Relation.ReflTransGen.trans first second

theorem Path.single {entry : Entry} (allowed : P entry) (step : Step x y entry) : Path P x y :=
  Relation.ReflTransGen.single ⟨entry, allowed, step⟩

theorem Path.mono (weaker : ∀ entry, P entry → Q entry) (path : Path P x y) : Path Q x y :=
  Relation.ReflTransGen.mono (fun _ _ ⟨entry, allowed, step⟩ => ⟨entry, weaker entry allowed, step⟩)
    _ _ path

/-- What every allowed entry keeps, a path keeps. -/
theorem Path.keeps (inv : Ledger → Prop)
    (keep : ∀ {x y entry}, P entry → Step x y entry → inv x → inv y) (path : Path P x y)
    (start : inv x) : inv y :=
  Runs.path_invariant (fun ⟨_, allowed, step⟩ => keep allowed step) path start

/-- The list and the counts of an ability are changed by their own pends and clearings only. -/
theorem Step.list_eq {entry : Entry} {sa : Int} (step : Step x y entry)
    (noPend : ∀ request, entry ≠ .pend sa request) (noClear : entry ≠ .clear sa) :
    y.pended sa = x.pended sa ∧ y.counts sa = x.counts sa := by
  cases entry with
  | pend id request =>
      obtain ⟨-, -, -, rfl⟩ := step
      have other : sa ≠ id := fun own => noPend request (own ▸ rfl)
      exact ⟨Function.update_of_ne other _ _, Function.update_of_ne other _ _⟩
  | clear id =>
      cases step
      have other : sa ≠ id := fun own => noClear (own ▸ rfl)
      exact ⟨Function.update_of_ne other _ _, Function.update_of_ne other _ _⟩
  | stamp processName curtime =>
      obtain ⟨-, rfl⟩ := step
      exact ⟨rfl, rfl⟩
  | reset processName =>
      cases step
      exact ⟨rfl, rfl⟩
  | overflow id request curtime =>
      obtain ⟨-, rfl⟩ := step
      exact ⟨rfl, rfl⟩
  | take id rest =>
      obtain ⟨-, rfl⟩ := step
      exact ⟨rfl, rfl⟩
  | ask processName curtime =>
      cases step
      exact ⟨rfl, rfl⟩

theorem Path.pended_eq {sa : Int} (path : Path P x y) (noPend : ∀ request, ¬ P (.pend sa request))
    (noClear : ¬ P (.clear sa)) : y.pended sa = x.pended sa := by
  apply path.keeps (fun z => z.pended sa = x.pended sa) _ rfl
  intro z w entry allowed step same
  have kept : w.pended sa = z.pended sa ∧ w.counts sa = z.counts sa :=
    step.list_eq (fun request own => noPend request (own ▸ allowed))
      fun own => noClear (own ▸ allowed)
  exact kept.1.trans same

/-- A limiter is changed by its own requests only. -/
theorem Path.limiter_eq {processName : String} (path : Path P x y)
    (quiet : ∀ curtime, ¬ P (.ask processName curtime)) :
    y.limiter processName = x.limiter processName := by
  apply path.keeps (fun z => z.limiter processName = x.limiter processName) _ rfl
  intro z w entry allowed step same
  cases entry with
  | pend id request =>
      obtain ⟨-, -, -, rfl⟩ := step
      exact same
  | clear id =>
      cases step
      exact same
  | stamp name curtime =>
      obtain ⟨-, rfl⟩ := step
      exact same
  | reset name =>
      cases step
      exact same
  | overflow id request curtime =>
      obtain ⟨-, rfl⟩ := step
      exact same
  | take id rest =>
      obtain ⟨-, rfl⟩ := step
      exact same
  | ask name curtime =>
      cases step
      have other : processName ≠ name := fun own => quiet curtime (own ▸ allowed)
      exact (Function.update_of_ne other _ _).trans same

/-- A waiting task was there before the path, or it was posted on the way for a request that
was too many. -/
theorem Path.posted {task : Nat × Int} (path : Path P x y) (waiting : task ∈ y.overflows.waiting) :
    task ∈ x.overflows.waiting ∨ ∃ z request curtime, Path P x z ∧
      P (.overflow task.2 request curtime) ∧ z.Exceeds task.2 request curtime ∧
      task.1 = z.overflows.next ∧ Path P { z with overflows := z.overflows.post task.2 } y := by
  induction path with
  | refl => exact Or.inl waiting
  | @tail z w before last hypothesis =>
      obtain ⟨entry, allowed, step⟩ := last
      have old (member : task ∈ z.overflows.waiting) := (hypothesis member).imp_right
        fun ⟨u, request, curtime, first, posts, exceeds, handle, rest⟩ =>
          (⟨u, request, curtime, first, posts, exceeds, handle, rest.trans (Path.single allowed step)⟩ :
            ∃ u request curtime, Path P x u ∧ P (.overflow task.2 request curtime) ∧
              u.Exceeds task.2 request curtime ∧ task.1 = u.overflows.next ∧
              Path P { u with overflows := u.overflows.post task.2 } w)
      cases entry with
      | overflow sa request curtime =>
          obtain ⟨exceeds, rfl⟩ := step
          rcases TaskQueue.mem_waiting_post.mp waiting with rfl | member
          · exact Or.inr ⟨z, request, curtime, before, allowed, exceeds, rfl, .refl _⟩
          · exact old member
      | take sa rest =>
          obtain ⟨popped, rfl⟩ := step
          exact old (TaskQueue.mem_waiting_pop popped waiting)
      | pend sa request =>
          obtain ⟨-, -, -, rfl⟩ := step
          exact old waiting
      | clear sa =>
          cases step
          exact old waiting
      | stamp name curtime =>
          obtain ⟨-, rfl⟩ := step
          exact old waiting
      | reset name =>
          cases step
          exact old waiting
      | ask name curtime =>
          cases step
          exact old waiting

end Ledger

namespace Scheduler

def ledger (s : Scheduler) : Ledger where
  pended := fun sa => (s.ability sa).pendingLoadEventList
  counts := fun sa => (s.ability sa).pendingLoadEventCountMap
  own := s.ownProcessName
  stamp := fun name => (s.process name).pendingLoadFirstTimestamp
  overflows := s.recoverHandler
  limiter := fun name =>
    { recent := (s.process name).restartCountsCtrl
      enabled := (s.process name).enableRestart }

open Ledger

variable {env : Env} {s : Scheduler} {P : Entry → Prop} {sa : Int} {processName : String}

@[simp] theorem ledger_emit {event : Event} : (s.emit event).ledger = s.ledger := rfl

@[simp] theorem ledger_notifyAll {listeners : List RemoteInterface} {event : RemoteInterface → Event} :
    (s.notifyAll listeners event).ledger = s.ledger := rfl

theorem ledger_setAbility {f : SystemAbilityContext → SystemAbilityContext}
    (own : (f (s.ability sa)).ownProcessContext = (s.ability sa).ownProcessContext) :
    (s.setAbility sa f).ledger =
      { s.ledger with
        pended := Function.update s.ledger.pended sa (f (s.ability sa)).pendingLoadEventList
        counts := Function.update s.ledger.counts sa (f (s.ability sa)).pendingLoadEventCountMap } := by
  have pended : (fun id => ((s.setAbility sa f).ability id).pendingLoadEventList) =
      Function.update s.ledger.pended sa (f (s.ability sa)).pendingLoadEventList := by
    funext id
    by_cases same : id = sa <;> simp [setAbility, ledger, same]
  have counts : (fun id => ((s.setAbility sa f).ability id).pendingLoadEventCountMap) =
      Function.update s.ledger.counts sa (f (s.ability sa)).pendingLoadEventCountMap := by
    funext id
    by_cases same : id = sa <;> simp [setAbility, ledger, same]
  have names : (s.setAbility sa f).ownProcessName = s.ownProcessName := by
    funext id
    by_cases same : id = sa
    · subst same
      simpa [setAbility, ownProcessName] using own
    · simp [setAbility, ownProcessName, same]
  rw [ledger, pended, counts, names]
  rfl

/-- An update of an ability context that leaves its pended requests alone. -/
theorem ledger_setAbility_quiet {f : SystemAbilityContext → SystemAbilityContext}
    (own : (f (s.ability sa)).ownProcessContext = (s.ability sa).ownProcessContext)
    (list : (f (s.ability sa)).pendingLoadEventList = (s.ability sa).pendingLoadEventList)
    (counts : (f (s.ability sa)).pendingLoadEventCountMap = (s.ability sa).pendingLoadEventCountMap) :
    (s.setAbility sa f).ledger = s.ledger := by
  rw [ledger_setAbility own, list, counts]
  change { s.ledger with
    pended := Function.update s.ledger.pended sa (s.ledger.pended sa)
    counts := Function.update s.ledger.counts sa (s.ledger.counts sa) } = _
  rw [Function.update_eq_self, Function.update_eq_self]

theorem ledger_setProcess {f : SystemProcessContext → SystemProcessContext} :
    (s.setProcess processName f).ledger =
      { s.ledger with
        stamp := Function.update s.ledger.stamp processName
          (f (s.process processName)).pendingLoadFirstTimestamp
        limiter := Function.update s.ledger.limiter processName
          { recent := (f (s.process processName)).restartCountsCtrl
            enabled := (f (s.process processName)).enableRestart } } := by
  have stamp : (s.setProcess processName f).ledger.stamp =
      Function.update s.ledger.stamp processName
        (f (s.process processName)).pendingLoadFirstTimestamp := by
    funext name
    by_cases same : name = processName <;> simp [setProcess, ledger, same]
  have limiter : (s.setProcess processName f).ledger.limiter =
      Function.update s.ledger.limiter processName
        { recent := (f (s.process processName)).restartCountsCtrl
          enabled := (f (s.process processName)).enableRestart } := by
    funext name
    by_cases same : name = processName <;> simp [setProcess, ledger, same]
  rw [← stamp, ← limiter]
  rfl

/-- An update of a process context that changes its stamp at most. -/
theorem ledger_setProcess_stamp {f : SystemProcessContext → SystemProcessContext}
    (recent : (f (s.process processName)).restartCountsCtrl = (s.process processName).restartCountsCtrl)
    (enabled : (f (s.process processName)).enableRestart = (s.process processName).enableRestart) :
    (s.setProcess processName f).ledger =
      { s.ledger with
        stamp := Function.update s.ledger.stamp processName
          (f (s.process processName)).pendingLoadFirstTimestamp } := by
  have same : Function.update s.ledger.limiter processName
      { recent := (s.process processName).restartCountsCtrl
        enabled := (s.process processName).enableRestart } = s.ledger.limiter :=
    Function.update_eq_self _ _
  rw [ledger_setProcess, recent, enabled, same]

/-- An update of a process context that changes its restarts at most. -/
theorem ledger_setProcess_limiter {f : SystemProcessContext → SystemProcessContext}
    (stamp : (f (s.process processName)).pendingLoadFirstTimestamp =
      (s.process processName).pendingLoadFirstTimestamp) :
    (s.setProcess processName f).ledger =
      { s.ledger with
        limiter := Function.update s.ledger.limiter processName
          { recent := (f (s.process processName)).restartCountsCtrl
            enabled := (f (s.process processName)).enableRestart } } := by
  have same : Function.update s.ledger.stamp processName
      (s.process processName).pendingLoadFirstTimestamp = s.ledger.stamp :=
    Function.update_eq_self _ _
  rw [ledger_setProcess, stamp, same]

/-- An update of a process context that leaves its stamp and its restarts alone. -/
theorem ledger_setProcess_quiet {f : SystemProcessContext → SystemProcessContext}
    (stamp : (f (s.process processName)).pendingLoadFirstTimestamp =
      (s.process processName).pendingLoadFirstTimestamp)
    (recent : (f (s.process processName)).restartCountsCtrl = (s.process processName).restartCountsCtrl)
    (enabled : (f (s.process processName)).enableRestart = (s.process processName).enableRestart) :
    (s.setProcess processName f).ledger = s.ledger := by
  rw [ledger_setProcess_stamp recent enabled, stamp]
  change { s.ledger with
    stamp := Function.update s.ledger.stamp processName (s.ledger.stamp processName) } = _
  rw [Function.update_eq_self]

@[simp] theorem ledger_postProcessTask {task : ProcessTask} :
    (s.postProcessTask env task).ledger = s.ledger := by
  rw [postProcessTask]
  split <;> rfl

@[simp] theorem ledger_removeDelayUnloadEventLocked :
    (s.removeDelayUnloadEventLocked sa).ledger = s.ledger := by
  rw [removeDelayUnloadEventLocked]
  split <;> rfl

@[simp] theorem ledger_removePendingUnloadEventLocked :
    (s.removePendingUnloadEventLocked sa).ledger = s.ledger := by
  rw [removePendingUnloadEventLocked]
  split
  · exact ledger_setAbility_quiet rfl rfl rfl
  · rfl

@[simp] theorem ledger_sendDelayUnloadEventLocked {delayTime : Int} :
    (s.sendDelayUnloadEventLocked env sa delayTime).1.ledger = s.ledger := by
  rw [sendDelayUnloadEventLocked]
  split
  · rfl
  · split <;> rfl

@[simp] theorem ledger_onEnterNothing {κ : Type} {key : κ} : (onEnterNothing s key).ledger = s.ledger :=
  rfl

@[simp] theorem ledger_onAbilityNotLoadedLocked :
    (s.onAbilityNotLoadedLocked env sa).ledger = s.ledger := by
  rw [onAbilityNotLoadedLocked]
  split <;> simp

@[simp] theorem ledger_onAbilityLoadedLocked : (s.onAbilityLoadedLocked env sa).ledger = s.ledger := by
  have entered : (s.setAbility sa fun context => { context with lastIdleTime := -1 }).ledger =
      s.ledger := ledger_setAbility_quiet rfl rfl rfl
  simp only [onAbilityLoadedLocked, notifyProcessActivated]
  split
  · rw [ledger_notifyAll, ledger_postProcessTask, entered]
  · rw [ledger_postProcessTask, entered]

/-- A transition changes the ledger only through the handler of the new state. -/
theorem ledger_abilityStateTransitionLocked {onEnter : Scheduler → Int → Scheduler}
    {nextState : SystemAbilityState} (enters : ∀ t, (onEnter t sa).ledger = t.ledger) :
    (s.abilityStateTransitionLocked onEnter sa nextState).1.ledger = s.ledger := by
  simp only [abilityStateTransitionLocked]
  split
  · rfl
  · split
    · rfl
    · by_cases empty : (s.ownProcess sa).abilityStateCountMap (s.ability sa).state = 0
      · simp only [updateStateCount, empty, if_true]
        rfl
      · simp only [updateStateCount, empty, if_false]
        rw [enters, ledger_emit, ledger_setAbility_quiet rfl rfl rfl, ledger_setProcess_quiet rfl rfl rfl]

@[simp] theorem ledger_doUnloadSystemAbilityLocked :
    (s.doUnloadSystemAbilityLocked env sa).1.ledger = s.ledger := by
  simp only [doUnloadSystemAbilityLocked]
  split
  · rfl
  · split
    · exact ledger_abilityStateTransitionLocked fun t => ledger_onEnterNothing
    · rfl

@[simp] theorem ledger_onAbilityUnloadableLocked :
    (s.onAbilityUnloadableLocked env sa).ledger = s.ledger := by
  have entered : (s.setAbility sa fun context =>
      { context with lastIdleTime := env.getTickCount s.now 0 }).ledger = s.ledger :=
    ledger_setAbility_quiet rfl rfl rfl
  simp only [onAbilityUnloadableLocked, ledger_postProcessTask]
  generalize (s.setAbility sa fun context =>
    { context with lastIdleTime := env.getTickCount s.now 0 }) = t at entered ⊢
  have told : (if t.isProcessIdledLocked (t.ownProcessName sa) then
      t.notifyProcessIdled (t.ownProcessName sa) else t).ledger = s.ledger := by
    split <;> exact entered
  generalize (if t.isProcessIdledLocked (t.ownProcessName sa) then
    t.notifyProcessIdled (t.ownProcessName sa) else t) = u at told ⊢
  split
  · rw [ledger_doUnloadSystemAbilityLocked, told]
  · exact told

@[simp] theorem ledger_toNotLoaded : (s.toNotLoaded env sa).1.ledger = s.ledger :=
  ledger_abilityStateTransitionLocked fun _ => ledger_onAbilityNotLoadedLocked

@[simp] theorem ledger_toLoading : (s.toLoading sa).1.ledger = s.ledger :=
  ledger_abilityStateTransitionLocked fun _ => ledger_onEnterNothing

@[simp] theorem ledger_toLoaded : (s.toLoaded env sa).1.ledger = s.ledger :=
  ledger_abilityStateTransitionLocked fun _ => ledger_onAbilityLoadedLocked

@[simp] theorem ledger_toUnloadable : (s.toUnloadable env sa).1.ledger = s.ledger :=
  ledger_abilityStateTransitionLocked fun _ => ledger_onAbilityUnloadableLocked

section Loads

variable {request : LoadRequestInfo}

theorem any_iff_knows {requests : List LoadRequestInfo} {callback : RemoteInterface}
    (given : request.callback = some callback) :
    (requests.any fun item => item.callback.any fun pended => pended.object == callback.object) = true ↔
      Knows requests request := by
  simp [Knows, given, List.any_eq_true, Option.any_eq_true]

/-- The entries of one request: it may set the stamp of the process first, and then it is pended
or it is too many. -/
def RequestEntry (env : Env) (sa : Int) (request : LoadRequestInfo) : Entry → Prop
  | .pend id other => id = sa ∧ other = request
  | .stamp _ curtime => ∃ count, curtime = env.getTickCount count 0
  | .overflow id other curtime => id = sa ∧ other = request ∧ ∃ count, curtime = env.getTickCount count 1
  | _ => False

/-- A request is known already, refused, or pended. -/
theorem pendLoadEventLocked_ledger :
    Ledger.Path (RequestEntry env sa request) s.ledger (s.pendLoadEventLocked env sa request).1.ledger := by
  simp only [pendLoadEventLocked]
  split
  · rfl
  · rename_i callback given
    have stamps : Ledger.Path (RequestEntry env sa request) s.ledger
        (if (s.process (s.ownProcessName sa)).pendingLoadFirstTimestamp = 0 then
          s.setProcess (s.ownProcessName sa) fun context =>
            { context with pendingLoadFirstTimestamp := env.getTickCount s.now 0 }
        else s).ledger := by
      split
      · rename_i fresh
        have allowed : RequestEntry env sa request
            (.stamp (s.ownProcessName sa) (env.getTickCount s.now 0)) := ⟨s.now, rfl⟩
        exact Ledger.Path.single allowed ⟨fresh, ledger_setProcess_stamp rfl rfl⟩
      · rfl
    have names : (if (s.process (s.ownProcessName sa)).pendingLoadFirstTimestamp = 0 then
          s.setProcess (s.ownProcessName sa) fun context =>
            { context with pendingLoadFirstTimestamp := env.getTickCount s.now 0 }
        else s).ownProcessName sa = s.ownProcessName sa := by
      split <;> rfl
    generalize (if (s.process (s.ownProcessName sa)).pendingLoadFirstTimestamp = 0 then
      s.setProcess (s.ownProcessName sa) fun context =>
        { context with pendingLoadFirstTimestamp := env.getTickCount s.now 0 }
      else s) = t at stamps names ⊢
    refine stamps.trans ?_
    rw [← names]
    split
    · rfl
    · rename_i isNew
      rw [any_iff_knows given] at isNew
      split
      · rename_i full
        rw [handlePendingLoadOverflow]
        split
        · have allowed : RequestEntry env sa request (.overflow sa request (env.getTickCount s.now 1)) :=
            ⟨rfl, rfl, s.now, rfl⟩
          exact Ledger.Path.single allowed ⟨⟨by rw [given]; rfl, isNew, full⟩, rfl⟩
        · rfl
      · rename_i room
        have allowed : RequestEntry env sa request (.pend sa request) := ⟨rfl, rfl⟩
        refine Ledger.Path.single allowed ⟨by rw [given]; rfl, isNew, by_contra fun full => ?_, ?_⟩
        · exact room (.inl (not_lt.mp full))
        · rw [ledger_emit, ledger_setAbility rfl]
          rfl

@[simp] theorem ledger_activeSystemAbilityLocked {reason : OnDemandEvent} :
    (s.activeSystemAbilityLocked env sa reason).1.ledger = s.ledger := by
  simp only [activeSystemAbilityLocked]
  split
  · exact ledger_toLoaded
  · rfl

theorem beginLoad_ledger :
    Ledger.Path (RequestEntry env sa request) s.ledger (s.beginLoad env sa request).1.ledger := by
  simp only [beginLoad]
  split
  · exact pendLoadEventLocked_ledger (s := s.emit (.handleLoad sa request))
  · split <;> simp

@[simp] theorem ledger_doLoadSystemAbilityLocked :
    (s.doLoadSystemAbilityLocked env sa request).1.ledger = s.ledger := by
  simp only [doLoadSystemAbilityLocked, finishLoad]
  split
  · exact ledger_toLoading
  · rfl

theorem handleLoadAbilityEventLocked_ledger : Ledger.Path (RequestEntry env sa request) s.ledger
    (s.handleLoadAbilityEventLocked env sa request).1.ledger := by
  have begins : Ledger.Path (RequestEntry env sa request) s.ledger (s.beginLoad env sa request).1.ledger :=
    beginLoad_ledger
  simp only [handleLoadAbilityEventLocked]
  split
  · rename_i begun result verdict
    rwa [verdict] at begins
  · rename_i begun verdict
    rw [verdict] at begins
    rwa [ledger_doLoadSystemAbilityLocked]

theorem handleLoadAbilityEvent_ledger :
    Ledger.Path (RequestEntry env request.systemAbilityId request) s.ledger
      (s.handleLoadAbilityEvent env request).1.ledger := by
  rw [handleLoadAbilityEvent]
  split
  · exact handleLoadAbilityEventLocked_ledger
  · rfl

/-- A request whose callback is in the list already is handled without a change of any list. -/
theorem handleLoadAbilityEventLocked_known (known : Knows (s.ledger.pended sa) request) :
    (s.handleLoadAbilityEventLocked env sa request).1.ledger.pended = s.ledger.pended := by
  have path : Ledger.Path (RequestEntry env sa request) s.ledger
      (s.handleLoadAbilityEventLocked env sa request).1.ledger := handleLoadAbilityEventLocked_ledger
  apply path.keeps (fun x => x.pended = s.ledger.pended) _ rfl
  intro x y entry allowed step same
  cases entry with
  | pend id other =>
      obtain ⟨rfl, rfl⟩ := allowed
      obtain ⟨-, isNew, -⟩ := step
      exact absurd (same ▸ known) isNew
  | stamp name curtime =>
      obtain ⟨-, rfl⟩ := step
      exact same
  | overflow id other curtime =>
      obtain ⟨-, rfl⟩ := step
      exact same
  | clear id => exact allowed.elim
  | reset name => exact allowed.elim
  | take id rest => exact allowed.elim
  | ask name curtime => exact allowed.elim

end Loads

@[simp] theorem ledger_checkStartAbilityEvent :
    (s.checkStartAbilityEvent env sa).1.ledger = s.ledger := by
  simp only [checkStartAbilityEvent]
  split
  · rfl
  · rw [finishCheckStart]
    split
    · exact ledger_toLoading
    · rfl

@[simp] theorem ledger_processDelayUnloadEventLocked :
    (s.processDelayUnloadEventLocked env sa).1.ledger = s.ledger := by
  simp only [processDelayUnloadEventLocked]
  split
  · rfl
  · split
    · rfl
    · split
      · rfl
      · split
        · rfl
        · split <;> simp

@[simp] theorem ledger_pendUnloadEventLocked {request : UnloadRequestInfo} :
    (s.pendUnloadEventLocked sa request).1.ledger = s.ledger := by
  rw [pendUnloadEventLocked, ledger_setAbility_quiet]
  · rfl
  · rfl
  · rfl

@[simp] theorem ledger_handleUnloadAbilityEventLocked {request : Option UnloadRequestInfo} :
    (s.handleUnloadAbilityEventLocked env sa request).1.ledger = s.ledger := by
  simp only [handleUnloadAbilityEventLocked]
  split
  · rfl
  · rename_i request
    have noted : (s.setAbility sa fun context =>
        { context with unloadRequest := some request }).ledger = s.ledger :=
      ledger_setAbility_quiet rfl rfl rfl
    generalize (s.setAbility sa fun context => { context with unloadRequest := some request }) = t
      at noted ⊢
    rw [← noted]
    split
    · exact ledger_pendUnloadEventLocked
    · split <;> simp
    · rfl

@[simp] theorem ledger_handleUnloadAbilityEvent {request : Option UnloadRequestInfo} :
    (s.handleUnloadAbilityEvent env request).1.ledger = s.ledger := by
  simp only [handleUnloadAbilityEvent]
  split
  · rfl
  · split <;> simp

@[simp] theorem ledger_handleCancelUnloadAbilityEvent :
    (s.handleCancelUnloadAbilityEvent env sa).1.ledger = s.ledger := by
  simp only [handleCancelUnloadAbilityEvent]
  split
  · rfl
  · split <;> simp

@[simp] theorem ledger_handlePendingUnloadEventLocked :
    (s.handlePendingUnloadEventLocked env sa).1.ledger = s.ledger := by
  rw [handlePendingUnloadEventLocked]
  split
  · rfl
  · rw [ledger_handleUnloadAbilityEventLocked]
    exact ledger_setAbility_quiet rfl rfl rfl

@[simp] theorem ledger_sendAbilityStateEvent {event : AbilityStateEvent} :
    (s.sendAbilityStateEvent env sa event).1.ledger = s.ledger := by
  simp only [sendAbilityStateEvent, handleAbilityLoadFailedEventLocked,
    handleAbilityLoadSuccessEventLocked, handleAbilityUnLoadSuccessEventLocked]
  split
  · rfl
  · split <;> split <;> simp

section Stop

/-- What the abilities of a stopped process do: nobody asks a limiter or takes a task. -/
def ListEntry (env : Env) : Entry → Prop
  | .overflow _ _ curtime => ∃ count, curtime = env.getTickCount count 1
  | .take _ _ => False
  | .ask _ _ => False
  | _ => True

theorem RequestEntry.list {request : LoadRequestInfo} {entry : Entry}
    (own : RequestEntry env sa request entry) : ListEntry env entry := by
  cases entry with
  | pend id other => trivial
  | clear id => trivial
  | stamp name curtime => trivial
  | reset name => trivial
  | overflow id other curtime => exact own.2.2
  | take id rest => exact own.elim
  | ask name curtime => exact own.elim

theorem replayPendingLoads_ledger {requests : List LoadRequestInfo} :
    Ledger.Path (ListEntry env) s.ledger (replayPendingLoads env sa requests s).ledger := by
  induction requests generalizing s with
  | nil => rfl
  | cons request rest hypothesis =>
      have first : Ledger.Path (ListEntry env) s.ledger
          (s.handleLoadAbilityEventLocked env sa request).1.ledger :=
        handleLoadAbilityEventLocked_ledger.mono fun _ => RequestEntry.list
      exact first.trans hypothesis

theorem ledger_clearPendingLoads : (s.clearPendingLoads sa).ledger =
    { s.ledger with
      pended := Function.update s.ledger.pended sa []
      counts := Function.update s.ledger.counts sa fun _ => 0 } := ledger_setAbility rfl

theorem clearPendingLoads_ledger (clears : P (.clear sa)) :
    Ledger.Path P s.ledger (s.clearPendingLoads sa).ledger :=
  Ledger.Path.single clears ledger_clearPendingLoads

theorem handlePendingLoadEventLocked_ledger :
    Ledger.Path (ListEntry env) s.ledger (s.handlePendingLoadEventLocked env sa).ledger := by
  simp only [handlePendingLoadEventLocked]
  split
  · rfl
  · have begun : (s.setAbility sa fun context => { context with pendingEvent := .noEvent }).ledger =
        s.ledger := ledger_setAbility_quiet rfl rfl rfl
    rw [← begun]
    exact replayPendingLoads_ledger.trans (clearPendingLoads_ledger trivial)

theorem stopAbility_ledger : Ledger.Path (ListEntry env) s.ledger (s.stopAbility env sa).ledger := by
  simp only [stopAbility]
  split
  · rfl
  · have leaves : (s.toNotLoaded env sa).1.ledger = s.ledger := ledger_toNotLoaded
    rw [← leaves]
    split
    · exact handlePendingLoadEventLocked_ledger
    · rfl

theorem foldl_ledger {κ : Type} {f : Scheduler → κ → Scheduler} {items : List κ}
    (each : ∀ t item, Ledger.Path P t.ledger (f t item).ledger) :
    Ledger.Path P s.ledger (items.foldl f s).ledger := by
  induction items generalizing s with
  | nil => rfl
  | cons item rest hypothesis => exact (each s item).trans hypothesis

@[simp] theorem ledger_abnormallyDied : (s.abnormallyDied env sa).1.ledger = s.ledger := by
  simp only [abnormallyDied]
  split
  · rfl
  · split
    · split <;> rfl
    · split <;> rfl
    · rfl

@[simp] theorem ledger_getAbnormallyDiedAbilityLocked {sas : List Int} :
    (getAbnormallyDiedAbilityLocked env sas s).1.ledger = s.ledger := by
  induction sas generalizing s with
  | nil => rfl
  | cons sa rest hypothesis => rw [getAbnormallyDiedAbilityLocked, hypothesis, ledger_abnormallyDied]

@[simp] theorem ledger_leaveProcess : (s.leaveProcess env processName).ledger = s.ledger := rfl

/-- The process has no first request any more. -/
theorem ledger_beginStop : (s.beginStop env processName).1.ledger =
    { s.ledger with stamp := Function.update s.ledger.stamp processName 0 } := by
  rw [beginStop, ledger_getAbnormallyDiedAbilityLocked, ledger_leaveProcess]
  exact ledger_setProcess_stamp rfl rfl

/-- The limiter of a process. -/
def restarts (s : Scheduler) (processName : String) : Throttle.Limiter Int := s.ledger.limiter processName

/-- `CanRestartProcessLocked` asks the limiter of the process at the current tick. -/
theorem canRestartProcessLocked_asks :
    let asked := (s.restarts processName).ask RESTART_TIMES_LIMIT RESTART_TIME_INTERVAL_LIMIT
      (env.getTickCount s.now 0)
    (s.canRestartProcessLocked env processName).1.ledger =
        { s.ledger with limiter := Function.update s.ledger.limiter processName asked.1 } ∧
      (s.canRestartProcessLocked env processName).2 = asked.2 := by
  have same : s.ledger = { s.ledger with
      limiter := Function.update s.ledger.limiter processName (s.restarts processName) } := by
    rw [restarts, Function.update_eq_self]
  have recent : (s.restarts processName).recent = (s.process processName).restartCountsCtrl := rfl
  have enabled : (s.restarts processName).enabled = (s.process processName).enableRestart := rfl
  simp only [canRestartProcessLocked, Throttle.Limiter.ask, recent, enabled]
  split
  · exact ⟨same, rfl⟩
  · split
    · rw [ledger_setProcess_limiter rfl]
      exact ⟨rfl, rfl⟩
    · split
      · split
        · rw [ledger_setProcess_limiter rfl]
          exact ⟨rfl, rfl⟩
        · rw [ledger_setProcess_limiter rfl]
          exact ⟨rfl, rfl⟩
      · exact ⟨same, rfl⟩

theorem restartAbility_ledger : Ledger.Path (ListEntry env) s.ledger (s.restartAbility env sa).ledger :=
  (handleLoadAbilityEventLocked_ledger (s := s.emit (.removeDiedSystemAbility sa))).mono fun _ => RequestEntry.list

/-- The entries of a stopped process: the limiter asked is its own. -/
def StopEntry (env : Env) (processName : String) : Entry → Prop
  | .ask name _ => name = processName
  | entry => ListEntry env entry

theorem StopEntry.of_list {entry : Entry} (lists : ListEntry env entry) :
    StopEntry env processName entry := by
  cases entry with
  | ask name curtime => exact lists.elim
  | pend id request => exact lists
  | clear id => exact lists
  | stamp name curtime => exact lists
  | reset name => exact lists
  | overflow id other curtime => exact lists
  | take id rest => exact lists

theorem canRestartProcessLocked_ledger :
    Ledger.Path (StopEntry env processName) s.ledger (s.canRestartProcessLocked env processName).1.ledger :=
  by
  have asks : StopEntry env processName (.ask processName (env.getTickCount s.now 0)) := rfl
  exact Ledger.Path.single asks canRestartProcessLocked_asks.1

theorem handleAbnormallyDiedAbilityLocked_ledger {died : List Int} :
    Ledger.Path (StopEntry env processName) s.ledger
      (s.handleAbnormallyDiedAbilityLocked env processName died).ledger := by
  simp only [handleAbnormallyDiedAbilityLocked]
  split
  · rfl
  · split
    · have restarted : Ledger.Path (ListEntry env) (s.canRestartProcessLocked env processName).1.ledger
          (died.foldl (restartAbility env) (s.canRestartProcessLocked env processName).1).ledger :=
        foldl_ledger fun t sa => restartAbility_ledger
      exact canRestartProcessLocked_ledger.trans (restarted.mono fun _ => .of_list)
    · exact canRestartProcessLocked_ledger

/-- The state after the loop over the abilities of the stopped process, and the abilities to restart. -/
def afterStop (env : Env) (s : Scheduler) (processName : String) : Scheduler × List Int :=
  let begun := s.beginStop env processName
  ((begun.1.process processName).saList.foldl (stopAbility env) begun.1, begun.2)

theorem onProcessNotStartedLocked_eq_afterStop : s.onProcessNotStartedLocked env processName =
    (s.afterStop env processName).1.handleAbnormallyDiedAbilityLocked env processName
      (s.afterStop env processName).2 := rfl

theorem afterStop_ledger : Ledger.Path (ListEntry env) s.ledger (s.afterStop env processName).1.ledger := by
  have resets : ListEntry env (.reset processName) := trivial
  have begun : Ledger.Path (ListEntry env) s.ledger (s.beginStop env processName).1.ledger :=
    Ledger.Path.single resets ledger_beginStop
  exact begun.trans (foldl_ledger fun t sa => stopAbility_ledger)

theorem onProcessNotStartedLocked_ledger :
    Ledger.Path (StopEntry env processName) s.ledger (s.onProcessNotStartedLocked env processName).ledger := by
  rw [onProcessNotStartedLocked_eq_afterStop]
  exact (afterStop_ledger.mono fun _ => .of_list).trans handleAbnormallyDiedAbilityLocked_ledger

theorem handleProcessStoppedEventLocked_ledger {processInfo : ProcessInfo} :
    Ledger.Path (StopEntry env processInfo.processName) s.ledger
      (s.handleProcessStoppedEventLocked env processInfo).1.ledger := by
  have leaves : Ledger.Path (StopEntry env processInfo.processName) s.ledger
      (s.processStateTransitionLocked (onProcessNotStartedLocked env) processInfo.processName
        .notStarted).1.ledger := by
    simp only [processStateTransitionLocked]
    split
    · rfl
    · split
      · rfl
      · have left : (s.setProcess processInfo.processName fun context =>
            { context with state := .notStarted }).ledger = s.ledger := ledger_setProcess_quiet rfl rfl rfl
        rw [← left]
        exact onProcessNotStartedLocked_ledger
  simp only [handleProcessStoppedEventLocked]
  split
  · exact leaves
  · exact leaves
  · rfl

end Stop

section Rest

@[simp] theorem ledger_handleProcessStartedEventLocked {processInfo : ProcessInfo} :
    (s.handleProcessStartedEventLocked env processInfo).1.ledger = s.ledger := by
  have noted : (s.setProcess processInfo.processName fun context =>
      { context with pid := processInfo.pid, uid := processInfo.uid }).ledger = s.ledger :=
    ledger_setProcess_quiet rfl rfl rfl
  simp only [handleProcessStartedEventLocked, processStateTransitionLocked]
  split
  · split
    · exact noted
    · split
      · exact noted
      · rw [notifyProcessStarted, ledger_notifyAll, ledger_setProcess_quiet rfl rfl rfl, noted]
  · exact noted

theorem ledger_sendProcessStarted {processInfo : ProcessInfo} :
    (s.sendProcessStateEvent env processInfo .processStartedEvent).1.ledger = s.ledger := by
  simp only [sendProcessStateEvent]
  split
  · rfl
  · split
    · rw [addRunningProcessLocked]
      split <;> exact ledger_handleProcessStartedEventLocked
    · exact ledger_handleProcessStartedEventLocked

/-- Leaving the list of running processes does not count. -/
theorem ledger_sendProcessStopped {processInfo : ProcessInfo}
    (known : processInfo.processName ∈ s.processNames) :
    (s.sendProcessStateEvent env processInfo .processStoppedEvent).1.ledger =
      (s.handleProcessStoppedEventLocked env processInfo).1.ledger := by
  simp only [sendProcessStateEvent]
  rw [if_neg (not_not.mpr known)]
  split <;> rfl

theorem sendProcessStopped_ledger {processInfo : ProcessInfo} :
    Ledger.Path (StopEntry env processInfo.processName) s.ledger
      (s.sendProcessStateEvent env processInfo .processStoppedEvent).1.ledger := by
  by_cases known : processInfo.processName ∈ s.processNames
  · rw [ledger_sendProcessStopped known]
    exact handleProcessStoppedEventLocked_ledger
  · simp only [sendProcessStateEvent, if_pos known]
    rfl

@[simp] theorem ledger_unloadOne : (s.unloadOne env sa).ledger = s.ledger := by
  rw [unloadOne]
  split
  · rfl
  · split <;> simp

@[simp] theorem ledger_unloadAllSystemAbilityLocked :
    (s.unloadAllSystemAbilityLocked env processName).1.ledger = s.ledger := by
  have unloaded : ((s.process processName).saList.foldl (unloadOne env) s).ledger = s.ledger := by
    generalize (s.process processName).saList = sas
    induction sas generalizing s with
    | nil => rfl
    | cons sa rest hypothesis => rw [List.foldl_cons, hypothesis, ledger_unloadOne]
  simp only [unloadAllSystemAbilityLocked, processStateTransitionLocked]
  generalize (s.process processName).saList.foldl (unloadOne env) s = t at unloaded ⊢
  have posted : (t.postUnloadTimeoutTask env processName).ledger = t.ledger := by
    rw [postUnloadTimeoutTask]
    split <;> rfl
  rw [← unloaded, ← posted]
  split
  · rfl
  · split
    · rfl
    · rw [ledger_onEnterNothing, ledger_setProcess_quiet rfl rfl rfl]

@[simp] theorem ledger_tryUnloadAllSystemAbility :
    (s.tryUnloadAllSystemAbility env processName).1.ledger = s.ledger := by
  rw [tryUnloadAllSystemAbility]
  split <;> simp

@[simp] theorem ledger_unloadProcess : (s.unloadProcess env processName).1.ledger = s.ledger := by
  rw [unloadProcess]
  split <;> simp

@[simp] theorem ledger_updateLimitDelayUnloadTimeTask :
    (s.updateLimitDelayUnloadTimeTask env sa).ledger = s.ledger := by
  simp only [updateLimitDelayUnloadTimeTask]
  split
  · rfl
  · exact ledger_setAbility_quiet rfl rfl rfl

@[simp] theorem ledger_runProcessTask {task : ProcessTask} :
    (s.runProcessTask env task).ledger = s.ledger := by
  cases task with
  | updateLimitDelayUnloadTime sa => exact ledger_updateLimitDelayUnloadTimeTask
  | tryUnloadAllSystemAbility name => exact ledger_tryUnloadAllSystemAbility
  | unloadTimeout name => rfl
  | tryKillSystemProcess name =>
      rw [runProcessTask, tryKillSystemProcess]
      split <;> rfl
  | pendingUnload sa =>
      rw [runProcessTask]
      split <;> simp

/-- What an overflow task does: it is taken, and clears the list and the stamp of its process. -/
def ClearEntry : Entry → Prop
  | .take _ _ => True
  | .clear _ => True
  | .reset _ => True
  | _ => False

theorem processPendingLoadOverflow_ledger :
    Ledger.Path ClearEntry s.ledger (s.processPendingLoadOverflow env sa).ledger := by
  have clears : Ledger.Path ClearEntry s.ledger (s.clearPendingLoads sa).ledger :=
    clearPendingLoads_ledger trivial
  have resets : ClearEntry (.reset (s.ownProcessName sa)) := trivial
  have cleared : Ledger.Path ClearEntry s.ledger (s.clearPendingLoadOverflow sa).ledger :=
    clears.trans (Ledger.Path.single resets (ledger_setProcess_stamp rfl rfl))
  simp only [processPendingLoadOverflow]
  split
  · rfl
  · split
    · exact cleared
    · split
      · exact cleared
      · exact cleared

theorem runRecoverTask_ledger : Ledger.Path ClearEntry s.ledger (s.runRecoverTask env).ledger := by
  simp only [runRecoverTask]
  split
  · rfl
  · rename_i sa rest popped
    have takes : ClearEntry (.take sa rest) := trivial
    have taken : Ledger.Path ClearEntry s.ledger ({ s with recoverHandler := rest } : Scheduler).ledger :=
      Ledger.Path.single takes ⟨popped, rfl⟩
    exact taken.trans processPendingLoadOverflow_ledger

@[simp] theorem ledger_subscribeSystemProcessList {listener : RemoteInterface} {callingPid : Int}
    {procNames : List String} :
    (subscribeSystemProcessList listener callingPid procNames s).1.ledger = s.ledger := by
  induction procNames generalizing s with
  | nil => rfl
  | cons procName rest hypothesis =>
      have one : (s.subscribeOneProcess listener callingPid procName).1.ledger = s.ledger := by
        simp only [subscribeOneProcess]
        split
        · rfl
        · split
          · rfl
          · split <;> rfl
      rw [subscribeSystemProcessList]
      split
      · rw [hypothesis, one]
      · exact one

@[simp] theorem ledger_unSubscribeSystemProcessList {listener : RemoteInterface} {callingPid : Int}
    {procNames : List String} :
    (s.unSubscribeSystemProcessList listener callingPid procNames).ledger = s.ledger := by
  rw [unSubscribeSystemProcessList]
  induction procNames generalizing s with
  | nil => rfl
  | cons procName rest hypothesis =>
      rw [List.foldl_cons, hypothesis, unSubscribeOneProcess]
      split <;> rfl

/-- The entries of an operation: load requests count, the overflow task clears, and a process
that has stopped does both and asks its limiter. -/
def OpEntry (env : Env) : Op → Entry → Prop
  | .load request, entry => RequestEntry env request.systemAbilityId request entry
  | .processEvent info .processStoppedEvent, entry => StopEntry env info.processName entry
  | .runRecoverTask, entry => ClearEntry entry
  | _, _ => False

theorem exec_ledger {op : Op} : Ledger.Path (OpEntry env op) s.ledger (s.exec env op).1.ledger := by
  cases op with
  | load request => exact handleLoadAbilityEvent_ledger
  | checkStart sa => simp [exec]
  | unload request => simp [exec]
  | cancelUnload sa => simp [exec]
  | abilityEvent sa event => simp [exec]
  | processEvent info event =>
      cases event with
      | processStartedEvent => simp [exec, ledger_sendProcessStarted]
      | processStoppedEvent => exact sendProcessStopped_ledger
  | unloadProcess name => simp [exec]
  | updateLimitDelayUnloadTime sa => simp [exec]
  | expire expiry => cases expiry <;> rfl
  | startProcessTask =>
      rw [exec, startProcessTask]
      split
      · rw [ledger_runProcessTask]
        rfl
      · rfl
  | stepUnloadTimeout =>
      simp only [exec, stepUnloadTimeout, unloadTimeoutTask]
      split
      · rfl
      · rfl
      · split <;> rfl
  | startUnloadEvent =>
      rw [exec, startUnloadEvent]
      split <;> rfl
  | stepUnloadEvent =>
      simp only [exec, stepUnloadEvent, processDelayUnloadEvent]
      split
      · rfl
      · rfl
      · split
        · rw [ledger_processDelayUnloadEventLocked]
          rfl
        · rfl
  | runRecoverTask => exact runRecoverTask_ledger
  | subscribe listener foregroundOnly =>
      rw [exec, subscribeSystemProcess]
      split <;> rfl
  | unSubscribe listener foregroundOnly =>
      simp only [exec, unSubscribeSystemProcess]
      split
      · rfl
      · split <;> rfl
  | listenerDied remoteObject => rfl
  | subscribeList procNames listener callingPid => simp [exec]
  | unSubscribeList procNames listener callingPid => simp [exec]

end Rest

end Scheduler

end Samgr
