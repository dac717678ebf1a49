import Samgr.Schedule.Refinement
import Samgr.Lib.TaskOrder

/-! The tasks that carry the unload of a process on, and what the functions of the scheduler leave of them.
A function that does not move the process itself is steady for it: the tasks of the process stay in their
order, and where the counters come to say that the process can be unloaded, or killed, the task that does
so has been posted. -/
namespace Samgr

/-- The tasks that carry the unload of a process on. -/
def ProcessTask.Drives (processName : String) : ProcessTask → Prop
  | .tryUnloadAllSystemAbility name => name = processName
  | .unloadTimeout name => name = processName
  | .tryKillSystemProcess name => name = processName
  | _ => False

/-- The only named task is the timeout of a process. -/
def ProcessTask.Named (name : String) (task : ProcessTask) : Prop := task = .unloadTimeout name

namespace SystemProcessContext

variable (context : SystemProcessContext)

def counted : Nat :=
  context.abilityStateCountMap .notLoaded + context.abilityStateCountMap .loading +
    context.abilityStateCountMap .loaded + context.abilityStateCountMap .unloadable +
    context.abilityStateCountMap .unloading

/-- By the counters no ability is LOADING or LOADED, and there is one to unload. -/
def Unloadable : Prop :=
  (context.abilityStateCountMap .unloadable ≠ 0 ∨ context.abilityStateCountMap .unloading ≠ 0) ∧
    context.abilityStateCountMap .notLoaded + context.abilityStateCountMap .unloadable +
      context.abilityStateCountMap .unloading = context.saList.length

/-- By the counters every ability is NOT_LOADED. -/
def Emptied : Prop := context.abilityStateCountMap .notLoaded = context.saList.length

variable {context} {moved : SystemProcessContext} {fromState toState : SystemAbilityState}

theorem Unloadable.not_emptied (unloadable : context.Unloadable) : ¬ context.Emptied := by
  obtain ⟨some, all⟩ := unloadable
  rw [Emptied]
  omega

theorem updateStateCount_eq (counts : updateStateCount context fromState toState = some moved) :
    context.abilityStateCountMap fromState ≠ 0 ∧
      moved = { context with
        abilityStateCountMap := Chart.moveCount context.abilityStateCountMap fromState toState } := by
  rw [updateStateCount] at counts
  split at counts
  · cases counts
  · rename_i positive
    exact ⟨positive, (Option.some.inj counts).symm⟩

theorem counted_moved (enterable : toState.canEnter fromState = true)
    (counts : updateStateCount context fromState toState = some moved) :
    moved.counted = context.counted := by
  obtain ⟨positive, rfl⟩ := updateStateCount_eq counts
  simp only [counted, Chart.moveCount, Function.update_apply]
  cases fromState <;> cases toState <;> simp_all [SystemAbilityState.canEnter] <;> omega

/-- A process that becomes unloadable does so by an ability that enters UNLOADABLE or NOT_LOADED. -/
theorem unloadable_moved (enterable : toState.canEnter fromState = true)
    (full : context.counted = context.saList.length)
    (counts : updateStateCount context fromState toState = some moved) (unloadable : moved.Unloadable) :
    context.Unloadable ∨ toState = .unloadable ∨ toState = .notLoaded := by
  have same := counted_moved enterable counts
  obtain ⟨positive, rfl⟩ := updateStateCount_eq counts
  simp only [counted, Unloadable] at *
  cases toState with
  | unloadable => exact .inr (.inl rfl)
  | notLoaded => exact .inr (.inr rfl)
  | loading =>
      have entered : Chart.moveCount context.abilityStateCountMap fromState .loading .loading ≠ 0 := by
        simp [Chart.moveCount]
      omega
  | loaded =>
      have entered : Chart.moveCount context.abilityStateCountMap fromState .loaded .loaded ≠ 0 := by
        simp [Chart.moveCount]
      omega
  | unloading =>
      have leaves : fromState = .unloadable := by
        cases fromState <;> simp_all [SystemAbilityState.canEnter]
      subst leaves
      simp only [Chart.moveCount, Function.update_apply] at unloadable
      simp only [reduceCtorEq, if_true, if_false] at unloadable
      apply Or.inl
      omega

theorem emptied_moved (enterable : toState.canEnter fromState = true)
    (full : context.counted = context.saList.length)
    (counts : updateStateCount context fromState toState = some moved) (emptied : moved.Emptied) :
    toState = .notLoaded := by
  have same := counted_moved enterable counts
  obtain ⟨positive, rfl⟩ := updateStateCount_eq counts
  have entered : Chart.moveCount context.abilityStateCountMap fromState toState toState ≠ 0 := by
    simp [Chart.moveCount]
  simp only [counted, Emptied] at *
  cases toState with
  | notLoaded => rfl
  | _ => omega

end SystemProcessContext

namespace Scheduler

/-- The counters of the process cover its list, and only timeouts are recorded under a name. -/
structure Sound (processName : String) (s : Scheduler) : Prop where
  full : (s.process processName).counted = (s.process processName).saList.length
  named : s.processHandler.Named ProcessTask.Named

/-- The process stays where it is, its tasks stay in their order, and where it comes to be unloadable or
empty the task for it is ready. -/
structure Steady (processName : String) (s t : Scheduler) : Prop where
  state : (t.process processName).state = (s.process processName).state
  saList : (t.process processName).saList = (s.process processName).saList
  running : t.unloadTimeoutRunning = s.unloadTimeoutRunning
  log : s.log <:+ t.log
  sound : s.Sound processName → t.Sound processName
  carries : s.Sound processName →
    s.processHandler.Carries (ProcessTask.Drives processName) t.processHandler
  unloads : s.Sound processName → (s.process processName).state = .started →
    (t.process processName).Unloadable → (s.process processName).Unloadable ∨
      t.processHandler.Ready (.tryUnloadAllSystemAbility processName)
  kills : s.Sound processName → (s.process processName).state = .stopping →
    (t.process processName).Emptied → (s.process processName).Emptied ∨
      t.processHandler.Ready (.tryKillSystemProcess processName)

variable {processName : String} {env : Env} {s t u : Scheduler}

theorem Steady.trans (first : Steady processName s t) (second : Steady processName t u) :
    Steady processName s u where
  state := second.state.trans first.state
  saList := second.saList.trans first.saList
  running := second.running.trans first.running
  log := first.log.trans second.log
  sound := fun sound => second.sound (first.sound sound)
  carries := fun sound => (first.carries sound).trans (second.carries (first.sound sound))
  unloads := fun sound started unloadable => by
    rcases second.unloads (first.sound sound) (first.state.trans started) unloadable with before | ready
    · rcases first.unloads sound started before with before | ready
      · exact .inl before
      · exact .inr ((second.carries (first.sound sound)).ready rfl ready)
    · exact .inr ready
  kills := fun sound stopping emptied => by
    rcases second.kills (first.sound sound) (first.state.trans stopping) emptied with before | ready
    · rcases first.kills sound stopping before with before | ready
      · exact .inl before
      · exact .inr ((second.carries (first.sound sound)).ready rfl ready)
    · exact .inr ready

/-- The counters, the state and the list of the process stay, and the queue carries on. -/
theorem Steady.of_context (state : (t.process processName).state = (s.process processName).state)
    (saList : (t.process processName).saList = (s.process processName).saList)
    (counts : (t.process processName).abilityStateCountMap = (s.process processName).abilityStateCountMap)
    (running : t.unloadTimeoutRunning = s.unloadTimeoutRunning) (log : s.log <:+ t.log)
    (named : s.processHandler.Named ProcessTask.Named → t.processHandler.Named ProcessTask.Named)
    (carries : s.processHandler.Named ProcessTask.Named →
      s.processHandler.Carries (ProcessTask.Drives processName) t.processHandler) :
    Steady processName s t where
  state := state
  saList := saList
  running := running
  log := log
  sound := fun sound => by
    refine ⟨?_, named sound.named⟩
    rw [SystemProcessContext.counted, counts, saList]
    exact sound.full
  carries := fun sound => carries sound.named
  unloads := fun _ _ unloadable => by
    rw [SystemProcessContext.Unloadable, counts, saList] at unloadable
    exact .inl unloadable
  kills := fun _ _ emptied => by
    rw [SystemProcessContext.Emptied, counts, saList] at emptied
    exact .inl emptied

/-- Nothing of the process or of the handler changes. -/
theorem Steady.of_same (process : t.process processName = s.process processName)
    (handler : t.processHandler = s.processHandler)
    (running : t.unloadTimeoutRunning = s.unloadTimeoutRunning) (log : s.log <:+ t.log) :
    Steady processName s t := by
  apply Steady.of_context
  · rw [process]
  · rw [process]
  · rw [process]
  · exact running
  · exact log
  · rw [handler]
    exact id
  · rw [handler]
    exact fun _ => .refl

@[refl] theorem Steady.refl (s : Scheduler) : Steady processName s s :=
  .of_same rfl rfl rfl (List.suffix_refl _)

theorem steady_emit (event : Event) : Steady processName s (s.emit event) :=
  .of_same rfl rfl rfl (List.suffix_cons _ _)

theorem steady_notifyAll {listeners : List RemoteInterface} {event : RemoteInterface → Event} :
    Steady processName s (s.notifyAll listeners event) :=
  .of_same rfl rfl rfl (List.suffix_append _ _)

theorem steady_setAbility {sa : Int} {f : SystemAbilityContext → SystemAbilityContext} :
    Steady processName s (s.setAbility sa f) := .of_same rfl rfl rfl (List.suffix_refl _)

theorem process_setProcess {name : String} {f : SystemProcessContext → SystemProcessContext} :
    (s.setProcess name f).process processName =
      if processName = name then f (s.process name) else s.process processName :=
  Function.update_apply ..

/-- An update of a process context that leaves its state, its list and its counters alone. -/
theorem steady_setProcess {name : String} {f : SystemProcessContext → SystemProcessContext}
    (state : (f (s.process name)).state = (s.process name).state)
    (saList : (f (s.process name)).saList = (s.process name).saList)
    (counts : (f (s.process name)).abilityStateCountMap = (s.process name).abilityStateCountMap) :
    Steady processName s (s.setProcess name f) := by
  have found := @process_setProcess processName s name f
  by_cases own : processName = name
  · subst own
    rw [if_pos rfl] at found
    apply Steady.of_context
    · rw [found, state]
    · rw [found, saList]
    · rw [found, counts]
    · rfl
    · exact List.suffix_refl _
    · exact id
    · exact fun _ => .refl
  · rw [if_neg own] at found
    exact .of_same found rfl rfl (List.suffix_refl _)

theorem steady_postProcessTask {task : ProcessTask} :
    Steady processName s (s.postProcessTask env task) := by
  rw [postProcessTask]
  split
  · refine Steady.of_context rfl rfl rfl rfl (List.suffix_refl _) ?_ ?_
    · exact fun named => named.post task
    · exact fun _ => TaskQueue.carries_post
  · rfl

theorem ready_postProcessTask {task : ProcessTask} (posts : env.submitted s.now = true) :
    (s.postProcessTask env task).processHandler.Ready task := by
  rw [postProcessTask, if_pos posts]
  exact TaskQueue.ready_post

theorem steady_postUnloadTimeoutTask {name : String} :
    Steady processName s (s.postUnloadTimeoutTask env name) := by
  rw [postUnloadTimeoutTask]
  split
  · refine Steady.of_context rfl rfl rfl rfl (List.suffix_refl _) ?_ ?_
    · exact fun named => named.postNamed rfl
    · exact fun _ => TaskQueue.carries_postNamed
  · rfl

theorem steady_removeDelayUnloadEventLocked {sa : Int} :
    Steady processName s (s.removeDelayUnloadEventLocked sa) := by
  rw [removeDelayUnloadEventLocked]
  split
  · exact .of_same rfl rfl rfl (List.suffix_refl _)
  · rfl

theorem steady_removePendingUnloadEventLocked {sa : Int} :
    Steady processName s (s.removePendingUnloadEventLocked sa) := by
  rw [removePendingUnloadEventLocked]
  split
  · exact steady_setAbility
  · rfl

theorem steady_sendDelayUnloadEventLocked {sa delayTime : Int} :
    Steady processName s (s.sendDelayUnloadEventLocked env sa delayTime).1 := by
  rw [sendDelayUnloadEventLocked]
  split
  · rfl
  · split
    · rfl
    · exact .of_same rfl rfl rfl (List.suffix_refl _)

section Abilities

variable {sa : Int}

/-- A transition is steady if what the handler of the new state does is, and posts what is owed. -/
theorem abilityStateTransitionLocked_steady {onEnter : Scheduler → Int → Scheduler}
    {nextState : SystemAbilityState} (enters : ∀ t, Steady processName t (onEnter t sa))
    (unloads : nextState = .unloadable ∨ nextState = .notLoaded → ∀ t : Scheduler,
      t.ownProcessName sa = processName → (t.process processName).state = .started →
      (onEnter t sa).processHandler.Ready (.tryUnloadAllSystemAbility processName))
    (kills : nextState = .notLoaded → ∀ t : Scheduler, t.ownProcessName sa = processName →
      (t.process processName).state = .stopping →
      (onEnter t sa).processHandler.Ready (.tryKillSystemProcess processName)) :
    Steady processName s (s.abilityStateTransitionLocked onEnter sa nextState).1 := by
  simp only [abilityStateTransitionLocked]
  split
  · exact steady_emit _
  · split
    · exact steady_emit _
    · rename_i enterable
      rw [Bool.not_eq_true', Bool.not_eq_false] at enterable
      split
      · exact steady_emit _
      · rename_i moved counts
        -- the state in which the handler of the new state begins
        generalize shape : emit (setAbility _ _ _) _ = entered
        have log : s.log <:+ entered.log := by
          rw [← shape]
          exact List.suffix_cons _ _
        have handler : entered.processHandler = s.processHandler := by
          rw [← shape]
          rfl
        have running : entered.unloadTimeoutRunning = s.unloadTimeoutRunning := by
          rw [← shape]
          rfl
        have owner : entered.ownProcessName sa = s.ownProcessName sa := by
          rw [← shape]
          simp [ownProcessName, emit, setAbility, setProcess]
        have found : entered.process processName =
            if processName = s.ownProcessName sa then moved else s.process processName := by
          rw [← shape]
          exact Function.update_apply ..
        have after := enters entered
        by_cases own : processName = s.ownProcessName sa
        · rw [if_pos own] at found
          have owns : entered.ownProcessName sa = processName := owner.trans own.symm
          rw [ownProcess, ← own] at counts
          obtain ⟨-, shaped⟩ := SystemProcessContext.updateStateCount_eq counts
          have state : (entered.process processName).state = (s.process processName).state := by
            rw [found, shaped]
          have saList : (entered.process processName).saList = (s.process processName).saList := by
            rw [found, shaped]
          have sound : s.Sound processName → entered.Sound processName := by
            intro sound
            refine ⟨?_, handler ▸ sound.named⟩
            rw [saList, found, SystemProcessContext.counted_moved enterable counts]
            exact sound.full
          have carries : s.processHandler.Carries (ProcessTask.Drives processName)
              entered.processHandler := by
            rw [handler]
            exact .refl
          constructor
          · exact after.state.trans state
          · exact after.saList.trans saList
          · exact after.running.trans running
          · exact log.trans after.log
          · exact fun before => after.sound (sound before)
          · exact fun before => carries.trans (after.carries (sound before))
          · intro before started unloadable
            rcases after.unloads (sound before) (state.trans started) unloadable with between | ready
            · rw [found] at between
              rcases SystemProcessContext.unloadable_moved enterable before.full counts between with
                already | owed
              · exact .inl already
              · exact .inr (unloads owed entered owns (state.trans started))
            · exact .inr ready
          · intro before stopping emptied
            rcases after.kills (sound before) (state.trans stopping) emptied with between | ready
            · rw [found] at between
              have owed := SystemProcessContext.emptied_moved enterable before.full counts between
              exact .inr (kills owed entered owns (state.trans stopping))
            · exact .inr ready
        · rw [if_neg own] at found
          exact (Steady.of_same found handler running log).trans after

theorem toLoading_steady : Steady processName s (s.toLoading sa).1 := by
  apply abilityStateTransitionLocked_steady
  · exact fun t => .refl t
  · rintro (impossible | impossible) <;> cases impossible
  · intro impossible
    cases impossible

variable (posts : ∀ at', env.submitted at' = true)
include posts

theorem toNotLoaded_steady : Steady processName s (s.toNotLoaded env sa).1 := by
  have clears : ∀ t : Scheduler, Steady processName t
      ((t.removeDelayUnloadEventLocked sa).removePendingUnloadEventLocked sa) :=
    fun t => steady_removeDelayUnloadEventLocked.trans steady_removePendingUnloadEventLocked
  have owner : ∀ t : Scheduler, ((t.removeDelayUnloadEventLocked sa).removePendingUnloadEventLocked
      sa).ownProcessName sa = t.ownProcessName sa := by
    intro t
    rw [removePendingUnloadEventLocked, removeDelayUnloadEventLocked]
    split <;> split <;> simp [ownProcessName, setAbility]
  apply abilityStateTransitionLocked_steady
  · intro t
    simp only [onAbilityNotLoadedLocked]
    split
    · exact (clears t).trans steady_postProcessTask
    · exact (clears t).trans steady_postProcessTask
    · exact clears t
  · intro _ t own started
    have same := (clears t).state
    simp only [onAbilityNotLoadedLocked, ownProcess, owner, own]
    rw [same, started]
    exact ready_postProcessTask (posts _)
  · intro _ t own stopping
    have same := (clears t).state
    simp only [onAbilityNotLoadedLocked, ownProcess, owner, own]
    rw [same, stopping]
    exact ready_postProcessTask (posts _)

omit posts in
theorem toLoaded_steady : Steady processName s (s.toLoaded env sa).1 := by
  apply abilityStateTransitionLocked_steady
  · intro t
    have posted : Steady processName t ((t.setAbility sa fun context =>
        { context with lastIdleTime := -1 }).postProcessTask env (.pendingUnload sa)) :=
      steady_setAbility.trans steady_postProcessTask
    simp only [onAbilityLoadedLocked]
    split
    · exact posted.trans steady_notifyAll
    · exact posted
  · rintro (impossible | impossible) <;> cases impossible
  · intro impossible
    cases impossible

omit posts in
theorem doUnloadSystemAbilityLocked_steady :
    Steady processName s (s.doUnloadSystemAbilityLocked env sa).1 := by
  simp only [doUnloadSystemAbilityLocked]
  split
  · rfl
  · split
    · refine (steady_emit _).trans (abilityStateTransitionLocked_steady (fun t => .refl t) ?_ ?_)
      · rintro (impossible | impossible) <;> cases impossible
      · intro impossible
        cases impossible
    · exact steady_emit _

theorem toUnloadable_steady : Steady processName s (s.toUnloadable env sa).1 := by
  apply abilityStateTransitionLocked_steady
  · intro t
    have entered : Steady processName t (t.setAbility sa fun context =>
      { context with lastIdleTime := env.getTickCount t.now 0 }) := steady_setAbility
    simp only [onAbilityUnloadableLocked]
    generalize (t.setAbility sa fun context =>
      { context with lastIdleTime := env.getTickCount t.now 0 }) = u at entered ⊢
    have notified : Steady processName t (if u.isProcessIdledLocked (u.ownProcessName sa) then
        u.notifyProcessIdled (u.ownProcessName sa) else u) := by
      split
      · exact entered.trans steady_notifyAll
      · exact entered
    generalize (if u.isProcessIdledLocked (u.ownProcessName sa) then
      u.notifyProcessIdled (u.ownProcessName sa) else u) = v at notified ⊢
    refine Steady.trans ?_ steady_postProcessTask
    split
    · exact notified.trans doUnloadSystemAbilityLocked_steady
    · exact notified
  · intro _ t own _
    have same : (t.setAbility sa fun context =>
        { context with lastIdleTime := env.getTickCount t.now 0 }).ownProcessName sa = processName := by
      rw [← own]
      simp [ownProcessName, setAbility]
    simp only [onAbilityUnloadableLocked, same]
    exact ready_postProcessTask (posts _)
  · intro impossible
    cases impossible

omit posts

theorem pendLoadEventLocked_steady {request : LoadRequestInfo} :
    Steady processName s (s.pendLoadEventLocked env sa request).1 := by
  obtain ⟨t, origin, result⟩ := pendLoadEventLocked_cases env s sa request
  have stamped : Steady processName s t := by
    rcases origin with rfl | ⟨stamp, rfl⟩
    · rfl
    · exact steady_setProcess rfl rfl rfl
  apply stamped.trans
  rcases result with same | ⟨handler, same⟩ | ⟨counts, same⟩
  · rw [same]
  · rw [same]
    exact .of_same rfl rfl rfl (List.suffix_refl _)
  · rw [same]
    exact steady_setAbility.trans (steady_emit _)

theorem activeSystemAbilityLocked_steady {reason : OnDemandEvent} :
    Steady processName s (s.activeSystemAbilityLocked env sa reason).1 := by
  simp only [activeSystemAbilityLocked]
  split
  · exact (steady_emit _).trans toLoaded_steady
  · exact steady_emit _

theorem beginLoad_steady {request : LoadRequestInfo} :
    Steady processName s (s.beginLoad env sa request).1 := by
  simp only [beginLoad]
  refine (steady_emit (.handleLoad sa request)).trans ?_
  split
  · exact pendLoadEventLocked_steady
  · split
    · exact steady_removePendingUnloadEventLocked
    · exact steady_removeDelayUnloadEventLocked
    · exact activeSystemAbilityLocked_steady
    · rfl
    · rfl

theorem handleLoadAbilityEventLocked_steady {request : LoadRequestInfo} :
    Steady processName s (s.handleLoadAbilityEventLocked env sa request).1 := by
  have begins : Steady processName s (s.beginLoad env sa request).1 := beginLoad_steady
  simp only [handleLoadAbilityEventLocked]
  split
  · rename_i verdict
    rwa [verdict] at begins
  · rename_i begun verdict
    rw [verdict] at begins
    simp only [doLoadSystemAbilityLocked, finishLoad]
    refine begins.trans ((steady_emit (.doLoadSystemAbility sa request
      (env.doLoadSystemAbility begun.now))).trans ?_)
    split
    · exact toLoading_steady
    · rfl

theorem handleLoadAbilityEvent_steady {request : LoadRequestInfo} :
    Steady processName s (s.handleLoadAbilityEvent env request).1 := by
  rw [handleLoadAbilityEvent]
  split
  · exact handleLoadAbilityEventLocked_steady
  · rfl

theorem checkStartAbilityEvent_steady :
    Steady processName s (s.checkStartAbilityEvent env sa).1 := by
  simp only [checkStartAbilityEvent]
  split
  · rfl
  · refine (steady_emit (.doLoadOnDemandAbility sa (env.doLoadOnDemandAbility s.now).1
      (env.doLoadOnDemandAbility s.now).2)).trans ?_
    rw [finishCheckStart]
    split
    · exact toLoading_steady
    · rfl

theorem handleCancelUnloadAbilityEvent_steady :
    Steady processName s (s.handleCancelUnloadAbilityEvent env sa).1 := by
  rw [handleCancelUnloadAbilityEvent]
  split
  · rfl
  · split
    · exact activeSystemAbilityLocked_steady
    · rfl

include posts

theorem processDelayUnloadEventLocked_steady :
    Steady processName s (s.processDelayUnloadEventLocked env sa).1 := by
  simp only [processDelayUnloadEventLocked]
  split
  · rfl
  · rename_i request _
    split
    · rfl
    · refine (steady_emit (.idleSystemAbility sa request.unloadEvent
        (env.idleSystemAbility s.now))).trans ?_
      split
      · rfl
      · split
        · rfl
        · split
          · exact toUnloadable_steady posts
          · exact steady_sendDelayUnloadEventLocked

theorem processDelayUnloadEvent_steady : Steady processName s (s.processDelayUnloadEvent env sa).1 := by
  rw [processDelayUnloadEvent]
  split
  · exact processDelayUnloadEventLocked_steady posts
  · rfl

theorem handleUnloadAbilityEventLocked_steady {unloadRequestInfo : Option UnloadRequestInfo} :
    Steady processName s (s.handleUnloadAbilityEventLocked env sa unloadRequestInfo).1 := by
  simp only [handleUnloadAbilityEventLocked]
  split
  · rfl
  · rename_i request
    refine Steady.trans (t := s.setAbility sa fun context =>
      { context with unloadRequest := some request }) steady_setAbility ?_
    split
    · exact @steady_setAbility processName _ sa fun context =>
        { context with pendingEvent := .unloadAbilityEvent, pendingUnloadEvent := some request }
    · split
      · exact processDelayUnloadEventLocked_steady posts
      · exact steady_sendDelayUnloadEventLocked
    · rfl

theorem handlePendingUnloadEventLocked_steady :
    Steady processName s (s.handlePendingUnloadEventLocked env sa).1 := by
  simp only [handlePendingUnloadEventLocked]
  split
  · rfl
  · exact steady_setAbility.trans (handleUnloadAbilityEventLocked_steady posts)

theorem sendAbilityStateEvent_steady {event : AbilityStateEvent} :
    Steady processName s (s.sendAbilityStateEvent env sa event).1 := by
  have fails : Steady processName s
      ((s.removePendingUnloadEventLocked sa).toNotLoaded env sa).1 :=
    steady_removePendingUnloadEventLocked.trans (toNotLoaded_steady posts)
  have leaves : Steady processName s (s.toNotLoaded env sa).1 := toNotLoaded_steady posts
  simp only [sendAbilityStateEvent]
  split
  · rfl
  · cases event with
    | abilityLoadFailedEvent =>
        simp only [handleAbilityLoadFailedEventLocked]
        split
        · exact fails
        · rfl
    | abilityLoadSuccessEvent =>
        simp only [handleAbilityLoadSuccessEventLocked]
        split
        · exact toLoaded_steady
        · exact toLoaded_steady
        · rfl
    | abilityUnloadSuccessEvent =>
        simp only [handleAbilityUnLoadSuccessEventLocked]
        split
        · exact fails
        · exact leaves
        · exact leaves
        · exact leaves
        · rfl

omit posts

theorem steady_foldl {κ : Type} {f : Scheduler → κ → Scheduler} {items : List κ}
    (each : ∀ t, ∀ item ∈ items, Steady processName t (f t item)) :
    Steady processName s (items.foldl f s) := by
  induction items generalizing s with
  | nil => rfl
  | cons item rest hypothesis =>
      apply (each s item List.mem_cons_self).trans
      exact hypothesis fun t other member => each t other (List.mem_cons_of_mem _ member)

theorem replayPendingLoads_steady {requests : List LoadRequestInfo} :
    Steady processName s (replayPendingLoads env sa requests s) := by
  induction requests generalizing s with
  | nil => rfl
  | cons request rest hypothesis =>
      rw [replayPendingLoads]
      exact handleLoadAbilityEventLocked_steady.trans hypothesis

theorem handlePendingLoadEventLocked_steady :
    Steady processName s (s.handlePendingLoadEventLocked env sa) := by
  simp only [handlePendingLoadEventLocked]
  split
  · rfl
  · exact (steady_setAbility.trans replayPendingLoads_steady).trans steady_setAbility

include posts in
theorem stopAbility_steady : Steady processName s (s.stopAbility env sa) := by
  simp only [stopAbility]
  split
  · rfl
  · split
    · exact (toNotLoaded_steady posts).trans handlePendingLoadEventLocked_steady
    · exact toNotLoaded_steady posts

theorem abnormallyDied_steady : Steady processName s (s.abnormallyDied env sa).1 := by
  have crashed : Steady processName s (s.emit (.sendUpdateSaState sa)) := steady_emit _
  simp only [abnormallyDied]
  split
  · rfl
  · split
    · split
      · exact crashed.trans (steady_emit _)
      · exact crashed
    · split
      · exact crashed.trans (steady_emit _)
      · exact crashed
    · rfl

theorem getAbnormallyDiedAbilityLocked_steady {ids : List Int} :
    Steady processName s (getAbnormallyDiedAbilityLocked env ids s).1 := by
  induction ids generalizing s with
  | nil => rfl
  | cons sa rest hypothesis =>
      rw [getAbnormallyDiedAbilityLocked]
      exact abnormallyDied_steady.trans hypothesis

theorem canRestartProcessLocked_steady {name : String} :
    Steady processName s (s.canRestartProcessLocked env name).1 := by
  simp only [canRestartProcessLocked, apply_ite Prod.fst]
  split
  · rfl
  · split
    · exact steady_setProcess rfl rfl rfl
    · split
      · split <;> exact steady_setProcess rfl rfl rfl
      · rfl

theorem handleAbnormallyDiedAbilityLocked_steady {name : String} {died : List Int} :
    Steady processName s (s.handleAbnormallyDiedAbilityLocked env name died) := by
  simp only [handleAbnormallyDiedAbilityLocked]
  split
  · rfl
  · split
    · apply canRestartProcessLocked_steady.trans
      apply steady_foldl
      intro t sa _
      exact (steady_emit _).trans handleLoadAbilityEventLocked_steady
    · exact canRestartProcessLocked_steady

theorem notLoaded_doUnloadSystemAbilityLocked :
    ((s.doUnloadSystemAbilityLocked env sa).1.process processName).abilityStateCountMap .notLoaded =
      (s.process processName).abilityStateCountMap .notLoaded := by
  simp only [doUnloadSystemAbilityLocked, abilityStateTransitionLocked]
  split
  · rfl
  · split
    · split
      · rfl
      · split
        · rfl
        · rename_i enterable
          rw [Bool.not_eq_true', Bool.not_eq_false] at enterable
          split
          · rfl
          · rename_i moved counts
            change (Function.update s.process _ _ _).abilityStateCountMap .notLoaded = _
            rw [Function.update_apply]
            split
            · rename_i own
              obtain ⟨-, rfl⟩ := SystemProcessContext.updateStateCount_eq counts
              have leaves : (s.ability sa).state = .unloadable := by
                simpa [SystemAbilityState.canEnter, emit] using enterable
              have shown : ∀ count : SystemAbilityState → Nat,
                  Chart.moveCount count .unloadable .unloading .notLoaded = count .notLoaded := by
                intro count
                simp [Chart.moveCount]
              simp only [emit, leaves, shown, own]
              rfl
            · rfl
    · rfl

end Abilities

section Processes

variable {name : String}

/-- Nothing but the context of another process changes. -/
theorem steady_setProcess_other {f : SystemProcessContext → SystemProcessContext}
    (other : name ≠ processName) : Steady processName s (s.setProcess name f) := by
  have found := @process_setProcess processName s name f
  rw [if_neg other.symm] at found
  exact .of_same found rfl rfl (List.suffix_refl _)

theorem log_leaveProcess : s.log <:+ (s.leaveProcess env name).log :=
  (List.suffix_append _ _).trans (List.suffix_cons _ _)

theorem named_leaveProcess (named : s.processHandler.Named ProcessTask.Named) :
    (s.leaveProcess env name).processHandler.Named ProcessTask.Named :=
  TaskQueue.Named.removeTask named name

/-- The stop of another process cancels its timeout only. -/
theorem leaveProcess_steady (other : name ≠ processName) :
    Steady processName s (s.leaveProcess env name) := by
  refine Steady.of_context rfl rfl rfl rfl log_leaveProcess named_leaveProcess fun named => ?_
  apply TaskQueue.carries_removeTask named
  rintro task drives rfl
  exact other drives

variable (posts : ∀ at', env.submitted at' = true)
include posts

/-- The stop of a process from where its listeners have been told. -/
theorem onProcessNotStartedLocked_steady :
    Steady processName ((s.setProcess name fun context =>
        { context with
          lastStopTime := env.getTickCount s.now 0
          pendingLoadFirstTimestamp := 0 }).leaveProcess env name)
      (s.onProcessNotStartedLocked env name) := by
  simp only [onProcessNotStartedLocked]
  generalize leaveProcess env _ name = left
  have found : Steady processName left
    (getAbnormallyDiedAbilityLocked env (left.process name).saList left).1 :=
    getAbnormallyDiedAbilityLocked_steady
  refine (found.trans ?_).trans handleAbnormallyDiedAbilityLocked_steady
  exact steady_foldl fun t sa _ => stopAbility_steady posts

/-- What one operation does to a process: nothing, or it begins to stop, or it is gone, or it is
there. -/
inductive Moved (processName : String) (s t : Scheduler) : Prop where
  | steady (same : Steady processName s t)
  | stops (before : (s.process processName).state = .started)
      (unloadable : (s.process processName).Unloadable) (after : (t.process processName).state = .stopping)
      (some : ¬ (t.process processName).Emptied)
      (timeout : ∃ handle, (handle, .unloadTimeout processName) ∈ t.processHandler.waiting)
      (log : s.log <:+ t.log) (sound : s.Sound processName → t.Sound processName)
  | leaves (after : (t.process processName).state = .notStarted) (log : s.log <:+ t.log)
      (sound : s.Sound processName → t.Sound processName)
  | starts (before : (s.process processName).state = .notStarted)
      (after : (t.process processName).state = .started)
      (same : (t.process processName).Unloadable → (s.process processName).Unloadable)
      (log : s.log <:+ t.log) (sound : s.Sound processName → t.Sound processName)

omit posts in
/-- The rest of an operation may leave the process and the handler alone. -/
theorem Moved.frame (moved : Moved processName s t) (process : u.process = t.process)
    (handler : u.processHandler = t.processHandler)
    (running : u.unloadTimeoutRunning = t.unloadTimeoutRunning) (log : u.log = t.log) :
    Moved processName s u := by
  have same : Steady processName t u :=
    .of_same (congrFun process processName) handler running (log ▸ List.suffix_refl _)
  cases moved with
  | steady before => exact .steady (before.trans same)
  | stops before unloadable after some timeout suffix sound =>
      refine .stops before unloadable (same.state.trans after) ?_ ?_ (log ▸ suffix)
        fun start => same.sound (sound start)
      · rw [process]
        exact some
      · rw [handler]
        exact timeout
  | leaves after suffix sound =>
      exact .leaves (same.state.trans after) (log ▸ suffix) fun start => same.sound (sound start)
  | starts before after unloadable suffix sound =>
      refine .starts before (same.state.trans after) ?_ (log ▸ suffix) fun start => same.sound (sound start)
      rw [process]
      exact unloadable

theorem handleProcessStoppedEventLocked_moved {processInfo : ProcessInfo} :
    Moved processName s (s.handleProcessStoppedEventLocked env processInfo).1 := by
  have leaves : Moved processName s (s.processStateTransitionLocked (onProcessNotStartedLocked env)
      processInfo.processName .notStarted).1 := by
    simp only [processStateTransitionLocked]
    split
    · exact .steady (.refl s)
    · split
      · exact .steady (.refl s)
      · generalize shape : (s.setProcess processInfo.processName fun context =>
          { context with state := .notStarted }) = t
        have rest : Steady processName _ (t.onProcessNotStartedLocked env processInfo.processName) :=
          onProcessNotStartedLocked_steady posts
        generalize entering : (t.setProcess processInfo.processName fun context =>
          { context with
            lastStopTime := env.getTickCount t.now 0
            pendingLoadFirstTimestamp := 0 }) = entered at rest
        by_cases own : processInfo.processName = processName
        · subst own
          have state : (t.process processInfo.processName).state = .notStarted := by
            rw [← shape, process_setProcess, if_pos rfl]
          have enters : Steady processInfo.processName t entered := by
            rw [← entering]
            exact steady_setProcess rfl rfl rfl
          refine .leaves (rest.state.trans (enters.state.trans state)) ?_ fun sound => rest.sound ?_
          · have log : s.log = t.log := by
              rw [← shape]
              rfl
            rw [log]
            exact enters.log.trans (log_leaveProcess.trans rest.log)
          · have moved : t.Sound processInfo.processName := by
              refine ⟨?_, ?_⟩
              · rw [← shape, process_setProcess, if_pos rfl]
                exact sound.full
              · rw [← shape]
                exact sound.named
            have before := enters.sound moved
            exact ⟨before.full, named_leaveProcess before.named⟩
        · apply Moved.steady
          have first : Steady processName s t := by
            rw [← shape]
            exact steady_setProcess_other own
          have second : Steady processName t entered := by
            rw [← entering]
            exact steady_setProcess_other own
          exact first.trans (second.trans ((leaveProcess_steady own).trans rest))
  simp only [handleProcessStoppedEventLocked]
  split
  · exact leaves
  · exact leaves
  · exact .steady (.refl s)

omit posts in
theorem handleProcessStartedEventLocked_moved {processInfo : ProcessInfo} :
    Moved processName s (s.handleProcessStartedEventLocked env processInfo).1 := by
  have noted : Steady processName s (s.setProcess processInfo.processName fun context =>
    { context with pid := processInfo.pid, uid := processInfo.uid }) := steady_setProcess rfl rfl rfl
  have counts : ((s.setProcess processInfo.processName fun context =>
      { context with pid := processInfo.pid, uid := processInfo.uid }).process
        processName).abilityStateCountMap = (s.process processName).abilityStateCountMap := by
    rw [process_setProcess]
    split
    · rename_i own
      rw [own]
    · rfl
  simp only [handleProcessStartedEventLocked]
  generalize (s.setProcess processInfo.processName fun context =>
    { context with pid := processInfo.pid, uid := processInfo.uid }) = t at noted counts ⊢
  split
  · rename_i before
    simp only [processStateTransitionLocked, before]
    rw [if_neg (by decide), if_neg (by decide)]
    generalize shape : (t.setProcess processInfo.processName fun context =>
      { context with state := .started }) = u
    have told : Steady processName u (u.notifyProcessStarted env processInfo.processName) :=
      steady_notifyAll
    have same : (u.notifyProcessStarted env processInfo.processName).process = u.process := rfl
    by_cases own : processInfo.processName = processName
    · subst own
      have found : u.process processInfo.processName =
          { t.process processInfo.processName with state := .started } := by
        rw [← shape, process_setProcess, if_pos rfl]
      have log : t.log = u.log := by
        rw [← shape]
        rfl
      have handler : u.processHandler = t.processHandler := by
        rw [← shape]
        rfl
      refine .starts (noted.state.symm.trans before) ?_ ?_ ?_ fun sound => told.sound ⟨?_, ?_⟩
      · rw [same, found]
      · rw [same, found]
        intro unloadable
        have before : (t.process processInfo.processName).Unloadable := unloadable
        rwa [SystemProcessContext.Unloadable, counts, noted.saList] at before
      · exact noted.log.trans (log ▸ told.log)
      · rw [found]
        exact (noted.sound sound).full
      · rw [handler]
        exact (noted.sound sound).named
    · apply Moved.steady
      have first : Steady processName t u := by
        rw [← shape]
        exact steady_setProcess_other own
      exact noted.trans (first.trans told)
  · exact .steady noted

theorem sendProcessStateEvent_moved {processInfo : ProcessInfo} {event : ProcessStateEvent} :
    Moved processName s (s.sendProcessStateEvent env processInfo event).1 := by
  simp only [sendProcessStateEvent]
  split
  · exact .steady (.refl s)
  · cases event with
    | processStartedEvent =>
        have moved : Moved processName s (s.handleProcessStartedEventLocked env processInfo).1 :=
          handleProcessStartedEventLocked_moved
        simp only []
        split
        · rw [addRunningProcessLocked]
          split <;> exact moved.frame rfl rfl rfl rfl
        · exact moved
    | processStoppedEvent =>
        have moved : Moved processName s (s.handleProcessStoppedEventLocked env processInfo).1 :=
          handleProcessStoppedEventLocked_moved posts
        simp only []
        split
        · exact moved.frame rfl rfl rfl rfl
        · exact moved

omit posts in
theorem unloadOne_steady {sa : Int} : Steady processName s (s.unloadOne env sa) := by
  simp only [unloadOne]
  split
  · rfl
  · split
    · exact doUnloadSystemAbilityLocked_steady
    · rfl

omit posts in
theorem notLoaded_unloadOne {sa : Int} :
    ((s.unloadOne env sa).process processName).abilityStateCountMap .notLoaded =
      (s.process processName).abilityStateCountMap .notLoaded := by
  simp only [unloadOne]
  split
  · rfl
  · split
    · exact notLoaded_doUnloadSystemAbilityLocked
    · rfl

omit posts in
theorem notLoaded_unloads {ids : List Int} :
    ((ids.foldl (unloadOne env) s).process processName).abilityStateCountMap .notLoaded =
      (s.process processName).abilityStateCountMap .notLoaded := by
  induction ids generalizing s with
  | nil => rfl
  | cons sa rest hypothesis => rw [List.foldl_cons, hypothesis, notLoaded_unloadOne]

/-- Unloading all abilities of a process posts its timeout before the process is STOPPING. -/
theorem unloadAllSystemAbilityLocked_moved
    (unloadable : (s.process name).Unloadable) :
    Moved processName s (s.unloadAllSystemAbilityLocked env name).1 := by
  have unloads : Steady processName s ((s.process name).saList.foldl (unloadOne env) s) :=
    steady_foldl fun t sa _ => unloadOne_steady
  have kept : ((((s.process name).saList.foldl (unloadOne env) s)).process
      processName).abilityStateCountMap .notLoaded =
      (s.process processName).abilityStateCountMap .notLoaded := notLoaded_unloads
  simp only [unloadAllSystemAbilityLocked]
  generalize (s.process name).saList.foldl (unloadOne env) s = t at unloads kept ⊢
  have posted : Steady processName s (t.postUnloadTimeoutTask env name) :=
    unloads.trans steady_postUnloadTimeoutTask
  have waits : (t.processHandler.next, ProcessTask.unloadTimeout name) ∈
      (t.postUnloadTimeoutTask env name).processHandler.waiting := by
    rw [postUnloadTimeoutTask, if_pos (posts _)]
    exact TaskQueue.mem_waiting_postNamed.mpr (.inl rfl)
  have same : (t.postUnloadTimeoutTask env name).process = t.process := by
    rw [postUnloadTimeoutTask]
    split <;> rfl
  generalize t.postUnloadTimeoutTask env name = u at posted waits same ⊢
  simp only [processStateTransitionLocked]
  split
  · exact .steady posted
  · split
    · exact .steady posted
    · rename_i enterable
      by_cases own : name = processName
      · subst own
        have before : (s.process name).state = .started := by
          rw [← posted.state]
          simpa [SystemProcessState.canEnter] using enterable
        have found : (onEnterNothing (u.setProcess name fun context =>
            { context with state := .stopping }) name).process name =
            { u.process name with state := .stopping } := by
          rw [onEnterNothing, process_setProcess, if_pos rfl]
        refine .stops before unloadable ?_ ?_ ⟨_, waits⟩ posted.log fun sound => ⟨?_, ?_⟩
        · rw [found]
        · rw [found]
          intro emptied
          have emptied : (t.process name).abilityStateCountMap .notLoaded = (t.process name).saList.length := by
            rw [← same]
            exact emptied
          rw [kept, unloads.saList] at emptied
          exact unloadable.not_emptied emptied
        · rw [found]
          exact (posted.sound sound).full
        · exact (posted.sound sound).named
      · have stopped : Steady processName u (u.setProcess name fun context =>
          { context with state := .stopping }) := steady_setProcess_other own
        exact .steady (posted.trans stopped)

omit posts in
/-- A started process is STOPPING afterwards. -/
theorem state_unloadAllSystemAbilityLocked (started : (s.process name).state = .started) :
    ((s.unloadAllSystemAbilityLocked env name).1.process name).state = .stopping := by
  have unloads : Steady name s ((s.process name).saList.foldl (unloadOne env) s) :=
    steady_foldl fun t sa _ => unloadOne_steady
  have posted : Steady name s (((s.process name).saList.foldl (unloadOne env) s).postUnloadTimeoutTask
    env name) := unloads.trans steady_postUnloadTimeoutTask
  simp only [unloadAllSystemAbilityLocked, processStateTransitionLocked]
  rw [posted.state, started, if_neg (by decide), if_neg (by decide), onEnterNothing, process_setProcess,
    if_pos rfl]

omit posts in
theorem canUnloadAll_iff {check : Bool} : s.canUnloadAllSystemAbilityLocked env name check = true ↔
    (s.process name).Unloadable ∧ (check = true → s.checkSaIsImmediatelyRecycle env name = true) := by
  rw [SystemProcessContext.Unloadable, canUnloadAllSystemAbilityLocked]
  split
  · rename_i none
    simp only [Bool.false_eq_true, false_iff, not_and]
    omega
  · rename_i some
    split
    · rename_i all
      cases check
      · rw [if_neg (by decide)]
        simp only [true_iff, Bool.false_eq_true, false_imp_iff, and_true]
        exact ⟨by omega, all⟩
      · rw [if_pos rfl]
        exact ⟨fun recycled => ⟨⟨by omega, all⟩, fun _ => recycled⟩, fun both => both.2 rfl⟩
    · rename_i less
      simp only [Bool.false_eq_true, false_iff]
      exact fun both => less both.1.2

theorem tryUnloadAllSystemAbility_moved : Moved processName s (s.tryUnloadAllSystemAbility env name).1 := by
  rw [tryUnloadAllSystemAbility]
  split
  · rename_i unloads
    exact unloadAllSystemAbilityLocked_moved posts (canUnloadAll_iff.mp unloads).1
  · exact .steady (.refl s)

theorem unloadProcess_moved : Moved processName s (s.unloadProcess env name).1 := by
  rw [unloadProcess]
  split
  · rename_i unloads
    exact unloadAllSystemAbilityLocked_moved posts (canUnloadAll_iff.mp unloads.2).1
  · exact .steady (.refl s)

omit posts in
theorem processPendingLoadOverflow_steady {sa : Int} :
    Steady processName s (s.processPendingLoadOverflow env sa) := by
  have cleared : Steady processName s (s.clearPendingLoadOverflow sa) :=
    Steady.trans (t := s.clearPendingLoads sa) steady_setAbility (steady_setProcess rfl rfl rfl)
  simp only [processPendingLoadOverflow]
  split
  · rfl
  · split
    · exact cleared.trans (steady_emit _)
    · split
      · exact cleared.trans (steady_emit _)
      · exact cleared

omit posts in
theorem subscribeOneProcess_steady {listener : RemoteInterface} {callingPid : Int} :
    Steady processName s (s.subscribeOneProcess listener callingPid name).1 := by
  simp only [subscribeOneProcess]
  split
  · rfl
  · split
    · exact .of_same rfl rfl rfl (List.suffix_refl _)
    · split <;> exact .of_same rfl rfl rfl (List.suffix_refl _)

omit posts in
theorem subscribeSystemProcessList_steady {listener : RemoteInterface} {callingPid : Int}
    {names : List String} :
    Steady processName s (subscribeSystemProcessList listener callingPid names s).1 := by
  induction names generalizing s with
  | nil => rfl
  | cons name rest hypothesis =>
      simp only [subscribeSystemProcessList]
      split
      · exact subscribeOneProcess_steady.trans hypothesis
      · exact subscribeOneProcess_steady

omit posts in
theorem unSubscribeSystemProcessList_steady {listener : RemoteInterface} {callingPid : Int}
    {names : List String} :
    Steady processName s (s.unSubscribeSystemProcessList listener callingPid names) := by
  apply steady_foldl
  intro t name _
  rw [unSubscribeOneProcess]
  split
  · rfl
  · exact .of_same rfl rfl rfl (List.suffix_refl _)

/-- A task of the handler that has been started, but for the timeout, which only waits then. -/
theorem runProcessTask_moved {task : ProcessTask} (other : ∀ name, task ≠ .unloadTimeout name) :
    Moved processName s (s.runProcessTask env task) := by
  cases task with
  | updateLimitDelayUnloadTime sa =>
      apply Moved.steady
      simp only [runProcessTask, updateLimitDelayUnloadTimeTask]
      split
      · rfl
      · exact steady_setAbility
  | tryUnloadAllSystemAbility name => exact tryUnloadAllSystemAbility_moved posts
  | unloadTimeout name => exact absurd rfl (other name)
  | tryKillSystemProcess name =>
      apply Moved.steady
      rw [runProcessTask, tryKillSystemProcess]
      split
      · exact steady_emit _
      · rfl
  | pendingUnload sa =>
      apply Moved.steady
      rw [runProcessTask]
      split
      · exact handlePendingUnloadEventLocked_steady posts
      · rfl

/-- The turns of the process handler: a task is started, the running timeout goes on, or a delayed task
becomes ready. -/
def Op.ofHandler : Op → Bool
  | .startProcessTask => true
  | .stepUnloadTimeout => true
  | .expire (.processTask _) => true
  | _ => false

/-- Every other operation moves a process or is steady for it. -/
theorem exec_moved {op : Op} (other : op.ofHandler = false) :
    Moved processName s (s.exec env op).1 := by
  cases op with
  | load request => exact .steady handleLoadAbilityEvent_steady
  | checkStart sa => exact .steady checkStartAbilityEvent_steady
  | unload request =>
      apply Moved.steady
      simp only [exec, handleUnloadAbilityEvent]
      split
      · rfl
      · split
        · exact handleUnloadAbilityEventLocked_steady posts
        · rfl
  | cancelUnload sa => exact .steady handleCancelUnloadAbilityEvent_steady
  | abilityEvent sa event => exact .steady (sendAbilityStateEvent_steady posts)
  | processEvent info event => exact sendProcessStateEvent_moved posts
  | unloadProcess name => exact unloadProcess_moved posts
  | updateLimitDelayUnloadTime sa => exact .steady steady_postProcessTask
  | expire expiry =>
      cases expiry with
      | unloadEvent handle => exact .steady (.of_same rfl rfl rfl (List.suffix_refl _))
      | processTask handle => cases other
  | startProcessTask => cases other
  | stepUnloadTimeout => cases other
  | startUnloadEvent =>
      apply Moved.steady
      simp only [exec, startUnloadEvent]
      split
      · exact .of_same rfl rfl rfl (List.suffix_refl _)
      · rfl
  | stepUnloadEvent =>
      apply Moved.steady
      simp only [exec, stepUnloadEvent]
      split
      · rfl
      · exact .of_same rfl rfl rfl (List.suffix_refl _)
      · rename_i sa runs
        exact Steady.trans (t := { s with unloadEventRunning := none })
          (.of_same rfl rfl rfl (List.suffix_refl _)) (processDelayUnloadEvent_steady posts)
  | runRecoverTask =>
      apply Moved.steady
      simp only [exec, runRecoverTask]
      split
      · rfl
      · rename_i sa rest popped
        exact Steady.trans (t := { s with recoverHandler := rest })
          (.of_same rfl rfl rfl (List.suffix_refl _)) processPendingLoadOverflow_steady
  | subscribe listener foregroundOnly =>
      apply Moved.steady
      simp only [exec, subscribeSystemProcess]
      split <;> exact .of_same rfl rfl rfl (List.suffix_refl _)
  | unSubscribe listener foregroundOnly =>
      apply Moved.steady
      simp only [exec, unSubscribeSystemProcess]
      split
      · rfl
      · split <;> exact .of_same rfl rfl rfl (List.suffix_refl _)
  | listenerDied remoteObject => exact .steady (.of_same rfl rfl rfl (List.suffix_refl _))
  | subscribeList procNames listener callingPid => exact .steady subscribeSystemProcessList_steady
  | unSubscribeList procNames listener callingPid => exact .steady unSubscribeSystemProcessList_steady

end Processes

end Scheduler

end Samgr
