import Samgr.Schedule.Operations
import Samgr.Schedule.Chart

/-! Every function of the scheduler is a path of chart changes. The lemmas follow the
functions of the model one by one and say which changes each of them can make. -/
namespace Samgr

/-- A state transition that was refused because a counter was empty. -/
def Event.IsCountFail (event : Event) : Prop :=
  ∃ sa current next, event = .transition sa current next .updateStateCountFail

/-- The load requests handled for an ability, oldest first, from a log kept newest first. -/
def loadsOf (systemAbilityId : Int) : List Event → List LoadRequestInfo
  | [] => []
  | .handleLoad id request :: log =>
      loadsOf systemAbilityId log ++ if id = systemAbilityId then [request] else []
  | _ :: log => loadsOf systemAbilityId log

/-- How often the ability has been moved to UNLOADABLE. -/
def unloadableMoves (systemAbilityId : Int) (log : List Event) : Nat :=
  log.count (.transition systemAbilityId .loaded .unloadable .errOk)

/-- An event that the chart does not see. -/
def Event.quiet : Event → Bool
  | .handleLoad _ _ => false
  | .transition _ _ _ .updateStateCountFail => false
  | .transition _ .loaded .unloadable .errOk => false
  | _ => true

theorem loadsOf_quiet {event : Event} (quiet : event.quiet = true) (id : Int) (log : List Event) :
    loadsOf id (event :: log) = loadsOf id log := by
  cases event <;> first | rfl | cases quiet

theorem not_isCountFail_of_quiet {event : Event} (quiet : event.quiet = true) :
    ¬ event.IsCountFail := by
  rintro ⟨sa, current, next, rfl⟩
  cases quiet

theorem unloadableMoves_quiet {event : Event} (quiet : event.quiet = true) (id : Int)
    (log : List Event) : unloadableMoves id (event :: log) = unloadableMoves id log := by
  refine List.count_cons_of_ne fun same => ?_
  rw [same] at quiet
  cases quiet

theorem unloadableMoves_append_quiet {events : List Event}
    (quiet : ∀ event ∈ events, event.quiet = true) (id : Int) (log : List Event) :
    unloadableMoves id (events ++ log) = unloadableMoves id log := by
  induction events with
  | nil => rfl
  | cons event events hypothesis =>
      rw [List.cons_append, unloadableMoves_quiet (quiet event (List.mem_cons_self ..))]
      exact hypothesis fun other member => quiet other (List.mem_cons_of_mem _ member)

theorem loadsOf_append_quiet {events : List Event} (quiet : ∀ event ∈ events, event.quiet = true)
    (id : Int) (log : List Event) : loadsOf id (events ++ log) = loadsOf id log := by
  induction events with
  | nil => rfl
  | cons event events hypothesis =>
      rw [List.cons_append, loadsOf_quiet (quiet event (List.mem_cons_self ..))]
      exact hypothesis fun other member => quiet other (List.mem_cons_of_mem _ member)

namespace Scheduler

variable (env : Env) (s : Scheduler)

/-- A delay-unload task of the ability that is waiting in the handler or has been started. -/
def DelayTask (systemAbilityId : Int) : Prop :=
  (∃ handle, (handle, systemAbilityId) ∈ s.unloadEventHandler.waiting) ∨
    ∃ phase, s.unloadEventRunning = some (systemAbilityId, phase)

def chart : Chart where
  ids := s.abilityIds
  names := s.processNames
  own := s.ownProcessName
  saList := fun processName => (s.process processName).saList
  state := fun id => (s.ability id).state
  pendingEvent := fun id => (s.ability id).pendingEvent
  pended := fun id => (s.ability id).pendingLoadEventList
  proc := fun processName => (s.process processName).state
  count := fun processName => (s.process processName).abilityStateCountMap
  timer := s.DelayTask
  loads := fun id => loadsOf id s.log
  idled := fun id => unloadableMoves id s.log
  ident := fun processName => ((s.process processName).pid, (s.process processName).uid)
  running := s.runningProcessList
  failed := ∃ event ∈ s.log, event.IsCountFail

variable {env s}

/-- The chart depends on the contexts, the unload handler and the failures in the log only. -/
theorem chart_congr {t : Scheduler} (ids : t.abilityIds = s.abilityIds)
    (names : t.processNames = s.processNames)
    (ability : t.ability = s.ability) (process : t.process = s.process)
    (handler : t.unloadEventHandler = s.unloadEventHandler)
    (running : t.unloadEventRunning = s.unloadEventRunning)
    (processes : t.runningProcessList = s.runningProcessList)
    (loads : (fun id => loadsOf id t.log) = fun id => loadsOf id s.log)
    (idled : (fun id => unloadableMoves id t.log) = fun id => unloadableMoves id s.log)
    (failed : (∃ event ∈ t.log, event.IsCountFail) ↔ ∃ event ∈ s.log, event.IsCountFail) :
    t.chart = s.chart := by
  have timer : t.DelayTask = s.DelayTask := by
    funext id
    simp only [DelayTask, handler, running]
  have own : t.ownProcessName = s.ownProcessName := by
    funext id
    simp only [ownProcessName, ability]
  simp only [chart, ids, names, ability, process, timer, own, processes, loads, idled, failed]

theorem chart_emit {event : Event} (quiet : event.quiet = true) : (s.emit event).chart = s.chart :=
  chart_congr rfl rfl rfl rfl rfl rfl rfl (funext fun id => loadsOf_quiet quiet id s.log)
    (funext fun id => unloadableMoves_quiet quiet id s.log) (by simp [emit, not_isCountFail_of_quiet quiet])

theorem chart_emit_countFail {sa : Int} {current next : SystemAbilityState} :
    (s.emit (.transition sa current next .updateStateCountFail)).chart =
      { s.chart with failed := True } := by
  have failed : ∃ event ∈ (s.emit (.transition sa current next .updateStateCountFail)).log,
      event.IsCountFail := by simp [emit, Event.IsCountFail]
  have idled : (fun id => unloadableMoves id
      (s.emit (.transition sa current next .updateStateCountFail)).log) =
      fun id => unloadableMoves id s.log := by
    funext id
    simp [unloadableMoves, emit]
  simp only [chart, failed, idled]
  rfl

theorem chart_emit_transition {sa : Int} {current next : SystemAbilityState}
    (enterable : next.canEnter current = true) :
    (s.emit (.transition sa current next .errOk)).chart =
      { s.chart with
        idled := if next = .unloadable then
            Function.update s.chart.idled sa (s.chart.idled sa + 1) else s.chart.idled } := by
  have failed : (∃ event ∈ (s.emit (.transition sa current next .errOk)).log, event.IsCountFail) ↔
      ∃ event ∈ s.log, event.IsCountFail := by simp [emit, Event.IsCountFail]
  have idled : (fun id => unloadableMoves id (s.emit (.transition sa current next .errOk)).log) =
      if next = .unloadable then
        Function.update (fun id => unloadableMoves id s.log) sa (unloadableMoves sa s.log + 1)
      else fun id => unloadableMoves id s.log := by
    funext id
    by_cases unloads : next = .unloadable
    · subst unloads
      have loaded : current = .loaded := by simpa [SystemAbilityState.canEnter] using enterable
      subst loaded
      by_cases same : id = sa
      · simp [unloadableMoves, emit, same]
      · simp [unloadableMoves, emit, same, Ne.symm same]
    · simp [unloadableMoves, emit, unloads]
  simp only [chart, failed, idled]
  rfl

theorem chart_notifyAll {listeners : List RemoteInterface} {event : RemoteInterface → Event}
    (quiet : ∀ listener, (event listener).quiet = true) :
    (s.notifyAll listeners event).chart = s.chart := by
  have events : ∀ other ∈ (listeners.map event).reverse, other.quiet = true := by
    intro other member
    obtain ⟨listener, -, rfl⟩ := List.mem_map.mp (List.mem_reverse.mp member)
    exact quiet listener
  refine chart_congr rfl rfl rfl rfl rfl rfl rfl (funext fun id => loadsOf_append_quiet events id s.log)
    (funext fun id => unloadableMoves_append_quiet events id s.log) ?_
  simp only [notifyAll, List.mem_append]
  constructor
  · rintro ⟨other, member | member, fails⟩
    · exact absurd fails (not_isCountFail_of_quiet (events other member))
    · exact ⟨other, member, fails⟩
  · rintro ⟨other, member, fails⟩
    exact ⟨other, Or.inr member, fails⟩

theorem chart_setAbility {sa : Int} {f : SystemAbilityContext → SystemAbilityContext}
    (own : (f (s.ability sa)).ownProcessContext = (s.ability sa).ownProcessContext) :
    (s.setAbility sa f).chart =
      { s.chart with
        state := Function.update s.chart.state sa (f (s.ability sa)).state
        pendingEvent := Function.update s.chart.pendingEvent sa (f (s.ability sa)).pendingEvent
        pended := Function.update s.chart.pended sa (f (s.ability sa)).pendingLoadEventList } := by
  have field {β : Type} (g : SystemAbilityContext → β) :
      (fun id => g ((s.setAbility sa f).ability id)) =
        Function.update (fun id => g (s.ability id)) sa (g (f (s.ability sa))) := by
    funext id
    by_cases same : id = sa <;> simp [setAbility, same]
  have owns : (s.setAbility sa f).ownProcessName = s.ownProcessName := by
    change (fun id => ((s.setAbility sa f).ability id).ownProcessContext) = _
    rw [field, own]
    exact Function.update_eq_self sa _
  simp only [chart, field SystemAbilityContext.state, field SystemAbilityContext.pendingEvent,
    field SystemAbilityContext.pendingLoadEventList, owns]
  rfl

theorem chart_setAbility_sameState {sa : Int} {f : SystemAbilityContext → SystemAbilityContext}
    (own : (f (s.ability sa)).ownProcessContext = (s.ability sa).ownProcessContext)
    (state : (f (s.ability sa)).state = (s.ability sa).state) :
    (s.setAbility sa f).chart =
      { s.chart with
        pendingEvent := Function.update s.chart.pendingEvent sa (f (s.ability sa)).pendingEvent
        pended := Function.update s.chart.pended sa (f (s.ability sa)).pendingLoadEventList } := by
  rw [chart_setAbility own, state]
  have same : Function.update s.chart.state sa (s.ability sa).state = s.chart.state :=
    Function.update_eq_self sa _
  rw [same]

/-- An update of an ability context that leaves its lifecycle data alone. -/
theorem chart_setAbility_quiet {sa : Int} {f : SystemAbilityContext → SystemAbilityContext}
    (own : (f (s.ability sa)).ownProcessContext = (s.ability sa).ownProcessContext)
    (state : (f (s.ability sa)).state = (s.ability sa).state)
    (pendingEvent : (f (s.ability sa)).pendingEvent = (s.ability sa).pendingEvent)
    (pended : (f (s.ability sa)).pendingLoadEventList = (s.ability sa).pendingLoadEventList) :
    (s.setAbility sa f).chart = s.chart := by
  rw [chart_setAbility_sameState own state, pendingEvent, pended]
  change { s.chart with
    pendingEvent := Function.update s.chart.pendingEvent sa (s.chart.pendingEvent sa)
    pended := Function.update s.chart.pended sa (s.chart.pended sa) } = s.chart
  simp only [Function.update_eq_self]

theorem chart_setProcess {processName : String} {f : SystemProcessContext → SystemProcessContext}
    (saList : (f (s.process processName)).saList = (s.process processName).saList) :
    (s.setProcess processName f).chart =
      { s.chart with
        proc := Function.update s.chart.proc processName (f (s.process processName)).state
        count := Function.update s.chart.count processName
          (f (s.process processName)).abilityStateCountMap
        ident := Function.update s.chart.ident processName
          ((f (s.process processName)).pid, (f (s.process processName)).uid) } := by
  have field {β : Type} (g : SystemProcessContext → β) :
      (fun name => g ((s.setProcess processName f).process name)) =
        Function.update (fun name => g (s.process name)) processName
          (g (f (s.process processName))) := by
    funext name
    by_cases same : name = processName <;> simp [setProcess, same]
  have lists : (fun name => ((s.setProcess processName f).process name).saList) =
      fun name => (s.process name).saList := by
    rw [field, saList]
    exact Function.update_eq_self processName _
  simp only [chart, lists, field SystemProcessContext.state,
    field SystemProcessContext.abilityStateCountMap,
    field fun context => (context.pid, context.uid)]
  rfl

theorem chart_setProcess_quiet {processName : String}
    {f : SystemProcessContext → SystemProcessContext}
    (saList : (f (s.process processName)).saList = (s.process processName).saList)
    (state : (f (s.process processName)).state = (s.process processName).state)
    (count : (f (s.process processName)).abilityStateCountMap =
      (s.process processName).abilityStateCountMap)
    (pid : (f (s.process processName)).pid = (s.process processName).pid)
    (uid : (f (s.process processName)).uid = (s.process processName).uid) :
    (s.setProcess processName f).chart = s.chart := by
  rw [chart_setProcess saList, state, count, pid, uid]
  change { s.chart with
    proc := Function.update s.chart.proc processName (s.chart.proc processName)
    count := Function.update s.chart.count processName (s.chart.count processName)
    ident := Function.update s.chart.ident processName (s.chart.ident processName) } = s.chart
  simp only [Function.update_eq_self]

theorem chart_setState {sa : Int} {nextState : SystemAbilityState} :
    (s.setAbility sa fun context => { context with state := nextState }).chart =
      { s.chart with state := Function.update s.chart.state sa nextState } := by
  rw [chart_setAbility rfl]
  change { s.chart with
    state := Function.update s.chart.state sa nextState
    pendingEvent := Function.update s.chart.pendingEvent sa (s.chart.pendingEvent sa)
    pended := Function.update s.chart.pended sa (s.chart.pended sa) } = _
  simp only [Function.update_eq_self]

theorem chart_setPendingEvent {sa : Int} {event : PendingEvent} :
    (s.setAbility sa fun context => { context with pendingEvent := event }).chart =
      { s.chart with pendingEvent := Function.update s.chart.pendingEvent sa event } := by
  rw [chart_setAbility_sameState rfl rfl]
  change { s.chart with
    pendingEvent := Function.update s.chart.pendingEvent sa event
    pended := Function.update s.chart.pended sa (s.chart.pended sa) } = _
  simp only [Function.update_eq_self]

theorem chart_setProcessState {processName : String} {nextState : SystemProcessState} :
    (s.setProcess processName fun context => { context with state := nextState }).chart =
      { s.chart with proc := Function.update s.chart.proc processName nextState } := by
  rw [chart_setProcess rfl]
  change { s.chart with
    proc := Function.update s.chart.proc processName nextState
    count := Function.update s.chart.count processName (s.chart.count processName)
    ident := Function.update s.chart.ident processName (s.chart.ident processName) } = _
  simp only [Function.update_eq_self]

theorem chart_setCount {processName : String} {count : SystemAbilityState → Nat} :
    (s.setProcess processName fun _ =>
        { s.process processName with abilityStateCountMap := count }).chart =
      { s.chart with count := Function.update s.chart.count processName count } := by
  rw [chart_setProcess rfl]
  change { s.chart with
    proc := Function.update s.chart.proc processName (s.chart.proc processName)
    count := Function.update s.chart.count processName count
    ident := Function.update s.chart.ident processName (s.chart.ident processName) } = _
  simp only [Function.update_eq_self]

open Chart

variable {P : Change → Prop}

theorem path_of_eq {t : Scheduler} (same : t.chart = s.chart) : Path P s.chart t.chart := by
  rw [same]

theorem Path.listed {t : Scheduler} (path : Path P s.chart t.chart) {sa : Int}
    (listed : sa ∈ s.abilityIds) : sa ∈ t.abilityIds := by
  have same : t.abilityIds = s.abilityIds := path.sameLayout.ids
  rwa [same]

/-- A transition is one counted change, a refusal, or nothing, followed by what the
handler of the new state does. -/
theorem abilityStateTransitionLocked_path {onEnter : Scheduler → Int → Scheduler} {sa : Int}
    {nextState : SystemAbilityState} (listed : sa ∈ s.abilityIds)
    (moves : ∀ fromState, nextState.canEnter fromState → P (.transit sa fromState nextState))
    (fails : P (.countFail sa))
    (loads : nextState = .loading → (s.ownProcess sa).state ≠ .stopping)
    (enters : ∀ t : Scheduler, sa ∈ t.abilityIds → Path P t.chart (onEnter t sa).chart) :
    Path P s.chart (s.abilityStateTransitionLocked onEnter sa nextState).1.chart := by
  simp only [abilityStateTransitionLocked]
  split
  · rename_i same
    refine path_of_eq (chart_emit ?_)
    rw [same]
    cases nextState <;> rfl
  · split
    · exact path_of_eq (chart_emit (by cases (s.ability sa).state <;> cases nextState <;> rfl))
    · rename_i different enterable
      simp only [Bool.not_eq_eq_eq_not, Bool.not_true, Bool.not_eq_false] at enterable
      by_cases empty : (s.ownProcess sa).abilityStateCountMap (s.ability sa).state = 0
      · simp only [updateStateCount, empty, if_true]
        exact Chart.Path.single fails ⟨listed, empty, chart_emit_countFail⟩
      · simp only [updateStateCount, empty, if_false]
        refine Chart.Path.trans (Chart.Path.single (moves _ enterable)
          ⟨listed, rfl, enterable, empty, loads, ?_⟩) (enters _ listed)
        rw [chart_emit_transition enterable, chart_setState, ownProcess, chart_setCount]
        rfl

@[simp] theorem chart_postProcessTask {task : ProcessTask} :
    (s.postProcessTask env task).chart = s.chart := by
  simp only [postProcessTask]
  split
  · exact chart_congr rfl rfl rfl rfl rfl rfl rfl rfl rfl Iff.rfl
  · rfl

theorem removeDelayUnloadEventLocked_path {sa : Int} (drops : P .dropTimers) :
    Path P s.chart (s.removeDelayUnloadEventLocked sa).chart := by
  simp only [removeDelayUnloadEventLocked]
  split
  · refine Chart.Path.single drops
      ⟨DelayTask { s with unloadEventHandler := s.unloadEventHandler.removeTask sa }, ?_, rfl⟩
    rintro id (⟨handle, waits⟩ | runs)
    · exact Or.inl ⟨handle, (TaskQueue.mem_waiting_removeTask.mp waits).1⟩
    · exact Or.inr runs
  · rfl

theorem removePendingUnloadEventLocked_path {sa : Int} (resets : P (.resetUnload sa)) :
    Path P s.chart (s.removePendingUnloadEventLocked sa).chart := by
  simp only [removePendingUnloadEventLocked]
  split
  · rename_i pending
    exact Chart.Path.single resets ⟨pending, chart_setPendingEvent⟩
  · rfl

theorem sendDelayUnloadEventLocked_path {sa delayTime : Int} (starts : P (.startTimer sa)) :
    Path P s.chart (s.sendDelayUnloadEventLocked env sa delayTime).1.chart := by
  simp only [sendDelayUnloadEventLocked]
  split
  · rfl
  · split
    · rfl
    · refine Chart.Path.single starts ?_
      have timer : DelayTask { s with
          unloadEventHandler := s.unloadEventHandler.postNamed sa sa } =
          fun id => id = sa ∨ s.DelayTask id := by
        funext id
        simp only [DelayTask, TaskQueue.mem_waiting_postNamed, Prod.mk.injEq, eq_iff_iff]
        constructor
        · rintro (⟨handle, ⟨-, same⟩ | waits⟩ | runs)
          · exact Or.inl same
          · exact Or.inr (Or.inl ⟨handle, waits⟩)
          · exact Or.inr (Or.inr runs)
        · rintro (same | ⟨handle, waits⟩ | runs)
          · exact Or.inl ⟨_, Or.inl ⟨rfl, same⟩⟩
          · exact Or.inl ⟨handle, Or.inr waits⟩
          · exact Or.inr runs
      simp only [Step, chart, timer]
      rfl

theorem onEnterNothing_path {κ : Type} {t : Scheduler} {key : κ} :
    Path P t.chart (onEnterNothing t key).chart := by
  rfl

/-! The abilities a load, a leave or an unload of one ability concerns. -/

/-- The changes of a load request, a check-and-start, a cancelled unload and a reported
load of the ability. -/
def LoadChange (sa : Int) : Change → Prop
  | .transit id _ toState => id = sa ∧ (toState = .loading ∨ toState = .loaded)
  | .countFail id => id = sa
  | .resetUnload id => id = sa
  | .pend id _ => id = sa
  | .dropTimers => True
  | _ => False

/-- The same without the entry into LOADING. -/
def ActiveChange (sa : Int) : Change → Prop
  | .transit id _ toState => id = sa ∧ toState = .loaded
  | .countFail id => id = sa
  | .resetUnload id => id = sa
  | .pend id _ => id = sa
  | .dropTimers => True
  | _ => False

theorem ActiveChange.load {sa : Int} {c : Change} (change : ActiveChange sa c) : LoadChange sa c := by
  cases c with
  | transit id fromState toState => exact ⟨change.1, Or.inr change.2⟩
  | _ => exact change

/-- The changes of an ability that goes back to NOT_LOADED. -/
def LeaveChange (sa : Int) : Change → Prop
  | .transit id _ toState => id = sa ∧ toState = .notLoaded
  | .countFail id => id = sa
  | .resetUnload id => id = sa
  | .dropTimers => True
  | _ => False

/-- The changes of an unload request of the ability, immediate, delayed or pended. -/
def UnloadChange (sa : Int) : Change → Prop
  | .transit id _ toState => id = sa ∧ (toState = .unloadable ∨ toState = .unloading)
  | .countFail id => id = sa
  | .resetUnload id => id = sa
  | .pendUnload id => id = sa
  | .startTimer id => id = sa
  | _ => False

theorem onAbilityNotLoadedLocked_path {sa : Int} (drops : P .dropTimers)
    (resets : P (.resetUnload sa)) :
    Path P s.chart (s.onAbilityNotLoadedLocked env sa).chart := by
  have cleared : Path P s.chart
      ((s.removeDelayUnloadEventLocked sa).removePendingUnloadEventLocked sa).chart :=
    (removeDelayUnloadEventLocked_path drops).trans (removePendingUnloadEventLocked_path resets)
  simp only [onAbilityNotLoadedLocked]
  split <;> simpa using cleared

theorem toNotLoaded_path {sa : Int} (listed : sa ∈ s.abilityIds) :
    Path (LeaveChange sa) s.chart (s.toNotLoaded env sa).1.chart :=
  abilityStateTransitionLocked_path listed (fun _ _ => ⟨rfl, rfl⟩) rfl nofun
    fun _ _ => onAbilityNotLoadedLocked_path trivial rfl

theorem toLoading_path {sa : Int} (listed : sa ∈ s.abilityIds)
    (running : (s.ownProcess sa).state ≠ .stopping) :
    Path (LoadChange sa) s.chart (s.toLoading sa).1.chart :=
  abilityStateTransitionLocked_path listed (fun _ _ => ⟨rfl, Or.inl rfl⟩) rfl (fun _ => running)
    fun _ _ => onEnterNothing_path

theorem chart_onAbilityLoadedLocked {sa : Int} :
    (s.onAbilityLoadedLocked env sa).chart = s.chart := by
  have entered : (s.setAbility sa fun context => { context with lastIdleTime := -1 }).chart =
      s.chart := chart_setAbility_quiet rfl rfl rfl rfl
  simp only [onAbilityLoadedLocked]
  split
  · rw [notifyProcessActivated, chart_notifyAll fun _ => rfl,
      chart_postProcessTask, entered]
  · rw [chart_postProcessTask, entered]

theorem toLoaded_path {sa : Int} (listed : sa ∈ s.abilityIds) :
    Path (ActiveChange sa) s.chart (s.toLoaded env sa).1.chart :=
  abilityStateTransitionLocked_path listed (fun _ _ => ⟨rfl, rfl⟩) rfl nofun
    fun _ _ => path_of_eq chart_onAbilityLoadedLocked

theorem doUnloadSystemAbilityLocked_path {sa : Int} (listed : sa ∈ s.abilityIds)
    (moves : P (.transit sa .unloadable .unloading)) (fails : P (.countFail sa)) :
    Path P s.chart (s.doUnloadSystemAbilityLocked env sa).1.chart := by
  simp only [doUnloadSystemAbilityLocked]
  split
  · rfl
  · rename_i request _
    have asked : (s.emit (.doUnloadSystemAbility sa request.unloadEvent
        (env.doUnloadSystemAbility s.now))).chart = s.chart :=
      chart_emit rfl
    split
    · rw [← asked]
      refine abilityStateTransitionLocked_path listed ?_ fails nofun
        fun _ _ => onEnterNothing_path
      intro fromState enterable
      have source : fromState = .unloadable := by
        simpa [SystemAbilityState.canEnter] using enterable
      exact source ▸ moves
    · exact path_of_eq asked

theorem onAbilityUnloadableLocked_path {sa : Int} (listed : sa ∈ s.abilityIds) :
    Path (UnloadChange sa) s.chart (s.onAbilityUnloadableLocked env sa).chart := by
  have entered : (s.setAbility sa fun context =>
      { context with lastIdleTime := env.getTickCount s.now 0 }).chart = s.chart :=
    chart_setAbility_quiet rfl rfl rfl rfl
  simp only [onAbilityUnloadableLocked, chart_postProcessTask]
  generalize (s.setAbility sa fun context =>
    { context with lastIdleTime := env.getTickCount s.now 0 }) = t at entered ⊢
  have notified : (if t.isProcessIdledLocked (t.ownProcessName sa) then
      t.notifyProcessIdled (t.ownProcessName sa) else t).chart = s.chart := by
    split
    · rw [notifyProcessIdled, chart_notifyAll fun _ => rfl, entered]
    · exact entered
  generalize (if t.isProcessIdledLocked (t.ownProcessName sa) then
    t.notifyProcessIdled (t.ownProcessName sa) else t) = u at notified ⊢
  rw [← notified]
  split
  · have stays : u.abilityIds = s.abilityIds := congrArg Chart.ids notified
    exact doUnloadSystemAbilityLocked_path (stays ▸ listed) ⟨rfl, Or.inr rfl⟩ rfl
  · rfl

theorem toUnloadable_path {sa : Int} (listed : sa ∈ s.abilityIds) :
    Path (UnloadChange sa) s.chart (s.toUnloadable env sa).1.chart :=
  abilityStateTransitionLocked_path listed (fun _ _ => ⟨rfl, Or.inl rfl⟩) rfl nofun
    fun _ listed => onAbilityUnloadableLocked_path listed

/-- A request that is to be kept may first set the stamp of the process. Then it is there already, or
there are too many, or it comes last. -/
theorem pendLoadEventLocked_cases (env : Env) (s : Scheduler) (sa : Int) (request : LoadRequestInfo) :
    ∃ t : Scheduler, (t = s ∨ ∃ stamp, t = s.setProcess (s.ownProcessName sa) fun context =>
        { context with pendingLoadFirstTimestamp := stamp }) ∧
      ((s.pendLoadEventLocked env sa request).1 = t ∨
        (∃ handler, (s.pendLoadEventLocked env sa request).1 = { t with recoverHandler := handler }) ∨
        ∃ counts, (s.pendLoadEventLocked env sa request).1 =
          (t.setAbility sa fun context =>
            { context with
              pendingLoadEventCountMap := counts
              pendingLoadEventList := context.pendingLoadEventList ++ [request]
              pendingEvent := .loadAbilityEvent }).emit (.pended sa request)) := by
  simp only [pendLoadEventLocked]
  split
  · exact ⟨s, .inl rfl, .inl rfl⟩
  · refine ⟨if (s.process (s.ownProcessName sa)).pendingLoadFirstTimestamp = 0 then
        s.setProcess (s.ownProcessName sa) fun context =>
          { context with pendingLoadFirstTimestamp := env.getTickCount s.now 0 }
      else s, ?_, ?_⟩
    · split
      · exact .inr ⟨_, rfl⟩
      · exact .inl rfl
    · generalize (if (s.process (s.ownProcessName sa)).pendingLoadFirstTimestamp = 0 then
          s.setProcess (s.ownProcessName sa) fun context =>
            { context with pendingLoadFirstTimestamp := env.getTickCount s.now 0 }
        else s) = t
      split
      · exact .inl rfl
      · right
        split
        · rw [handlePendingLoadOverflow]
          split
          · exact .inl ⟨_, rfl⟩
          · exact .inl ⟨_, rfl⟩
        · exact .inr ⟨_, rfl⟩

theorem pendLoadEventLocked_path {sa : Int} {request : LoadRequestInfo}
    (leaving : s.pendsLoad sa = true) (pends : P (.pend sa request)) :
    Path P s.chart (s.pendLoadEventLocked env sa request).1.chart := by
  have leaves : s.chart.Leaving sa := by
    simp only [pendsLoad, Bool.or_eq_true, beq_iff_eq] at leaving
    exact leaving
  obtain ⟨t, origin, result⟩ := pendLoadEventLocked_cases env s sa request
  have stamped : t.chart = s.chart := by
    rcases origin with rfl | ⟨stamp, rfl⟩
    · rfl
    · exact chart_setProcess_quiet rfl rfl rfl rfl rfl
  rw [← stamped] at leaves ⊢
  rcases result with same | ⟨handler, same⟩ | ⟨counts, same⟩
  · rw [same]
  · rw [same]
    exact path_of_eq (chart_congr rfl rfl rfl rfl rfl rfl rfl rfl rfl Iff.rfl)
  · refine Chart.Path.single pends ⟨leaves, ?_⟩
    rw [same, chart_emit rfl, chart_setAbility_sameState rfl rfl]
    rfl

theorem activeSystemAbilityLocked_path {sa : Int} {reason : OnDemandEvent}
    (listed : sa ∈ s.abilityIds) :
    Path (ActiveChange sa) s.chart (s.activeSystemAbilityLocked env sa reason).1.chart := by
  have asked : (s.emit (.activeSystemAbility sa reason (env.activeSystemAbility s.now))).chart =
      s.chart := chart_emit rfl
  simp only [activeSystemAbilityLocked]
  split
  · rw [← asked]
    exact toLoaded_path listed
  · exact path_of_eq asked

theorem beginLoad_path {sa : Int} {request : LoadRequestInfo} (listed : sa ∈ s.abilityIds) :
    Path (ActiveChange sa) (s.emit (.handleLoad sa request)).chart
      (s.beginLoad env sa request).1.chart := by
  simp only [beginLoad]
  split
  · exact pendLoadEventLocked_path (by assumption) rfl
  · split
    · exact removePendingUnloadEventLocked_path rfl
    · exact removeDelayUnloadEventLocked_path trivial
    · exact activeSystemAbilityLocked_path listed
    · rfl
    · rfl

theorem finishLoad_path {sa : Int} {result : ErrCode} (listed : sa ∈ s.abilityIds)
    (running : (s.ownProcess sa).state ≠ .stopping) :
    Path (LoadChange sa) s.chart (s.finishLoad sa result).1.chart := by
  simp only [finishLoad]
  split
  · exact toLoading_path listed running
  · rfl

theorem pendsLoad_of_beginLoad_none {sa : Int} {request : LoadRequestInfo}
    (goesOn : (s.beginLoad env sa request).2 = none) : s.pendsLoad sa = false := by
  by_contra pends
  have pends : (s.emit (.handleLoad sa request)).pendsLoad sa = true :=
    eq_true_of_ne_false pends
  simp [beginLoad, pends] at goesOn

theorem doLoadSystemAbilityLocked_path {sa : Int} {request : LoadRequestInfo}
    (listed : sa ∈ s.abilityIds) (running : (s.ownProcess sa).state ≠ .stopping) :
    Path (LoadChange sa) s.chart (s.doLoadSystemAbilityLocked env sa request).1.chart := by
  have asked : (s.emit (.doLoadSystemAbility sa request
      (env.doLoadSystemAbility s.now))).chart = s.chart := chart_emit rfl
  simp only [doLoadSystemAbilityLocked]
  rw [← asked]
  exact finishLoad_path listed running

/-- A load path does not stop or start the process of the ability. -/
theorem ownProcess_state_of_loadPath {t : Scheduler} {sa : Int}
    (path : Path (LoadChange sa) s.chart t.chart) (id : Int) :
    (t.ownProcess id).state = (s.ownProcess id).state := by
  have procs : t.chart.proc = s.chart.proc := path.proc_eq fun _ _ impossible => impossible
  have owns : t.chart.own = s.chart.own := path.sameLayout.own
  change t.chart.proc (t.chart.own id) = s.chart.proc (s.chart.own id)
  rw [procs, owns]

/-- The manager is asked to load only in a process that is not stopping. -/
theorem running_of_beginLoad {sa : Int} {request : LoadRequestInfo} {begun : Scheduler}
    (listed : sa ∈ s.abilityIds) (verdict : s.beginLoad env sa request = (begun, none)) :
    sa ∈ begun.abilityIds ∧ (begun.ownProcess sa).state ≠ .stopping := by
  have begins : Path (LoadChange sa) (s.emit (.handleLoad sa request)).chart
      (s.beginLoad env sa request).1.chart := (beginLoad_path listed).mono fun _ => ActiveChange.load
  have goesOn : (s.beginLoad env sa request).2 = none := by rw [verdict]
  have stays := pendsLoad_of_beginLoad_none goesOn
  rw [verdict] at begins
  refine ⟨Path.listed begins listed, ?_⟩
  rw [ownProcess_state_of_loadPath begins]
  change (s.ownProcess sa).state ≠ .stopping
  simp only [pendsLoad, Bool.or_eq_false_iff, beq_eq_false_iff_ne] at stays
  exact stays.2

/-- After a request is entered in the log it makes load changes only. -/
theorem handleLoadAbilityEventLocked_path {sa : Int} {request : LoadRequestInfo}
    (listed : sa ∈ s.abilityIds) :
    Path (LoadChange sa) (s.emit (.handleLoad sa request)).chart
      (s.handleLoadAbilityEventLocked env sa request).1.chart := by
  have begins : Path (LoadChange sa) (s.emit (.handleLoad sa request)).chart
      (s.beginLoad env sa request).1.chart := (beginLoad_path listed).mono fun _ => ActiveChange.load
  simp only [handleLoadAbilityEventLocked]
  split
  · rename_i begun result verdict
    simpa [verdict] using begins
  · rename_i begun verdict
    obtain ⟨stillListed, running⟩ := running_of_beginLoad listed verdict
    rw [verdict] at begins
    exact begins.trans (doLoadSystemAbilityLocked_path stillListed running)

/-- The changes of a load request, with its entry in the log. -/
def RequestChange (sa : Int) (c : Change) : Prop := LoadChange sa c ∨ ∃ request, c = .handle sa request

theorem handle_step {sa : Int} {request : LoadRequestInfo} :
    Step s.chart (s.emit (.handleLoad sa request)).chart (.handle sa request) := by
  have loads : (fun id => loadsOf id (s.emit (.handleLoad sa request)).log) =
      Function.update (fun id => loadsOf id s.log) sa (loadsOf sa s.log ++ [request]) := by
    funext id
    by_cases same : id = sa
    · simp [emit, loadsOf, same]
    · simp [emit, loadsOf, same, Ne.symm same]
  have failed : (∃ event ∈ (s.emit (.handleLoad sa request)).log, event.IsCountFail) ↔
      ∃ event ∈ s.log, event.IsCountFail := by simp [emit, Event.IsCountFail]
  simp only [Step, chart, loads, failed]
  rfl

theorem handleLoadAbilityEventLocked_request {sa : Int} {request : LoadRequestInfo}
    (listed : sa ∈ s.abilityIds) :
    Path (RequestChange sa) s.chart (s.handleLoadAbilityEventLocked env sa request).1.chart :=
  (Chart.Path.single (Or.inr ⟨request, rfl⟩) handle_step).trans
    ((handleLoadAbilityEventLocked_path listed).mono fun _ => Or.inl)

theorem handleLoadAbilityEvent_path {request : LoadRequestInfo} :
    Path (RequestChange request.systemAbilityId) s.chart
      (s.handleLoadAbilityEvent env request).1.chart := by
  simp only [handleLoadAbilityEvent]
  split
  · exact handleLoadAbilityEventLocked_request (by assumption)
  · rfl

theorem finishCheckStart_path {sa : Int} {result : Bool} (listed : sa ∈ s.abilityIds)
    (running : (s.ownProcess sa).state ≠ .stopping) :
    Path (LoadChange sa) s.chart (s.finishCheckStart sa result).1.chart := by
  simp only [finishCheckStart]
  split
  · exact toLoading_path listed running
  · rfl

theorem beginCheckStart_none {sa : Int} (goesOn : s.beginCheckStart sa = none) :
    sa ∈ s.abilityIds ∧ (s.ownProcess sa).state = .started ∧ (s.ability sa).state = .notLoaded := by
  simp only [beginCheckStart] at goesOn
  split at goesOn
  · cases goesOn
  · rename_i listed
    split at goesOn
    · cases goesOn
    · split at goesOn
      · exact ⟨by simpa using listed, by assumption, by assumption⟩
      · cases goesOn
    · cases goesOn

theorem checkStartAbilityEvent_path {sa : Int} :
    Path (LoadChange sa) s.chart (s.checkStartAbilityEvent env sa).1.chart := by
  simp only [checkStartAbilityEvent]
  split
  · rfl
  · rename_i goesOn
    obtain ⟨listed, started, -⟩ := beginCheckStart_none goesOn
    have asked : (s.emit (.doLoadOnDemandAbility sa (env.doLoadOnDemandAbility s.now).1
        (env.doLoadOnDemandAbility s.now).2)).chart = s.chart :=
      chart_emit rfl
    rw [← asked]
    refine finishCheckStart_path listed ?_
    change (s.ownProcess sa).state ≠ .stopping
    simp [started]

theorem processDelayUnloadEventLocked_path {sa : Int} (listed : sa ∈ s.abilityIds) :
    Path (UnloadChange sa) s.chart (s.processDelayUnloadEventLocked env sa).1.chart := by
  simp only [processDelayUnloadEventLocked]
  split
  · rfl
  · rename_i request _
    split
    · rfl
    · have asked : (s.emit (.idleSystemAbility sa request.unloadEvent
          (env.idleSystemAbility s.now))).chart = s.chart :=
        chart_emit rfl
      rw [← asked]
      split
      · rfl
      · split
        · rfl
        · split
          · exact toUnloadable_path listed
          · exact sendDelayUnloadEventLocked_path rfl

theorem pendUnloadEventLocked_path {sa : Int} {request : UnloadRequestInfo}
    (loading : (s.ability sa).state = .loading) :
    Path (UnloadChange sa) s.chart (s.pendUnloadEventLocked sa request).1.chart := by
  refine Chart.Path.single (c := .pendUnload sa) rfl ⟨loading, ?_⟩
  have same : Function.update s.chart.pended sa (s.ability sa).pendingLoadEventList =
      s.chart.pended := Function.update_eq_self sa _
  simp only [pendUnloadEventLocked]
  rw [chart_setAbility_sameState rfl rfl, same]

theorem handleUnloadAbilityEventLocked_path {sa : Int} {request : Option UnloadRequestInfo}
    (listed : sa ∈ s.abilityIds) :
    Path (UnloadChange sa) s.chart (s.handleUnloadAbilityEventLocked env sa request).1.chart := by
  simp only [handleUnloadAbilityEventLocked]
  split
  · rfl
  · rename_i request
    have noted : (s.setAbility sa fun context =>
        { context with unloadRequest := some request }).chart = s.chart :=
      chart_setAbility_quiet rfl rfl rfl rfl
    rw [← noted]
    split
    · exact pendUnloadEventLocked_path (by assumption)
    · split
      · exact processDelayUnloadEventLocked_path listed
      · exact sendDelayUnloadEventLocked_path rfl
    · rfl

theorem handleUnloadAbilityEvent_path {request : UnloadRequestInfo} :
    Path (UnloadChange request.systemAbilityId) s.chart
      (s.handleUnloadAbilityEvent env (some request)).1.chart := by
  simp only [handleUnloadAbilityEvent]
  split
  · exact handleUnloadAbilityEventLocked_path (by assumption)
  · rfl

theorem handlePendingUnloadEventLocked_path {sa : Int} (listed : sa ∈ s.abilityIds) :
    Path (UnloadChange sa) s.chart (s.handlePendingUnloadEventLocked env sa).1.chart := by
  simp only [handlePendingUnloadEventLocked]
  split
  · rfl
  · rename_i pending
    simp only [ne_eq, Decidable.not_not] at pending
    refine Chart.Path.trans (Chart.Path.single (c := .resetUnload sa) rfl ⟨pending, chart_setPendingEvent⟩) ?_
    exact handleUnloadAbilityEventLocked_path listed

theorem handleCancelUnloadAbilityEvent_path {sa : Int} :
    Path (ActiveChange sa) s.chart (s.handleCancelUnloadAbilityEvent env sa).1.chart := by
  simp only [handleCancelUnloadAbilityEvent]
  split
  · rfl
  · rename_i listed
    split
    · exact activeSystemAbilityLocked_path (by simpa using listed)
    · rfl

theorem leaveLoading_path {sa : Int} (listed : sa ∈ s.abilityIds) :
    Path (LeaveChange sa) s.chart
      ((s.removePendingUnloadEventLocked sa).toNotLoaded env sa).1.chart := by
  have reset : Path (LeaveChange sa) s.chart (s.removePendingUnloadEventLocked sa).chart :=
    removePendingUnloadEventLocked_path rfl
  exact reset.trans (toNotLoaded_path (Path.listed reset listed))

theorem handleAbilityLoadFailedEventLocked_path {sa : Int} (listed : sa ∈ s.abilityIds) :
    Path (LeaveChange sa) s.chart (s.handleAbilityLoadFailedEventLocked env sa).1.chart := by
  simp only [handleAbilityLoadFailedEventLocked]
  split
  · exact leaveLoading_path listed
  · rfl

theorem handleAbilityLoadSuccessEventLocked_path {sa : Int} (listed : sa ∈ s.abilityIds) :
    Path (ActiveChange sa) s.chart (s.handleAbilityLoadSuccessEventLocked env sa).1.chart := by
  simp only [handleAbilityLoadSuccessEventLocked]
  split
  · exact toLoaded_path listed
  · exact toLoaded_path listed
  · rfl

theorem handleAbilityUnLoadSuccessEventLocked_path {sa : Int} (listed : sa ∈ s.abilityIds) :
    Path (LeaveChange sa) s.chart (s.handleAbilityUnLoadSuccessEventLocked env sa).1.chart := by
  simp only [handleAbilityUnLoadSuccessEventLocked]
  split
  · exact leaveLoading_path listed
  · exact toNotLoaded_path listed
  · exact toNotLoaded_path listed
  · exact toNotLoaded_path listed
  · rfl

theorem foldl_path {κ : Type} {f : Scheduler → κ → Scheduler} {items : List κ}
    (each : ∀ t item, item ∈ items → t.abilityIds = s.abilityIds →
      Path P t.chart (f t item).chart) :
    Path P s.chart (items.foldl f s).chart := by
  induction items generalizing s with
  | nil => rfl
  | cons item rest hypothesis =>
      have first := each s item (List.mem_cons_self ..) rfl
      have ids : (f s item).abilityIds = s.abilityIds := first.sameLayout.ids
      refine first.trans (hypothesis fun t other member same => ?_)
      exact each t other (List.mem_cons_of_mem _ member) (same.trans ids)

/-- The changes of one ability of a process that has stopped: it leaves, and the loads
pended on it, or its restart, are handled. -/
def StopChange (sa : Int) (c : Change) : Prop :=
  LeaveChange sa c ∨ RequestChange sa c ∨ c = .resetLoad sa ∨ c = .clearPended sa

theorem StopChange.of_leave {sa : Int} {c : Change} (change : LeaveChange sa c) : StopChange sa c :=
  Or.inl change

theorem StopChange.of_request {sa : Int} {c : Change} (change : RequestChange sa c) :
    StopChange sa c :=
  Or.inr (Or.inl change)

theorem replayPendingLoads_path {sa : Int} {requests : List LoadRequestInfo}
    (listed : sa ∈ s.abilityIds) :
    Path (RequestChange sa) s.chart (replayPendingLoads env sa requests s).chart := by
  induction requests generalizing s with
  | nil => rfl
  | cons request rest hypothesis =>
      have first : Path (RequestChange sa) s.chart
          (s.handleLoadAbilityEventLocked env sa request).1.chart :=
        handleLoadAbilityEventLocked_request listed
      exact first.trans (hypothesis (Path.listed first listed))

theorem clearPendingLoads_path {sa : Int} (clears : P (.clearPended sa)) :
    Path P s.chart (s.clearPendingLoads sa).chart := by
  refine Chart.Path.single clears ?_
  have same : Function.update s.chart.pendingEvent sa (s.ability sa).pendingEvent =
      s.chart.pendingEvent := Function.update_eq_self sa _
  simp only [clearPendingLoads, Step]
  rw [chart_setAbility_sameState rfl rfl, same]

theorem handlePendingLoadEventLocked_path {sa : Int} (listed : sa ∈ s.abilityIds) :
    Path (StopChange sa) s.chart (s.handlePendingLoadEventLocked env sa).chart := by
  simp only [handlePendingLoadEventLocked]
  split
  · rfl
  · rename_i pending
    simp only [ne_eq, Decidable.not_not] at pending
    have begins : Path (StopChange sa) s.chart (s.setAbility sa fun context =>
        { context with pendingEvent := .noEvent }).chart :=
      Chart.Path.single (Or.inr (Or.inr (Or.inl rfl))) ⟨pending, chart_setPendingEvent⟩
    refine Chart.Path.trans ?_ (clearPendingLoads_path (Or.inr (Or.inr (Or.inr rfl))))
    exact begins.trans (Path.mono (fun _ => StopChange.of_request)
      (replayPendingLoads_path (Path.listed begins listed)))

theorem stopAbility_path {sa : Int} :
    Path (StopChange sa) s.chart (s.stopAbility env sa).chart := by
  simp only [stopAbility]
  split
  · rfl
  · rename_i listed
    have leaves : Path (StopChange sa) s.chart (s.toNotLoaded env sa).1.chart :=
      (toNotLoaded_path (by simpa using listed)).mono fun _ => StopChange.of_leave
    split
    · exact leaves.trans (handlePendingLoadEventLocked_path
        (Path.listed leaves (by simpa using listed)))
    · exact leaves

@[simp] theorem chart_abnormallyDied {sa : Int} : (s.abnormallyDied env sa).1.chart = s.chart := by
  have crashed : (s.emit (.sendUpdateSaState sa)).chart = s.chart :=
    chart_emit rfl
  simp only [abnormallyDied]
  split
  · rfl
  · split
    · split
      · rw [chart_emit rfl, crashed]
      · exact crashed
    · split
      · rw [chart_emit rfl, crashed]
      · exact crashed
    · rfl

@[simp] theorem chart_getAbnormallyDiedAbilityLocked {sas : List Int} :
    (getAbnormallyDiedAbilityLocked env sas s).1.chart = s.chart := by
  induction sas generalizing s with
  | nil => rfl
  | cons sa rest hypothesis =>
      simp only [getAbnormallyDiedAbilityLocked]
      rw [hypothesis, chart_abnormallyDied]

theorem listed_of_abnormallyDied {sa : Int} (restarts : (s.abnormallyDied env sa).2 = true) :
    sa ∈ s.abilityIds := by
  by_contra absent
  simp [abnormallyDied, absent] at restarts

theorem listed_of_getAbnormallyDied {sas : List Int} {sa : Int}
    (died : sa ∈ (getAbnormallyDiedAbilityLocked env sas s).2) : sa ∈ s.abilityIds := by
  induction sas generalizing s with
  | nil => cases died
  | cons head rest hypothesis =>
      have ids : (s.abnormallyDied env head).1.abilityIds = s.abilityIds :=
        congrArg Chart.ids chart_abnormallyDied
      simp only [getAbnormallyDiedAbilityLocked] at died
      split at died
      · rename_i restarts
        rcases List.mem_cons.mp died with rfl | died
        · exact listed_of_abnormallyDied restarts
        · exact ids ▸ hypothesis died
      · exact ids ▸ hypothesis died

@[simp] theorem chart_canRestartProcessLocked {processName : String} :
    (s.canRestartProcessLocked env processName).1.chart = s.chart := by
  simp only [canRestartProcessLocked]
  split
  · rfl
  · split
    · exact chart_setProcess_quiet rfl rfl rfl rfl rfl
    · split
      · split
        · exact chart_setProcess_quiet rfl rfl rfl rfl rfl
        · exact chart_setProcess_quiet rfl rfl rfl rfl rfl
      · rfl

theorem restartAbility_path {sa : Int} (listed : sa ∈ s.abilityIds) :
    Path (RequestChange sa) s.chart (s.restartAbility env sa).chart := by
  have removed : (s.emit (.removeDiedSystemAbility sa)).chart = s.chart :=
    chart_emit rfl
  simp only [restartAbility]
  rw [← removed]
  exact handleLoadAbilityEventLocked_request listed

theorem handleAbnormallyDiedAbilityLocked_path {processName : String} {died : List Int}
    (listed : ∀ sa ∈ died, sa ∈ s.abilityIds) :
    Path (fun c => ∃ sa, RequestChange sa c) s.chart
      (s.handleAbnormallyDiedAbilityLocked env processName died).chart := by
  simp only [handleAbnormallyDiedAbilityLocked]
  split
  · rfl
  · have allowed : (s.canRestartProcessLocked env processName).1.chart = s.chart :=
      chart_canRestartProcessLocked
    split
    · rw [← allowed]
      refine foldl_path fun t sa member ids => ?_
      have stays : (s.canRestartProcessLocked env processName).1.abilityIds = s.abilityIds :=
        congrArg Chart.ids allowed
      exact (restartAbility_path (by rw [ids, stays]; exact listed sa member)).mono
        fun _ change => ⟨sa, change⟩
    · exact path_of_eq allowed

@[simp] theorem chart_leaveProcess {processName : String} :
    (s.leaveProcess env processName).chart = s.chart := by
  have notified : (s.notifyProcessStopped env processName).chart = s.chart := by
    rw [notifyProcessStopped, chart_notifyAll fun _ => rfl]
  simp only [leaveProcess]
  rw [chart_emit rfl, ← notified]
  exact chart_congr rfl rfl rfl rfl rfl rfl rfl rfl rfl Iff.rfl

/-- The state in which the loop over the abilities of the stopped process begins, and the
abilities to restart after it. -/
def beginStop (env : Env) (s : Scheduler) (processName : String) : Scheduler × List Int :=
  let left := (s.setProcess processName fun context =>
    { context with
      lastStopTime := env.getTickCount s.now 0
      pendingLoadFirstTimestamp := 0 }).leaveProcess env processName
  getAbnormallyDiedAbilityLocked env (left.process processName).saList left

theorem onProcessNotStartedLocked_eq {processName : String} :
    s.onProcessNotStartedLocked env processName =
      ((((s.beginStop env processName).1.process processName).saList.foldl (stopAbility env)
        (s.beginStop env processName).1).handleAbnormallyDiedAbilityLocked env processName
        (s.beginStop env processName).2) := rfl

theorem chart_beginStop {processName : String} :
    (s.beginStop env processName).1.chart = s.chart := by
  rw [beginStop, chart_getAbnormallyDiedAbilityLocked, chart_leaveProcess]
  exact chart_setProcess_quiet rfl rfl rfl rfl rfl

theorem listed_of_beginStop {processName : String} {sa : Int}
    (died : sa ∈ (s.beginStop env processName).2) : sa ∈ s.abilityIds := by
  have left : ((s.setProcess processName fun context =>
      { context with
        lastStopTime := env.getTickCount s.now 0
        pendingLoadFirstTimestamp := 0 }).leaveProcess env processName).chart = s.chart :=
    chart_leaveProcess.trans (chart_setProcess_quiet rfl rfl rfl rfl rfl)
  change sa ∈ s.chart.ids
  rw [← left]
  exact listed_of_getAbnormallyDied died

theorem stopAbilities_path {sas : List Int} :
    Path (fun c => ∃ sa, StopChange sa c) s.chart (sas.foldl (stopAbility env) s).chart :=
  foldl_path fun _ sa _ _ => stopAbility_path.mono fun _ change => ⟨sa, change⟩

theorem onProcessNotStartedLocked_path {processName : String} :
    Path (fun c => ∃ sa, StopChange sa c) s.chart
      (s.onProcessNotStartedLocked env processName).chart := by
  have begun : (s.beginStop env processName).1.chart = s.chart := chart_beginStop
  have ids : (s.beginStop env processName).1.abilityIds = s.abilityIds :=
    congrArg Chart.ids begun
  rw [onProcessNotStartedLocked_eq, ← begun]
  refine stopAbilities_path.trans
    ((handleAbnormallyDiedAbilityLocked_path fun sa died => ?_).mono
      fun _ ⟨sa, change⟩ => ⟨sa, StopChange.of_request change⟩)
  exact Path.listed stopAbilities_path (ids ▸ listed_of_beginStop died)

theorem processStateTransitionLocked_path {onEnter : Scheduler → String → Scheduler}
    {processName : String} {nextState : SystemProcessState}
    (moves : P (.process processName nextState))
    (idle : nextState = .stopping → s.chart.Idle processName)
    (enters : ∀ t : Scheduler, Path P t.chart (onEnter t processName).chart) :
    Path P s.chart (s.processStateTransitionLocked onEnter processName nextState).1.chart := by
  simp only [processStateTransitionLocked]
  split
  · rfl
  · split
    · rfl
    · rename_i enterable
      refine Chart.Path.trans (Chart.Path.single moves ⟨?_, idle, chart_setProcessState⟩) (enters _)
      simpa [chart] using enterable

theorem noteProcess_path {processInfo : ProcessInfo} (enrolls : P (.enroll processInfo.processName)) :
    Path P s.chart (s.setProcess processInfo.processName fun context =>
      { context with pid := processInfo.pid, uid := processInfo.uid }).chart := by
  refine Chart.Path.single enrolls
    ⟨(processInfo.pid, processInfo.uid), s.runningProcessList, fun _ _ => rfl, ?_⟩
  rw [chart_setProcess rfl]
  change { s.chart with
    proc := Function.update s.chart.proc processInfo.processName
      (s.chart.proc processInfo.processName)
    count := Function.update s.chart.count processInfo.processName
      (s.chart.count processInfo.processName)
    ident := Function.update s.chart.ident processInfo.processName
      (processInfo.pid, processInfo.uid) } = _
  simp only [Function.update_eq_self]
  rfl

/-- The changes of a process that has started. -/
def ProcessStartChange (processName : String) (c : Change) : Prop :=
  c = .process processName .started ∨ c = .enroll processName

theorem handleProcessStartedEventLocked_path {processInfo : ProcessInfo} :
    Path (ProcessStartChange processInfo.processName) s.chart
      (s.handleProcessStartedEventLocked env processInfo).1.chart := by
  simp only [handleProcessStartedEventLocked]
  refine (noteProcess_path (Or.inr rfl)).trans ?_
  split
  · refine processStateTransitionLocked_path (Or.inl rfl) nofun fun t => path_of_eq ?_
    rw [notifyProcessStarted, chart_notifyAll fun _ => rfl]
  · rfl

/-- The changes of a stopped process. -/
def ProcessStopChange (processName : String) (c : Change) : Prop :=
  c = .process processName .notStarted ∨ ∃ sa, StopChange sa c

theorem handleProcessStoppedEventLocked_path {processInfo : ProcessInfo} :
    Path (ProcessStopChange processInfo.processName) s.chart
      (s.handleProcessStoppedEventLocked env processInfo).1.chart := by
  have stops : ∀ t : Scheduler, Path (ProcessStopChange processInfo.processName) t.chart
      (t.onProcessNotStartedLocked env processInfo.processName).chart :=
    fun t => onProcessNotStartedLocked_path.mono fun _ => Or.inr
  simp only [handleProcessStoppedEventLocked]
  split
  · exact processStateTransitionLocked_path (Or.inl rfl) nofun stops
  · exact processStateTransitionLocked_path (Or.inl rfl) nofun stops
  · rfl

theorem chart_setRunning {running : List SystemProcessInfo} :
    ({ s with runningProcessList := running } : Scheduler).chart = { s.chart with running } := rfl

theorem setRunning_path {processName : String} {running : List SystemProcessInfo}
    (enrolls : P (.enroll processName))
    (elsewhere : ∀ name, name ≠ processName →
      entriesOf name running = entriesOf name s.runningProcessList) :
    Path P s.chart ({ s with runningProcessList := running } : Scheduler).chart := by
  refine Chart.Path.single enrolls ⟨s.chart.ident processName, running, elsewhere, ?_⟩
  rw [chart_setRunning, Function.update_eq_self]

theorem addRunningProcessLocked_path {processName : String} (enrolls : P (.enroll processName)) :
    Path P s.chart (s.addRunningProcessLocked processName).chart := by
  simp only [addRunningProcessLocked]
  split
  · refine setRunning_path enrolls fun name other => ?_
    exact entriesOf_replaceF_of_ne other rfl
  · refine setRunning_path enrolls fun name other => ?_
    simp [entriesOf, systemProcessInfo, Ne.symm other]

theorem removeRunningProcessLocked_path {processName : String} (enrolls : P (.enroll processName)) :
    Path P s.chart (s.removeRunningProcessLocked processName).chart :=
  setRunning_path enrolls fun _ other => entriesOf_eraseP_of_ne other

/-- The changes of a process whose abilities are all unloaded. -/
def UnloadAllChange (processName : String) : Change → Prop
  | .transit _ fromState toState => fromState = .unloadable ∧ toState = .unloading
  | .countFail _ => True
  | .process name toState => name = processName ∧ toState = .stopping
  | _ => False

theorem unloadOne_path {sa : Int} (moves : P (.transit sa .unloadable .unloading))
    (fails : P (.countFail sa)) : Path P s.chart (s.unloadOne env sa).chart := by
  simp only [unloadOne]
  split
  · rfl
  · rename_i listed
    split
    · exact doUnloadSystemAbilityLocked_path (by simpa using listed) moves fails
    · rfl

/-- Unloading unloadable abilities leaves every process idle that is. -/
theorem idle_of_unloadStep {x y : Chart} {processName name : String} {c : Change}
    (allowed : UnloadAllChange processName c) (step : Step x y c) (idle : x.Idle name) : y.Idle name := by
  cases c with
  | transit sa fromState toState =>
      obtain ⟨rfl, rfl⟩ := allowed
      obtain ⟨-, -, -, positive, -, rfl⟩ := step
      by_cases own : x.own sa = name
      · subst own
        simp only [Idle, moveCount, Function.update_self, ne_eq, reduceCtorEq, not_false_eq_true,
          Function.update_of_ne] at idle ⊢
        omega
      · simpa [Idle, Function.update_of_ne (Ne.symm own)] using idle
  | countFail sa =>
      obtain ⟨-, -, rfl⟩ := step
      exact idle
  | process other toState =>
      obtain ⟨-, -, rfl⟩ := step
      exact idle
  | _ => exact allowed.elim

theorem idle_of_unloadPath {x y : Chart} {processName : String}
    (path : Path (fun c => UnloadAllChange processName c ∧ ∀ name toState, c ≠ .process name toState)
      x y) (idle : x.Idle processName) : y.Idle processName :=
  path.keeps (fun z => z.Idle processName) (fun allowed step => idle_of_unloadStep allowed.1 step) idle

theorem unloadAllSystemAbilityLocked_path {processName : String}
    (idle : s.chart.Idle processName) :
    Path (UnloadAllChange processName) s.chart
      (s.unloadAllSystemAbilityLocked env processName).1.chart := by
  have unloads : Path (fun c => UnloadAllChange processName c ∧
      ∀ name toState, c ≠ .process name toState) s.chart
      ((s.process processName).saList.foldl (unloadOne env) s).chart :=
    foldl_path fun t sa _ _ => unloadOne_path ⟨⟨rfl, rfl⟩, nofun⟩ ⟨trivial, nofun⟩
  have stillIdle := idle_of_unloadPath unloads idle
  have unloaded := unloads.mono fun _ allowed => allowed.1
  simp only [unloadAllSystemAbilityLocked]
  generalize (s.process processName).saList.foldl (unloadOne env) s = t at unloaded stillIdle ⊢
  have posted : (t.postUnloadTimeoutTask env processName).chart = t.chart := by
    simp only [postUnloadTimeoutTask]
    split
    · exact chart_congr rfl rfl rfl rfl rfl rfl rfl rfl rfl Iff.rfl
    · rfl
  rw [← posted] at unloaded stillIdle
  exact unloaded.trans (processStateTransitionLocked_path ⟨rfl, rfl⟩ (fun _ => stillIdle)
    fun _ => onEnterNothing_path)

theorem idle_of_canUnloadAll {processName : String} {checks : Bool}
    (can : s.canUnloadAllSystemAbilityLocked env processName checks = true) :
    s.chart.Idle processName := by
  simp only [canUnloadAllSystemAbilityLocked] at can
  split at can
  · cases can
  · split at can
    · assumption
    · cases can

theorem tryUnloadAllSystemAbility_path {processName : String} :
    Path (UnloadAllChange processName) s.chart
      (s.tryUnloadAllSystemAbility env processName).1.chart := by
  simp only [tryUnloadAllSystemAbility]
  split
  · rename_i can
    exact unloadAllSystemAbilityLocked_path (idle_of_canUnloadAll can)
  · rfl

theorem unloadProcess_path {processName : String} :
    Path (UnloadAllChange processName) s.chart (s.unloadProcess env processName).1.chart := by
  simp only [unloadProcess]
  split
  · rename_i can
    exact unloadAllSystemAbilityLocked_path (idle_of_canUnloadAll can.2)
  · rfl

@[simp] theorem chart_killSystemProcessLocked {processName : String} :
    (s.killSystemProcessLocked env processName).chart = s.chart :=
  chart_emit rfl

@[simp] theorem chart_tryKillSystemProcess {processName : String} :
    (s.tryKillSystemProcess env processName).chart = s.chart := by
  simp only [tryKillSystemProcess]
  split <;> simp

@[simp] theorem chart_updateLimitDelayUnloadTimeTask {sa : Int} :
    (s.updateLimitDelayUnloadTimeTask env sa).chart = s.chart := by
  simp only [updateLimitDelayUnloadTimeTask]
  split
  · rfl
  · exact chart_setAbility_quiet rfl rfl rfl rfl

/-- The changes of one task of the process handler. -/
def TaskChange : ProcessTask → Change → Prop
  | .pendingUnload sa, c => UnloadChange sa c
  | .tryUnloadAllSystemAbility processName, c => UnloadAllChange processName c
  | _, _ => False

theorem runProcessTask_path {task : ProcessTask} :
    Path (TaskChange task) s.chart (s.runProcessTask env task).chart := by
  cases task with
  | updateLimitDelayUnloadTime sa => exact path_of_eq chart_updateLimitDelayUnloadTimeTask
  | tryUnloadAllSystemAbility processName => exact tryUnloadAllSystemAbility_path
  | unloadTimeout processName => exact path_of_eq (chart_congr rfl rfl rfl rfl rfl rfl rfl rfl rfl Iff.rfl)
  | tryKillSystemProcess processName => exact path_of_eq chart_tryKillSystemProcess
  | pendingUnload sa =>
      simp only [runProcessTask]
      split
      · exact handlePendingUnloadEventLocked_path (by assumption)
      · rfl

@[simp] theorem chart_unloadTimeoutTask {processName : String} :
    (s.unloadTimeoutTask env processName).chart = s.chart := by
  simp only [unloadTimeoutTask]
  split <;> simp

theorem processPendingLoadOverflow_path {sa : Int} (clears : P (.clearPended sa)) :
    Path P s.chart (s.processPendingLoadOverflow env sa).chart := by
  simp only [processPendingLoadOverflow]
  split
  · rfl
  · have cleared : Path P s.chart (s.clearPendingLoadOverflow sa).chart := by
      refine (clearPendingLoads_path clears).trans (path_of_eq ?_)
      exact chart_setProcess_quiet rfl rfl rfl rfl rfl
    split
    · simpa using cleared
    · split
      · rw [chart_emit rfl]
        exact cleared
      · exact cleared

theorem chart_subscribeOneProcess {listener : RemoteInterface} {callingPid : Int} {procName : String} :
    (s.subscribeOneProcess listener callingPid procName).1.chart = s.chart := by
  simp only [subscribeOneProcess]
  split
  · rfl
  · split
    · exact chart_congr rfl rfl rfl rfl rfl rfl rfl rfl rfl Iff.rfl
    · split
      · exact chart_congr rfl rfl rfl rfl rfl rfl rfl rfl rfl Iff.rfl
      · exact chart_congr rfl rfl rfl rfl rfl rfl rfl rfl rfl Iff.rfl

theorem chart_subscribeSystemProcessList {listener : RemoteInterface} {callingPid : Int}
    {procNames : List String} :
    (subscribeSystemProcessList listener callingPid procNames s).1.chart = s.chart := by
  induction procNames generalizing s with
  | nil => rfl
  | cons procName rest hypothesis =>
      simp only [subscribeSystemProcessList]
      split
      · exact hypothesis.trans chart_subscribeOneProcess
      · exact chart_subscribeOneProcess

theorem chart_unSubscribeSystemProcessList {listener : RemoteInterface} {callingPid : Int}
    {procNames : List String} :
    (s.unSubscribeSystemProcessList listener callingPid procNames).chart = s.chart := by
  induction procNames generalizing s with
  | nil => rfl
  | cons procName rest hypothesis =>
      refine hypothesis.trans ?_
      simp only [unSubscribeOneProcess]
      split
      · rfl
      · exact chart_congr rfl rfl rfl rfl rfl rfl rfl rfl rfl Iff.rfl

/-- The changes an operation can make in the state it finds. -/
def OpChange (s : Scheduler) : Op → Change → Prop
  | .load request => RequestChange request.systemAbilityId
  | .checkStart sa => LoadChange sa
  | .unload (some request) => UnloadChange request.systemAbilityId
  | .cancelUnload sa => ActiveChange sa
  | .abilityEvent sa .abilityLoadSuccessEvent => ActiveChange sa
  | .abilityEvent sa _ => LeaveChange sa
  | .processEvent info .processStartedEvent => ProcessStartChange info.processName
  | .processEvent info .processStoppedEvent => fun c =>
      ProcessStopChange info.processName c ∨ c = .enroll info.processName
  | .unloadProcess processName => UnloadAllChange processName
  | .startProcessTask => fun c =>
      ∃ task rest, s.processHandler.pop = some (task, rest) ∧ TaskChange task c
  | .startUnloadEvent => fun c => c = .dropTimers
  | .stepUnloadEvent => fun c => c = .dropTimers ∨
      ∃ sa, s.unloadEventRunning = some (sa, .waitingForLock) ∧ UnloadChange sa c
  | .runRecoverTask => fun c =>
      ∃ sa rest, s.recoverHandler.pop = some (sa, rest) ∧ c = .clearPended sa
  | _ => fun _ => False

theorem startProcessTask_path :
    Path (OpChange s .startProcessTask) s.chart (s.startProcessTask env).chart := by
  simp only [startProcessTask]
  split
  · rename_i task rest _ popped
    have taken : ({ s with processHandler := rest } : Scheduler).chart = s.chart :=
      chart_congr rfl rfl rfl rfl rfl rfl rfl rfl rfl Iff.rfl
    rw [← taken]
    exact runProcessTask_path.mono fun c change => ⟨task, rest, popped, change⟩
  · rfl

theorem chart_stepUnloadTimeout : (s.stepUnloadTimeout env).chart = s.chart := by
  simp only [stepUnloadTimeout]
  split
  · rfl
  · exact chart_congr rfl rfl rfl rfl rfl rfl rfl rfl rfl Iff.rfl
  · rw [chart_unloadTimeoutTask]
    exact chart_congr rfl rfl rfl rfl rfl rfl rfl rfl rfl Iff.rfl

/-- The chart of a state that differs only in the unload handler. -/
theorem dropTimers_path {t : Scheduler} (ids : t.abilityIds = s.abilityIds)
    (names : t.processNames = s.processNames)
    (ability : t.ability = s.ability) (process : t.process = s.process) (log : t.log = s.log)
    (running : t.runningProcessList = s.runningProcessList)
    (fewer : ∀ id, t.DelayTask id → s.DelayTask id) (drops : P .dropTimers) :
    Path P s.chart t.chart := by
  refine Chart.Path.single drops ⟨t.DelayTask, fewer, ?_⟩
  have own : t.ownProcessName = s.ownProcessName := by
    funext id
    simp only [ownProcessName, ability]
  simp only [chart, ids, names, ability, process, log, own, running]

theorem startUnloadEvent_path :
    Path (OpChange s .startUnloadEvent) s.chart s.startUnloadEvent.chart := by
  simp only [startUnloadEvent]
  split
  · rename_i sa rest _ popped
    obtain ⟨handle, ready, -, -, -⟩ := TaskQueue.pop_eq_some popped
    refine dropTimers_path rfl rfl rfl rfl rfl rfl ?_ rfl
    rintro id (⟨other, waits⟩ | ⟨phase, runs⟩)
    · exact Or.inl ⟨other, TaskQueue.mem_waiting_pop popped waits⟩
    · obtain ⟨rfl, -⟩ := Prod.mk.injEq .. ▸ Option.some.inj runs
      exact Or.inl ⟨handle, by simp [TaskQueue.waiting, ready]⟩
  · rfl

theorem stepUnloadEvent_path :
    Path (OpChange s .stepUnloadEvent) s.chart (s.stepUnloadEvent env).chart := by
  simp only [stepUnloadEvent]
  split
  · rfl
  · rename_i sa runs
    refine dropTimers_path rfl rfl rfl rfl rfl rfl ?_ (Or.inl rfl)
    rintro id (waits | ⟨phase, same⟩)
    · exact Or.inl waits
    · obtain ⟨rfl, -⟩ := Prod.mk.injEq .. ▸ Option.some.inj same
      exact Or.inr ⟨_, runs⟩
  · rename_i sa runs
    have stopped : Path (OpChange s .stepUnloadEvent) s.chart
        ({ s with unloadEventRunning := none } : Scheduler).chart := by
      refine dropTimers_path rfl rfl rfl rfl rfl rfl ?_ (Or.inl rfl)
      rintro id (waits | ⟨phase, same⟩)
      · exact Or.inl waits
      · cases same
    refine stopped.trans ?_
    simp only [processDelayUnloadEvent]
    split
    · exact (processDelayUnloadEventLocked_path (by assumption)).mono
        fun _ change => Or.inr ⟨sa, runs, change⟩
    · rfl

theorem runRecoverTask_path :
    Path (OpChange s .runRecoverTask) s.chart (s.runRecoverTask env).chart := by
  simp only [runRecoverTask]
  split
  · rfl
  · rename_i sa rest popped
    have taken : ({ s with recoverHandler := rest } : Scheduler).chart = s.chart :=
      chart_congr rfl rfl rfl rfl rfl rfl rfl rfl rfl Iff.rfl
    rw [← taken]
    exact processPendingLoadOverflow_path ⟨sa, rest, popped, rfl⟩

theorem sendAbilityStateEvent_path {sa : Int} {event : AbilityStateEvent} :
    Path (OpChange s (.abilityEvent sa event)) s.chart
      (s.sendAbilityStateEvent env sa event).1.chart := by
  simp only [sendAbilityStateEvent]
  split
  · rfl
  · rename_i listed
    have listed : sa ∈ s.abilityIds := by simpa using listed
    cases event with
    | abilityLoadFailedEvent => exact handleAbilityLoadFailedEventLocked_path listed
    | abilityLoadSuccessEvent => exact handleAbilityLoadSuccessEventLocked_path listed
    | abilityUnloadSuccessEvent => exact handleAbilityUnLoadSuccessEventLocked_path listed

theorem sendProcessStateEvent_path {info : ProcessInfo} {event : ProcessStateEvent} :
    Path (OpChange s (.processEvent info event)) s.chart
      (s.sendProcessStateEvent env info event).1.chart := by
  simp only [sendProcessStateEvent]
  split
  · rfl
  · cases event with
    | processStartedEvent =>
        simp only
        split
        · exact handleProcessStartedEventLocked_path.trans
            (addRunningProcessLocked_path (Or.inr rfl))
        · exact handleProcessStartedEventLocked_path
    | processStoppedEvent =>
        simp only
        split
        · exact (handleProcessStoppedEventLocked_path.mono fun _ => Or.inl).trans
            (removeRunningProcessLocked_path (Or.inr rfl))
        · exact handleProcessStoppedEventLocked_path.mono fun _ => Or.inl

/-- Every operation is a path of the changes listed for it. -/
theorem exec_path {op : Op} : Path (OpChange s op) s.chart (s.exec env op).1.chart := by
  cases op with
  | load request => exact handleLoadAbilityEvent_path
  | checkStart sa => exact checkStartAbilityEvent_path
  | unload request =>
      cases request with
      | none => rfl
      | some request => exact handleUnloadAbilityEvent_path
  | cancelUnload sa => exact handleCancelUnloadAbilityEvent_path
  | abilityEvent sa event => exact sendAbilityStateEvent_path
  | processEvent info event => exact sendProcessStateEvent_path
  | unloadProcess processName => exact unloadProcess_path
  | updateLimitDelayUnloadTime sa => exact path_of_eq chart_postProcessTask
  | expire expiry =>
      cases expiry with
      | unloadEvent handle =>
          refine path_of_eq ?_
          have timer : ({ s with
              unloadEventHandler := s.unloadEventHandler.expire handle } : Scheduler).DelayTask =
              s.DelayTask := by
            funext id
            simp only [DelayTask, TaskQueue.mem_waiting_expire]
          simp only [exec, chart, timer]
          rfl
      | processTask handle => exact path_of_eq (chart_congr rfl rfl rfl rfl rfl rfl rfl rfl rfl Iff.rfl)
  | startProcessTask => exact startProcessTask_path
  | stepUnloadTimeout => exact path_of_eq chart_stepUnloadTimeout
  | startUnloadEvent => exact startUnloadEvent_path
  | stepUnloadEvent => exact stepUnloadEvent_path
  | runRecoverTask => exact runRecoverTask_path
  | subscribe listener foregroundOnly =>
      refine path_of_eq ?_
      simp only [exec, subscribeSystemProcess]
      split <;> exact chart_congr rfl rfl rfl rfl rfl rfl rfl rfl rfl Iff.rfl
  | unSubscribe listener foregroundOnly =>
      refine path_of_eq ?_
      simp only [exec, unSubscribeSystemProcess]
      split
      · rfl
      · split <;> exact chart_congr rfl rfl rfl rfl rfl rfl rfl rfl rfl Iff.rfl
  | listenerDied remoteObject => exact path_of_eq (chart_congr rfl rfl rfl rfl rfl rfl rfl rfl rfl Iff.rfl)
  | subscribeList procNames listener callingPid =>
      exact path_of_eq chart_subscribeSystemProcessList
  | unSubscribeList procNames listener callingPid =>
      exact path_of_eq chart_unSubscribeSystemProcessList

/-- What every chart change keeps holds after every run from a state where it holds. -/
theorem run_keeps {inv : Chart → Prop}
    (keep : ∀ {x y c}, Chart.Step x y c → inv x → inv y) {s : Scheduler} (ops : List (Env × Op))
    (start : inv s.chart) : inv (Runs.run step s ops).chart :=
  Runs.run_invariant (fun t : Scheduler => inv t.chart)
    (fun _ _ holds => exec_path.keeps inv (fun _ => keep) holds) ops start

end Scheduler

end Samgr
