import Samgr.Schedule.Refinement

/-! Whether a load request supersedes the unload requests made before it. An unload request
survives as a pending event, as the task that handles the pending event, or as a delay task
that is waiting or already started; a load request cancels a different one of these in each
state of the ability. -/
namespace Samgr

namespace Chart

variable {x y : Chart} {c : Change} {sa : Int}

/-- Nothing is left of an earlier unload request of the ability. -/
structure Clean (sa : Int) (x : Chart) : Prop where
  noPending : x.pendingEvent sa ≠ .unloadAbilityEvent
  noTimer : ¬ x.timer sa

/-- A change that is no step of an unload of the ability. -/
def Calm (sa : Int) : Change → Prop
  | .transit id _ toState => id = sa → toState ≠ .unloadable
  | .pendUnload id => id ≠ sa
  | .startTimer id => id ≠ sa
  | _ => True

theorem Clean.update {id : Int} {event : PendingEvent} (clean : Clean sa x)
    (other : id = sa → event ≠ .unloadAbilityEvent) :
    Function.update x.pendingEvent id event sa ≠ .unloadAbilityEvent := by
  by_cases same : sa = id
  · simpa [same] using other same.symm
  · simpa [Function.update_of_ne same] using clean.noPending

/-- Calm changes leave nothing of an unload behind and do not move the ability to UNLOADABLE. -/
theorem Step.clean (step : Step x y c) (calm : Calm sa c) (clean : Clean sa x) :
    Clean sa y ∧ y.idled sa = x.idled sa := by
  cases c with
  | transit id fromState toState =>
      obtain ⟨-, -, -, -, -, rfl⟩ := step
      refine ⟨{ clean with }, ?_⟩
      by_cases unloads : toState = .unloadable
      · have other : sa ≠ id := fun same => calm same.symm unloads
        simp [unloads, Function.update_of_ne other]
      · simp [unloads]
  | countFail id => obtain ⟨-, -, rfl⟩ := step; exact ⟨{ clean with }, rfl⟩
  | process processName toState => obtain ⟨-, -, rfl⟩ := step; exact ⟨{ clean with }, rfl⟩
  | pend id request =>
      obtain ⟨-, rfl⟩ := step
      exact ⟨⟨clean.update fun _ => nofun, clean.noTimer⟩, rfl⟩
  | clearPended id => cases step; exact ⟨{ clean with }, rfl⟩
  | resetLoad id =>
      obtain ⟨-, rfl⟩ := step
      exact ⟨⟨clean.update fun _ => nofun, clean.noTimer⟩, rfl⟩
  | pendUnload id =>
      obtain ⟨-, rfl⟩ := step
      exact ⟨⟨clean.update fun same => absurd same calm, clean.noTimer⟩, rfl⟩
  | resetUnload id =>
      obtain ⟨-, rfl⟩ := step
      exact ⟨⟨clean.update fun _ => nofun, clean.noTimer⟩, rfl⟩
  | startTimer id =>
      cases step
      refine ⟨⟨clean.noPending, ?_⟩, rfl⟩
      rintro (same | timer)
      · exact calm same.symm
      · exact clean.noTimer timer
  | dropTimers =>
      obtain ⟨timer, fewer, rfl⟩ := step
      exact ⟨⟨clean.noPending, fun left => clean.noTimer (fewer sa left)⟩, rfl⟩
  | handle id request => cases step; exact ⟨{ clean with }, rfl⟩
  | enroll processName => obtain ⟨who, running, -, rfl⟩ := step; exact ⟨{ clean with }, rfl⟩

theorem Path.clean {P : Change → Prop} (path : Path P x y) (calm : ∀ c, P c → Calm sa c)
    (clean : Clean sa x) : Clean sa y ∧ y.idled sa = x.idled sa := by
  refine path.keeps (fun z => Clean sa z ∧ z.idled sa = x.idled sa) ?_ ⟨clean, rfl⟩
  rintro z w c allowed step ⟨clean, same⟩
  obtain ⟨stays, count⟩ := step.clean (calm c allowed) clean
  exact ⟨stays, count.trans same⟩

end Chart

namespace Scheduler

open Chart

variable {env : Env} {s : Scheduler} {sa : Int} {c : Change}

theorem calm_of_load {id : Int} (change : LoadChange id c) : Calm sa c := by
  cases c with
  | transit other fromState toState =>
      rintro -
      rcases change.2 with rfl | rfl <;> nofun
  | pendUnload other => exact change.elim
  | startTimer other => exact change.elim
  | _ => trivial

theorem calm_of_leave {id : Int} (change : LeaveChange id c) : Calm sa c := by
  cases c with
  | transit other fromState toState =>
      rintro -
      rw [change.2]
      nofun
  | pendUnload other => exact change.elim
  | startTimer other => exact change.elim
  | _ => trivial

theorem calm_of_request {id : Int} (change : RequestChange id c) : Calm sa c := by
  rcases change with change | ⟨request, rfl⟩
  · exact calm_of_load change
  · trivial

theorem calm_of_processStop {processName : String} (change : ProcessStopChange processName c) :
    Calm sa c := by
  rcases change with rfl | ⟨id, change | change | rfl | rfl⟩
  · trivial
  · exact calm_of_leave change
  · exact calm_of_request change
  · trivial
  · trivial

theorem calm_of_unloadAll {processName : String} (change : UnloadAllChange processName c) :
    Calm sa c := by
  cases c with
  | transit other fromState toState =>
      rintro -
      rw [change.2]
      nofun
  | pendUnload other => exact change.elim
  | startTimer other => exact change.elim
  | _ => trivial

/-- An unload of another ability is calm for this one. -/
theorem calm_of_unload {id : Int} (other : id ≠ sa) (change : UnloadChange id c) : Calm sa c := by
  cases c with
  | transit otherId fromState toState => exact fun same => absurd (change.1.symm.trans same) other
  | pendUnload otherId => exact change ▸ other
  | startTimer otherId => exact change ▸ other
  | _ => trivial

/-- The operation is an unload request of the ability. -/
def IsUnloadOf (sa : Int) (op : Op) : Prop :=
  ∃ request, op = .unload (some request) ∧ request.systemAbilityId = sa

/-- The pending-unload task of a clean ability finds nothing to do. -/
theorem clean_startProcessTask (clean : Clean sa s.chart) :
    Clean sa (s.startProcessTask env).chart ∧
      (s.startProcessTask env).chart.idled sa = s.chart.idled sa := by
  simp only [startProcessTask]
  split
  · rename_i task rest _ _
    have taken : ({ s with processHandler := rest } : Scheduler).chart = s.chart :=
      chart_congr rfl rfl rfl rfl rfl rfl rfl rfl rfl Iff.rfl
    rw [← taken] at clean ⊢
    generalize ({ s with processHandler := rest } : Scheduler) = t at clean ⊢
    cases task with
    | pendingUnload id =>
        by_cases same : id = sa
        · subst same
          have idle : t.runProcessTask env (.pendingUnload id) = t := by
            have unpended : (t.ability id).pendingEvent ≠ .unloadAbilityEvent := clean.noPending
            simp [runProcessTask, handlePendingUnloadEventLocked, unpended]
          rw [idle]
          exact ⟨clean, rfl⟩
        · exact runProcessTask_path.clean (fun _ change => calm_of_unload same change) clean
    | tryUnloadAllSystemAbility processName =>
        exact runProcessTask_path.clean (fun _ change => calm_of_unloadAll change) clean
    | _ => exact runProcessTask_path.clean (fun _ change => change.elim) clean
  · exact ⟨clean, rfl⟩

/-- Every operation but an unload request of the ability keeps it clean and does not move it
to UNLOADABLE. -/
theorem clean_exec {op : Op} (clean : Clean sa s.chart) (noUnload : ¬ IsUnloadOf sa op) :
    Clean sa (s.exec env op).1.chart ∧ (s.exec env op).1.chart.idled sa = s.chart.idled sa := by
  cases op with
  | load request => exact exec_path.clean (fun _ => calm_of_request) clean
  | checkStart id => exact exec_path.clean (fun _ => calm_of_load) clean
  | cancelUnload id => exact exec_path.clean (fun _ change => calm_of_load change.load) clean
  | unload request =>
      cases request with
      | none => exact exec_path.clean (fun _ change => change.elim) clean
      | some request =>
          have other : request.systemAbilityId ≠ sa := fun same => noUnload ⟨request, rfl, same⟩
          exact exec_path.clean (fun _ => calm_of_unload other) clean
  | abilityEvent id event =>
      cases event with
      | abilityLoadSuccessEvent => exact exec_path.clean (fun _ change => calm_of_load change.load) clean
      | abilityLoadFailedEvent => exact exec_path.clean (fun _ => calm_of_leave) clean
      | abilityUnloadSuccessEvent => exact exec_path.clean (fun _ => calm_of_leave) clean
  | processEvent info event =>
      cases event with
      | processStartedEvent =>
          refine exec_path.clean (fun _ change => ?_) clean
          rcases change with rfl | rfl <;> trivial
      | processStoppedEvent =>
          refine exec_path.clean (fun _ change => ?_) clean
          rcases change with change | rfl
          · exact calm_of_processStop change
          · trivial
  | unloadProcess processName => exact exec_path.clean (fun _ => calm_of_unloadAll) clean
  | startProcessTask => exact clean_startProcessTask clean
  | startUnloadEvent => exact exec_path.clean (by rintro _ rfl; trivial) clean
  | stepUnloadEvent =>
      refine exec_path.clean ?_ clean
      rintro c (rfl | ⟨id, running, change⟩)
      · trivial
      · have other : id ≠ sa := fun same => clean.noTimer (Or.inr ⟨_, same ▸ running⟩)
        exact calm_of_unload other change
  | runRecoverTask => exact exec_path.clean (by rintro _ ⟨_, _, -, rfl⟩; trivial) clean
  | _ => exact exec_path.clean (fun _ change => change.elim) clean

theorem clean_run {ops : List (Env × Op)} (clean : Clean sa s.chart)
    (noUnload : ∀ label ∈ ops, ¬ IsUnloadOf sa label.2) :
    Clean sa (Runs.run step s ops).chart ∧
      (Runs.run step s ops).chart.idled sa = s.chart.idled sa := by
  induction ops generalizing s with
  | nil => exact ⟨clean, rfl⟩
  | cons label ops hypothesis =>
      have first : Clean sa (step s label).chart ∧
          (step s label).chart.idled sa = s.chart.idled sa :=
        clean_exec clean (noUnload label (List.mem_cons_self ..))
      obtain ⟨stays, count⟩ := first
      obtain ⟨later, counts⟩ := hypothesis stays fun other member =>
        noUnload other (List.mem_cons_of_mem _ member)
      exact ⟨later, counts.trans count⟩

/-- What a load request cancels: a pending unload of an ability that is LOADING, and the
delay tasks of an ability that is LOADED as far as they still wait under its name. -/
def LoadCancelsUnload (s : Scheduler) (sa : Int) : Prop :=
  ((s.ability sa).pendingEvent = .unloadAbilityEvent →
    (s.ability sa).state = .loading ∧ s.pendsLoad sa = false) ∧
  (s.DelayTask sa →
    (s.ability sa).state = .loaded ∧ s.pendsLoad sa = false ∧
    (∀ handle, (handle, sa) ∈ s.unloadEventHandler.waiting →
      handle ∈ s.unloadEventHandler.handles sa) ∧
    ∀ phase, s.unloadEventRunning ≠ some (sa, phase))

theorem clean_of_begun {request : LoadRequestInfo} {begun : Scheduler} (listed : sa ∈ s.abilityIds)
    (verdict : s.beginLoad env sa request = (begun, none)) (clean : Clean sa begun.chart) :
    Clean sa (s.handleLoadAbilityEventLocked env sa request).1.chart := by
  obtain ⟨stillListed, running⟩ := running_of_beginLoad listed verdict
  simp only [handleLoadAbilityEventLocked, verdict]
  exact ((doLoadSystemAbilityLocked_path stillListed running).clean
    (fun _ => calm_of_load) clean).1

/-- A load request of an ability that is LOADING drops its pending unload. -/
theorem clean_load_of_pending {request : LoadRequestInfo} (listed : sa ∈ s.abilityIds)
    (pending : (s.ability sa).pendingEvent = .unloadAbilityEvent)
    (loading : (s.ability sa).state = .loading) (goesOn : s.pendsLoad sa = false)
    (noTimer : ¬ s.DelayTask sa) :
    Clean sa (s.handleLoadAbilityEventLocked env sa request).1.chart := by
  have entered : (s.emit (.handleLoad sa request)).pendsLoad sa = false := goesOn
  have verdict : s.beginLoad env sa request =
      ((s.emit (.handleLoad sa request)).removePendingUnloadEventLocked sa, none) := by
    have state : ((s.emit (.handleLoad sa request)).ability sa).state = .loading := loading
    simp [beginLoad, entered, state]
  refine clean_of_begun listed verdict ⟨?_, ?_⟩
  · simp [removePendingUnloadEventLocked, emit, pending, chart, setAbility]
  · simp only [removePendingUnloadEventLocked, emit, pending, if_true]
    exact noTimer

/-- A load request of an ability that is LOADED cancels the delay tasks recorded for it. -/
theorem clean_load_of_timer {request : LoadRequestInfo} (listed : sa ∈ s.abilityIds)
    (unpended : (s.ability sa).pendingEvent ≠ .unloadAbilityEvent)
    (loaded : (s.ability sa).state = .loaded) (goesOn : s.pendsLoad sa = false)
    (recorded : ∀ handle, (handle, sa) ∈ s.unloadEventHandler.waiting →
      handle ∈ s.unloadEventHandler.handles sa)
    (notStarted : ∀ phase, s.unloadEventRunning ≠ some (sa, phase)) :
    Clean sa (s.handleLoadAbilityEventLocked env sa request).1.chart := by
  have entered : (s.emit (.handleLoad sa request)).pendsLoad sa = false := goesOn
  have verdict : s.beginLoad env sa request =
      ((s.emit (.handleLoad sa request)).removeDelayUnloadEventLocked sa, none) := by
    have state : ((s.emit (.handleLoad sa request)).ability sa).state = .loaded := loaded
    simp [beginLoad, entered, state]
  refine clean_of_begun listed verdict ⟨?_, ?_⟩
  · simp only [removeDelayUnloadEventLocked]
    split <;> exact unpended
  · simp only [removeDelayUnloadEventLocked]
    split
    · rintro (⟨handle, waits⟩ | ⟨phase, runs⟩)
      · obtain ⟨waited, unrecorded⟩ := TaskQueue.mem_waiting_removeTask.mp waits
        exact unrecorded (recorded handle waited)
      · exact notStarted phase runs
    · rename_i unnamed
      rintro (⟨handle, waits⟩ | ⟨phase, runs⟩)
      · have some := recorded handle waits
        simp only [emit, TaskQueue.hasNamed, Bool.not_eq_true', Bool.not_eq_false,
          List.isEmpty_iff] at unnamed
        rw [unnamed] at some
        cases some
      · exact notStarted phase runs

theorem clean_load {request : LoadRequestInfo} (listed : sa ∈ s.abilityIds)
    (cancels : LoadCancelsUnload s sa) :
    Clean sa (s.handleLoadAbilityEventLocked env sa request).1.chart := by
  obtain ⟨ofPending, ofTimer⟩ := cancels
  by_cases pending : (s.ability sa).pendingEvent = .unloadAbilityEvent
  · obtain ⟨loading, goesOn⟩ := ofPending pending
    refine clean_load_of_pending listed pending loading goesOn fun timer => ?_
    simp [(ofTimer timer).1] at loading
  · by_cases timer : s.DelayTask sa
    · obtain ⟨loaded, goesOn, recorded, notStarted⟩ := ofTimer timer
      exact clean_load_of_timer listed pending loaded goesOn recorded notStarted
    · exact ((handleLoadAbilityEventLocked_request listed).clean (fun _ => calm_of_request)
        ⟨pending, timer⟩).1

/-- After an accepted load request that finds no unload it cannot cancel, the ability is not
moved to UNLOADABLE in any continuation of the run without a new unload request for it. -/
theorem load_supersedes_unload (saProfiles : List SaProfile) (before after : List (Env × Op))
    (env : Env) (request : LoadRequestInfo)
    (accepted : ((runFrom saProfiles before).exec env (.load request)).2 = .errOk)
    (cancels : LoadCancelsUnload (runFrom saProfiles before) request.systemAbilityId)
    (noUnload : ∀ label ∈ after, ¬ IsUnloadOf request.systemAbilityId label.2) :
    let loaded := ((runFrom saProfiles before).exec env (.load request)).1
    unloadableMoves request.systemAbilityId (Runs.run step loaded after).log =
      unloadableMoves request.systemAbilityId loaded.log := by
  intro loaded
  have listed : request.systemAbilityId ∈ (runFrom saProfiles before).abilityIds := by
    by_contra absent
    simp [exec, handleLoadAbilityEvent, absent] at accepted
  have clean : Clean request.systemAbilityId loaded.chart := by
    simp only [loaded, exec, handleLoadAbilityEvent, if_pos listed]
    exact clean_load listed cancels
  exact (clean_run clean noUnload).2

/-- The ability is asked to unload while it is still LOADING. -/
def unloadWhileLoading : List (Env × Op) :=
  [({}, .processEvent ⟨"host", 100, 1000⟩ .processStartedEvent),
   ({}, .load (localLoad 1 7 70)),
   ({}, .unload (some (localUnload 1 7)))]

/-- The same, with the load reported before the task that handles the unload has run. -/
def unloadThenLoaded : List (Env × Op) :=
  unloadWhileLoading ++ [(({} : Env), .abilityEvent 1 .abilityLoadSuccessEvent)]

def hostProfiles : List SaProfile := [{ process := "host", saId := 1 }]

theorem load_while_loading_supersedes :
    let s := runFrom hostProfiles unloadWhileLoading
    let loaded := (s.exec {} (.load (localLoad 1 8 80))).1
    (s.ability 1).pendingEvent = .unloadAbilityEvent ∧
    unloadableMoves 1 (Runs.run step loaded
      [({}, .abilityEvent 1 .abilityLoadSuccessEvent), ({}, .startProcessTask)]).log =
        unloadableMoves 1 loaded.log := by
  refine ⟨by decide +kernel, load_supersedes_unload hostProfiles unloadWhileLoading
    [({}, .abilityEvent 1 .abilityLoadSuccessEvent), ({}, .startProcessTask)] {} (localLoad 1 8 80)
    (by decide +kernel) ⟨fun _ => by decide +kernel, ?_⟩ ?_⟩
  · have empty : (runFrom hostProfiles unloadWhileLoading).unloadEventHandler.waiting = [] := by
      decide +kernel
    have idle : (runFrom hostProfiles unloadWhileLoading).unloadEventRunning = none := by
      decide +kernel
    rintro (⟨handle, waits⟩ | ⟨phase, runs⟩)
    · change (handle, 1) ∈ _ at waits
      rw [empty] at waits
      cases waits
    · rw [idle] at runs
      cases runs
  · rintro label member ⟨request, isUnload, -⟩
    simp only [List.mem_cons, List.not_mem_nil, or_false] at member
    rcases member with rfl | rfl <;> cases isUnload

/-- An ability or a process goes away. -/
def Dies : Op → Prop
  | .abilityEvent _ .abilityUnloadSuccessEvent => True
  | .processEvent _ .processStoppedEvent => True
  | _ => False

/-- The unload made while LOADING is handled by a task posted on LOADED. A load request that
comes between the two does not cancel it. -/
theorem load_does_not_supersede_pending_task :
    ¬ ∀ (saProfiles : List SaProfile) (before after : List (Env × Op)) (env : Env)
        (request : LoadRequestInfo),
      let loaded := (runFrom saProfiles before).exec env (.load request)
      (∀ label ∈ before ++ after, ¬ Dies label.2) →
      loaded.2 = .errOk →
      (loaded.1.ability request.systemAbilityId).state = .loading ∨
        (loaded.1.ability request.systemAbilityId).state = .loaded →
      (∀ label ∈ after, ¬ IsUnloadOf request.systemAbilityId label.2) →
      unloadableMoves request.systemAbilityId (Runs.run step loaded.1 after).log =
        unloadableMoves request.systemAbilityId loaded.1.log := by
  intro always
  have lives : ∀ label ∈ unloadThenLoaded ++ [(({} : Env), .startProcessTask)], ¬ Dies label.2 := by
    intro label member
    simp only [unloadThenLoaded, unloadWhileLoading, List.cons_append, List.nil_append,
      List.mem_cons, List.not_mem_nil, or_false] at member
    rcases member with rfl | rfl | rfl | rfl | rfl <;> exact id
  have noUnload : ∀ label ∈ [(({} : Env), Op.startProcessTask)], ¬ IsUnloadOf 1 label.2 := by
    rintro label member ⟨request, isUnload, -⟩
    rw [List.mem_singleton.mp member] at isUnload
    cases isUnload
  have moved := always hostProfiles unloadThenLoaded [({}, .startProcessTask)] {} (localLoad 1 8 80)
    lives (by decide +kernel) (by decide +kernel) noUnload
  revert moved
  decide +kernel

end Scheduler

end Samgr
