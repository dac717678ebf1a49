import Samgr.Schedule.Counters

/-! Pended load requests. A load is pended while its ability is UNLOADING or its process is
STOPPING, and the requests are replayed by the process-stopped event only. The invariant
says that a pended ability is still on the way to that event. While the event is being
handled the abilities of the stopped process are exempt until their turn has come. -/
namespace Samgr

namespace Chart

variable {x y : Chart} {X A : Int → Prop}

/-- Abilities in `X` need not be leaving any more, and abilities in `A` have given up the
mark that makes the event handler look at their list. -/
structure Pending (X A : Int → Prop) (x : Chart) : Prop where
  counted : Counted x
  leaves : ∀ sa ∈ x.ids, ¬ X sa → x.pended sa ≠ [] → x.Leaving sa
  armed : ∀ sa ∈ x.ids, ¬ A sa → x.pended sa ≠ [] → x.pendingEvent sa = .loadAbilityEvent
  noLoading : ∀ sa ∈ x.ids, x.proc (x.own sa) = .stopping → x.state sa ≠ .loading

/-- A change that strands nothing outside the exempt sets. -/
def Safe (X A : Int → Prop) (x : Chart) : Change → Prop
  | .transit sa fromState _ =>
      fromState = .unloading → X sa ∨ x.pended sa = [] ∨ x.proc (x.own sa) = .stopping
  | .process processName toState =>
      toState = .notStarted → ∀ sa ∈ x.ids, x.own sa = processName → X sa
  | .resetLoad sa => A sa
  | .pendUnload sa => ¬ X sa
  | _ => True

theorem Pending.transit (good : Pending X A x) {sa : Int} {fromState toState : SystemAbilityState}
    (step : Step x y (.transit sa fromState toState))
    (safe : Safe X A x (.transit sa fromState toState)) : Pending X A y := by
  have counted := step.counted good.counted
  obtain ⟨listed, rfl, enterable, positive, running, rfl⟩ := step
  refine ⟨counted, ?_, good.armed, ?_⟩
  · intro id member covered nonempty
    rcases good.leaves id member covered nonempty with unloading | stopping
    · by_cases same : id = sa
      · subst same
        rcases safe unloading with exempt | empty | stopping
        · exact absurd exempt covered
        · exact absurd empty nonempty
        · exact Or.inr stopping
      · exact Or.inl (by simpa [Function.update_of_ne same] using unloading)
    · exact Or.inr stopping
  · intro id member stopping
    by_cases same : id = sa
    · subst same
      simp only [Function.update_self]
      exact fun loading => running loading stopping
    · simpa [Function.update_of_ne same] using good.noLoading id member stopping

/-- An idle process has no ability that is loading. -/
theorem Counted.not_loading_of_idle (good : Counted x) {sa : Int} (listed : sa ∈ x.ids)
    (idle : x.Idle (x.own sa)) : x.state sa ≠ .loading := by
  intro loading
  have positive := good.count_ne_zero listed
  have sum := good.total (x.own sa)
  simp only [Idle] at idle
  simp only [Samgr.total] at sum
  rw [loading] at positive
  omega

theorem Pending.process (good : Pending X A x) {processName : String} {toState : SystemProcessState}
    (step : Step x y (.process processName toState))
    (safe : Safe X A x (.process processName toState)) : Pending X A y := by
  have counted := step.counted good.counted
  obtain ⟨enterable, idle, rfl⟩ := step
  refine ⟨counted, ?_, good.armed, ?_⟩
  · intro id member covered nonempty
    rcases good.leaves id member covered nonempty with unloading | stopping
    · exact Or.inl unloading
    · by_cases own : x.own id = processName
      · subst own
        cases toState with
        | notStarted => exact absurd (safe rfl id member rfl) covered
        | started => simp [SystemProcessState.canEnter, stopping] at enterable
        | stopping => exact Or.inr (by simp)
      · exact Or.inr (by simpa [Function.update_of_ne own] using stopping)
  · intro id member stopping
    by_cases own : x.own id = processName
    · subst own
      have stops : toState = .stopping := by simpa using stopping
      exact good.counted.not_loading_of_idle member (idle stops)
    · exact good.noLoading id member (by simpa [Function.update_of_ne own] using stopping)

theorem Pending.pend (good : Pending X A x) {sa : Int} {request : LoadRequestInfo}
    (step : Step x y (.pend sa request)) : Pending X A y := by
  have counted := step.counted good.counted
  obtain ⟨leaving, rfl⟩ := step
  refine ⟨counted, ?_, ?_, good.noLoading⟩
  · intro id member covered nonempty
    by_cases same : id = sa
    · exact same ▸ leaving
    · exact good.leaves id member covered (by simpa [Function.update_of_ne same] using nonempty)
  · intro id member covered nonempty
    by_cases same : id = sa
    · simp [same]
    · have old : x.pended id ≠ [] := by simpa [Function.update_of_ne same] using nonempty
      simpa [Function.update_of_ne same] using good.armed id member covered old

theorem Pending.clearPended (good : Pending X A x) {sa : Int} (step : Step x y (.clearPended sa)) :
    Pending X A y := by
  have counted := step.counted good.counted
  cases step
  have old : ∀ id, Function.update x.pended sa [] id ≠ [] → x.pended id ≠ [] := by
    intro id nonempty
    by_cases same : id = sa
    · simp [same] at nonempty
    · simpa [Function.update_of_ne same] using nonempty
  exact ⟨counted, fun id member covered nonempty => good.leaves id member covered (old id nonempty),
    fun id member covered nonempty => good.armed id member covered (old id nonempty),
    good.noLoading⟩

/-- A change of the pending event keeps the invariant if it does not take the mark from an
ability that needs it. -/
theorem Pending.setPendingEvent (good : Pending X A x) {sa : Int} {event : PendingEvent}
    (counted : Counted { x with pendingEvent := Function.update x.pendingEvent sa event })
    (free : sa ∈ x.ids → ¬ A sa → x.pended sa = []) :
    Pending X A { x with pendingEvent := Function.update x.pendingEvent sa event } := by
  refine ⟨counted, good.leaves, ?_, good.noLoading⟩
  intro id member covered nonempty
  by_cases same : id = sa
  · subst same
    exact absurd (free member covered) nonempty
  · simpa [Function.update_of_ne same] using good.armed id member covered nonempty

/-- Every safe change keeps the invariant. -/
theorem Step.pending {c : Change} (step : Step x y c) (safe : Safe X A x c)
    (good : Pending X A x) : Pending X A y := by
  have counted := step.counted good.counted
  cases c with
  | transit sa fromState toState => exact good.transit step safe
  | countFail sa =>
      obtain ⟨listed, empty, -⟩ := step
      exact absurd empty (good.counted.count_ne_zero listed)
  | process processName toState => exact good.process step safe
  | pend sa request => exact good.pend step
  | clearPended sa => exact good.clearPended step
  | resetLoad sa =>
      obtain ⟨-, rfl⟩ := step
      exact good.setPendingEvent counted fun _ covered => absurd safe covered
  | pendUnload sa =>
      obtain ⟨loading, rfl⟩ := step
      refine good.setPendingEvent counted fun member covered => ?_
      by_contra nonempty
      rcases good.leaves sa member safe nonempty with unloading | stopping
      · simp [loading] at unloading
      · exact good.noLoading sa member stopping loading
  | resetUnload sa =>
      obtain ⟨pending, rfl⟩ := step
      refine good.setPendingEvent counted fun member covered => ?_
      by_contra nonempty
      simp [good.armed sa member covered nonempty] at pending
  | dropTimers => obtain ⟨timer, -, rfl⟩ := step; exact { good with counted }
  | startTimer sa => cases step; exact { good with counted }
  | handle sa request => cases step; exact { good with counted }
  | enroll processName => obtain ⟨who, running, -, rfl⟩ := step; exact { good with counted }

theorem Path.pending {P : Change → Prop} (path : Path P x y)
    (safe : ∀ {z w c}, P c → Step z w c → Safe X A z c) (good : Pending X A x) : Pending X A y :=
  path.keeps (Pending X A) (fun allowed step => step.pending (safe allowed step)) good

/-- An ability stops being exempt once its list is empty. -/
theorem Pending.shrink {Y B : Int → Prop} (good : Pending X A x)
    (leaving : ∀ sa ∈ x.ids, X sa → Y sa ∨ x.pended sa = [])
    (arming : ∀ sa ∈ x.ids, A sa → B sa ∨ x.pended sa = []) : Pending Y B x := by
  refine ⟨good.counted, ?_, ?_, good.noLoading⟩
  · intro sa member covered nonempty
    refine good.leaves sa member (fun exempt => ?_) nonempty
    exact (leaving sa member exempt).elim covered nonempty
  · intro sa member covered nonempty
    refine good.armed sa member (fun exempt => ?_) nonempty
    exact (arming sa member exempt).elim covered nonempty

end Chart

namespace Scheduler

open Chart

variable {env : Env} {s t : Scheduler} {X A : Int → Prop} {x y : Chart} {c : Change}

theorem safe_of_load {sa : Int} (change : LoadChange sa c) (step : Step x y c) : Safe X A x c := by
  cases c with
  | transit id fromState toState =>
      rintro rfl
      obtain ⟨-, -, enterable, -⟩ := step
      rcases change.2 with rfl | rfl <;> simp [SystemAbilityState.canEnter] at enterable
  | countFail id => trivial
  | resetUnload id => trivial
  | pend id request => trivial
  | dropTimers => trivial
  | _ => exact change.elim

theorem safe_of_request {sa : Int} (change : RequestChange sa c) (step : Step x y c) :
    Safe X A x c := by
  rcases change with change | ⟨request, rfl⟩
  · exact safe_of_load change step
  · trivial

theorem safe_of_unload {sa : Int} (outside : ¬ X sa) (change : UnloadChange sa c)
    (step : Step x y c) : Safe X A x c := by
  cases c with
  | transit id fromState toState =>
      rintro rfl
      obtain ⟨-, -, enterable, -⟩ := step
      rcases change.2 with rfl | rfl <;> simp [SystemAbilityState.canEnter] at enterable
  | countFail id => trivial
  | resetUnload id => trivial
  | pendUnload id => exact change ▸ outside
  | startTimer id => trivial
  | _ => exact change.elim

theorem safe_of_unloadAll {processName : String} (change : UnloadAllChange processName c) :
    Safe X A x c := by
  cases c with
  | transit id fromState toState =>
      rintro rfl
      cases change.1
  | countFail id => trivial
  | process name toState =>
      rintro rfl
      cases change.2
  | _ => exact change.elim

/-- An ability that leaves strands nothing if it is exempt, has no pended load, is not
UNLOADING, or belongs to a process that is STOPPING. -/
theorem pending_of_leavePath {sa : Int} (path : Path (LeaveChange sa) x y)
    (free : X sa ∨ x.pended sa = [] ∨ x.proc (x.own sa) = .stopping ∨ x.state sa ≠ .unloading)
    (good : Pending X A x) : Pending X A y := by
  refine (path.keeps (fun z => Pending X A z ∧ (X sa ∨ z.pended sa = [] ∨
    z.proc (z.own sa) = .stopping ∨ z.state sa ≠ .unloading)) ?_ ⟨good, free⟩).1
  rintro z w c change step ⟨good, free⟩
  cases c with
  | transit id fromState toState =>
      obtain ⟨rfl, rfl⟩ := change
      refine ⟨good.transit step fun unloading => ?_, ?_⟩
      · obtain ⟨-, state, -⟩ := step
        rcases free with exempt | empty | stopping | other
        · exact Or.inl exempt
        · exact Or.inr (Or.inl empty)
        · exact Or.inr (Or.inr stopping)
        · exact absurd (state.trans unloading) other
      · obtain ⟨-, -, -, -, -, rfl⟩ := step
        exact Or.inr (Or.inr (Or.inr (by simp)))
  | countFail id =>
      obtain ⟨listed, empty, -⟩ := step
      exact absurd empty (good.counted.count_ne_zero listed)
  | resetUnload id =>
      refine ⟨step.pending trivial good, ?_⟩
      obtain ⟨-, rfl⟩ := step
      exact free
  | dropTimers =>
      refine ⟨step.pending trivial good, ?_⟩
      obtain ⟨timer, -, rfl⟩ := step
      exact free
  | _ => exact change.elim

/-- The transition to NOT_LOADED is never refused. -/
theorem toNotLoaded_errOk {sa : Int} (good : s.chart.Counted) (listed : sa ∈ s.abilityIds) :
    (s.toNotLoaded env sa).2 = .errOk := by
  have positive : (s.ownProcess sa).abilityStateCountMap (s.ability sa).state ≠ 0 :=
    good.count_ne_zero listed
  simp only [toNotLoaded, abilityStateTransitionLocked]
  split
  · rfl
  · rename_i different
    have enterable : SystemAbilityState.canEnter .notLoaded (s.ability sa).state = true := by
      simpa [SystemAbilityState.canEnter] using different
    simp [enterable, updateStateCount, positive]

theorem pended_clearPendingLoads {sa : Int} : (s.clearPendingLoads sa).chart.pended sa = [] := by
  simp [chart, clearPendingLoads, setAbility]

/-- Replaying the loads of an ability leaves it with an empty list. -/
theorem pending_handlePendingLoadEventLocked {sa : Int} (listed : sa ∈ s.abilityIds)
    (good : Pending X (fun _ => False) s.chart) :
    Pending (fun id => X id ∧ id ≠ sa) (fun _ => False)
      (s.handlePendingLoadEventLocked env sa).chart := by
  simp only [handlePendingLoadEventLocked]
  split
  · rename_i unarmed
    have empty : s.chart.pended sa = [] := by
      by_contra nonempty
      exact unarmed (good.armed sa listed id nonempty)
    refine good.shrink (fun id _ exempt => ?_) fun id _ impossible => impossible.elim
    by_cases same : id = sa
    · exact Or.inr (same ▸ empty)
    · exact Or.inl ⟨exempt, same⟩
  · rename_i armed
    simp only [ne_eq, Decidable.not_not] at armed
    have begins : Step s.chart (s.setAbility sa fun context =>
        { context with pendingEvent := .noEvent }).chart (.resetLoad sa) :=
      ⟨armed, chart_setPendingEvent⟩
    have unarmed : Pending X (fun id => id = sa) s.chart :=
      good.shrink (fun _ _ exempt => Or.inl exempt) fun _ _ impossible => impossible.elim
    have begun := begins.pending (A := fun id => id = sa) rfl unarmed
    have replayed : Pending X (fun id => id = sa) (replayPendingLoads env sa
        (s.ability sa).pendingLoadEventList (s.setAbility sa fun context =>
          { context with pendingEvent := .noEvent })).chart := by
      refine Path.pending (replayPendingLoads_path ?_) safe_of_request begun
      exact listed
    have cleared := (clearPendingLoads_path (P := fun c => c = .clearPended sa) rfl).pending
      (fun same _ => same ▸ trivial) replayed
    refine cleared.shrink (fun id _ exempt => ?_) fun id _ same => Or.inr (same ▸ pended_clearPendingLoads)
    by_cases same : id = sa
    · exact Or.inr (same ▸ pended_clearPendingLoads)
    · exact Or.inl ⟨exempt, same⟩

/-- The turn of one ability of the stopped process: afterwards it is no longer exempt. -/
theorem pending_stopAbility {sa : Int} (good : Pending X (fun _ => False) s.chart) (exempt : X sa) :
    Pending (fun id => X id ∧ id ≠ sa) (fun _ => False) (s.stopAbility env sa).chart := by
  simp only [stopAbility]
  split
  · rename_i absent
    refine good.shrink (fun id member exempt => Or.inl ⟨exempt, ?_⟩) fun _ _ => Or.inl
    rintro rfl
    exact absent member
  · rename_i listed
    have listed : sa ∈ s.abilityIds := by simpa using listed
    have leaves : Path (LeaveChange sa) s.chart (s.toNotLoaded env sa).1.chart :=
      toNotLoaded_path listed
    rw [if_pos (toNotLoaded_errOk good.counted listed)]
    exact pending_handlePendingLoadEventLocked (Path.listed leaves listed)
      (pending_of_leavePath leaves (Or.inl exempt) good)

/-- The loop over the abilities of the stopped process leaves none of them exempt. -/
theorem pending_stopAbilities {sas : List Int}
    (good : Pending (fun sa => sa ∈ sas) (fun _ => False) s.chart) :
    Pending (fun _ => False) (fun _ => False) (sas.foldl (stopAbility env) s).chart := by
  induction sas generalizing s with
  | nil => exact good.shrink (fun _ _ member => absurd member List.not_mem_nil) fun _ _ => Or.inl
  | cons sa rest hypothesis =>
      refine hypothesis ((pending_stopAbility good (List.mem_cons_self ..)).shrink
        (fun id _ exempt => Or.inl ?_) fun _ _ => Or.inl)
      exact (List.mem_cons.mp exempt.1).resolve_left exempt.2

/-- No list of the stopped process survives the process-stopped event. -/
theorem pending_onProcessNotStartedLocked {processName : String}
    (good : Pending (fun sa => sa ∈ (s.process processName).saList) (fun _ => False) s.chart) :
    Pending (fun _ => False) (fun _ => False)
      (s.onProcessNotStartedLocked env processName).chart := by
  have begun : (s.beginStop env processName).1.chart = s.chart := chart_beginStop
  have ids : (s.beginStop env processName).1.abilityIds = s.abilityIds :=
    congrArg Chart.ids begun
  have lists : ((s.beginStop env processName).1.process processName).saList =
      (s.process processName).saList := congrFun (congrArg Chart.saList begun) processName
  rw [← begun, ← lists] at good
  rw [onProcessNotStartedLocked_eq]
  refine (handleAbnormallyDiedAbilityLocked_path fun sa died => ?_).pending
    (fun ⟨_, change⟩ step => safe_of_request change step) (pending_stopAbilities good)
  exact Path.listed stopAbilities_path (ids ▸ listed_of_beginStop died)

theorem pending_stopTransition {processName : String}
    (good : Pending (fun _ => False) (fun _ => False) s.chart) :
    Pending (fun _ => False) (fun _ => False) (s.processStateTransitionLocked
      (onProcessNotStartedLocked env) processName .notStarted).1.chart := by
  simp only [processStateTransitionLocked]
  split
  · exact good
  · split
    · exact good
    · rename_i enterable
      refine pending_onProcessNotStartedLocked ?_
      have stops : Step s.chart (s.setProcess processName fun context =>
          { context with state := .notStarted }).chart (.process processName .notStarted) :=
        ⟨by simpa [chart] using enterable, (fun stops => by cases stops), chart_setProcessState⟩
      have lists : ((s.setProcess processName fun context =>
          { context with state := .notStarted }).process processName).saList =
          (s.process processName).saList := congrFun stops.sameLayout.saList processName
      rw [lists]
      refine stops.pending (fun _ sa listed own => ?_)
        (good.shrink (fun _ _ impossible => impossible.elim) fun _ _ => Or.inl)
      exact own ▸ good.counted.listed sa listed

theorem pending_sendProcessStateEvent {info : ProcessInfo} {event : ProcessStateEvent}
    (good : Pending (fun _ => False) (fun _ => False) s.chart) :
    Pending (fun _ => False) (fun _ => False) (s.sendProcessStateEvent env info event).1.chart := by
  simp only [sendProcessStateEvent]
  split
  · exact good
  · cases event with
    | processStartedEvent =>
        have started : Pending (fun _ => False) (fun _ => False)
            (s.handleProcessStartedEventLocked env info).1.chart := by
          refine handleProcessStartedEventLocked_path.pending (fun change _ => ?_) good
          rcases change with rfl | rfl
          · intro stops
            cases stops
          · trivial
        simp only
        split
        · exact (addRunningProcessLocked_path (P := (· = .enroll info.processName)) rfl).pending
            (fun same _ => same ▸ trivial) started
        · exact started
    | processStoppedEvent =>
        have stopped : Pending (fun _ => False) (fun _ => False)
            (s.handleProcessStoppedEventLocked env info).1.chart := by
          simp only [handleProcessStoppedEventLocked]
          split
          · exact pending_stopTransition good
          · exact pending_stopTransition good
          · exact good
        simp only
        split
        · exact (removeRunningProcessLocked_path (P := (· = .enroll info.processName)) rfl).pending
            (fun same _ => same ▸ trivial) stopped
        · exact stopped

/-- The step that leaves pended loads behind: a reported unload takes an ability out of
UNLOADING while its process is not stopping. -/
def Strands (s : Scheduler) : Op → Prop
  | .abilityEvent sa .abilityUnloadSuccessEvent =>
      sa ∈ s.abilityIds ∧ (s.ability sa).state = .unloading ∧
      (s.ability sa).pendingLoadEventList ≠ [] ∧ (s.ownProcess sa).state ≠ .stopping
  | _ => False

theorem pending_unloadSuccess {sa : Int} (listed : sa ∈ s.abilityIds)
    (good : Pending (fun _ => False) (fun _ => False) s.chart)
    (keeps : ¬ Strands s (.abilityEvent sa .abilityUnloadSuccessEvent)) :
    Pending (fun _ => False) (fun _ => False)
      (s.handleAbilityUnLoadSuccessEventLocked env sa).1.chart := by
  refine pending_of_leavePath (handleAbilityUnLoadSuccessEventLocked_path listed) ?_ good
  simp only [Strands, listed, true_and] at keeps
  by_cases unloading : (s.ability sa).state = .unloading
  · by_cases empty : (s.ability sa).pendingLoadEventList = []
    · exact Or.inr (Or.inl empty)
    · exact Or.inr (Or.inr (Or.inl (by_contra fun other => keeps ⟨unloading, empty, other⟩)))
  · exact Or.inr (Or.inr (Or.inr unloading))

theorem pending_loadFailed {sa : Int} (listed : sa ∈ s.abilityIds)
    (good : Pending (fun _ => False) (fun _ => False) s.chart) :
    Pending (fun _ => False) (fun _ => False)
      (s.handleAbilityLoadFailedEventLocked env sa).1.chart := by
  by_cases loading : (s.ability sa).state = .loading
  · refine pending_of_leavePath (handleAbilityLoadFailedEventLocked_path listed) ?_ good
    refine Or.inr (Or.inr (Or.inr ?_))
    change (s.ability sa).state ≠ .unloading
    simp [loading]
  · have unchanged : s.handleAbilityLoadFailedEventLocked env sa = (s, .errInvalidValue) := by
      simp only [handleAbilityLoadFailedEventLocked]
    rw [unchanged]
    exact good

/-- Every operation that strands nothing keeps the invariant. -/
theorem pending_exec {op : Op} (keeps : ¬ Strands s op)
    (good : Pending (fun _ => False) (fun _ => False) s.chart) :
    Pending (fun _ => False) (fun _ => False) (s.exec env op).1.chart := by
  cases op with
  | load request => exact handleLoadAbilityEvent_path.pending safe_of_request good
  | checkStart sa => exact checkStartAbilityEvent_path.pending safe_of_load good
  | unload request =>
      cases request with
      | none => exact good
      | some request => exact handleUnloadAbilityEvent_path.pending (safe_of_unload id) good
  | cancelUnload sa => exact handleCancelUnloadAbilityEvent_path.pending (fun change => safe_of_load change.load) good
  | abilityEvent sa event =>
      simp only [exec, sendAbilityStateEvent]
      split
      · exact good
      · rename_i listed
        have listed : sa ∈ s.abilityIds := by simpa using listed
        cases event with
        | abilityLoadFailedEvent => exact pending_loadFailed listed good
        | abilityLoadSuccessEvent =>
            exact (handleAbilityLoadSuccessEventLocked_path listed).pending (fun change => safe_of_load change.load) good
        | abilityUnloadSuccessEvent => exact pending_unloadSuccess listed good keeps
  | processEvent info event => exact pending_sendProcessStateEvent good
  | unloadProcess processName =>
      exact unloadProcess_path.pending (fun change _ => safe_of_unloadAll change) good
  | startProcessTask =>
      refine startProcessTask_path.pending ?_ good
      rintro z w c ⟨task, rest, -, change⟩ step
      cases task with
      | pendingUnload sa => exact safe_of_unload id change step
      | tryUnloadAllSystemAbility processName => exact safe_of_unloadAll change
      | _ => exact change.elim
  | startUnloadEvent =>
      refine startUnloadEvent_path.pending (fun same _ => ?_) good
      subst same
      trivial
  | stepUnloadEvent =>
      refine stepUnloadEvent_path.pending ?_ good
      rintro z w c (rfl | ⟨sa, -, change⟩) step
      · trivial
      · exact safe_of_unload id change step
  | runRecoverTask =>
      refine runRecoverTask_path.pending ?_ good
      rintro z w c ⟨sa, rest, -, rfl⟩ step
      trivial
  | _ => exact exec_path.pending (fun impossible _ => impossible.elim) good

theorem pending_init (profiles : List SaProfile) :
    Pending (fun _ => False) (fun _ => False) (init profiles).chart := by
  have empty : ∀ s : Scheduler, (∀ sa, (s.ability sa).pendingLoadEventList = []) →
      ∀ sa, ((profiles.foldl initStateContext s).ability sa).pendingLoadEventList = [] := by
    induction profiles with
    | nil => exact fun s none => none
    | cons profile rest hypothesis =>
        refine fun s none => hypothesis _ fun sa => ?_
        by_cases named : profile.process = ""
        · rw [initStateContext_of_unnamed named]
          exact none sa
        · rw [initStateContext_ability named]
          by_cases same : sa = profile.saId <;> simp [same, none]
  have none : ∀ sa, ((init profiles).ability sa).pendingLoadEventList = [] := empty {} fun _ => rfl
  refine ⟨(initial_init profiles).counted, fun sa _ _ nonempty => ?_, fun sa _ _ nonempty => ?_,
    fun sa _ _ => ?_⟩
  · exact absurd (none sa) nonempty
  · exact absurd (none sa) nonempty
  · simp [chart, (initial_init profiles).fresh sa]

/-- Every ability with pended loads is UNLOADING or belongs to a STOPPING process. -/
def NoStrandedLoad (s : Scheduler) : Prop :=
  ∀ sa ∈ s.abilityIds, (s.ability sa).pendingLoadEventList ≠ [] →
    (s.ability sa).state = .unloading ∨ (s.ownProcess sa).state = .stopping

theorem state_toNotLoaded {sa : Int} (good : s.chart.Counted) (listed : sa ∈ s.abilityIds) :
    ((s.toNotLoaded env sa).1.ability sa).state = .notLoaded := by
  have positive : (s.ownProcess sa).abilityStateCountMap (s.ability sa).state ≠ 0 :=
    good.count_ne_zero listed
  simp only [toNotLoaded, abilityStateTransitionLocked]
  split
  · assumption
  · rename_i different
    have enterable : SystemAbilityState.canEnter .notLoaded (s.ability sa).state = true := by
      simpa [SystemAbilityState.canEnter] using different
    simp only [enterable, updateStateCount, positive, if_false, Bool.not_true, Bool.false_eq_true]
    generalize entering : (emit _ _) = entered
    have enters : Path (fun c => c = .dropTimers ∨ c = .resetUnload sa) entered.chart
        (entered.onAbilityNotLoadedLocked env sa).chart :=
      onAbilityNotLoadedLocked_path (Or.inl rfl) (Or.inr rfl)
    have stays := congrFun (enters.state_eq fun change => by simp) sa
    change ((entered.onAbilityNotLoadedLocked env sa).ability sa).state = _ at stays
    rw [stays, ← entering]
    simp [chart, emit, setAbility]

/-- A stranding step leaves its ability NOT_LOADED with its pended loads. -/
theorem not_noStrandedLoad_of_strands {op : Op}
    (good : Pending (fun _ => False) (fun _ => False) s.chart) (strands : Strands s op) :
    ¬ NoStrandedLoad (s.exec env op).1 := by
  cases op with
  | abilityEvent sa event =>
      cases event with
      | abilityUnloadSuccessEvent =>
          obtain ⟨listed, unloading, nonempty, running⟩ := strands
          have reached : (s.exec env (.abilityEvent sa .abilityUnloadSuccessEvent)).1 =
              (s.toNotLoaded env sa).1 := by
            simp [exec, sendAbilityStateEvent, listed, handleAbilityUnLoadSuccessEventLocked,
              unloading]
          have leaves : Path (LeaveChange sa) s.chart (s.toNotLoaded env sa).1.chart :=
            toNotLoaded_path listed
          have pended : ((s.toNotLoaded env sa).1.ability sa).pendingLoadEventList =
              (s.ability sa).pendingLoadEventList :=
            congrFun (leaves.pended_eq (fun _ _ => id) fun _ => id) sa
          have procs := leaves.proc_eq fun _ _ => id
          have own : ((s.toNotLoaded env sa).1.ownProcess sa).state = (s.ownProcess sa).state := by
            change (s.toNotLoaded env sa).1.chart.proc ((s.toNotLoaded env sa).1.chart.own sa) = _
            rw [procs, leaves.sameLayout.own]
            rfl
          rw [reached]
          intro none
          rcases none sa (Path.listed leaves listed) (pended ▸ nonempty) with state | stopping
          · rw [state_toNotLoaded good.counted listed] at state
            cases state
          · exact running (own ▸ stopping)
      | _ => exact strands.elim
  | _ => exact strands.elim

/-- All along a run every ability with pended loads is still on its way to the event that
replays them exactly when no step of the run reports the unload of an ability that has
pended loads while its process is not stopping. -/
theorem noStrandedLoad_iff_guarded (saProfiles : List SaProfile) (ops : List (Env × Op)) :
    (∀ before, before <+: ops → NoStrandedLoad (runFrom saProfiles before)) ↔
      Runs.Guarded step (fun s label => ¬ Strands s label.2) (init saProfiles) ops := by
  refine Runs.forall_prefix_iff_guarded
    (fun s : Scheduler => Pending (fun _ => False) (fun _ => False) s.chart)
    (fun _ _ keeps good => pending_exec keeps good) ?_ ?_ (pending_init saProfiles)
  · intro s good sa listed nonempty
    exact good.leaves sa listed id nonempty
  · intro s label good unguarded
    exact not_noStrandedLoad_of_strands good (not_not.mp unguarded)

/-- An ability that unloads independently is asked for again while it is UNLOADING, and its
process goes on when the unload is reported. -/
def strandingOps : List (Env × Op) :=
  [({}, .processEvent ⟨"host", 100, 1000⟩ .processStartedEvent),
   ({}, .load (localLoad 1 7 70)),
   ({}, .abilityEvent 1 .abilityLoadSuccessEvent),
   ({}, .load (localLoad 2 7 70)),
   ({}, .abilityEvent 2 .abilityLoadSuccessEvent),
   ({}, .unload (some (localUnload 1 7))),
   ({}, .load (localLoad 1 8 80)),
   ({}, .abilityEvent 1 .abilityUnloadSuccessEvent)]

theorem stranded_after_independent_unload :
    ¬ ∀ (saProfiles : List SaProfile) (ops : List (Env × Op)),
      NoStrandedLoad (runFrom saProfiles ops) := by
  intro never
  have stranded : ((runFrom replayProfiles strandingOps).ability 1).pendingLoadEventList =
        [localLoad 1 8 80] ∧
      ((runFrom replayProfiles strandingOps).ability 1).state = .notLoaded ∧
      ((runFrom replayProfiles strandingOps).ownProcess 1).state = .started ∧
      1 ∈ (runFrom replayProfiles strandingOps).abilityIds := by decide +kernel
  obtain ⟨pended, state, started, listed⟩ := stranded
  rcases never replayProfiles strandingOps 1 listed (by simp [pended]) with unloading | stopping
  · simp [state] at unloading
  · simp [started] at stopping

end Scheduler

end Samgr
