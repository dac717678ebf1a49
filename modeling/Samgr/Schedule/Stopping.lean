import Samgr.Schedule.Counters

/-! Stopping processes. A process that is being stopped loads nothing, and it is stopped only
while nothing of it is in use; but a kill task decides from the counters alone, and may outlive
the stop for which it was posted. -/
namespace Samgr

open Tally

namespace Chart

variable {x y : Chart} {P : Change → Prop}

/-- An idle process counts no ability as LOADING or LOADED, so none of its abilities is. -/
theorem Counted.unused_of_idle (good : Counted x) {sa : Int} (listed : sa ∈ x.ids)
    (idle : x.Idle (x.own sa)) : x.state sa ≠ .loading ∧ x.state sa ≠ .loaded := by
  have total := good.total (x.own sa)
  have counted := good.count_ne_zero listed
  simp only [Samgr.total, Idle] at total idle
  constructor
  · intro loading
    rw [loading] at counted
    omega
  · intro loaded
    rw [loaded] at counted
    omega

/-- No ability of a stopping process is LOADING. -/
def LoadsNothing (x : Chart) : Prop :=
  ∀ sa ∈ x.ids, x.proc (x.own sa) = .stopping → x.state sa ≠ .loading

theorem Step.loadsNothing {c : Change} (step : Step x y c) (counted : Counted x)
    (good : x.LoadsNothing) : y.LoadsNothing := by
  have same : y.state = x.state → y.proc = x.proc → y.LoadsNothing := by
    intro states procs sa listed
    have layout := step.sameLayout
    rw [states, procs, layout.own]
    exact good sa (layout.ids ▸ listed)
  cases c with
  | transit sa fromState toState =>
      obtain ⟨-, -, -, -, running, rfl⟩ := step
      intro id listed stopping
      by_cases own : id = sa
      · subst own
        simp only [Function.update_self]
        exact fun loading => running loading stopping
      · simp only [Function.update_of_ne own]
        exact good id listed stopping
  | process processName toState =>
      obtain ⟨-, idle, rfl⟩ := step
      intro id listed stopping
      by_cases own : x.own id = processName
      · subst own
        simp only [Function.update_self] at stopping
        exact (counted.unused_of_idle listed (idle stopping)).1
      · simp only [Function.update_of_ne own] at stopping
        exact good id listed stopping
  | countFail sa => obtain ⟨-, -, rfl⟩ := step; exact same rfl rfl
  | dropTimers => obtain ⟨timer, -, rfl⟩ := step; exact same rfl rfl
  | pend sa request => obtain ⟨-, rfl⟩ := step; exact same rfl rfl
  | resetLoad sa => obtain ⟨-, rfl⟩ := step; exact same rfl rfl
  | pendUnload sa => obtain ⟨-, rfl⟩ := step; exact same rfl rfl
  | resetUnload sa => obtain ⟨-, rfl⟩ := step; exact same rfl rfl
  | clearPended sa => cases step; exact same rfl rfl
  | startTimer sa => cases step; exact same rfl rfl
  | handle sa request => cases step; exact same rfl rfl
  | enroll processName => obtain ⟨who, running, -, rfl⟩ := step; exact same rfl rfl

/-- On a path that stops no process, what is stopping in the end was so from the start. -/
theorem Path.stopping_of (path : Path P x y) (quiet : ∀ name, ¬ P (.process name .stopping))
    {processName : String} (stopping : y.proc processName = .stopping) :
    x.proc processName = .stopping := by
  refine path.keeps (fun z => z.proc processName = .stopping → x.proc processName = .stopping)
    ?_ id stopping
  intro z w c allowed step before
  rcases step.frame.2.1 with kept | ⟨name, toState, rfl⟩
  · rw [kept]
    exact before
  · obtain ⟨-, -, rfl⟩ := step
    by_cases own : processName = name
    · subst own
      intro entered
      simp only [Function.update_self] at entered
      subst entered
      exact absurd allowed (quiet processName)
    · simpa only [Function.update_of_ne own] using before

/-- What a path that unloads all abilities of a process has done so far. -/
structure Unloaded (x z : Chart) : Prop where
  used : ∀ sa, z.state sa = .loading ∨ z.state sa = .loaded ↔
    x.state sa = .loading ∨ x.state sa = .loaded
  entered : ∀ processName, z.proc processName = x.proc processName ∨
    x.proc processName = .started ∧ z.Idle processName

theorem unloaded_of_path {name : String} (path : Path (Scheduler.UnloadAllChange name) x y) :
    Unloaded x y := by
  refine path.keeps (Unloaded x) ?_ ⟨fun _ => Iff.rfl, fun _ => Or.inl rfl⟩
  intro z w c allowed step good
  have idles : ∀ processName, x.proc processName = .started ∧ z.Idle processName →
      x.proc processName = .started ∧ w.Idle processName :=
    fun _ ⟨started, idle⟩ => ⟨started, Scheduler.idle_of_unloadStep allowed step idle⟩
  cases c with
  | transit sa fromState toState =>
      obtain ⟨rfl, rfl⟩ := allowed
      obtain ⟨-, before, -, -, -, rfl⟩ := step
      refine ⟨fun id => ?_, fun processName => (good.entered processName).imp_right (idles processName)⟩
      by_cases own : id = sa
      · subst own
        rw [← good.used id, before]
        simp
      · simp only [Function.update_of_ne own]
        exact good.used id
  | countFail sa =>
      obtain ⟨-, -, rfl⟩ := step
      exact ⟨good.used, fun processName => (good.entered processName).imp_right (idles processName)⟩
  | process other toState =>
      obtain ⟨rfl, rfl⟩ := allowed
      obtain ⟨enterable, idle, rfl⟩ := step
      refine ⟨good.used, fun processName => ?_⟩
      by_cases own : processName = other
      · subst own
        have started : z.proc processName = .started := by
          simpa [SystemProcessState.canEnter] using enterable
        rcases good.entered processName with same | before
        · exact Or.inr ⟨same.symm.trans started, idle rfl⟩
        · exact Or.inr (idles processName before)
      · simp only [Function.update_of_ne own]
        exact (good.entered processName).imp_right (idles processName)
  | _ => exact allowed.elim

end Chart

namespace Scheduler

variable {env : Env} {s : Scheduler}

/-- An operation that stops a process unloads all its abilities. -/
theorem unloads_of_stopping {op : Op} {processName : String}
    (before : (s.process processName).state ≠ .stopping)
    (after : ((s.exec env op).1.process processName).state = .stopping) :
    Chart.Unloaded s.chart (s.exec env op).1.chart := by
  have path : Chart.Path (OpChange s op) s.chart (s.exec env op).1.chart := exec_path
  by_cases quiet : ∀ name, ¬ OpChange s op (.process name .stopping)
  · exact absurd (path.stopping_of quiet after) before
  · obtain ⟨name, stops⟩ := not_forall_not.mp quiet
    cases op with
    | unloadProcess other => exact Chart.unloaded_of_path path
    | startProcessTask =>
        obtain ⟨task, rest, popped, change⟩ := stops
        cases task with
        | tryUnloadAllSystemAbility other =>
            have unloads : Chart.Path (UnloadAllChange other) s.chart
                (s.exec env .startProcessTask).1.chart := by
              refine path.mono ?_
              rintro c ⟨task, rest, again, allowed⟩
              obtain ⟨rfl, -⟩ := Prod.mk.inj (Option.some.inj (popped.symm.trans again))
              exact allowed
            exact Chart.unloaded_of_path unloads
        | _ => cases change
    | unload request => cases request <;> cases stops
    | abilityEvent sa event => cases event <;> cases stops
    | processEvent info event =>
        cases event <;>
          simp [OpChange, ProcessStartChange, ProcessStopChange, StopChange, LeaveChange,
            RequestChange, LoadChange] at stops
    | _ => simp [OpChange, RequestChange, LoadChange, UnloadChange, ActiveChange] at stops

theorem runFrom_loadsNothing (saProfiles : List SaProfile) (ops : List (Env × Op)) :
    (runFrom saProfiles ops).chart.LoadsNothing := by
  have start : (init saProfiles).chart.Counted ∧ (init saProfiles).chart.LoadsNothing := by
    refine ⟨(initial_init saProfiles).counted, fun sa _ _ loading => ?_⟩
    have fresh : (init saProfiles).chart.state sa = .notLoaded := (initial_init saProfiles).fresh sa
    rw [fresh] at loading
    cases loading
  have keep : ∀ {x y : Chart} {c : Change}, Chart.Step x y c → x.Counted ∧ x.LoadsNothing →
      y.Counted ∧ y.LoadsNothing :=
    fun step good => ⟨step.counted good.1, step.loadsNothing good.1 good.2⟩
  exact (run_keeps keep ops start).2

/-- With distinct ids the abilities listed for a process are those that have it as their own. -/
theorem runFrom_owned {saProfiles : List SaProfile} (distinct : (saProfiles.map SaProfile.saId).Nodup)
    (ops : List (Env × Op)) {processName : String} {sa : Int}
    (listed : sa ∈ ((runFrom saProfiles ops).process processName).saList) :
    sa ∈ (runFrom saProfiles ops).abilityIds ∧
      (runFrom saProfiles ops).ownProcessName sa = processName := by
  have layout := runFrom_sameLayout saProfiles ops
  have lists : ((runFrom saProfiles ops).process processName).saList =
      ((init saProfiles).process processName).saList := congrFun layout.saList processName
  have ids : (runFrom saProfiles ops).abilityIds = (init saProfiles).abilityIds := layout.ids
  have own : (runFrom saProfiles ops).ownProcessName sa = (init saProfiles).ownProcessName sa :=
    congrFun layout.own sa
  rw [lists] at listed
  rw [ids, own]
  exact (oneContext_init distinct).owned processName sa listed

/-- No ability of the process is LOADING or LOADED. -/
def Unused (s : Scheduler) (processName : String) : Prop :=
  ∀ sa ∈ (s.process processName).saList,
    (s.ability sa).state ≠ .loading ∧ (s.ability sa).state ≠ .loaded

/-- In every reachable state in which a process is STOPPING none of its abilities is LOADING,
and the step that made it so found it STARTED with none of its abilities LOADING or LOADED,
and left them so. -/
theorem stopping_process_loads_nothing (saProfiles : List SaProfile)
    (distinct : (saProfiles.map SaProfile.saId).Nodup) (ops : List (Env × Op)) (processName : String) :
    (((runFrom saProfiles ops).process processName).state = .stopping →
      ∀ sa ∈ ((runFrom saProfiles ops).process processName).saList,
        ((runFrom saProfiles ops).ability sa).state ≠ .loading) ∧
    ∀ before label, before ++ [label] <+: ops →
      ((runFrom saProfiles before).process processName).state ≠ .stopping →
      ((runFrom saProfiles (before ++ [label])).process processName).state = .stopping →
      ((runFrom saProfiles before).process processName).state = .started ∧
        (runFrom saProfiles before).Unused processName ∧
        (runFrom saProfiles (before ++ [label])).Unused processName := by
  constructor
  · intro stopping sa listed
    obtain ⟨known, rfl⟩ := runFrom_owned distinct ops listed
    exact runFrom_loadsNothing saProfiles ops sa known stopping
  · intro before label _ running stopping
    let after := runFrom saProfiles (before ++ [label])
    have stepped : after = ((runFrom saProfiles before).exec label.1 label.2).1 :=
      Runs.run_append step (init saProfiles) before [label]
    have unloaded : Chart.Unloaded (runFrom saProfiles before).chart after.chart := by
      rw [stepped]
      refine unloads_of_stopping running ?_
      rw [← stepped]
      exact stopping
    obtain ⟨started, idle⟩ := (unloaded.entered processName).resolve_left fun same =>
      running (same.symm.trans stopping)
    have later : after.Unused processName := by
      intro sa listed
      obtain ⟨known, rfl⟩ := runFrom_owned distinct (before ++ [label]) listed
      exact (runFrom_counted saProfiles (before ++ [label])).unused_of_idle known idle
    refine ⟨started, fun sa listed => ?_, later⟩
    have sameList : (after.process processName).saList =
        ((runFrom saProfiles before).process processName).saList := by
      rw [stepped]
      exact congrFun exec_path.sameLayout.saList processName
    have unused : ¬ (after.chart.state sa = .loading ∨ after.chart.state sa = .loaded) :=
      not_or.mpr (later sa (sameList ▸ listed))
    exact not_or.mp fun used => unused ((unloaded.used sa).mpr used)

/-- Ability 1 is loaded, becomes unloadable and its process is stopped. -/
def stopOps : List (Env × Op) :=
  [({}, .processEvent ⟨"host", 100, 1000⟩ .processStartedEvent),
   ({}, .load (localLoad 1 7 70)),
   ({}, .abilityEvent 1 .abilityLoadSuccessEvent),
   ({}, .unload (some (localUnload 1 7))),
   ({}, .unloadProcess "host")]

theorem stopOps_loads_nothing :
    ((runFrom replayProfiles stopOps).process "host").state = .stopping ∧
    ∀ sa ∈ ((runFrom replayProfiles stopOps).process "host").saList,
      ((runFrom replayProfiles stopOps).ability sa).state ≠ .loading :=
  ⟨by decide +kernel, (stopping_process_loads_nothing replayProfiles (by decide) stopOps "host").1
    (by decide +kernel)⟩

/-- The events that a step adds to the log. -/
def issued (s : Scheduler) (label : Env × Op) : List Event :=
  (s.step label).log.take ((s.step label).log.length - s.log.length)

/-- The kill task that an operation starts, with its handle. -/
def startsKill (s : Scheduler) : Op → Option (Nat × String)
  | .startProcessTask =>
      match s.unloadTimeoutRunning, s.processHandler.ready with
      | none, (handle, .tryKillSystemProcess processName) :: _ => some (handle, processName)
      | _, _ => none
  | _ => none

/-- The process whose timeout task an operation runs to its end. -/
def endsTimeout (s : Scheduler) : Op → Option String
  | .stepUnloadTimeout =>
      match s.unloadTimeoutRunning with
      | some (processName, .waitingForLock) => some processName
      | _ => none
  | _ => none

theorem issued_of_emit {label : Env × Op} {event : Event} (logged : (s.step label).log = event :: s.log) :
    s.issued label = [event] := by
  simp [issued, logged]

theorem issued_of_same {label : Env × Op} (logged : (s.step label).log = s.log) :
    s.issued label = [] := by
  simp [issued, logged]

theorem tryKillSystemProcess_log {processName : String} : (s.tryKillSystemProcess env processName).log =
    if s.canKillSystemProcessLocked processName then
      .serviceControlStop processName (env.serviceControl s.now) :: s.log else s.log := by
  simp only [tryKillSystemProcess]
  split <;> rfl

theorem unloadTimeoutTask_log {processName : String} : (s.unloadTimeoutTask env processName).log =
    if (s.process processName).state = .stopping then
      .serviceControlStop processName (env.serviceControl s.now) :: s.log else s.log := by
  simp only [unloadTimeoutTask]
  split <;> rfl

/-- A kill task asks for the stop of its process exactly when all counters but the first are
zero, whatever state the process is in. -/
theorem issued_of_startsKill {label : Env × Op} {handle : Nat} {processName : String}
    (starts : s.startsKill label.2 = some (handle, processName)) :
    (handle, .tryKillSystemProcess processName) ∈ s.processHandler.waiting ∧
    s.issued label = if s.canKillSystemProcessLocked processName then
      [.serviceControlStop processName (label.1.serviceControl s.now)] else [] := by
  obtain ⟨env, op⟩ := label
  cases op with
  | startProcessTask =>
      simp only [startsKill] at starts
      split at starts
      · rename_i first name rest idle ready
        simp only [Option.some.injEq, Prod.mk.injEq] at starts
        obtain ⟨rfl, rfl⟩ := starts
        have taken : s.step (env, .startProcessTask) = ({ s with
            processHandler := { s.processHandler with ready := rest } } :
              Scheduler).tryKillSystemProcess env name := by
          simp only [step, exec, startProcessTask, idle, TaskQueue.pop, ready]
          rfl
        have logged : (s.step (env, .startProcessTask)).log =
            if s.canKillSystemProcessLocked name then
              .serviceControlStop name (env.serviceControl s.now) :: s.log else s.log := by
          rw [taken, tryKillSystemProcess_log]
          rfl
        refine ⟨by simp [TaskQueue.waiting, ready], ?_⟩
        split
        · rename_i can
          rw [if_pos can] at logged
          exact issued_of_emit logged
        · rename_i cannot
          rw [if_neg cannot] at logged
          exact issued_of_same logged
      · cases starts
  | _ => cases starts

theorem issued_of_endsTimeout {label : Env × Op} {processName : String}
    (ends : s.endsTimeout label.2 = some processName) :
    s.issued label = if (s.process processName).state = .stopping then
      [.serviceControlStop processName (label.1.serviceControl s.now)] else [] := by
  obtain ⟨env, op⟩ := label
  cases op with
  | stepUnloadTimeout =>
      simp only [endsTimeout] at ends
      split at ends
      · rename_i name running
        obtain rfl : name = processName := Option.some.inj ends
        have taken : s.step (env, .stepUnloadTimeout) =
            ({ s with unloadTimeoutRunning := none } : Scheduler).unloadTimeoutTask env name := by
          simp only [step, exec, stepUnloadTimeout, running]
        have logged : (s.step (env, .stepUnloadTimeout)).log =
            if (s.process name).state = .stopping then
              .serviceControlStop name (env.serviceControl s.now) :: s.log else s.log := by
          rw [taken, unloadTimeoutTask_log]
          rfl
        split
        · rename_i stopping
          rw [if_pos stopping] at logged
          exact issued_of_emit logged
        · rename_i other
          rw [if_neg other] at logged
          exact issued_of_same logged
      · cases ends
  | _ => cases ends

/-- The task has been waiting in a state in which its process was not stopping: the stop for
which it was posted is over. -/
def Late (saProfiles : List SaProfile) (before : List (Env × Op)) (handle : Nat) (processName : String) :
    Prop :=
  ∃ since, since <+: before ∧
    (handle, .tryKillSystemProcess processName) ∈ (runFrom saProfiles since).processHandler.waiting ∧
    ((runFrom saProfiles since).process processName).state ≠ .stopping

/-- What the step asks the service control to stop, as far as a kill task or a timeout task
asks, is a stopping process, and no kill task asks late. -/
structure KillsStopping (saProfiles : List SaProfile) (before : List (Env × Op)) (label : Env × Op) :
    Prop where
  kill : ∀ handle processName,
    (runFrom saProfiles before).startsKill label.2 = some (handle, processName) →
    ∀ name result, .serviceControlStop name result ∈ (runFrom saProfiles before).issued label →
      ((runFrom saProfiles before).process name).state = .stopping ∧ ¬ Late saProfiles before handle name
  timeout : ∀ processName, (runFrom saProfiles before).endsTimeout label.2 = some processName →
    ∀ name result, .serviceControlStop name result ∈ (runFrom saProfiles before).issued label →
      ((runFrom saProfiles before).process name).state = .stopping

/-- The counter of NOT_LOADED is short exactly when another counter is not zero. -/
theorem canKill_eq_false_iff {saProfiles : List SaProfile} {ops : List (Env × Op)} {processName : String} :
    (runFrom saProfiles ops).canKillSystemProcessLocked processName = false ↔
      ∃ state, state ≠ .notLoaded ∧
        ((runFrom saProfiles ops).process processName).abilityStateCountMap state ≠ 0 := by
  have total := (runFrom_counted saProfiles ops).total processName
  simp only [Samgr.total, chart] at total
  simp only [canKillSystemProcessLocked, beq_eq_false_iff_ne]
  constructor
  · intro short
    by_contra none
    simp only [not_exists, not_and, not_not] at none
    have loading := none .loading (by decide)
    have loaded := none .loaded (by decide)
    have unloadable := none .unloadable (by decide)
    have unloading := none .unloading (by decide)
    omega
  · rintro ⟨state, other, positive⟩ full
    cases state <;> first | exact other rfl | omega

/-- Along every run, no kill task and no timeout task asks for the stop of a process that is
not stopping, and no kill task asks after the stop for which it was posted, exactly when every
kill task that is started late finds an ability of its process counted in another state than
NOT_LOADED. -/
theorem kill_tasks_kill_stopping_processes (saProfiles : List SaProfile) (ops : List (Env × Op)) :
    (∀ before label, before ++ [label] <+: ops → KillsStopping saProfiles before label) ↔
    ∀ before label, before ++ [label] <+: ops → ∀ handle processName,
      (runFrom saProfiles before).startsKill label.2 = some (handle, processName) →
      Late saProfiles before handle processName →
      ∃ state, state ≠ .notLoaded ∧
        ((runFrom saProfiles before).process processName).abilityStateCountMap state ≠ 0 := by
  refine forall_congr' fun before => forall_congr' fun label => imp_congr_right fun _ => ?_
  constructor
  · intro right handle processName starts late
    obtain ⟨-, issues⟩ := issued_of_startsKill starts
    rw [← canKill_eq_false_iff]
    by_contra can
    rw [if_pos (eq_true_of_ne_false can)] at issues
    refine (right.kill handle processName starts processName
      (label.1.serviceControl (runFrom saProfiles before).now) ?_).2 late
    rw [issues]
    exact List.mem_singleton_self _
  · intro busy
    refine ⟨fun handle processName starts name result asked => ?_,
      fun processName ends name result asked => ?_⟩
    · obtain ⟨waits, issues⟩ := issued_of_startsKill starts
      rw [issues] at asked
      split at asked
      · rename_i can
        obtain ⟨rfl, -⟩ := Event.serviceControlStop.inj (List.mem_singleton.mp asked)
        have prompt : ¬ Late saProfiles before handle name := by
          intro late
          have cannot := canKill_eq_false_iff.mpr (busy handle name starts late)
          rw [can] at cannot
          cases cannot
        refine ⟨?_, prompt⟩
        by_contra running
        exact prompt ⟨before, List.prefix_refl before, waits, running⟩
      · cases asked
    · rw [issued_of_endsTimeout ends] at asked
      split at asked
      · rename_i stopping
        obtain ⟨rfl, -⟩ := Event.serviceControlStop.inj (List.mem_singleton.mp asked)
        exact stopping
      · cases asked

/-- Ability 1 is unloaded and its process stopped. -/
def stoppedOps : List (Env × Op) :=
  [({}, .processEvent ⟨"host", 100, 1000⟩ .processStartedEvent),
   ({}, .load (localLoad 1 7 70)),
   ({}, .abilityEvent 1 .abilityLoadSuccessEvent),
   ({}, .unload (some (localUnload 1 7))),
   ({}, .unloadProcess "host"),
   ({}, .abilityEvent 1 .abilityUnloadSuccessEvent),
   ({}, .processEvent ⟨"host", 100, 1000⟩ .processStoppedEvent)]

/-- The process is started again while the kill task of the stop still waits. -/
def restartedOps : List (Env × Op) :=
  [({}, .processEvent ⟨"host", 101, 1000⟩ .processStartedEvent),
   ({}, .startProcessTask),
   ({}, .startProcessTask)]

theorem late_kill_task_kills_restarted_process :
    ¬ ∀ saProfiles ops before label, before ++ [label] <+: ops → KillsStopping saProfiles before label := by
  intro always
  have right : KillsStopping replayProfiles (stoppedOps ++ restartedOps) ({}, .startProcessTask) :=
    always replayProfiles _ _ _ (List.prefix_refl _)
  have stopping := (right.kill 3 "host" (by decide +kernel) "host" 0 (by decide +kernel)).1
  revert stopping
  decide +kernel

end Scheduler

end Samgr
