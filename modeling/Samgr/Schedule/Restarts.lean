import Samgr.Schedule.Ledger
import Samgr.Schedule.Counters

/-! The restarts of a process that dies. A run of the scheduler asks the limiter of a process each
time it is reported stopped with an ability to restart, and the answers follow the law of a limiter
that closes for good. -/
namespace Samgr

namespace Scheduler

open Throttle

/-- The call of `CanRestartProcessLocked` for a stopped process. There is none when no ability is to
be restarted. -/
def restartAnswer (env : Env) (s : Scheduler) (processName : String) : Option (Throttle.Answer Int) :=
  let stopped := s.afterStop env processName
  if stopped.2 = [] then none
  else
    some
      { time := env.getTickCount stopped.1.now 0
        allowed := (stopped.1.canRestartProcessLocked env processName).2 }

/-- The call that an operation makes for one process. -/
def restartCall (processName : String) (s : Scheduler) (label : Env × Op) : Option (Throttle.Answer Int) :=
  match label.2 with
  | .processEvent info .processStoppedEvent =>
      if info.processName = processName ∧ processName ∈ s.processNames ∧
          (s.process processName).state ≠ .notStarted then
        (s.setProcess processName fun context => { context with state := .notStarted }).restartAnswer
          label.1 processName
      else none
  | _ => none

/-- The calls for one process in a sequence of operations. -/
def restartCalls (processName : String) : Scheduler → List (Env × Op) → List (Throttle.Answer Int)
  | _, [] => []
  | s, label :: rest =>
      (s.restartCall processName label).toList ++ restartCalls processName (step s label) rest

variable {env : Env} {s : Scheduler} {processName : String} {history : List (Throttle.Answer Int)}

/-- The limiter of the process has given the answers of the history. -/
def Answered (processName : String) (s : Scheduler) (history : List (Throttle.Answer Int)) : Prop :=
  (s.restarts processName).Saw RESTART_TIMES_LIMIT RESTART_TIME_INTERVAL_LIMIT history

theorem answered_canRestart (answered : Answered processName s history) :
    Answered processName (s.canRestartProcessLocked env processName).1
      (history ++ [{ time := env.getTickCount s.now 0
                     allowed := (s.canRestartProcessLocked env processName).2 }]) := by
  have limiter : (s.canRestartProcessLocked env processName).1.restarts processName =
      ((s.restarts processName).ask RESTART_TIMES_LIMIT RESTART_TIME_INTERVAL_LIMIT
        (env.getTickCount s.now 0)).1 := by
    rw [restarts, canRestartProcessLocked_asks.1]
    exact Function.update_self ..
  rw [Answered, limiter, canRestartProcessLocked_asks.2]
  exact answered.ask (by decide)

theorem answered_of_list {t : Scheduler} (answered : Answered processName s history)
    (path : Ledger.Path (ListEntry env) s.ledger t.ledger) : Answered processName t history := by
  have same : t.restarts processName = s.restarts processName := path.limiter_eq fun _ => id
  rwa [Answered, same]

theorem answered_onProcessNotStarted (answered : Answered processName s history) :
    Answered processName (s.onProcessNotStartedLocked env processName)
      (history ++ (s.restartAnswer env processName).toList) := by
  have stopped : Answered processName (s.afterStop env processName).1 history :=
    answered_of_list answered afterStop_ledger
  simp only [onProcessNotStartedLocked_eq_afterStop, restartAnswer]
  generalize s.afterStop env processName = begun at stopped ⊢
  obtain ⟨t, died⟩ := begun
  dsimp only at stopped ⊢
  simp only [handleAbnormallyDiedAbilityLocked]
  split
  · simpa using stopped
  · have asked : Answered processName (t.canRestartProcessLocked env processName).1
        (history ++ [{ time := env.getTickCount t.now 0
                       allowed := (t.canRestartProcessLocked env processName).2 }]) :=
      answered_canRestart stopped
    split
    · exact answered_of_list asked (foldl_ledger fun t sa => restartAbility_ledger)
    · exact asked

/-- A process that is not NOT_STARTED enters it. -/
theorem handleProcessStopped_of_running {info : ProcessInfo}
    (running : (s.process info.processName).state ≠ .notStarted) :
    (s.handleProcessStoppedEventLocked env info).1 =
      (s.setProcess info.processName fun context =>
        { context with state := .notStarted }).onProcessNotStartedLocked env info.processName := by
  simp only [handleProcessStoppedEventLocked, processStateTransitionLocked]
  cases state : (s.process info.processName).state with
  | notStarted => exact absurd state running
  | started => rfl
  | stopping => rfl

theorem answered_processStopped {info : ProcessInfo} (answered : Answered info.processName s history) :
    Answered info.processName (s.sendProcessStateEvent env info .processStoppedEvent).1
      (history ++ (s.restartCall info.processName
        (env, .processEvent info .processStoppedEvent)).toList) := by
  simp only [restartCall, true_and]
  by_cases known : info.processName ∈ s.processNames
  · have handled : (s.sendProcessStateEvent env info .processStoppedEvent).1.restarts info.processName =
        (s.handleProcessStoppedEventLocked env info).1.restarts info.processName := by
      rw [restarts, ledger_sendProcessStopped known]
      rfl
    rw [Answered, handled]
    by_cases running : (s.process info.processName).state = .notStarted
    · have same : (s.handleProcessStoppedEventLocked env info).1 = s := by
        simp only [handleProcessStoppedEventLocked, running]
      rw [same, if_neg fun both => both.2 running, Option.toList_none, List.append_nil]
      exact answered
    · rw [handleProcessStopped_of_running running, if_pos ⟨known, running⟩]
      apply answered_onProcessNotStarted
      have entered : (s.setProcess info.processName fun context =>
          { context with state := .notStarted }).ledger = s.ledger := ledger_setProcess_quiet rfl rfl rfl
      rw [Answered, restarts, entered]
      exact answered
  · have same : (s.sendProcessStateEvent env info .processStoppedEvent).1 = s := by
      simp only [sendProcessStateEvent, if_pos known]
    rw [same, if_neg fun both => known both.1, Option.toList_none, List.append_nil]
    exact answered

/-- An operation adds its call to the history. -/
theorem answered_step {label : Env × Op} (answered : Answered processName s history) :
    Answered processName (step s label) (history ++ (s.restartCall processName label).toList) := by
  obtain ⟨env, op⟩ := label
  have path : Ledger.Path (OpEntry env op) s.ledger (step s (env, op)).ledger := exec_ledger
  by_cases stops : ∃ info, op = .processEvent info .processStoppedEvent ∧ info.processName = processName
  · obtain ⟨info, rfl, rfl⟩ := stops
    exact answered_processStopped answered
  · have quiet : s.restartCall processName (env, op) = none := by
      cases op with
      | processEvent info event =>
          cases event with
          | processStoppedEvent => exact if_neg fun both => stops ⟨info, rfl, both.1⟩
          | processStartedEvent => rfl
      | _ => rfl
    have same : (step s (env, op)).restarts processName = s.restarts processName := by
      apply path.limiter_eq
      intro curtime allowed
      cases op with
      | processEvent info event =>
          cases event with
          | processStoppedEvent => exact stops ⟨info, rfl, Eq.symm allowed⟩
          | processStartedEvent => exact allowed
      | _ => exact allowed
    rw [quiet, Option.toList_none, List.append_nil, Answered, same]
    exact answered

theorem answered_run {ops : List (Env × Op)} (answered : Answered processName s history) :
    Answered processName (Runs.run step s ops) (history ++ restartCalls processName s ops) := by
  induction ops generalizing s history with
  | nil => simpa [restartCalls] using answered
  | cons label rest hypothesis =>
      rw [restartCalls, ← List.append_assoc]
      exact hypothesis (answered_step answered)

theorem restarts_init (saProfiles : List SaProfile) : (init saProfiles).restarts processName = {} := by
  have kept : ∀ s : Scheduler, s.restarts processName = {} →
      (saProfiles.foldl initStateContext s).restarts processName = {} := by
    induction saProfiles with
    | nil => exact fun s fresh => fresh
    | cons profile rest hypothesis =>
        intro s fresh
        apply hypothesis
        by_cases named : profile.process = ""
        · rwa [initStateContext_of_unnamed named]
        · rw [← fresh, restarts, restarts, ledger, initStateContext_process named]
          by_cases same : processName = profile.process <;> simp [ledger, same]
  exact kept {} rfl

/-- In every run in which the calls for a process come in the order of their ticks: its list of restart
times is in order and has four entries at most; five allowed restarts in a row take 20000 ms; a restart
is refused only less than 20000 ms after the fourth-last allowed one or after another refusal; and after
a refusal every restart is refused. -/
theorem restarts_are_limited (saProfiles : List SaProfile) (ops : List (Env × Op)) (processName : String)
    (ordered : ((restartCalls processName (init saProfiles) ops).map Throttle.Answer.time).Pairwise (· ≤ ·)) :
    let calls := restartCalls processName (init saProfiles) ops
    let times := ((runFrom saProfiles ops).process processName).restartCountsCtrl
    (times.Pairwise (· ≤ ·) ∧ times.length ≤ 4) ∧
    (∀ i first fifth, (allowedTimes calls)[i]? = some first →
      (allowedTimes calls)[i + 4]? = some fifth → 20000 ≤ fifth - first) ∧
    ∀ before call after, calls = before ++ call :: after → call.allowed = false →
      ((∃ earlier ∈ before, earlier.allowed = false) ∨
        ∃ fourth, (allowedTimes before).reverse[3]? = some fourth ∧ call.time - fourth < 20000) ∧
      ∀ later ∈ after, later.allowed = false := by
  intro calls times
  have start : Answered processName (init saProfiles) [] := by
    rw [Answered, restarts_init]
    exact Limiter.saw_nil
  have answered : Answered processName (runFrom saProfiles ops) calls := answered_run start
  refine ⟨⟨answered.sorted ordered, answered.length_le⟩, ?_, ?_⟩
  · intro i first fifth starts ends
    exact answered.lawful.span (by decide) starts ends
  · intro before call after split refused
    refine ⟨?_, answered.lawful.latched split refused⟩
    apply (answered.lawful.refused split refused).imp_right
    rintro ⟨long, fourth, found, close⟩
    refine ⟨fourth, ?_, close⟩
    have long : 4 ≤ (allowedTimes before).length := long
    rw [List.getElem?_reverse (by omega), ← found]
    congr 1

/-- An ability that is asked for again and again dies at each tick. -/
def crashLoop (ticks : List Int) : List (Env × Op) :=
  ticks.flatMap fun tick =>
    [({}, .load (localLoad 1 7 70)),
     ({}, .processEvent ⟨"host", 100, 1000⟩ .processStartedEvent),
     ({ getTickCount := fun _ _ => tick }, .processEvent ⟨"host", 100, 1000⟩ .processStoppedEvent)]

def restartProfiles : List SaProfile := [{ process := "host", saId := 1, autoRestart := true }]

def crashTicks : List Int := [0, 0, 5000, 5000, 20000, 20000, 24999, 60000]

/-- The fifth and the sixth restart come just at the limit. -/
example : (restartCalls "host" (init restartProfiles) (crashLoop crashTicks)).map Throttle.Answer.allowed =
    [true, true, true, true, true, true, false, false] := by decide +kernel

theorem crashLoop_is_limited :
    let calls := restartCalls "host" (init restartProfiles) (crashLoop crashTicks)
    let times := ((runFrom restartProfiles (crashLoop crashTicks)).process "host").restartCountsCtrl
    (times.Pairwise (· ≤ ·) ∧ times.length ≤ 4) ∧
    (∀ i first fifth, (allowedTimes calls)[i]? = some first →
      (allowedTimes calls)[i + 4]? = some fifth → 20000 ≤ fifth - first) ∧
    ∀ before call after, calls = before ++ call :: after → call.allowed = false →
      ((∃ earlier ∈ before, earlier.allowed = false) ∨
        ∃ fourth, (allowedTimes before).reverse[3]? = some fourth ∧ call.time - fourth < 20000) ∧
      ∀ later ∈ after, later.allowed = false :=
  restarts_are_limited restartProfiles (crashLoop crashTicks) "host" (by decide +kernel)

end Scheduler

end Samgr
