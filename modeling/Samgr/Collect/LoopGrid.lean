import Samgr.Collect.Atomicity
import Samgr.Collect.StartTimers
import Samgr.Collect.TimerChains
import Mathlib.Data.Int.ModEq

/-! Persistent loops across a restart. The start puts a loop back on the grid of its stored trigger
time, however long the pause was; a task of its chain that expires on time stays on the grid, as
long as the loop is not withdrawn. -/
namespace Samgr

namespace DeviceTimedCollect

variable {env : TimedEnv} {c d : DeviceTimedCollect} {interval triggerTime delay : Int}
  {task : TimedTask} {info : TimeInfo} {key : String}

section Delays

/-- The time to the next trigger of a loop that is started again. -/
def restartDelay (env : TimedEnv) (interval triggerTime : Int) : Int :=
  if triggerTime ≤ env.now then interval - ((triggerTime - env.now).natAbs : Int) % interval
  else triggerTime - env.now

theorem restartDelay_pos (positive : 0 < interval) : 0 < restartDelay env interval triggerTime := by
  rw [restartDelay]
  split
  · have residue := Int.emod_lt_of_pos ((triggerTime - env.now).natAbs : Int) positive
    omega
  · omega

theorem restartDelay_le (positive : 0 < interval) (caught : triggerTime - interval ≤ env.now) :
    restartDelay env interval triggerTime ≤ interval := by
  rw [restartDelay]
  split
  · have residue := Int.emod_nonneg ((triggerTime - env.now).natAbs : Int) positive.ne'
    omega
  · omega

/-- The pause is taken off up to its residue. -/
theorem restartDelay_modEq :
    env.now + restartDelay env interval triggerTime ≡ triggerTime [ZMOD interval] := by
  rw [restartDelay]
  split
  · rename_i passed
    have pause : ((triggerTime - env.now).natAbs : Int) = env.now - triggerTime := by omega
    have period : interval ≡ 0 [ZMOD interval] := Int.modEq_zero_iff_dvd.mpr dvd_rfl
    have residue : (env.now - triggerTime) % interval ≡ env.now - triggerTime [ZMOD interval] :=
      Int.mod_modEq _ _
    rw [pause]
    calc env.now + (interval - (env.now - triggerTime) % interval)
        ≡ env.now + (0 - (env.now - triggerTime)) [ZMOD interval] :=
          (period.sub residue).add_left env.now
      _ = triggerTime := by omega
  · rw [add_sub_cancel]

/-- A delay that fits the milliseconds of the collect handler is posted as it is, by whichever of
the two timers takes it. -/
theorem infoEntries_of_fits (positive : 0 < delay) (fits : delay ≤ 2147483) :
    infoEntries env (some info) task delay = [(task, delay)] := by
  have whole : toInt32 delay = delay := Int.bmod_eq_of_le (by omega) (by omega)
  have plain : delayEntries task delay = [(task, delay)] := by
    have limit : INT32_MAX / TO_MILLISECOND = 2147483 := rfl
    rw [delayEntries, whole, limit, if_neg (by omega)]
  rw [infoEntries, timerEntries, plain]
  split
  · split <;> rfl
  · rfl

theorem armed_eq (info : Option TimeInfo) :
    armed env info interval triggerTime =
      (if triggerTime ≤ env.now then infoReports info interval true else [],
        infoEntries env info (.loop true interval) (restartDelay env interval triggerTime)) := by
  rw [armed, restartDelay]
  split <;> rfl

theorem infoReports_eq_nil_iff {persistence : Bool} :
    infoReports (some info) interval persistence = [] ↔ info = {} := by
  obtain ⟨normal, awake⟩ := info
  cases normal <;> cases awake <;> simp [infoReports]

end Delays

/-- A loop is taken up again: it has one more task, with a delay that leads back to the grid; a
trigger time that has passed is reported and replaced by the next one, and the store keeps one
that is still to come. -/
structure Resumed (env : TimedEnv) (info : TimeInfo) (interval triggerTime delay : Int)
    (c d : DeviceTimedCollect) : Prop where
  pos : 0 < delay
  le : delay ≤ interval
  grid : env.now + delay ≡ triggerTime [ZMOD interval]
  waiting : d.waiting = (.loop true interval, delay) :: c.waiting
  reports : d.reports =
    (if triggerTime ≤ env.now then infoReports (some info) interval true else []) ++ c.reports
  reported : d.reports ≠ c.reports ↔ triggerTime ≤ env.now ∧ info ≠ {}
  passed : triggerTime ≤ env.now →
    d.preferencesUtil = c.preferencesUtil.saveLong (toString interval) (env.now + delay)
  ahead : env.now < triggerTime →
    d.preferencesUtil = c.preferencesUtil ∧ triggerTime = env.now + delay

theorem processPersistenceLoopTask_resumed (least : 30 ≤ interval) (most : interval ≤ 2147483)
    (place : atoi key = interval) (caught : triggerTime - interval ≤ env.now)
    (known : c.timeInfos[interval]? = some info) (fresh : interval ∉ c.persitenceLoopTasks) :
    Resumed env info interval triggerTime (restartDelay env interval triggerTime) c
      (c.processPersistenceLoopTask env (triggerTime - env.now) triggerTime key) := by
  subst place
  have arming : arms env (atoi key) triggerTime = true := by
    rw [arms, Bool.and_eq_true, decide_eq_true_eq, decide_eq_true_eq]
    exact ⟨least, caught⟩
  have positive : 0 < restartDelay env (atoi key) triggerTime := restartDelay_pos (by omega)
  have small : restartDelay env (atoi key) triggerTime ≤ atoi key :=
    restartDelay_le (by omega) caught
  have after : c.processPersistenceLoopTask env (triggerTime - env.now) triggerTime key = _ :=
    processPersistenceLoopTask_eq
  rw [if_neg (by simp [fresh, arming]), known, armed_eq,
    infoEntries_of_fits positive (by omega)] at after
  rw [after]
  refine ⟨positive, small, restartDelay_modEq, rfl, rfl, ?_, ?_, ?_⟩
  · change (if triggerTime ≤ env.now then infoReports (some info) (atoi key) true else []) ++
      c.reports ≠ c.reports ↔ _
    rw [ne_eq, List.append_left_eq_self]
    split
    · rename_i passed
      rw [infoReports_eq_nil_iff]
      simp [passed]
    · rename_i future
      simp [future]
  · intro passed
    simp only [if_pos passed, restartDelay]
  · intro future
    simp only [restartDelay, if_neg future.not_ge, add_sub_cancel, and_self]

section Chain

/-- A waiting task, with the time at which it is due if it is of the chain that is followed. -/
structure Timer where
  entry : TimedTask × Int
  due : Option Int

/-- What happens to the timed collector, the start entry by entry. -/
inductive ClockLabel where
  | processLoop (env : TimedEnv) (triggerTime : Int) (strInterval : String)
  | processTimed (env : TimedEnv) (triggerTime : Int) (timeString : String)
  | postNonPersistence (env : TimedEnv) (interval : Int)
  | postPersistence (env : TimedEnv) (interval : Int)
  | started (label : TimedLabel)

def clockStep (c : DeviceTimedCollect) : ClockLabel → DeviceTimedCollect
  | .processLoop env triggerTime strInterval =>
      c.processPersistenceLoopTask env (triggerTime - env.now) triggerTime strInterval
  | .processTimed env triggerTime timeString =>
      c.processPersistenceTimedTask env (triggerTime - env.now) timeString
  | .postNonPersistence env interval => c.postNonPersistenceLoopTaskLocked env interval
  | .postPersistence env interval => c.postPersistenceLoopTaskLocked env interval
  | .started label => c.timedStep label

/-- What a label leaves of a list that follows the waiting tasks. -/
def left {α : Type} (entries : List α) : ClockLabel → List α
  | .started (.expire _ index) => entries.eraseIdx index
  | _ => entries

theorem expire_waiting (c : DeviceTimedCollect) (env : TimedEnv) (index : Nat) :
    c.waiting.eraseIdx index <:+ (c.expire env index).waiting := by
  cases found : c.waiting[index]? with
  | none =>
      have kept : c.waiting.eraseIdx index = (c.expire env index).waiting := by
        rw [List.eraseIdx_of_length_le (List.getElem?_eq_none_iff.mp found), expire, found]
      exact kept ▸ List.suffix_rfl
  | some entry =>
      obtain ⟨task, delay⟩ := entry
      rw [expire_eq found]
      cases task with
      | loop persistence interval =>
          rw [runTask_loop.1]
          exact List.suffix_append _ _
      | timed persistence timeString =>
          rw [runTask_timed]
          exact List.suffix_rfl

/-- Tasks are only ever taken out by expiring, and new ones are put in front. -/
theorem clockStep_waiting (c : DeviceTimedCollect) (label : ClockLabel) :
    left c.waiting label <:+ (c.clockStep label).waiting := by
  cases label with
  | processLoop env triggerTime strInterval =>
      simp only [clockStep, left, processPersistenceLoopTask_eq]
      split
      · exact List.suffix_rfl
      · exact List.suffix_append _ _
  | processTimed env triggerTime timeString =>
      simp only [clockStep, left, processPersistenceTimedTask, postTimer_eq]
      split
      · exact List.suffix_rfl
      · exact List.suffix_append _ _
  | postNonPersistence env interval =>
      simp only [clockStep, left, postNonPersistenceLoopTaskLocked, postDelayTaskByTimeInfo_eq]
      split
      · exact List.suffix_rfl
      · exact List.suffix_append _ _
  | postPersistence env interval =>
      simp only [clockStep, left, postPersistenceLoopTaskLocked, postPersistenceDelayTask_eq]
      split
      · exact List.suffix_rfl
      · exact List.suffix_append _ _
  | started label =>
      cases label with
      | addCollectEvent event env =>
          simp only [clockStep, left, timedStep, addEvent_eq]
          split
          · split
            · exact withTimed_within.waiting
            · have grown : Within env.orderTime c (withLoop env event c) := withLoop_within
              exact grown.waiting
          · exact List.suffix_rfl
      | removeUnusedEvent event =>
          simp only [clockStep, left, timedStep, removeUnusedEvent_waiting]
          exact List.suffix_rfl
      | expire env index => exact c.expire_waiting env index

/-- The tasks that a label posts. -/
def posted (c : DeviceTimedCollect) (label : ClockLabel) : List (TimedTask × Int) :=
  (c.clockStep label).waiting.take
    ((c.clockStep label).waiting.length - (left c.waiting label).length)

theorem posted_append (c : DeviceTimedCollect) (label : ClockLabel) :
    c.posted label ++ left c.waiting label = (c.clockStep label).waiting := by
  obtain ⟨fresh, whole⟩ := c.clockStep_waiting label
  rw [posted, ← whole, List.length_append, Nat.add_sub_cancel, List.take_left]

theorem map_left {α β : Type} (f : α → β) (entries : List α) (label : ClockLabel) :
    (left entries label).map f = left (entries.map f) label := by
  cases label with
  | started label =>
      cases label with
      | expire env index => exact (List.eraseIdx_map f entries index).symm
      | addCollectEvent event env => rfl
      | removeUnusedEvent event => rfl
  | processLoop env triggerTime strInterval => rfl
  | processTimed env triggerTime timeString => rfl
  | postNonPersistence env interval => rfl
  | postPersistence env interval => rfl

theorem mem_left {α : Type} {entries : List α} {entry : α} {label : ClockLabel}
    (member : entry ∈ left entries label) : entry ∈ entries := by
  cases label with
  | started label =>
      cases label with
      | expire env index => exact List.mem_of_mem_eraseIdx member
      | addCollectEvent event env => exact member
      | removeUnusedEvent event => exact member
  | processLoop env triggerTime strInterval => exact member
  | processTimed env triggerTime timeString => exact member
  | postNonPersistence env interval => exact member
  | postPersistence env interval => exact member

/-- A collector, each of its waiting tasks with a timer. -/
structure Clocked where
  collect : DeviceTimedCollect
  timers : List Timer
  entries : timers.map Timer.entry = collect.waiting

namespace Clocked

variable {k : Clocked} {label : ClockLabel}

/-- The task of the chain that a label lets expire, by the time it was due. -/
def due (k : Clocked) : ClockLabel → Option Int
  | .started (.expire _ index) => (k.timers[index]?).bind Timer.due
  | _ => none

/-- The time at which a task expires. -/
def expiry : ClockLabel → Int
  | .started (.expire env _) => env.now
  | _ => 0

/-- What a task of the chain posts when it expires belongs to the chain. -/
def timer (k : Clocked) (label : ClockLabel) (entry : TimedTask × Int) : Timer :=
  { entry, due := (k.due label).map fun _ => expiry label + entry.2 }

def step (k : Clocked) (label : ClockLabel) : Clocked where
  collect := k.collect.clockStep label
  timers := (k.collect.posted label).map (k.timer label) ++ left k.timers label
  entries := by
    rw [List.map_append, List.map_map, map_left, k.entries, ← posted_append]
    congr 1
    exact List.map_id _

/-- The tasks of the chain expire when they are due. -/
def OnTime (k : Clocked) (label : ClockLabel) : Prop :=
  ∀ time ∈ k.due label, expiry label = time

instance (k : Clocked) (label : ClockLabel) : Decidable (k.OnTime label) :=
  inferInstanceAs (Decidable (∀ time ∈ k.due label, expiry label = time))

/-- The chain starts with the newest task. -/
def newest (env : TimedEnv) : List (TimedTask × Int) → List Timer
  | [] => []
  | entry :: older =>
      { entry, due := some (env.now + entry.2) } :: older.map fun entry => { entry, due := none }

def follow (env : TimedEnv) (c : DeviceTimedCollect) : Clocked where
  collect := c
  timers := newest env c.waiting
  entries := by
    cases c.waiting with
    | nil => rfl
    | cons entry older => simp [newest, Function.comp_def]

/-- The tasks of the chain are of the loop and due on its grid. -/
def OnGrid (interval triggerTime : Int) (k : Clocked) : Prop :=
  ∀ timer ∈ k.timers, ∀ time ∈ timer.due,
    timer.entry.1 = .loop true interval ∧ time ≡ triggerTime [ZMOD interval]

/-- A task of the chain that expires while the loop is not withdrawn stores the next trigger time. -/
def StoresNext (interval triggerTime : Int) (k : Clocked) (label : ClockLabel) : Prop :=
  k.due label ≠ none → interval ∈ k.collect.persitenceLoopTasks →
    (k.step label).collect.preferencesUtil[toString interval]? =
        some (.long (expiry label + interval)) ∧
      expiry label + interval ≡ triggerTime [ZMOD interval]

theorem due_cases {time : Int} (found : time ∈ k.due label) :
    ∃ env index timer, label = .started (.expire env index) ∧ k.timers[index]? = some timer ∧
      time ∈ timer.due := by
  cases label with
  | started label =>
      cases label with
      | expire env index =>
          obtain ⟨timer, there, due⟩ := Option.bind_eq_some_iff.mp found
          exact ⟨env, index, timer, rfl, there, due⟩
      | addCollectEvent event env => cases found
      | removeUnusedEvent event => cases found
  | processLoop env triggerTime strInterval => cases found
  | processTimed env triggerTime timeString => cases found
  | postNonPersistence env interval => cases found
  | postPersistence env interval => cases found

/-- The expiry of a task of the chain is that of a task of the loop, on the grid. -/
theorem OnGrid.expires (onGrid : k.OnGrid interval triggerTime) (onTime : k.OnTime label)
    (ours : k.due label ≠ none) :
    ∃ env index delay, label = .started (.expire env index) ∧
      k.collect.waiting[index]? = some (.loop true interval, delay) ∧
      env.now ≡ triggerTime [ZMOD interval] := by
  obtain ⟨time, found⟩ := Option.ne_none_iff_exists'.mp ours
  have now := onTime time found
  obtain ⟨env, index, timer, rfl, there, due⟩ := due_cases found
  obtain ⟨task, grid⟩ := onGrid timer (List.mem_of_getElem? there) time due
  refine ⟨env, index, timer.entry.2, rfl, ?_, ?_⟩
  · rw [← k.entries, List.getElem?_map, there, Option.map_some, ← task]
  · rw [← now] at grid
    exact grid

theorem next_modEq {now : Int} (grid : now ≡ triggerTime [ZMOD interval]) :
    now + interval ≡ triggerTime [ZMOD interval] := by
  calc now + interval ≡ now + 0 [ZMOD interval] :=
        (Int.modEq_zero_iff_dvd.mpr dvd_rfl).add_left now
    _ = now := add_zero now
    _ ≡ triggerTime [ZMOD interval] := grid

theorem posted_expire {env : TimedEnv} {index : Nat}
    (found : k.collect.waiting[index]? = some (.loop true interval, delay)) :
    k.collect.posted (.started (.expire env index)) =
      k.collect.successors env true interval := by
  have whole := k.collect.posted_append (.started (.expire env index))
  simp only [clockStep, timedStep, expire_eq found, runTask_loop.1] at whole
  exact List.append_cancel_right whole

theorem step_onGrid (least : 0 < interval) (most : interval ≤ 2147483)
    (onTime : k.OnTime label) (onGrid : k.OnGrid interval triggerTime) :
    (k.step label).OnGrid interval triggerTime := by
  rintro timer member time due
  rcases List.mem_append.mp member with fresh | old
  · obtain ⟨entry, posted, rfl⟩ := List.mem_map.mp fresh
    obtain ⟨before, found, rfl⟩ := Option.map_eq_some_iff.mp due
    obtain ⟨env, index, delay, rfl, waits, now⟩ :=
      onGrid.expires onTime (Option.ne_none_iff_exists'.mpr ⟨before, found⟩)
    rw [posted_expire waits, successors] at posted
    split at posted
    · cases known : k.collect.timeInfos[interval]? with
      | none =>
          rw [known] at posted
          cases posted
      | some info =>
          rw [known, infoEntries_of_fits least most, List.mem_singleton] at posted
          subst posted
          exact ⟨rfl, next_modEq now⟩
    · cases posted
  · exact onGrid timer (mem_left old) time due

theorem stores_next (onTime : k.OnTime label) (onGrid : k.OnGrid interval triggerTime) :
    k.StoresNext interval triggerTime label := by
  intro ours inside
  obtain ⟨env, index, delay, rfl, waits, now⟩ := onGrid.expires onTime ours
  refine ⟨?_, next_modEq now⟩
  have still : interval ∈ (k.collect.taken index).persitenceLoopTasks := inside
  simp only [step, clockStep, timedStep, expire_eq waits, runTask, if_pos still,
    postPersistenceDelayTask_eq, PreferencesUtil.saveLong, expiry]
  exact Std.TreeMap.getElem?_insert_self

end Clocked

theorem Resumed.follow_onGrid (resumed : Resumed env info interval triggerTime delay c d) :
    (Clocked.follow env d).OnGrid interval triggerTime := by
  intro timer member time due
  change timer ∈ Clocked.newest env d.waiting at member
  rw [resumed.waiting, Clocked.newest] at member
  rcases List.mem_cons.mp member with rfl | older
  · cases due
    exact ⟨rfl, resumed.grid⟩
  · obtain ⟨entry, -, rfl⟩ := List.mem_map.mp older
    cases due

end Chain

/-- Starting a persistent loop again arms one task that leads back to the grid of its trigger time,
unless the loop has a task already; and every task of its chain that expires on time while the
loop is not withdrawn stores the next time of the grid. -/
theorem persistent_loop_keeps_its_grid (least : 30 ≤ interval) (most : interval ≤ 2147483)
    (place : atoi key = interval) (caught : triggerTime - interval ≤ env.now)
    (known : c.timeInfos[interval]? = some info) :
    let d := c.processPersistenceLoopTask env (triggerTime - env.now) triggerTime key
    (interval ∈ c.persitenceLoopTasks → d = c) ∧
      (interval ∉ c.persitenceLoopTasks →
        (∃ delay, Resumed env info interval triggerTime delay c d) ∧
          ∀ labels, Runs.Guarded Clocked.step Clocked.OnTime (.follow env d) labels →
            Runs.Guarded Clocked.step (Clocked.StoresNext interval triggerTime) (.follow env d)
              labels) := by
  intro d
  refine ⟨fun posted => ?_, fun fresh => ?_⟩
  · change c.processPersistenceLoopTask env (triggerTime - env.now) triggerTime key = c
    rw [processPersistenceLoopTask_eq, place, if_pos (.inl posted)]
  · have resumed : Resumed env info interval triggerTime _ c d :=
      processPersistenceLoopTask_resumed least most place caught known fresh
    refine ⟨⟨_, resumed⟩, fun labels onTime => ?_⟩
    refine Runs.Guarded.along (Clocked.OnGrid interval triggerTime)
      (fun k label onTime onGrid => Clocked.step_onGrid (by omega) most onTime onGrid)
      (fun k label onTime onGrid => Clocked.stores_next onTime onGrid) onTime ?_
    exact resumed.follow_onGrid

section Sample

def hourlyPersistent : PolicyEvent :=
  { eventId := TIMED_EVENT, name := LOOP_EVENT, value := "3600", persistence := true }

def persistentProfile : List CollMgrSaProfile :=
  [{ saId := 1401, startOnDemandEvents := [hourlyPersistent], stopOnDemandEvents := [] }]

/-- The collector before the stored loops are started again. -/
def beforeStart : DeviceTimedCollect := init (single "3600" 5000) persistentProfile

theorem hourly_loop_keeps_its_grid :
    let d := beforeStart.processPersistenceLoopTask { now := 20000 } (5000 - 20000) 5000 "3600"
    (3600 ∈ beforeStart.persitenceLoopTasks → d = beforeStart) ∧
      (3600 ∉ beforeStart.persitenceLoopTasks →
        (∃ delay, Resumed { now := 20000 } { normal := true } 3600 5000 delay beforeStart d) ∧
          ∀ labels, Runs.Guarded Clocked.step Clocked.OnTime (.follow { now := 20000 } d) labels →
            Runs.Guarded Clocked.step (Clocked.StoresNext 3600 5000) (.follow { now := 20000 } d)
              labels) :=
  persistent_loop_keeps_its_grid (by decide) (by decide) (by decide +kernel) (by decide)
    (by decide +kernel)

/-- The loop is withdrawn before its task expires. -/
def withdrawnInTime : List ClockLabel :=
  [.started (.removeUnusedEvent hourlyPersistent), .started (.expire { now := 5000 } 0)]

/-- A loop that has a task is not armed again, and one that is withdrawn stores nothing any more. -/
theorem armed_and_withdrawn_loops_are_left :
    (¬ ∀ (env : TimedEnv) (c : DeviceTimedCollect) (info : TimeInfo) (key : String)
        (interval triggerTime : Int), 30 ≤ interval → interval ≤ 2147483 → atoi key = interval →
        triggerTime - interval ≤ env.now → c.timeInfos[interval]? = some info →
          ∃ delay, Resumed env info interval triggerTime delay c
            (c.processPersistenceLoopTask env (triggerTime - env.now) triggerTime key)) ∧
      ¬ ∀ (env : TimedEnv) (c : DeviceTimedCollect) (info : TimeInfo) (key : String)
        (interval triggerTime : Int), 30 ≤ interval → interval ≤ 2147483 → atoi key = interval →
        triggerTime - interval ≤ env.now → c.timeInfos[interval]? = some info →
          interval ∉ c.persitenceLoopTasks → ∀ labels,
            let start := Clocked.follow env
              (c.processPersistenceLoopTask env (triggerTime - env.now) triggerTime key)
            Runs.Guarded Clocked.step Clocked.OnTime start labels →
              Runs.Guarded Clocked.step (fun k label => k.due label ≠ none →
                (k.step label).collect.preferencesUtil[toString interval]? =
                  some (.long (Clocked.expiry label + interval))) start labels := by
  constructor
  · intro always
    obtain ⟨delay, resumed⟩ := always { now := 20000 }
      (beforeStart.processPersistenceLoopTask { now := 20000 } (5000 - 20000) 5000 "3600")
      { normal := true } "03600" 3600 5000 (by decide) (by decide) (by decide +kernel) (by decide)
      (by decide +kernel)
    have longer := congrArg List.length resumed.waiting
    rw [processPersistenceLoopTask_eq, if_pos (by decide +kernel), List.length_cons] at longer
    omega
  · intro always
    have stored := (always { now := 4000 } beforeStart { normal := true } "3600" 3600 5000
      (by decide) (by decide) (by decide +kernel) (by decide) (by decide +kernel)
      (by decide +kernel) withdrawnInTime (by decide +kernel)).2.1 (by decide +kernel)
    revert stored
    decide +kernel

end Sample

end DeviceTimedCollect

end Samgr
