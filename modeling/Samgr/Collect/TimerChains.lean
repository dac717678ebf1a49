import Samgr.Collect.LoopTimers
import Mathlib.Data.List.Perm.Basic

/-! The chains of loop tasks. A task that expires while its interval is in the set posts its
successor, so an interval has one chain as long as it has one waiting task; a withdrawal takes the
interval out of the set and leaves the task waiting. -/
namespace Samgr

/-- What happens to the timed collector once it is started. Expiries may come between two events
of one `AddCollectEvent`. -/
inductive TimedLabel where
  | addCollectEvent (event : PolicyEvent) (env : TimedEnv)
  | removeUnusedEvent (event : PolicyEvent)
  | expire (env : TimedEnv) (index : Nat)

namespace DeviceTimedCollect

variable {env : TimedEnv} {c d : DeviceTimedCollect} {event : PolicyEvent} {task : TimedTask}
  {interval : Int} {persistence : Bool}

def timedStep (c : DeviceTimedCollect) : TimedLabel → DeviceTimedCollect
  | .addCollectEvent event env => (c.addEvent env event).getD c
  | .removeUnusedEvent event => c.removeUnusedEvent event
  | .expire env index => c.expire env index

/-- A call of `AddCollectEvent` is the run of its events up to the first one it rejects. -/
theorem addCollectEvent_eq_run (c : DeviceTimedCollect) (events : List (PolicyEvent × TimedEnv)) :
    (c.addCollectEvent events).1 =
      Runs.run timedStep c ((events.takeWhile fun entry => takes entry.1).map fun entry =>
        .addCollectEvent entry.1 entry.2) := by
  rw [addCollectEvent]
  induction events generalizing c with
  | nil => rfl
  | cons entry events hypothesis =>
      cases taken : takes entry.1
      · rw [Fallible.run_rejected]
        · simp [addEvent_eq, taken]
        · simp [addEvent_eq, taken]
      · rw [Fallible.run_accepted]
        · rw [hypothesis]
          simp [addEvent_eq, taken, timedStep]
        · simp [addEvent_eq, taken]

/-- The waiting tasks of the loop of an interval. -/
def taskCount (c : DeviceTimedCollect) (persistence : Bool) (interval : Int) : Nat :=
  c.waiting.countP fun entry => entry.1 == .loop persistence interval

def OneTask (c : DeviceTimedCollect) : Prop :=
  ∀ persistence interval, c.taskCount persistence interval ≤ 1

/-- An expiry that reports posts exactly one successor. -/
def OneSuccessor (c : DeviceTimedCollect) : TimedLabel → Prop
  | .expire env index => ∀ persistence interval delay,
      c.waiting[index]? = some (.loop persistence interval, delay) →
        (c.expire env index).reports ≠ c.reports →
          (c.expire env index).taskCount persistence interval =
            { c with waiting := c.waiting.eraseIdx index }.taskCount persistence interval + 1
  | _ => True

/-- The test that a task makes when it expires. -/
def live (c : DeviceTimedCollect) (persistence : Bool) (interval : Int) : Bool :=
  if persistence then c.persitenceLoopTasks.contains interval
  else c.nonPersitenceLoopEventSet.contains interval

/-- An interval that enters the set has no task waiting, or nothing is posted for it; and a task
that reports is posted again. -/
def keepsChain (c : DeviceTimedCollect) : TimedLabel → Bool
  | .addCollectEvent event env =>
      !takes event || event.name == ORDER_TIMED_EVENT ||
        c.nonPersitenceLoopEventSet.contains (atoi event.value) ||
        (infoEntries env (some (c.infoWith event)) (.loop false (atoi event.value))
          (atoi event.value)).isEmpty ||
        c.taskCount false (atoi event.value) == 0
  | .removeUnusedEvent _ => true
  | .expire env index =>
      match c.waiting[index]? with
      | some (.loop persistence interval, _) =>
          !c.live persistence interval ||
            (infoReports c.timeInfos[interval]? interval persistence).isEmpty ||
            !(infoEntries env c.timeInfos[interval]? (.loop persistence interval) interval).isEmpty
      | _ => true

section Entries

/-- The tasks of one loop among some entries. -/
def entryCount (entries : List (TimedTask × Int)) (persistence : Bool) (interval : Int) : Nat :=
  entries.countP fun entry => entry.1 == .loop persistence interval

theorem taskCount_eq (posted : d.waiting = entries ++ c.waiting) :
    d.taskCount persistence interval =
      entryCount entries persistence interval + c.taskCount persistence interval := by
  rw [taskCount, posted, List.countP_append]
  rfl

theorem entryCount_le {entries : List (TimedTask × Int)}
    (cases : entries = [] ∨ ∃ time, entries = [(task, time)]) :
    entryCount entries persistence interval ≤ if task = .loop persistence interval then 1 else 0 := by
  rcases cases with rfl | ⟨time, rfl⟩
  · simp [entryCount]
  · simp only [entryCount, List.countP_singleton, beq_iff_eq]
    split <;> omega

theorem entryCount_of_ne {entries : List (TimedTask × Int)}
    (cases : entries = [] ∨ ∃ time, entries = [(task, time)])
    (other : task ≠ .loop persistence interval) : entryCount entries persistence interval = 0 := by
  have bound : entryCount entries persistence interval ≤ _ := entryCount_le cases
  rw [if_neg other] at bound
  omega

end Entries

section Effects

/-- What a loop task that expires posts. -/
def successors (env : TimedEnv) (c : DeviceTimedCollect) (persistence : Bool) (interval : Int) :
    List (TimedTask × Int) :=
  if c.live persistence interval then
    infoEntries env c.timeInfos[interval]? (.loop persistence interval) interval
  else []

theorem successors_cases (env : TimedEnv) (c : DeviceTimedCollect) (persistence : Bool)
    (interval : Int) : c.successors env persistence interval = [] ∨
      ∃ time, c.successors env persistence interval = [(.loop persistence interval, time)] := by
  rw [successors]
  split
  · exact infoEntries_cases _ _ _ _
  · exact .inl rfl

/-- A loop task that expires reports and is posted again, if it is live. -/
theorem runTask_loop :
    (c.runTask env (.loop persistence interval)).waiting =
        c.successors env persistence interval ++ c.waiting ∧
      (c.runTask env (.loop persistence interval)).reports =
        (if c.live persistence interval then
          infoReports c.timeInfos[interval]? interval persistence else []) ++ c.reports := by
  cases persistence
  · rw [runTask]
    by_cases inside : interval ∈ c.nonPersitenceLoopEventSet
    · simp [successors, live, inside, reportEventByTimeInfo_eq, postDelayTaskByTimeInfo_eq]
    · simp [successors, live, inside]
  · rw [runTask]
    by_cases inside : interval ∈ c.persitenceLoopTasks
    · simp [successors, live, inside, reportEventByTimeInfo_eq, postPersistenceDelayTask_eq]
    · simp [successors, live, inside]

theorem runTask_timed {timeString : String} :
    (c.runTask env (.timed persistence timeString)).waiting = c.waiting := by
  cases persistence <;> rfl

theorem removeUnusedEvent_waiting : (c.removeUnusedEvent event).waiting = c.waiting := by
  simp only [removeUnusedEvent, removeTimesInfo, removePersistenceLoopTask,
    removeNonPersistenceLoopTask]
  split
  · split <;> split <;> split <;> rfl
  · rfl

end Effects

/-- One waiting task for each interval and family, and no task known of an interval outside
the set. -/
structure Chained (c : DeviceTimedCollect) : Prop where
  one : c.OneTask
  tasks : ∀ interval : Int, interval ∈ c.nonPersitenceLoopTasks → interval ∈ c.nonPersitenceLoopEventSet

theorem oneTask_of_waiting (one : c.OneTask) (same : d.waiting = c.waiting) : d.OneTask := by
  intro persistence interval
  rw [taskCount, same]
  exact one persistence interval

/-- Posting for a loop keeps one task each exactly when nothing is posted or nothing was waiting. -/
theorem oneTask_posted_iff {entries : List (TimedTask × Int)}
    (cases : entries = [] ∨ ∃ time, entries = [(.loop persistence interval, time)])
    (one : c.OneTask) (posted : d.waiting = entries ++ c.waiting) :
    d.OneTask ↔ entries = [] ∨ c.taskCount persistence interval = 0 := by
  constructor
  · intro after
    rcases cases with none | ⟨time, rfl⟩
    · exact .inl none
    · right
      have count := after persistence interval
      rw [taskCount_eq posted] at count
      have single : entryCount [(TimedTask.loop persistence interval, time)] persistence interval = 1 := by
        simp [entryCount]
      omega
  · intro free family place
    rw [taskCount_eq posted]
    have before := one family place
    by_cases same : TimedTask.loop persistence interval = .loop family place
    · cases same
      rcases free with rfl | zero
      · simpa [entryCount] using before
      · have bound : entryCount entries persistence interval ≤ _ := entryCount_le cases
        rw [if_pos rfl] at bound
        omega
    · rw [entryCount_of_ne cases same]
      omega

theorem addEvent_oneTask_iff (chained : c.Chained) :
    (c.timedStep (.addCollectEvent event env)).OneTask ↔
      c.keepsChain (.addCollectEvent event env) = true := by
  rw [timedStep, addEvent_eq, keepsChain]
  cases taken : takes event
  · simpa using chained.one
  · simp only [if_true, Option.getD_some, Bool.not_true, Bool.false_or]
    by_cases timed : event.name = ORDER_TIMED_EVENT
    · simp only [timed, if_true, beq_self_eq_true, Bool.true_or, iff_true]
      rw [withTimed]
      split
      · exact chained.one
      · intro family place
        rw [taskCount_eq (c := c) rfl, entryCount_of_ne (timerEntries_cases _ _ _) (by simp)]
        have before := chained.one family place
        omega
    · simp only [timed, if_false]
      have plain : (event.name == ORDER_TIMED_EVENT) = false := by simpa using timed
      rw [plain, Bool.false_or]
      by_cases inside : atoi event.value ∈ c.nonPersitenceLoopEventSet
      · have same : (withLoop env event c).waiting = c.waiting := by simp [withLoop, inside]
        simpa [inside] using oneTask_of_waiting chained.one same
      · have fresh : atoi event.value ∉ c.nonPersitenceLoopTasks := fun known =>
          inside (chained.tasks _ known)
        have posted : (withLoop env event c).waiting =
            infoEntries env (some (c.infoWith event)) (.loop false (atoi event.value))
              (atoi event.value) ++ c.waiting := by
          simp [withLoop, inside, fresh]
        rw [oneTask_posted_iff (infoEntries_cases _ _ _ _) chained.one posted]
        simp [inside]

theorem withTimed_tasks :
    (withTimed env event c).nonPersitenceLoopTasks = c.nonPersitenceLoopTasks := by
  rw [withTimed]
  split <;> rfl

theorem withLoop_tasks (known : interval ∈ (withLoop env event c).nonPersitenceLoopTasks) :
    interval ∈ c.nonPersitenceLoopTasks ∨ atoi event.value = interval := by
  simp only [withLoop] at known
  split at known
  · exact .inl known
  · simp only at known
    split at known
    · exact .inl known
    · rw [Std.TreeSet.mem_insert, Std.compare_eq_iff_eq] at known
      exact known.symm

theorem addEvent_tasks (chained : c.Chained) (interval : Int)
    (known : interval ∈ (c.timedStep (.addCollectEvent event env)).nonPersitenceLoopTasks) :
    interval ∈ (c.timedStep (.addCollectEvent event env)).nonPersitenceLoopEventSet := by
  change interval ∈ (c.timedStep (.addCollectEvent event env)).loopSet false
  rw [timedStep, addEvent_eq] at known ⊢
  cases taken : takes event
  · simp only [taken, Bool.false_eq_true, if_false, Option.getD_none] at known ⊢
    exact chained.tasks interval known
  · simp only [taken, if_true, Option.getD_some] at known ⊢
    by_cases timed : event.name = ORDER_TIMED_EVENT
    · rw [if_pos timed, withTimed_tasks] at known
      rw [if_pos timed, withTimed_loopSet]
      exact chained.tasks interval known
    · rw [if_neg timed] at known ⊢
      rw [mem_withLoop]
      rcases withLoop_tasks known with before | own
      · exact .inl (chained.tasks interval before)
      · exact .inr ⟨rfl, own⟩

/-- A withdrawn interval is no longer known, if it was in the set when it was known. -/
theorem removeUnusedEvent_known (chained : c.Chained)
    (known : interval ∈ (c.removeUnusedEvent event).nonPersitenceLoopTasks) :
    interval ∈ c.nonPersitenceLoopTasks ∧
      ¬ (isLoop event = true ∧ event.persistence = false ∧ atoi event.value = interval) := by
  have infos : ∀ d : DeviceTimedCollect, (d.removeTimesInfo event (atoi event.value)).nonPersitenceLoopTasks =
      d.nonPersitenceLoopTasks := by
    intro d
    rw [removeTimesInfo]
    split <;> rfl
  rw [removeUnusedEvent] at known
  split at known
  · simp only [infos] at known
    split at known
    · rename_i persistent
      rw [removePersistenceLoopTask] at known
      refine ⟨?_, fun plain => by simp [persistent] at plain⟩
      split at known <;> exact known
    · rw [removeNonPersistenceLoopTask] at known
      split at known
      · rw [Std.TreeSet.mem_erase, ne_eq, Std.compare_eq_iff_eq] at known
        exact ⟨known.2, fun plain => known.1 plain.2.2⟩
      · rename_i outside
        refine ⟨known, fun plain => ?_⟩
        exact outside (plain.2.2 ▸ chained.tasks interval known)
  · rename_i other
    exact ⟨known, fun plain => other plain.1⟩

theorem removeUnusedEvent_tasks (chained : c.Chained) (interval : Int)
    (known : interval ∈ (c.removeUnusedEvent event).nonPersitenceLoopTasks) :
    interval ∈ (c.removeUnusedEvent event).nonPersitenceLoopEventSet := by
  change interval ∈ (c.removeUnusedEvent event).loopSet false
  obtain ⟨before, apart⟩ := removeUnusedEvent_known chained known
  exact mem_removeUnusedEvent.mpr ⟨chained.tasks interval before, apart⟩

/-- The collector when a waiting task has been taken out. -/
def taken (c : DeviceTimedCollect) (index : Nat) : DeviceTimedCollect :=
  { c with waiting := c.waiting.eraseIdx index }

theorem taken_le (index : Nat) : (c.taken index).taskCount persistence interval ≤
    c.taskCount persistence interval :=
  (List.eraseIdx_sublist _ _).countP_le

/-- The task that is taken out is counted no more. -/
theorem taken_loop {index : Nat} {delay : Int}
    (found : c.waiting[index]? = some (.loop persistence interval, delay)) :
    (c.taken index).taskCount persistence interval + 1 = c.taskCount persistence interval := by
  obtain ⟨inside, here⟩ := List.getElem?_eq_some_iff.mp found
  have moved := (List.getElem_cons_eraseIdx_perm inside).countP_eq fun entry =>
    entry.1 == .loop persistence interval
  rw [here, List.countP_cons_of_pos (by simp)] at moved
  exact moved

theorem expire_eq {index : Nat} {delay : Int} (found : c.waiting[index]? = some (task, delay)) :
    c.expire env index = (c.taken index).runTask env task := by
  rw [expire, found]
  rfl

theorem expire_oneTask (one : c.OneTask) (env : TimedEnv) (index : Nat) :
    (c.expire env index).OneTask := by
  cases found : c.waiting[index]? with
  | none =>
      rw [expire, found]
      exact one
  | some entry =>
      obtain ⟨task, delay⟩ := entry
      rw [expire_eq found]
      intro family place
      have fewer : (c.taken index).taskCount family place ≤ c.taskCount family place := taken_le index
      have before := one family place
      cases task with
      | timed persistence timeString =>
          have same : ((c.taken index).runTask env (.timed persistence timeString)).waiting =
            [] ++ (c.taken index).waiting := runTask_timed
          rw [taskCount_eq same]
          simp only [entryCount, List.countP_nil]
          omega
      | loop persistence interval =>
          have own := taken_loop found
          have cases := (c.taken index).successors_cases env persistence interval
          rw [taskCount_eq runTask_loop.1]
          by_cases same : TimedTask.loop persistence interval = .loop family place
          · cases same
            have bound : entryCount _ family place ≤ _ := entryCount_le cases
            rw [if_pos rfl] at bound
            omega
          · rw [entryCount_of_ne cases same]
            omega

/-- Where a report is due, the successor is posted exactly when something is posted at all. -/
theorem expire_oneSuccessor_iff (env : TimedEnv) (index : Nat) :
    c.OneSuccessor (.expire env index) ↔ c.keepsChain (.expire env index) = true := by
  rw [OneSuccessor, keepsChain]
  cases found : c.waiting[index]? with
  | none => simp
  | some entry =>
      obtain ⟨task, delay⟩ := entry
      rw [expire_eq found]
      cases task with
      | timed persistence timeString => simp
      | loop persistence interval =>
          have reports : (((c.taken index).runTask env (.loop persistence interval)).reports ≠ c.reports) ↔
              c.live persistence interval = true ∧
                infoReports c.timeInfos[interval]? interval persistence ≠ [] := by
            rw [runTask_loop.2]
            change ((if c.live persistence interval then _ else []) ++ c.reports ≠ c.reports) ↔ _
            rw [Ne, List.append_left_eq_self]
            cases c.live persistence interval <;> simp [taken]
          have count : ((c.taken index).runTask env (.loop persistence interval)).taskCount persistence
              interval = (c.taken index).taskCount persistence interval + 1 ↔
              c.successors env persistence interval ≠ [] := by
            rw [taskCount_eq runTask_loop.1]
            change entryCount (c.successors env persistence interval) persistence interval + _ = _ ↔ _
            rcases c.successors_cases env persistence interval with none | ⟨time, posted⟩
            · simp [none, entryCount]
            · simp [posted, entryCount, Nat.add_comm]
          simp only [Option.some.injEq, Prod.mk.injEq, TimedTask.loop.injEq, Bool.or_eq_true,
            Bool.not_eq_true', List.isEmpty_iff, List.isEmpty_eq_false_iff]
          constructor
          · intro one
            by_cases due : c.live persistence interval = true ∧
                infoReports c.timeInfos[interval]? interval persistence ≠ []
            · have posted := count.mp (one persistence interval delay ⟨⟨rfl, rfl⟩, rfl⟩
                (reports.mpr due))
              rw [successors, if_pos due.1] at posted
              exact .inr posted
            · grind
          · rintro kept family place time ⟨⟨rfl, rfl⟩, rfl⟩ reported
            have due := reports.mp reported
            refine count.mpr ?_
            rw [successors, if_pos due.1]
            grind

theorem runTask_tasks (within : ∀ interval : Int,
      interval ∈ c.nonPersitenceLoopTasks → interval ∈ c.nonPersitenceLoopEventSet)
    (interval : Int) (known : interval ∈ (c.runTask env task).nonPersitenceLoopTasks) :
    interval ∈ (c.runTask env task).nonPersitenceLoopEventSet := by
  cases task with
  | loop persistence place =>
      cases persistence
      · rw [runTask] at known ⊢
        by_cases inside : place ∈ c.nonPersitenceLoopEventSet
        · simp only [inside, if_true, postDelayTaskByTimeInfo_eq, reportEventByTimeInfo_eq,
            Std.TreeSet.mem_insert, Std.compare_eq_iff_eq] at known ⊢
          rcases known with rfl | known
          · exact inside
          · exact within interval known
        · rw [if_neg inside] at known ⊢
          exact within interval known
      · rw [runTask, postPersistenceDelayTask_eq, reportEventByTimeInfo_eq] at known ⊢
        split at known
        · rename_i inside
          rw [if_pos inside]
          exact within interval known
        · rename_i outside
          rw [if_neg outside]
          exact within interval known
  | timed persistence timeString =>
      cases persistence
      · exact within interval known
      · exact within interval known

theorem expire_tasks (chained : c.Chained) (env : TimedEnv) (index : Nat) (interval : Int)
    (known : interval ∈ (c.expire env index).nonPersitenceLoopTasks) :
    interval ∈ (c.expire env index).nonPersitenceLoopEventSet := by
  cases found : c.waiting[index]? with
  | none =>
      rw [expire, found] at known ⊢
      exact chained.tasks interval known
  | some entry =>
      rw [expire_eq found] at known ⊢
      apply runTask_tasks (c := c.taken index)
      · exact chained.tasks
      · exact known

/-- What one step promises is exactly its condition, and the condition keeps the chains. -/
theorem step_promise_iff (chained : c.Chained) (label : TimedLabel) :
    ((c.timedStep label).OneTask ∧ c.OneSuccessor label) ↔ c.keepsChain label = true := by
  cases label with
  | addCollectEvent event env =>
      rw [addEvent_oneTask_iff chained]
      simp [OneSuccessor]
  | removeUnusedEvent event =>
      simp only [keepsChain, OneSuccessor, and_true, iff_true]
      exact oneTask_of_waiting chained.one removeUnusedEvent_waiting
  | expire env index =>
      rw [expire_oneSuccessor_iff]
      exact and_iff_right (expire_oneTask chained.one env index)

theorem step_chained (chained : c.Chained) {label : TimedLabel} (keeps : c.keepsChain label = true) :
    (c.timedStep label).Chained := by
  refine ⟨((step_promise_iff chained label).mpr keeps).1, ?_⟩
  cases label with
  | addCollectEvent event env => exact addEvent_tasks chained
  | removeUnusedEvent event => exact removeUnusedEvent_tasks chained
  | expire env index => exact expire_tasks chained env index

section Start

/-- The intervals that have been posted, by family. -/
def loopTasks (c : DeviceTimedCollect) : Bool → Std.TreeSet Int
  | true => c.persitenceLoopTasks
  | false => c.nonPersitenceLoopTasks

/-- While the collector starts, nothing waits for an interval that has not been posted. -/
structure Starting (intervals : Std.TreeSet Int) (c : DeviceTimedCollect) : Prop where
  chained : c.Chained
  unposted : ∀ persistence interval, interval ∉ c.loopTasks persistence →
    c.taskCount persistence interval = 0
  set : c.nonPersitenceLoopEventSet = intervals

variable {intervals : Std.TreeSet Int}

/-- A task is posted once for each interval. -/
theorem Starting.post (persistence : Bool) (starting : Starting intervals c)
    (absent : interval ∉ c.loopTasks persistence)
    {entries : List (TimedTask × Int)}
    (cases : entries = [] ∨ ∃ time, entries = [(.loop persistence interval, time)])
    (posted : d.waiting = entries ++ c.waiting)
    (tasks : ∀ family place, place ∈ d.loopTasks family ↔
      (family = persistence ∧ interval = place) ∨ place ∈ c.loopTasks family)
    (set : d.nonPersitenceLoopEventSet = c.nonPersitenceLoopEventSet)
    (inside : persistence = false → interval ∈ c.nonPersitenceLoopEventSet) :
    Starting intervals d := by
  have none := starting.unposted persistence interval absent
  refine ⟨⟨(oneTask_posted_iff cases starting.chained.one posted).mpr (.inr none), ?_⟩, ?_,
    set.trans starting.set⟩
  · intro place known
    rw [set]
    rcases (tasks false place).mp known with ⟨plain, rfl⟩ | before
    · exact inside plain.symm
    · exact starting.chained.tasks place before
  · intro family place fresh
    rw [tasks] at fresh
    rw [taskCount_eq posted, starting.unposted family place fun known => fresh (.inr known)]
    apply entryCount_of_ne cases
    intro same
    cases same
    exact fresh (.inl ⟨rfl, rfl⟩)

theorem Starting.of_same (starting : Starting intervals c)
    (waiting : ∀ persistence interval, d.taskCount persistence interval = c.taskCount persistence interval)
    (tasks : ∀ persistence, d.loopTasks persistence = c.loopTasks persistence)
    (set : d.nonPersitenceLoopEventSet = c.nonPersitenceLoopEventSet) : Starting intervals d := by
  refine ⟨⟨fun family place => ?_, fun place known => ?_⟩, fun family place fresh => ?_,
    set.trans starting.set⟩
  · rw [waiting]
    exact starting.chained.one family place
  · rw [set]
    apply starting.chained.tasks
    change place ∈ c.loopTasks false
    rw [← tasks]
    exact known
  · rw [waiting]
    rw [tasks] at fresh
    exact starting.unposted family place fresh

theorem starting_processPersistenceTimedTask {disTime : Int} {timeString : String}
    (starting : Starting intervals c) :
    Starting intervals (c.processPersistenceTimedTask env disTime timeString) := by
  rw [processPersistenceTimedTask, postTimer_eq]
  split
  · exact starting.of_same (fun _ _ => rfl) (fun family => by cases family <;> rfl) rfl
  · apply starting.of_same
    · intro family place
      rw [taskCount_eq (c := c) rfl, entryCount_of_ne (timerEntries_cases _ _ _) (by simp)]
      omega
    · intro family
      cases family <;> rfl
    · rfl

theorem starting_processPersistenceLoopTask {disTime triggerTime : Int} {strInterval : String}
    (starting : Starting intervals c) :
    Starting intervals (c.processPersistenceLoopTask env disTime triggerTime strInterval) := by
  simp only [processPersistenceLoopTask]
  by_cases posted : atoi strInterval ∈ c.persitenceLoopTasks
  · rw [if_pos posted]
    exact starting
  · rw [if_neg posted]
    split
    · exact starting
    · split
      · exact starting
      · have tasks : ∀ (e : DeviceTimedCollect) family place,
            e.nonPersitenceLoopTasks = c.nonPersitenceLoopTasks →
            e.persitenceLoopTasks = c.persitenceLoopTasks.insert (atoi strInterval) →
            (place ∈ e.loopTasks family ↔
              (family = true ∧ atoi strInterval = place) ∨ place ∈ c.loopTasks family) := by
          intro e family place plain persistent
          cases family
          · simp [loopTasks, plain]
          · simp [loopTasks, persistent]
        split
        · rw [reportEventByTimeInfo_eq, postPersistenceDelayTask_eq]
          apply starting.post true posted (infoEntries_cases _ _ _ _) rfl
          · exact fun family place => tasks _ family place rfl rfl
          · rfl
          · simp
        · rw [postDelayTaskByTimeInfo_eq]
          apply starting.post true posted (infoEntries_cases _ _ _ _) rfl
          · exact fun family place => tasks _ family place rfl rfl
          · rfl
          · simp

theorem starting_postNonPersistenceLoopTaskLocked (starting : Starting intervals c)
    (inside : interval ∈ intervals) :
    Starting intervals (c.postNonPersistenceLoopTaskLocked env interval) := by
  rw [postNonPersistenceLoopTaskLocked, postDelayTaskByTimeInfo_eq]
  by_cases posted : interval ∈ c.nonPersitenceLoopTasks
  · rw [if_pos posted]
    exact starting
  · rw [if_neg posted]
    apply starting.post false posted (infoEntries_cases _ _ _ _) rfl
    · intro family place
      cases family
      · simp [loopTasks]
      · simp [loopTasks]
    · rfl
    · rw [starting.set]
      exact fun _ => inside

theorem starting_postPersistenceLoopTaskLocked (starting : Starting intervals c) :
    Starting intervals (c.postPersistenceLoopTaskLocked env interval) := by
  rw [postPersistenceLoopTaskLocked]
  by_cases posted : interval ∈ c.persitenceLoopTasks
  · rw [if_pos posted]
    exact starting
  · rw [if_neg posted]
    rw [postPersistenceDelayTask_eq]
    apply starting.post true posted (infoEntries_cases _ _ _ _) rfl
    · intro family place
      cases family
      · simp [loopTasks]
      · simp [loopTasks]
    · rfl
    · simp

theorem starting_init (preferencesUtil : PreferencesUtil) (saProfiles : List CollMgrSaProfile) :
    Starting (init preferencesUtil saProfiles).nonPersitenceLoopEventSet
      (init preferencesUtil saProfiles) := by
  have bare : (init preferencesUtil saProfiles).waiting = [] ∧
      (init preferencesUtil saProfiles).nonPersitenceLoopTasks = ∅ := by
    change (Runs.run saveTimedEvent { preferencesUtil } _).waiting = [] ∧
      (Runs.run saveTimedEvent { preferencesUtil } _).nonPersitenceLoopTasks = ∅
    apply Runs.run_invariant
      (fun c : DeviceTimedCollect => c.waiting = [] ∧ c.nonPersitenceLoopTasks = ∅)
    · intro c event before
      rw [saveTimedEvent]
      split
      · cases event.persistence <;> exact before
      · exact before
    · exact ⟨rfl, rfl⟩
  have none : ∀ family place, (init preferencesUtil saProfiles).taskCount family place = 0 := by
    intro family place
    rw [taskCount, bare.1]
    rfl
  refine ⟨⟨fun family place => ?_, fun place known => ?_⟩, fun family place _ => none family place, rfl⟩
  · rw [none]
    omega
  · rw [bare.2] at known
    simp at known

theorem chained_start (env : TimedEnv) (preferencesUtil : PreferencesUtil)
    (saProfiles : List CollMgrSaProfile) : ((init preferencesUtil saProfiles).onStart env).Chained := by
  have same : ((init preferencesUtil saProfiles).processPersistenceTasks env).loopSet false =
      (init preferencesUtil saProfiles).loopSet false :=
    (processEntries_keeps (SameLoops (init preferencesUtil saProfiles))
      (fun _ _ same => same.trans processPersistenceTimedTask_sameLoops)
      (fun _ _ _ same => same.trans processPersistenceLoopTask_sameLoops) _ (.refl _)).loopSet false
  have started : Starting (init preferencesUtil saProfiles).nonPersitenceLoopEventSet
      ((init preferencesUtil saProfiles).onStart env) := by
    apply onStart_keeps
    · exact fun _ _ starting => starting_processPersistenceTimedTask starting
    · exact fun _ _ _ starting => starting_processPersistenceLoopTask starting
    · intro c interval inside starting
      apply starting_postNonPersistenceLoopTaskLocked starting
      change interval ∈ (init preferencesUtil saProfiles).loopSet false
      rw [← same]
      exact inside
    · exact fun _ starting => starting_postPersistenceLoopTaskLocked starting
    · exact starting_init preferencesUtil saProfiles
  exact started.chained

end Start

/-- After the start, every interval has one waiting task at most in each family, and every expiry
that reports posts one successor, all along a run exactly when no interval enters the set while a
task of it is waiting and every successor is taken. -/
theorem one_chain_per_interval_iff (env : TimedEnv) (preferencesUtil : PreferencesUtil)
    (saProfiles : List CollMgrSaProfile) (labels : List TimedLabel) :
    ((init preferencesUtil saProfiles).onStart env).OneTask ∧
      (Runs.Guarded timedStep (fun c label => (c.timedStep label).OneTask ∧ c.OneSuccessor label)
          ((init preferencesUtil saProfiles).onStart env) labels ↔
        Runs.Guarded timedStep (fun c label => c.keepsChain label = true)
          ((init preferencesUtil saProfiles).onStart env) labels) := by
  have start := chained_start env preferencesUtil saProfiles
  refine ⟨start.one, ?_⟩
  apply Runs.guarded_iff_guarded Chained
  · exact fun _ label chained => step_promise_iff chained label
  · exact fun _ _ chained keeps => step_chained chained keeps
  · exact start

section Sample

def hourly : PolicyEvent := { eventId := TIMED_EVENT, name := LOOP_EVENT, value := "3600" }

def hourlyProfile : List CollMgrSaProfile :=
  [{ saId := 1401, startOnDemandEvents := [hourly], stopOnDemandEvents := [] }]

/-- The loop is withdrawn and set again before its task expires. -/
def removedAndAdded : List TimedLabel := [.removeUnusedEvent hourly, .addCollectEvent hourly {}]

theorem second_chain_is_posted : ¬ ∀ (saProfiles : List CollMgrSaProfile) (labels : List TimedLabel),
    Runs.Guarded timedStep (fun c label => (c.timedStep label).OneTask ∧ c.OneSuccessor label)
      ((init ∅ saProfiles).onStart {}) labels := by
  intro always
  have single := (always hourlyProfile removedAndAdded).2.1.1 false 3600
  revert single
  decide +kernel

end Sample

end DeviceTimedCollect

end Samgr
