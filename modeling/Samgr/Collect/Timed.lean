import Samgr.Facade.Collect
import Samgr.Lib.Decimal
import Samgr.Lib.Fallible
import Mathlib.Algebra.Group.Nat.Defs

/-! The collector of timed events: the intervals of its loops in two families, what is known of
each interval, the tasks it has posted, and the store that outlives a restart. -/
namespace Samgr

def TIMED_EVENT : Int := 5
def LOOP_EVENT : String := "loopevent"
def AWAKE_LOOP_EVENT : String := "awakeloopevent"
def ORDER_TIMED_EVENT : String := "timedevent"
def MIN_INTERVAL : Int := 30
def MIN_AWAKE_INTERVAL : Int := 3600
def TO_MILLISECOND : Int := 1000
def INT32_MAX : Int := 2147483647

/-- A number in 32 bits. -/
def toInt32 (value : Int) : Int := value.bmod (2 ^ 32)

/-- A number outside the range wraps around. -/
def atoi (text : String) : Int := toInt32 (Decimal.value text.toList)

inductive PreferencesValue where
  | long (value : Int)
  | string (value : String)
  | other
  deriving DecidableEq, Repr

/-- The content of the preferences file. -/
abbrev PreferencesUtil : Type := Std.TreeMap String PreferencesValue

namespace PreferencesUtil

variable (p : PreferencesUtil)

def saveLong (key : String) (value : Int) : PreferencesUtil := p.insert key (.long value)

def saveString (key value : String) : PreferencesUtil := p.insert key (.string value)

/-- A value of another type counts as none. -/
def obtainString (key : String) : String :=
  match p[key]? with
  | some (.string value) => value
  | _ => ""

end PreferencesUtil

structure TimeInfo where
  normal : Bool := false
  awake : Bool := false
  deriving DecidableEq, Repr

/-- What a posted task does when it expires. -/
inductive TimedTask where
  | loop (persistence : Bool) (interval : Int)
  | timed (persistence : Bool) (timeString : String)
  deriving DecidableEq, Repr

/-- What the system answers while an event is handled: the clock, the time a text stands for, and
whether `SamgrTimeHandler` takes a task. -/
structure TimedEnv where
  now : Int := 0
  orderTime : String → Int := fun _ => 0
  isMultiUser : Bool := false
  timerTaken : TimedTask → Bool := fun _ => true

/-- The maps from intervals to tasks are given by their keys, since the task under an interval is
always the loop of that interval. `waiting` lists the posted tasks that have not expired, with
their delays, and `reports` the reported events, both the newest first. -/
structure DeviceTimedCollect where
  nonPersitenceLoopEventSet : Std.TreeSet Int := ∅
  persitenceLoopEventSet : Std.TreeSet Int := ∅
  nonPersitenceLoopTasks : Std.TreeSet Int := ∅
  persitenceLoopTasks : Std.TreeSet Int := ∅
  timeInfos : Std.TreeMap Int TimeInfo := ∅
  preferencesUtil : PreferencesUtil := ∅
  waiting : List (TimedTask × Int) := []
  reports : List PolicyEvent := []

def CollMgrSaProfile.events (profile : CollMgrSaProfile) : List PolicyEvent :=
  profile.startOnDemandEvents ++ profile.stopOnDemandEvents

namespace DeviceTimedCollect

variable (env : TimedEnv) (c : DeviceTimedCollect)

def reportEvent (event : PolicyEvent) : DeviceTimedCollect := { c with reports := event :: c.reports }

def wait (task : TimedTask) (delay : Int) : DeviceTimedCollect :=
  { c with waiting := (task, delay) :: c.waiting }

/-- The collect handler refuses a delay that does not fit its milliseconds. -/
def postDelayTask (task : TimedTask) (delayTime : Int) : DeviceTimedCollect :=
  if toInt32 delayTime < 0 ∨ toInt32 delayTime > INT32_MAX / TO_MILLISECOND then c
  else c.wait task (toInt32 delayTime)

/-- The timer of the base user, or the collect handler where that is not to be had. -/
def postTimer (task : TimedTask) (delay : Int) : DeviceTimedCollect :=
  if env.isMultiUser ∨ !env.timerTaken task then c.postDelayTask task delay else c.wait task delay

def postDelayTaskByTimeInfo (task : TimedTask) (interval disTime : Int) : DeviceTimedCollect :=
  match c.timeInfos[interval]? with
  | none => c
  | some info => if info.awake then c.postTimer env task disTime else c.postDelayTask task disTime

def postPersistenceDelayTask (task : TimedTask) (interval disTime : Int) : DeviceTimedCollect :=
  { c with
    preferencesUtil := c.preferencesUtil.saveLong (toString interval) (env.now + disTime)
  }.postDelayTaskByTimeInfo env task interval disTime

def loopReport (name : String) (interval : Int) (persistence : Bool) : PolicyEvent :=
  { eventId := TIMED_EVENT, name, value := toString interval, persistence }

def reportEventByTimeInfo (interval : Int) (persistence : Bool) : DeviceTimedCollect :=
  match c.timeInfos[interval]? with
  | none => c
  | some info =>
      let normal := if info.normal then c.reportEvent (loopReport LOOP_EVENT interval persistence) else c
      if info.awake then normal.reportEvent (loopReport AWAKE_LOOP_EVENT interval persistence)
      else normal

def saveTimedInfos (event : PolicyEvent) (interval : Int) : DeviceTimedCollect :=
  let info := (c.timeInfos[interval]?).getD {}
  { c with
    timeInfos := c.timeInfos.insert interval
      { normal := info.normal || event.name == LOOP_EVENT
        awake := info.awake || event.name == AWAKE_LOOP_EVENT } }

def isLoop (event : PolicyEvent) : Bool :=
  event.name == LOOP_EVENT || event.name == AWAKE_LOOP_EVENT

/-- The intervals a loop event may have. -/
def validInterval (event : PolicyEvent) : Bool :=
  !(atoi event.value < MIN_INTERVAL ||
    (atoi event.value < MIN_AWAKE_INTERVAL && event.name == AWAKE_LOOP_EVENT))

def saveTimedEvent (event : PolicyEvent) : DeviceTimedCollect :=
  if event.eventId = TIMED_EVENT ∧ isLoop event ∧ validInterval event then
    let interval := atoi event.value
    let saved :=
      if event.persistence then
        { c with persitenceLoopEventSet := c.persitenceLoopEventSet.insert interval }
      else { c with nonPersitenceLoopEventSet := c.nonPersitenceLoopEventSet.insert interval }
    saved.saveTimedInfos event interval
  else c

/-- `Init` on a store as it is found. -/
def init (preferencesUtil : PreferencesUtil) (saProfiles : List CollMgrSaProfile) :
    DeviceTimedCollect :=
  (saProfiles.flatMap CollMgrSaProfile.events).foldl saveTimedEvent { preferencesUtil }

def postNonPersistenceLoopTaskLocked (interval : Int) : DeviceTimedCollect :=
  if interval ∈ c.nonPersitenceLoopTasks then c
  else
    { c with
      nonPersitenceLoopTasks := c.nonPersitenceLoopTasks.insert interval
    }.postDelayTaskByTimeInfo env (.loop false interval) interval interval

def postPersistenceLoopTaskLocked (interval : Int) : DeviceTimedCollect :=
  if interval ∈ c.persitenceLoopTasks then c
  else
    { c with
      persitenceLoopTasks := c.persitenceLoopTasks.insert interval
    }.postPersistenceDelayTask env (.loop true interval) interval interval

def calculateDelayTime (timeString : String) : Int := env.orderTime timeString - env.now

def postPersistenceTimedTaskLocked (timeString : String) (timeGap : Int) : DeviceTimedCollect :=
  if timeGap ≤ 0 then c
  else
    { c with preferencesUtil := c.preferencesUtil.saveLong timeString (env.now + timeGap)
    }.postTimer env (.timed true timeString) timeGap

def postNonPersistenceTimedTaskLocked (timeString : String) (timeGap : Int) : DeviceTimedCollect :=
  if timeGap ≤ 0 then c else c.postTimer env (.timed false timeString) timeGap

/-- One event of `AddCollectEvent`; nothing if it is rejected. -/
def addEvent (event : PolicyEvent) : Option DeviceTimedCollect :=
  if !isLoop event ∧ event.name ≠ ORDER_TIMED_EVENT then none
  else if event.name = ORDER_TIMED_EVENT then
    let timeGap := calculateDelayTime env event.value
    some (if event.persistence then c.postPersistenceTimedTaskLocked env event.value timeGap
      else c.postNonPersistenceTimedTaskLocked env event.value timeGap)
  else if event.persistence ∨ !validInterval event then none
  else
    let interval := atoi event.value
    let saved := c.saveTimedInfos event interval
    some (if interval ∈ saved.nonPersitenceLoopEventSet then saved
      else
        { saved with
          nonPersitenceLoopEventSet := saved.nonPersitenceLoopEventSet.insert interval
        }.postNonPersistenceLoopTaskLocked env interval)

/-- `AddCollectEvent`, each event in the environment it meets. -/
def addCollectEvent (events : List (PolicyEvent × TimedEnv)) : DeviceTimedCollect × Bool :=
  Fallible.run
    (fun c entry =>
      match c.addEvent entry.2 entry.1 with
      | none => (c, false)
      | some added => (added, true)) c events

def removeNonPersistenceLoopTask (interval : Int) : DeviceTimedCollect :=
  if interval ∈ c.nonPersitenceLoopEventSet then
    { c with
      nonPersitenceLoopEventSet := c.nonPersitenceLoopEventSet.erase interval
      nonPersitenceLoopTasks := c.nonPersitenceLoopTasks.erase interval }
  else c

def removePersistenceLoopTask (interval : Int) : DeviceTimedCollect :=
  if interval ∈ c.persitenceLoopEventSet then
    { c with
      persitenceLoopEventSet := c.persitenceLoopEventSet.erase interval
      persitenceLoopTasks := c.persitenceLoopTasks.erase interval }
  else c

def removeTimesInfo (event : PolicyEvent) (interval : Int) : DeviceTimedCollect :=
  match c.timeInfos[interval]? with
  | none => c
  | some info =>
      let left : TimeInfo :=
        { normal := info.normal && event.name != LOOP_EVENT
          awake := info.awake && event.name != AWAKE_LOOP_EVENT }
      { c with
        timeInfos :=
          if !left.normal && !left.awake then c.timeInfos.erase interval
          else c.timeInfos.insert interval left }

/-- `RemoveUnusedEvent`; only loops are ever removed. -/
def removeUnusedEvent (event : PolicyEvent) : DeviceTimedCollect :=
  if isLoop event then
    let interval := atoi event.value
    (if event.persistence then c.removePersistenceLoopTask interval
      else c.removeNonPersistenceLoopTask interval).removeTimesInfo event interval
  else c

def processPersistenceTimedTask (disTime : Int) (timeString : String) : DeviceTimedCollect :=
  if disTime ≤ 0 then
    { c.reportEvent { eventId := TIMED_EVENT, name := ORDER_TIMED_EVENT, value := timeString,
                      persistence := true } with
      preferencesUtil := c.preferencesUtil.erase timeString }
  else c.postTimer env (.timed true timeString) disTime

def processPersistenceLoopTask (disTime triggerTime : Int) (strInterval : String) :
    DeviceTimedCollect :=
  let interval := atoi strInterval
  if interval ∈ c.persitenceLoopTasks then c
  else if triggerTime - interval > env.now then c
  else if interval < MIN_INTERVAL then c
  else
    let known := { c with persitenceLoopTasks := c.persitenceLoopTasks.insert interval }
    if disTime ≤ 0 then
      -- the next time is the one that would have come without the pause
      (known.reportEventByTimeInfo interval true).postPersistenceDelayTask env (.loop true interval)
        interval (interval - (disTime.natAbs : Int) % interval)
    else known.postDelayTaskByTimeInfo env (.loop true interval) interval disTime

/-- The loop of `ProcessPersistenceTasks`: a timed entry ends it. -/
def processEntries : List (String × PreferencesValue) → DeviceTimedCollect → DeviceTimedCollect
  | [], c => c
  | (strInterval, triggerTime) :: rest, c =>
      if '_' ∈ strInterval.toList then processEntries rest c
      else
        match triggerTime with
        | .long triggerTime =>
            let disTime := triggerTime - env.now
            if ':' ∈ strInterval.toList then c.processPersistenceTimedTask env disTime strInterval
            else processEntries rest (c.processPersistenceLoopTask env disTime triggerTime strInterval)
        | _ => processEntries rest c

def processPersistenceTasks : DeviceTimedCollect := processEntries env c.preferencesUtil.toList c

def postNonPersistenceLoopTasks : DeviceTimedCollect :=
  c.nonPersitenceLoopEventSet.toList.foldl (postNonPersistenceLoopTaskLocked env) c

def postPersistenceLoopTasks : DeviceTimedCollect :=
  c.persitenceLoopEventSet.toList.foldl (postPersistenceLoopTaskLocked env) c

def onStart : DeviceTimedCollect :=
  ((c.processPersistenceTasks env).postNonPersistenceLoopTasks env).postPersistenceLoopTasks env

/-- What a task does when its time has come. -/
def runTask : TimedTask → DeviceTimedCollect
  | .loop false interval =>
      if interval ∈ c.nonPersitenceLoopEventSet then
        let reported := c.reportEventByTimeInfo interval false
        { reported with
          nonPersitenceLoopTasks := reported.nonPersitenceLoopTasks.insert interval
        }.postDelayTaskByTimeInfo env (.loop false interval) interval interval
      else c
  | .loop true interval =>
      if interval ∈ c.persitenceLoopTasks then
        (c.reportEventByTimeInfo interval true).postPersistenceDelayTask env (.loop true interval)
          interval interval
      else c
  | .timed true timeString =>
      { c.reportEvent { eventId := TIMED_EVENT, name := ORDER_TIMED_EVENT, value := timeString,
                        persistence := true } with
        preferencesUtil := c.preferencesUtil.erase timeString }
  | .timed false timeString =>
      c.reportEvent { eventId := TIMED_EVENT, name := ORDER_TIMED_EVENT, value := timeString }

/-- A waiting task expires once. -/
def expire (index : Nat) : DeviceTimedCollect :=
  match c.waiting[index]? with
  | none => c
  | some (task, _) => { c with waiting := c.waiting.eraseIdx index }.runTask env task

section Posted

variable {env : TimedEnv} {c : DeviceTimedCollect} {task : TimedTask} {interval delay : Int}

/-- What the collect handler makes of a task. -/
def delayEntries (task : TimedTask) (delay : Int) : List (TimedTask × Int) :=
  if toInt32 delay < 0 ∨ toInt32 delay > INT32_MAX / TO_MILLISECOND then []
  else [(task, toInt32 delay)]

def timerEntries (env : TimedEnv) (task : TimedTask) (delay : Int) : List (TimedTask × Int) :=
  if env.isMultiUser ∨ !env.timerTaken task then delayEntries task delay else [(task, delay)]

/-- What is posted for an interval, by what is known of it. -/
def infoEntries (env : TimedEnv) (info : Option TimeInfo) (task : TimedTask) (delay : Int) :
    List (TimedTask × Int) :=
  match info with
  | none => []
  | some info => if info.awake then timerEntries env task delay else delayEntries task delay

def infoReports (info : Option TimeInfo) (interval : Int) (persistence : Bool) : List PolicyEvent :=
  match info with
  | none => []
  | some info =>
      (if info.awake then [loopReport AWAKE_LOOP_EVENT interval persistence] else []) ++
        if info.normal then [loopReport LOOP_EVENT interval persistence] else []

theorem postDelayTask_eq :
    c.postDelayTask task delay = { c with waiting := delayEntries task delay ++ c.waiting } := by
  simp only [postDelayTask, delayEntries, wait]
  split <;> rfl

theorem postTimer_eq :
    c.postTimer env task delay = { c with waiting := timerEntries env task delay ++ c.waiting } := by
  simp only [postTimer, timerEntries, postDelayTask_eq, wait]
  split <;> rfl

theorem postDelayTaskByTimeInfo_eq :
    c.postDelayTaskByTimeInfo env task interval delay =
      { c with waiting := infoEntries env c.timeInfos[interval]? task delay ++ c.waiting } := by
  simp only [postDelayTaskByTimeInfo, infoEntries, postTimer_eq, postDelayTask_eq]
  split
  · rfl
  · split <;> rfl

theorem postPersistenceDelayTask_eq {disTime : Int} :
    c.postPersistenceDelayTask env task interval disTime =
      { c with
        preferencesUtil := c.preferencesUtil.saveLong (toString interval) (env.now + disTime)
        waiting := infoEntries env c.timeInfos[interval]? task disTime ++ c.waiting } := by
  rw [postPersistenceDelayTask, postDelayTaskByTimeInfo_eq]

theorem reportEventByTimeInfo_eq {persistence : Bool} :
    c.reportEventByTimeInfo interval persistence =
      { c with reports := infoReports c.timeInfos[interval]? interval persistence ++ c.reports } := by
  simp only [reportEventByTimeInfo, infoReports, reportEvent]
  split
  · rfl
  · rename_i info _
    cases info.awake <;> cases info.normal <;> rfl

theorem delayEntries_cases (task : TimedTask) (delay : Int) :
    delayEntries task delay = [] ∨ ∃ time, delayEntries task delay = [(task, time)] := by
  rw [delayEntries]
  split
  · exact .inl rfl
  · exact .inr ⟨_, rfl⟩

theorem timerEntries_cases (env : TimedEnv) (task : TimedTask) (delay : Int) :
    timerEntries env task delay = [] ∨ ∃ time, timerEntries env task delay = [(task, time)] := by
  rw [timerEntries]
  split
  · exact delayEntries_cases task delay
  · exact .inr ⟨_, rfl⟩

/-- What is posted for an interval is one task at most. -/
theorem infoEntries_cases (env : TimedEnv) (info : Option TimeInfo) (task : TimedTask) (delay : Int) :
    infoEntries env info task delay = [] ∨ ∃ time, infoEntries env info task delay = [(task, time)] := by
  cases info with
  | none => exact .inl rfl
  | some info =>
      simp only [infoEntries]
      split
      · exact timerEntries_cases env task delay
      · exact delayEntries_cases task delay

end Posted

section Start

variable {env : TimedEnv} (inv : DeviceTimedCollect → Prop)

theorem processEntries_keeps
    (timed : ∀ {c} disTime timeString, inv c → inv (processPersistenceTimedTask env c disTime timeString))
    (loop : ∀ {c} disTime triggerTime strInterval, inv c →
      inv (processPersistenceLoopTask env c disTime triggerTime strInterval))
    (entries : List (String × PreferencesValue)) {c : DeviceTimedCollect} (start : inv c) :
    inv (processEntries env entries c) := by
  induction entries generalizing c with
  | nil => exact start
  | cons entry entries hypothesis =>
      obtain ⟨strInterval, triggerTime⟩ := entry
      cases triggerTime with
      | long triggerTime =>
          rw [processEntries]
          split
          · exact hypothesis start
          · split
            · exact timed _ _ start
            · exact hypothesis (loop _ _ _ start)
      | string value =>
          simp only [processEntries, ite_self]
          exact hypothesis start
      | other =>
          simp only [processEntries, ite_self]
          exact hypothesis start

/-- What each part of the start keeps, the start keeps. -/
theorem onStart_keeps
    (timed : ∀ {c} disTime timeString, inv c → inv (processPersistenceTimedTask env c disTime timeString))
    (loop : ∀ {c} disTime triggerTime strInterval, inv c →
      inv (processPersistenceLoopTask env c disTime triggerTime strInterval))
    {c : DeviceTimedCollect}
    (nonPersistent : ∀ {d}, ∀ interval ∈ (c.processPersistenceTasks env).nonPersitenceLoopEventSet,
      inv d → inv (postNonPersistenceLoopTaskLocked env d interval))
    (persistent : ∀ {d} interval, inv d → inv (postPersistenceLoopTaskLocked env d interval))
    (start : inv c) : inv (c.onStart env) := by
  have all : ∀ (post : DeviceTimedCollect → Int → DeviceTimedCollect) (intervals : List Int)
      (_ : ∀ {d}, ∀ interval ∈ intervals, inv d → inv (post d interval))
      {d : DeviceTimedCollect}, inv d → inv (intervals.foldl post d) := by
    intro post intervals
    induction intervals with
    | nil => exact fun _ _ => id
    | cons first rest hypothesis =>
        intro one d before
        apply hypothesis fun interval member => one interval (List.mem_cons_of_mem _ member)
        exact one first List.mem_cons_self before
  apply all
  · exact fun interval _ => persistent interval
  · apply all
    · exact fun interval member => nonPersistent interval (Std.TreeSet.mem_toList.mp member)
    · exact processEntries_keeps inv timed loop _ start

end Start

section Added

variable {env : TimedEnv} {c : DeviceTimedCollect} {event : PolicyEvent}

/-- The events that `AddCollectEvent` takes, whatever it has taken before. -/
def takes (event : PolicyEvent) : Bool :=
  event.name == ORDER_TIMED_EVENT || (isLoop event && !event.persistence && validInterval event)

/-- What is known of the interval of a loop event once the event is saved. -/
def infoWith (c : DeviceTimedCollect) (event : PolicyEvent) : TimeInfo :=
  { normal := ((c.timeInfos[atoi event.value]?).getD {}).normal || event.name == LOOP_EVENT
    awake := ((c.timeInfos[atoi event.value]?).getD {}).awake || event.name == AWAKE_LOOP_EVENT }

/-- The collector after a timed event it takes. -/
def withTimed (env : TimedEnv) (event : PolicyEvent) (c : DeviceTimedCollect) : DeviceTimedCollect :=
  if env.orderTime event.value - env.now ≤ 0 then c
  else
    { c with
      preferencesUtil :=
        if event.persistence then
          c.preferencesUtil.saveLong event.value (env.orderTime event.value)
        else c.preferencesUtil
      waiting := timerEntries env (.timed event.persistence event.value)
        (env.orderTime event.value - env.now) ++ c.waiting }

/-- The collector after a loop event it takes. -/
def withLoop (env : TimedEnv) (event : PolicyEvent) (c : DeviceTimedCollect) : DeviceTimedCollect :=
  let interval := atoi event.value
  let saved := { c with timeInfos := c.timeInfos.insert interval (c.infoWith event) }
  if interval ∈ c.nonPersitenceLoopEventSet then saved
  else
    { saved with
      nonPersitenceLoopEventSet := c.nonPersitenceLoopEventSet.insert interval
      nonPersitenceLoopTasks :=
        if interval ∈ c.nonPersitenceLoopTasks then c.nonPersitenceLoopTasks
        else c.nonPersitenceLoopTasks.insert interval
      waiting :=
        (if interval ∈ c.nonPersitenceLoopTasks then []
          else infoEntries env (some (c.infoWith event)) (.loop false interval) interval) ++
          c.waiting }

theorem not_isLoop_of_timed (timed : event.name = ORDER_TIMED_EVENT) : isLoop event = false := by
  simp [isLoop, timed, ORDER_TIMED_EVENT, LOOP_EVENT, AWAKE_LOOP_EVENT]

theorem withTimed_eq : withTimed env event c =
    if event.persistence then
      c.postPersistenceTimedTaskLocked env event.value (calculateDelayTime env event.value)
    else c.postNonPersistenceTimedTaskLocked env event.value (calculateDelayTime env event.value) := by
  have order : env.now + (env.orderTime event.value - env.now) = env.orderTime event.value := by
    omega
  cases persistence : event.persistence <;>
    simp [withTimed, persistence, postPersistenceTimedTaskLocked, postNonPersistenceTimedTaskLocked,
      calculateDelayTime, postTimer_eq, order]

theorem withLoop_eq : withLoop env event c =
    let saved := c.saveTimedInfos event (atoi event.value)
    if atoi event.value ∈ saved.nonPersitenceLoopEventSet then saved
    else
      { saved with
        nonPersitenceLoopEventSet := saved.nonPersitenceLoopEventSet.insert (atoi event.value)
      }.postNonPersistenceLoopTaskLocked env (atoi event.value) := by
  simp only [withLoop, saveTimedInfos, postNonPersistenceLoopTaskLocked,
    postDelayTaskByTimeInfo_eq]
  split
  · rfl
  · split <;> simp [infoWith]

/-- Whether an event is taken does not depend on the state. -/
theorem addEvent_eq : c.addEvent env event =
    if takes event then
      some (if event.name = ORDER_TIMED_EVENT then withTimed env event c else withLoop env event c)
    else none := by
  by_cases timed : event.name = ORDER_TIMED_EVENT
  · simp [addEvent, takes, timed, withTimed_eq, not_isLoop_of_timed timed]
  · rw [addEvent, takes, withLoop_eq]
    by_cases loop : isLoop event = true
    · cases event.persistence <;> cases validInterval event <;> simp [timed, loop]
    · simp [timed, loop]

end Added

end DeviceTimedCollect

end Samgr
