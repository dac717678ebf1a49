import Samgr.Collect.LoopTimers

/-! The start of the timed collector on a store as it is found. The entries are taken in the order
of their keys; a loop entry arms its interval unless an earlier entry has, and the first timed
entry is the last one that is looked at. -/
namespace Samgr

namespace DeviceTimedCollect

variable {env : TimedEnv} {c d : DeviceTimedCollect} {interval : Int}

/-- The entries that the start looks at: numbers under a key without underscore. -/
def liveEntries (entries : List (String × PreferencesValue)) : List (String × Int) :=
  entries.filterMap fun entry =>
    if '_' ∈ entry.1.toList then none
    else
      match entry.2 with
      | .long triggerTime => some (entry.1, triggerTime)
      | _ => none

/-- The key of a timed event. -/
def isTimedKey (key : String) : Bool := key.toList.contains ':'

/-- The loop of `ProcessPersistenceTasks` on these entries. -/
def processLive (env : TimedEnv) : List (String × Int) → DeviceTimedCollect → DeviceTimedCollect
  | [], c => c
  | (key, triggerTime) :: rest, c =>
      if isTimedKey key then c.processPersistenceTimedTask env (triggerTime - env.now) key
      else processLive env rest
        (c.processPersistenceLoopTask env (triggerTime - env.now) triggerTime key)

theorem processEntries_eq (entries : List (String × PreferencesValue)) (c : DeviceTimedCollect) :
    processEntries env entries c = processLive env (liveEntries entries) c := by
  induction entries generalizing c with
  | nil => rfl
  | cons entry entries hypothesis =>
      obtain ⟨key, value⟩ := entry
      by_cases mark : '_' ∈ key.toList
      · have skipped : liveEntries ((key, value) :: entries) = liveEntries entries := by
          simp [liveEntries, mark]
        rw [skipped, ← hypothesis]
        cases value <;> simp [processEntries, mark]
      · cases value with
        | long triggerTime =>
            have first : liveEntries ((key, .long triggerTime) :: entries) =
                (key, triggerTime) :: liveEntries entries := by
              simp [liveEntries, mark]
            rw [first, processEntries, processLive, if_neg mark]
            by_cases timed : ':' ∈ key.toList
            · simp [isTimedKey, timed]
            · simp [isTimedKey, timed, hypothesis]
        | string value =>
            have skipped : liveEntries ((key, .string value) :: entries) = liveEntries entries := by
              simp [liveEntries, mark]
            rw [skipped, ← hypothesis]
            simp [processEntries]
        | other =>
            have skipped : liveEntries ((key, .other) :: entries) = liveEntries entries := by
              simp [liveEntries, mark]
            rw [skipped, ← hypothesis]
            simp [processEntries]

/-- A trigger time that the loop of an interval may be armed by. -/
def arms (env : TimedEnv) (interval triggerTime : Int) : Bool :=
  MIN_INTERVAL ≤ interval && triggerTime - interval ≤ env.now

/-- What is reported and posted for an interval that is armed by a trigger time: a time that has
passed counts, and the next one comes where it would have come. -/
def armed (env : TimedEnv) (info : Option TimeInfo) (interval triggerTime : Int) :
    List PolicyEvent × List (TimedTask × Int) :=
  if triggerTime ≤ env.now then
    (infoReports info interval true, infoEntries env info (.loop true interval)
      (interval - ((triggerTime - env.now).natAbs : Int) % interval))
  else ([], infoEntries env info (.loop true interval) (triggerTime - env.now))

theorem processPersistenceLoopTask_eq {triggerTime : Int} {key : String} :
    c.processPersistenceLoopTask env (triggerTime - env.now) triggerTime key =
      if atoi key ∈ c.persitenceLoopTasks ∨ arms env (atoi key) triggerTime = false then c
      else
        { c with
          persitenceLoopTasks := c.persitenceLoopTasks.insert (atoi key)
          preferencesUtil :=
            if triggerTime ≤ env.now then
              c.preferencesUtil.saveLong (toString (atoi key))
                (env.now + (atoi key - ((triggerTime - env.now).natAbs : Int) % atoi key))
            else c.preferencesUtil
          reports := (armed env c.timeInfos[atoi key]? (atoi key) triggerTime).1 ++ c.reports
          waiting := (armed env c.timeInfos[atoi key]? (atoi key) triggerTime).2 ++ c.waiting } := by
  simp only [processPersistenceLoopTask]
  by_cases posted : atoi key ∈ c.persitenceLoopTasks
  · simp [posted]
  · by_cases ahead : triggerTime - atoi key > env.now
    · have unarmed : arms env (atoi key) triggerTime = false := by
        simp only [arms, Bool.and_eq_false_iff, decide_eq_false_iff_not]
        omega
      simp [posted, ahead, unarmed]
    · by_cases short : atoi key < MIN_INTERVAL
      · have unarmed : arms env (atoi key) triggerTime = false := by
          simp only [arms, Bool.and_eq_false_iff, decide_eq_false_iff_not]
          omega
        simp [posted, short, unarmed]
      · have arming : arms env (atoi key) triggerTime = true := by
          simp only [arms, Bool.and_eq_true, decide_eq_true_eq]
          omega
        have due : triggerTime - env.now ≤ 0 ↔ triggerTime ≤ env.now := by omega
        simp only [posted, ahead, short, arming, if_false, Bool.true_eq_false, or_self, armed, due]
        split
        · simp [reportEventByTimeInfo_eq, postPersistenceDelayTask_eq]
        · simp [postDelayTaskByTimeInfo_eq]

/-- The first of these entries that arms the interval. -/
def armedFirst (env : TimedEnv) (entries : List (String × Int)) (interval : Int) : Option Int :=
  ((entries.takeWhile fun entry => !isTimedKey entry.1).find? fun entry =>
    atoi entry.1 == interval && arms env interval entry.2).map Prod.snd

/-- The reports and the tasks of the persistent loop of an interval. -/
def isLoopReport (interval : Int) (event : PolicyEvent) : Bool :=
  event == loopReport LOOP_EVENT interval true || event == loopReport AWAKE_LOOP_EVENT interval true

def loopTrace (c : DeviceTimedCollect) (interval : Int) :
    List PolicyEvent × List (TimedTask × Int) :=
  (c.reports.filter (isLoopReport interval),
    c.waiting.filter fun entry => entry.1 == .loop true interval)

/-- The report and the tasks of a timed event, and whether it is stored. -/
def timedReport (key : String) : PolicyEvent :=
  { eventId := TIMED_EVENT, name := ORDER_TIMED_EVENT, value := key, persistence := true }

def timedTrace (c : DeviceTimedCollect) (key : String) :
    List PolicyEvent × List (TimedTask × Int) × Bool :=
  (c.reports.filter (· == timedReport key), c.waiting.filter fun entry => entry.1 == .timed true key,
    c.preferencesUtil.contains key)

section Traces

theorem toString_injective {i j : Int} (same : toString i = toString j) : i = j :=
  Decimal.chars_injective (congrArg String.toList same)

theorem isTimedKey_toString (i : Int) : isTimedKey (toString i) = false := by
  rw [isTimedKey, List.contains_eq_mem, decide_eq_false_iff_not]
  exact Decimal.not_mem_chars (by decide) (by decide)

theorem isLoopReport_loopReport {name : String} {place : Int}
    (loop : name = LOOP_EVENT ∨ name = AWAKE_LOOP_EVENT) :
    isLoopReport interval (loopReport name place true) = decide (place = interval) := by
  rw [Bool.eq_iff_iff, isLoopReport, Bool.or_eq_true, beq_iff_eq, beq_iff_eq, decide_eq_true_eq]
  constructor
  · rintro (same | same) <;>
      exact toString_injective (congrArg (fun event => event.toOnDemandEvent.value) same)
  · rintro rfl
    rcases loop with rfl | rfl
    · exact .inl rfl
    · exact .inr rfl

/-- The reports of an interval are its own. -/
theorem filter_infoReports {info : Option TimeInfo} {place : Int} :
    (infoReports info place true).filter (isLoopReport interval) =
      if place = interval then infoReports info place true else [] := by
  have all : ∀ event ∈ infoReports info place true,
      isLoopReport interval event = decide (place = interval) := by
    intro event member
    cases info with
    | none => cases member
    | some info =>
        rw [infoReports, List.mem_append] at member
        rcases member with member | member
        · split at member
          · cases List.mem_singleton.mp member
            exact isLoopReport_loopReport (.inr rfl)
          · cases member
        · split at member
          · cases List.mem_singleton.mp member
            exact isLoopReport_loopReport (.inl rfl)
          · cases member
  rw [List.filter_congr all]
  split
  · rename_i same
    simp [same]
  · rename_i other
    simp [other]

theorem filter_infoEntries {info : Option TimeInfo} {place delay : Int} :
    ((infoEntries env info (.loop true place) delay).filter fun entry =>
        entry.1 == .loop true interval) =
      if place = interval then infoEntries env info (.loop true place) delay else [] := by
  rcases infoEntries_cases env info (.loop true place) delay with none | ⟨time, one⟩
  · simp [none]
  · rw [one]
    by_cases same : place = interval <;> simp [same]

/-- What an interval gets when it is armed is its own. -/
theorem filter_armed (env : TimedEnv) (info : Option TimeInfo) (place triggerTime interval : Int) :
    ((armed env info place triggerTime).1.filter (isLoopReport interval),
        (armed env info place triggerTime).2.filter fun entry => entry.1 == .loop true interval) =
      if place = interval then armed env info place triggerTime else ([], []) := by
  rw [armed]
  split
  · rw [filter_infoReports, filter_infoEntries]
    split <;> rfl
  · rw [filter_infoEntries]
    split <;> rfl

theorem processPersistenceLoopTask_loopTrace {triggerTime : Int} {key : String} :
    (c.processPersistenceLoopTask env (triggerTime - env.now) triggerTime key).loopTrace interval =
      if (atoi key = interval ∧ arms env interval triggerTime = true) ∧
          interval ∉ c.persitenceLoopTasks then
        ((armed env c.timeInfos[interval]? interval triggerTime).1 ++ (c.loopTrace interval).1,
          (armed env c.timeInfos[interval]? interval triggerTime).2 ++ (c.loopTrace interval).2)
      else c.loopTrace interval := by
  rw [processPersistenceLoopTask_eq]
  by_cases idle : atoi key ∈ c.persitenceLoopTasks ∨ arms env (atoi key) triggerTime = false
  · rw [if_pos idle, if_neg]
    rintro ⟨⟨rfl, arming⟩, fresh⟩
    rcases idle with posted | unarmed
    · exact fresh posted
    · rw [unarmed] at arming
      cases arming
  · rw [if_neg idle]
    have own := filter_armed env c.timeInfos[atoi key]? (atoi key) triggerTime interval
    rw [Prod.ext_iff] at own
    simp only at own
    rw [not_or, Bool.not_eq_false] at idle
    by_cases same : atoi key = interval
    · subst same
      rw [if_pos rfl] at own
      simp only [loopTrace, List.filter_append, own.1, own.2]
      simp [idle]
    · rw [if_neg same] at own
      simp only [loopTrace, List.filter_append, own.1, own.2]
      simp [same]

theorem mem_processPersistenceLoopTask {triggerTime : Int} {key : String} :
    interval ∈ (c.processPersistenceLoopTask env (triggerTime - env.now) triggerTime
        key).persitenceLoopTasks ↔
      interval ∈ c.persitenceLoopTasks ∨ (atoi key = interval ∧ arms env interval triggerTime = true) := by
  rw [processPersistenceLoopTask_eq]
  by_cases idle : atoi key ∈ c.persitenceLoopTasks ∨ arms env (atoi key) triggerTime = false
  · rw [if_pos idle]
    constructor
    · exact .inl
    · rintro (posted | ⟨rfl, arming⟩)
      · exact posted
      · apply idle.resolve_right
        simp [arming]
  · rw [if_neg idle]
    rw [not_or, Bool.not_eq_false] at idle
    simp only [Std.TreeSet.mem_insert, Std.compare_eq_iff_eq]
    constructor
    · rintro (rfl | posted)
      · exact .inr ⟨rfl, idle.2⟩
      · exact .inl posted
    · rintro (posted | ⟨rfl, -⟩)
      · exact .inr posted
      · exact .inl rfl

theorem processPersistenceTimedTask_loopTrace {disTime : Int} {key : String} :
    (c.processPersistenceTimedTask env disTime key).loopTrace interval = c.loopTrace interval := by
  rw [processPersistenceTimedTask, postTimer_eq]
  split
  · have other : isLoopReport interval (timedReport key) = false := by
      simp [isLoopReport, timedReport, loopReport, ORDER_TIMED_EVENT, LOOP_EVENT, AWAKE_LOOP_EVENT]
    simp only [timedReport] at other
    simp [loopTrace, reportEvent, other]
  · rcases timerEntries_cases env (.timed true key) disTime with none | ⟨time, one⟩
    · simp [loopTrace, none]
    · simp [loopTrace, one]

theorem armedFirst_cons {entries : List (String × Int)} {key : String} {triggerTime : Int}
    (loop : isTimedKey key = false) :
    armedFirst env ((key, triggerTime) :: entries) interval =
      if atoi key = interval ∧ arms env interval triggerTime = true then some triggerTime
      else armedFirst env entries interval := by
  rw [armedFirst, List.takeWhile_cons_of_pos (by simp [loop]), List.find?_cons]
  by_cases first : atoi key = interval ∧ arms env interval triggerTime = true
  · simp [first]
  · rw [if_neg first]
    have other : (atoi key == interval && arms env interval triggerTime) = false := by
      simpa [Bool.and_eq_false_iff, not_and_or] using first
    simp only [other]
    rfl

/-- The start of the persistent loops, entry by entry: an interval that is not armed yet is armed by
the first entry that can arm it. -/
theorem processLive_loopTrace (env : TimedEnv) (entries : List (String × Int))
    (c : DeviceTimedCollect) (interval : Int) :
    (processLive env entries c).loopTrace interval =
      (if interval ∈ c.persitenceLoopTasks then c.loopTrace interval
      else match armedFirst env entries interval with
        | none => c.loopTrace interval
        | some triggerTime =>
            ((armed env c.timeInfos[interval]? interval triggerTime).1 ++ (c.loopTrace interval).1,
              (armed env c.timeInfos[interval]? interval triggerTime).2 ++ (c.loopTrace interval).2)) ∧
    (interval ∈ (processLive env entries c).persitenceLoopTasks ↔
      interval ∈ c.persitenceLoopTasks ∨ (armedFirst env entries interval).isSome) := by
  induction entries generalizing c with
  | nil => simp [processLive, armedFirst]
  | cons entry entries hypothesis =>
      obtain ⟨key, triggerTime⟩ := entry
      cases loop : isTimedKey key
      · rw [processLive, if_neg (by simp [loop]), armedFirst_cons loop]
        obtain ⟨trace, tasks⟩ := hypothesis
          (c.processPersistenceLoopTask env (triggerTime - env.now) triggerTime key)
        have infos : (c.processPersistenceLoopTask env (triggerTime - env.now) triggerTime
            key).timeInfos = c.timeInfos := processPersistenceLoopTask_sameLoops.timeInfos
        simp only [trace, tasks, mem_processPersistenceLoopTask, processPersistenceLoopTask_loopTrace,
          infos]
        by_cases posted : interval ∈ c.persitenceLoopTasks
        · simp [posted]
        · by_cases first : atoi key = interval ∧ arms env interval triggerTime = true
          · simp [posted, first]
          · simp [posted, first]
      · rw [processLive, if_pos (by simp [loop]), processPersistenceTimedTask_loopTrace]
        have none : armedFirst env ((key, triggerTime) :: entries) interval = none := by
          simp [armedFirst, loop]
        rw [none]
        refine ⟨by simp, ?_⟩
        rw [processPersistenceTimedTask, postTimer_eq]
        split <;> simp [reportEvent]

/-- The first timed entry, if it is the one of this key. -/
def timedFirst (entries : List (String × Int)) (key : String) : Option Int :=
  ((entries.find? fun entry => isTimedKey entry.1).filter fun entry => entry.1 == key).map Prod.snd

theorem timedFirst_cons_of_loop {entries : List (String × Int)} {key place : String} {triggerTime : Int}
    (loop : isTimedKey place = false) :
    timedFirst ((place, triggerTime) :: entries) key = timedFirst entries key := by
  rw [timedFirst, List.find?_cons_of_neg (by simp [loop]), timedFirst]

theorem timedFirst_cons_of_timed {entries : List (String × Int)} {key place : String}
    {triggerTime : Int} (timed : isTimedKey place = true) :
    timedFirst ((place, triggerTime) :: entries) key =
      if place = key then some triggerTime else none := by
  rw [timedFirst, List.find?_cons_of_pos (by simp [timed])]
  by_cases same : place = key <;> simp [Option.filter, same]

/-- The key of a loop is none of a timed event. -/
theorem saveLong_contains {p : PreferencesUtil} {place value : Int} {key : String}
    (timed : isTimedKey key = true) :
    (p.saveLong (toString place) value).contains key = p.contains key := by
  have apart : (compare (toString place) key == .eq) = false := by
    rw [beq_eq_false_iff_ne, ne_eq, Std.compare_eq_iff_eq]
    rintro rfl
    rw [isTimedKey_toString] at timed
    cases timed
  rw [PreferencesUtil.saveLong, Std.TreeMap.contains_insert, apart, Bool.false_or]

/-- A loop leaves no trace of a timed event. -/
theorem processPersistenceLoopTask_timedTrace {triggerTime : Int} {key place : String}
    (timed : isTimedKey key = true) :
    (c.processPersistenceLoopTask env (triggerTime - env.now) triggerTime place).timedTrace key =
      c.timedTrace key := by
  have reports : ∀ (info : Option TimeInfo) (i : Int),
      (infoReports info i true).filter (· == timedReport key) = [] := by
    intro info i
    apply List.filter_eq_nil_iff.mpr
    intro event member
    cases info with
    | none => cases member
    | some info =>
        simp only [infoReports, List.mem_append, List.mem_ite_nil_right, List.mem_singleton] at member
        rcases member with ⟨-, rfl⟩ | ⟨-, rfl⟩ <;>
          simp [timedReport, loopReport, ORDER_TIMED_EVENT, LOOP_EVENT, AWAKE_LOOP_EVENT]
  have entries : ∀ (info : Option TimeInfo) (i delay : Int),
      ((infoEntries env info (.loop true i) delay).filter fun entry =>
        entry.1 == .timed true key) = [] := by
    intro info i delay
    rcases infoEntries_cases env info (.loop true i) delay with none | ⟨time, one⟩
    · simp [none]
    · simp [one]
  rw [processPersistenceLoopTask_eq]
  split
  · rfl
  · simp only [timedTrace, armed, List.filter_append]
    split
    · simp only [reports, entries, saveLong_contains timed]
      rfl
    · simp only [entries]
      rfl

/-- What the entry of a timed event comes to, by the trigger time it is handled with. -/
def timedTurn (env : TimedEnv) (key : String) (stored : Bool) :
    Option Int → List PolicyEvent × List (TimedTask × Int) × Bool
  | none => ([], [], stored)
  | some triggerTime =>
      if triggerTime ≤ env.now then ([timedReport key], [], false)
      else ([], timerEntries env (.timed true key) (triggerTime - env.now), stored)

theorem processPersistenceTimedTask_timedTrace {triggerTime : Int} {key place : String} {stored : Bool}
    (start : c.timedTrace key = ([], [], stored)) :
    (c.processPersistenceTimedTask env (triggerTime - env.now) place).timedTrace key =
      timedTurn env key stored (if place = key then some triggerTime else none) := by
  have due : triggerTime - env.now ≤ 0 ↔ triggerTime ≤ env.now := by omega
  simp only [timedTrace, Prod.mk.injEq] at start
  obtain ⟨reports, waiting, contained⟩ := start
  rw [processPersistenceTimedTask, postTimer_eq]
  simp only [due]
  by_cases same : place = key
  · subst same
    simp only [if_true, timedTurn]
    split
    · simp [timedTrace, reportEvent, timedReport, waiting] at reports ⊢
      exact reports
    · rcases timerEntries_cases env (.timed true place) (triggerTime - env.now) with none | ⟨time, one⟩
      · simp [timedTrace, none, reports, waiting, contained]
      · simp [timedTrace, one, reports, waiting, contained]
  · simp only [if_neg same, timedTurn]
    split
    · have other : ({ eventId := TIMED_EVENT, name := ORDER_TIMED_EVENT, value := place,
                      persistence := true } : PolicyEvent) ≠ timedReport key := by
        simp [timedReport, same]
      simp [timedTrace, reportEvent, other, reports, waiting, contained, Std.TreeMap.contains_erase, same]
    · rcases timerEntries_cases env (.timed true place) (triggerTime - env.now) with none | ⟨time, one⟩
      · simp [timedTrace, none, reports, waiting, contained]
      · simp [timedTrace, one, reports, waiting, contained, same]

/-- The start of the timed events: the first one counts. -/
theorem processLive_timedTrace {key : String} {stored : Bool} (timed : isTimedKey key = true)
    (entries : List (String × Int)) (c : DeviceTimedCollect)
    (start : c.timedTrace key = ([], [], stored)) :
    (processLive env entries c).timedTrace key = timedTurn env key stored (timedFirst entries key) := by
  induction entries generalizing c with
  | nil => exact start
  | cons entry entries hypothesis =>
      obtain ⟨place, triggerTime⟩ := entry
      cases loop : isTimedKey place
      · rw [processLive, if_neg (by simp [loop]), timedFirst_cons_of_loop loop]
        apply hypothesis
        rw [processPersistenceLoopTask_timedTrace timed]
        exact start
      · rw [processLive, if_pos loop, timedFirst_cons_of_timed loop]
        exact processPersistenceTimedTask_timedTrace start

end Traces

section Start

variable {key : String}

/-- What the start does about an interval, by the trigger time that arms its loop; without one the
loop begins anew if it is in use. -/
def loopTurn (env : TimedEnv) (c : DeviceTimedCollect) (interval : Int) :
    Option Int → List PolicyEvent × List (TimedTask × Int)
  | some triggerTime => armed env c.timeInfos[interval]? interval triggerTime
  | none =>
      ([], if interval ∈ c.persitenceLoopEventSet then
        infoEntries env c.timeInfos[interval]? (.loop true interval) interval else [])

/-- Nothing is posted or reported yet. -/
structure Silent (c : DeviceTimedCollect) : Prop where
  reports : c.reports = []
  waiting : c.waiting = []
  tasks : c.persitenceLoopTasks = ∅

/-- The other family has tasks of its own. -/
theorem postNonPersistenceLoopTaskLocked_traces (env : TimedEnv) (c : DeviceTimedCollect)
    (place interval : Int) (key : String) :
    (c.postNonPersistenceLoopTaskLocked env place).loopTrace interval = c.loopTrace interval ∧
      (c.postNonPersistenceLoopTaskLocked env place).timedTrace key = c.timedTrace key ∧
      (c.postNonPersistenceLoopTaskLocked env place).persitenceLoopTasks = c.persitenceLoopTasks := by
  rw [postNonPersistenceLoopTaskLocked, postDelayTaskByTimeInfo_eq]
  split
  · exact ⟨rfl, rfl, rfl⟩
  · rcases infoEntries_cases env c.timeInfos[place]? (.loop false place) place with none | ⟨time, one⟩
    · simp [loopTrace, timedTrace, none]
    · simp [loopTrace, timedTrace, one]

theorem postNonPersistenceLoopTasks_traces (env : TimedEnv) (c : DeviceTimedCollect) (interval : Int)
    (key : String) :
    (c.postNonPersistenceLoopTasks env).loopTrace interval = c.loopTrace interval ∧
      (c.postNonPersistenceLoopTasks env).timedTrace key = c.timedTrace key ∧
      (c.postNonPersistenceLoopTasks env).persitenceLoopTasks = c.persitenceLoopTasks ∧
      SameLoops c (c.postNonPersistenceLoopTasks env) := by
  rw [postNonPersistenceLoopTasks]
  apply List.foldlRecOn (motive := fun d => d.loopTrace interval = c.loopTrace interval ∧
    d.timedTrace key = c.timedTrace key ∧ d.persitenceLoopTasks = c.persitenceLoopTasks ∧
    SameLoops c d)
  · exact ⟨rfl, rfl, rfl, .refl c⟩
  · rintro d ⟨loop, timed, tasks, same⟩ place -
    obtain ⟨nextLoop, nextTimed, nextTasks⟩ := postNonPersistenceLoopTaskLocked_traces env d
      place interval key
    exact ⟨nextLoop.trans loop, nextTimed.trans timed, nextTasks.trans tasks,
      same.trans postNonPersistenceLoopTaskLocked_sameLoops⟩

theorem postPersistenceLoopTaskLocked_loopTrace {place : Int} :
    (c.postPersistenceLoopTaskLocked env place).loopTrace interval =
      if place = interval ∧ interval ∉ c.persitenceLoopTasks then
        ((c.loopTrace interval).1,
          infoEntries env c.timeInfos[interval]? (.loop true interval) interval ++
            (c.loopTrace interval).2)
      else c.loopTrace interval := by
  rw [postPersistenceLoopTaskLocked]
  by_cases posted : place ∈ c.persitenceLoopTasks
  · rw [if_pos posted, if_neg]
    rintro ⟨rfl, fresh⟩
    exact fresh posted
  · rw [if_neg posted, postPersistenceDelayTask_eq]
    simp only [loopTrace, List.filter_append, filter_infoEntries]
    by_cases same : place = interval
    · subst same
      simp [posted]
    · simp [same]

theorem mem_postPersistenceLoopTaskLocked {place : Int} :
    interval ∈ (c.postPersistenceLoopTaskLocked env place).persitenceLoopTasks ↔
      interval ∈ c.persitenceLoopTasks ∨ place = interval := by
  rw [postPersistenceLoopTaskLocked]
  split
  · rename_i posted
    constructor
    · exact .inl
    · rintro (member | rfl)
      · exact member
      · exact posted
  · rw [postPersistenceDelayTask_eq]
    simp only [Std.TreeSet.mem_insert, Std.compare_eq_iff_eq]
    exact or_comm

/-- The loops in use that no entry has armed begin anew. -/
theorem postPersistence_loopTrace (intervals : List Int) (c : DeviceTimedCollect) :
    (intervals.foldl (postPersistenceLoopTaskLocked env) c).loopTrace interval =
      if interval ∈ intervals ∧ interval ∉ c.persitenceLoopTasks then
        ((c.loopTrace interval).1,
          infoEntries env c.timeInfos[interval]? (.loop true interval) interval ++
            (c.loopTrace interval).2)
      else c.loopTrace interval := by
  induction intervals generalizing c with
  | nil => simp
  | cons first rest hypothesis =>
      have infos : (c.postPersistenceLoopTaskLocked env first).timeInfos = c.timeInfos :=
        postPersistenceLoopTaskLocked_sameLoops.timeInfos
      simp only [List.foldl_cons, hypothesis, infos, mem_postPersistenceLoopTaskLocked,
        postPersistenceLoopTaskLocked_loopTrace]
      by_cases posted : interval ∈ c.persitenceLoopTasks
      · simp [posted]
      · by_cases here : first = interval
        · simp [posted, here]
        · have apart : interval ≠ first := fun same => here same.symm
          simp [posted, here, apart]

theorem postPersistenceLoopTasks_timedTrace (timed : isTimedKey key = true) :
    (c.postPersistenceLoopTasks env).timedTrace key = c.timedTrace key := by
  rw [postPersistenceLoopTasks]
  apply List.foldlRecOn (motive := fun d : DeviceTimedCollect => d.timedTrace key = c.timedTrace key)
  · rfl
  · rintro d same place -
    rw [← same, postPersistenceLoopTaskLocked]
    split
    · rfl
    · rw [postPersistenceDelayTask_eq]
      simp only [timedTrace, saveLong_contains timed]
      rcases infoEntries_cases env d.timeInfos[place]? (.loop true place) place with none | ⟨time, one⟩
      · simp [none]
      · simp [one]

theorem processPersistenceTasks_sameLoops (env : TimedEnv) (c : DeviceTimedCollect) :
    SameLoops c (c.processPersistenceTasks env) := by
  apply processEntries_keeps (SameLoops c)
  · exact fun _ _ same => same.trans processPersistenceTimedTask_sameLoops
  · exact fun _ _ _ same => same.trans processPersistenceLoopTask_sameLoops
  · exact .refl c

/-- The trace of a loop is decided by the entry that arms it. -/
theorem onStart_loopTrace (silent : c.Silent) (interval : Int) :
    (c.onStart env).loopTrace interval =
      loopTurn env c interval (armedFirst env (liveEntries c.preferencesUtil.toList) interval) := by
  have start : c.loopTrace interval = ([], []) := by
    simp [loopTrace, silent.reports, silent.waiting]
  have unposted : interval ∉ c.persitenceLoopTasks := by
    simp [silent.tasks]
  obtain ⟨trace, tasks⟩ := processLive_loopTrace env (liveEntries c.preferencesUtil.toList) c interval
  rw [← processEntries_eq, start, if_neg unposted] at trace
  rw [← processEntries_eq, or_iff_right unposted] at tasks
  obtain ⟨loop, -, kept, same⟩ := postNonPersistenceLoopTasks_traces env (c.processPersistenceTasks env)
    interval ""
  have loops : SameLoops c ((c.processPersistenceTasks env).postNonPersistenceLoopTasks env) :=
    (processPersistenceTasks_sameLoops env c).trans same
  have sets := loops.loopSet true
  simp only [loopSet] at sets
  simp only [onStart, postPersistenceLoopTasks, postPersistence_loopTrace, loop, kept, loops.timeInfos,
    sets, Std.TreeSet.mem_toList]
  simp only [processPersistenceTasks, tasks, trace]
  cases armedFirst env (liveEntries c.preferencesUtil.toList) interval with
  | some triggerTime => simp [loopTurn]
  | none =>
      by_cases used : interval ∈ c.persitenceLoopEventSet <;> simp [loopTurn, used]

theorem onStart_timedTrace (silent : c.Silent) (timed : isTimedKey key = true) :
    (c.onStart env).timedTrace key = timedTurn env key (c.preferencesUtil.contains key)
      (timedFirst (liveEntries c.preferencesUtil.toList) key) := by
  obtain ⟨-, same, -⟩ := postNonPersistenceLoopTasks_traces env (c.processPersistenceTasks env) 0 key
  rw [onStart, postPersistenceLoopTasks_timedTrace timed, same, processPersistenceTasks,
    processEntries_eq]
  apply processLive_timedTrace timed
  simp [timedTrace, silent.reports, silent.waiting]

/-- The entry of a key that is read as a number. -/
def single (key : String) (triggerTime : Int) : PreferencesUtil :=
  PreferencesUtil.saveLong ∅ key triggerTime

theorem single_toList (key : String) (triggerTime : Int) :
    (single key triggerTime).toList = [(key, .long triggerTime)] := rfl

theorem mem_liveEntries {entries : List (String × PreferencesValue)} {triggerTime : Int} :
    (key, triggerTime) ∈ liveEntries entries ↔
      '_' ∉ key.toList ∧ (key, .long triggerTime) ∈ entries := by
  simp only [liveEntries, List.mem_filterMap]
  constructor
  · rintro ⟨⟨place, value⟩, member, found⟩
    split at found
    · cases found
    · rename_i mark
      cases value with
      | long time =>
          simp only [Option.some.injEq, Prod.mk.injEq] at found
          obtain ⟨rfl, rfl⟩ := found
          exact ⟨mark, member⟩
      | string value => cases found
      | other => cases found
  · rintro ⟨mark, member⟩
    exact ⟨_, member, by simp [mark]⟩

theorem single_live {triggerTime : Int} (mark : '_' ∉ key.toList) :
    liveEntries (single key triggerTime).toList = [(key, triggerTime)] := by
  simp [single_toList, liveEntries, mark]

theorem init_eq (preferencesUtil : PreferencesUtil) (saProfiles : List CollMgrSaProfile) :
    init preferencesUtil saProfiles = { init ∅ saProfiles with preferencesUtil } := by
  rw [init, init]
  generalize saProfiles.flatMap CollMgrSaProfile.events = events
  have one : ∀ (events : List PolicyEvent) (c : DeviceTimedCollect),
      events.foldl saveTimedEvent { c with preferencesUtil } =
        { events.foldl saveTimedEvent c with preferencesUtil } := by
    intro events
    induction events with
    | nil => exact fun _ => rfl
    | cons event events hypothesis =>
        intro c
        rw [List.foldl_cons, List.foldl_cons, ← hypothesis]
        congr 1
        simp only [saveTimedEvent, saveTimedInfos]
        split
        · split <;> rfl
        · rfl
  exact one events {}

theorem init_silent (preferencesUtil : PreferencesUtil) (saProfiles : List CollMgrSaProfile) :
    (init preferencesUtil saProfiles).Silent := by
  rw [init]
  apply List.foldlRecOn (motive := Silent)
  · exact ⟨rfl, rfl, rfl⟩
  · rintro c silent event -
    simp only [saveTimedEvent, saveTimedInfos]
    split
    · split <;> exact ⟨silent.reports, silent.waiting, silent.tasks⟩
    · exact silent

end Start

section Handled

variable {saProfiles : List CollMgrSaProfile} {p : PreferencesUtil} {key : String} {triggerTime : Int}

/-- A profile has a persistent loop with this interval. -/
def inUse (saProfiles : List CollMgrSaProfile) (interval : Int) : Bool :=
  (saProfiles.flatMap CollMgrSaProfile.events).any fun event =>
    event.eventId == TIMED_EVENT && isLoop event && event.persistence && atoi event.value == interval

/-- The collector after its start on a store. -/
def startedOn (env : TimedEnv) (saProfiles : List CollMgrSaProfile) (p : PreferencesUtil) :
    DeviceTimedCollect :=
  (init p saProfiles).onStart env

/-- The start on the store does for the entry what is due, and the same as if the entry were alone. -/
structure Handled (env : TimedEnv) (saProfiles : List CollMgrSaProfile) (p : PreferencesUtil)
    (key : String) (triggerTime : Int) : Prop where
  due : isTimedKey key = true → triggerTime ≤ env.now →
    timedReport key ∈ (startedOn env saProfiles p).reports ∧
      key ∉ (startedOn env saProfiles p).preferencesUtil
  ahead : isTimedKey key = true → env.now < triggerTime →
    (.timed true key, triggerTime - env.now) ∈ (startedOn env saProfiles p).waiting
  loop : isTimedKey key = false → inUse saProfiles (atoi key) = true →
    arms env (atoi key) triggerTime = true →
    ∃ delay, (.loop true (atoi key), delay) ∈ (startedOn env saProfiles p).waiting
  timedAlone : isTimedKey key = true → (startedOn env saProfiles p).timedTrace key =
    (startedOn env saProfiles (single key triggerTime)).timedTrace key
  loopAlone : isTimedKey key = false → (startedOn env saProfiles p).loopTrace (atoi key) =
    (startedOn env saProfiles (single key triggerTime)).loopTrace (atoi key)

/-- A delay that is posted as it is. -/
def timerHolds (env : TimedEnv) (task : TimedTask) (delay : Int) : Bool :=
  (!env.isMultiUser && env.timerTaken task) || delay ≤ INT32_MAX / TO_MILLISECOND

theorem mem_timerEntries {task : TimedTask} {delay : Int} (ahead : 0 < delay) :
    (task, delay) ∈ timerEntries env task delay ↔ timerHolds env task delay = true := by
  have limit : INT32_MAX / TO_MILLISECOND = 2147483 := rfl
  have plain : (task, delay) ∈ delayEntries task delay ↔ delay ≤ INT32_MAX / TO_MILLISECOND := by
    rw [delayEntries, limit]
    by_cases refused : toInt32 delay < 0 ∨ toInt32 delay > 2147483
    · rw [if_pos refused]
      constructor
      · intro member
        cases member
      · intro small
        have same : toInt32 delay = delay := Int.bmod_eq_of_le (by omega) (by omega)
        omega
    · rw [if_neg refused, List.mem_singleton, Prod.mk.injEq]
      constructor
      · intro same
        omega
      · intro small
        have same : toInt32 delay = delay := Int.bmod_eq_of_le (by omega) (by omega)
        exact ⟨rfl, same.symm⟩
  rw [timerEntries, timerHolds]
  cases multi : env.isMultiUser
  · cases taken : env.timerTaken task
    · simp [plain]
    · simp
  · simp [plain]

/-- The entry is the first timed one and its delay can be posted, or it is a loop that goes on as it
would alone, and with a task if it is in use. -/
def startsEntry (env : TimedEnv) (saProfiles : List CollMgrSaProfile) (p : PreferencesUtil)
    (entry : String × Int) : Bool :=
  let known := init ∅ saProfiles
  let live := liveEntries p.toList
  let interval := atoi entry.1
  if isTimedKey entry.1 then
    timedFirst live entry.1 == some entry.2 &&
      (entry.2 ≤ env.now || timerHolds env (.timed true entry.1) (entry.2 - env.now))
  else
    loopTurn env known interval (armedFirst env live interval) ==
        loopTurn env known interval (armedFirst env [entry] interval) &&
      (!(inUse saProfiles interval && arms env interval entry.2) ||
        !(loopTurn env known interval (some entry.2)).2.isEmpty)

theorem startedOn_loopTrace (interval : Int) : (startedOn env saProfiles p).loopTrace interval =
    loopTurn env (init ∅ saProfiles) interval (armedFirst env (liveEntries p.toList) interval) := by
  rw [startedOn, onStart_loopTrace (init_silent p saProfiles), init_eq]
  rfl

theorem startedOn_timedTrace (env : TimedEnv) (saProfiles : List CollMgrSaProfile)
    (p : PreferencesUtil) (timed : isTimedKey key = true) :
    (startedOn env saProfiles p).timedTrace key =
      timedTurn env key (p.contains key) (timedFirst (liveEntries p.toList) key) := by
  rw [startedOn, onStart_timedTrace (init_silent p saProfiles) timed, init_eq]

theorem mem_loopTrace {d : DeviceTimedCollect} {interval delay : Int} :
    (.loop true interval, delay) ∈ (d.loopTrace interval).2 ↔ (.loop true interval, delay) ∈ d.waiting := by
  simp [loopTrace]

theorem handled_loop_iff (loop : isTimedKey key = false)
    (member : (key, triggerTime) ∈ liveEntries p.toList) :
    Handled env saProfiles p key triggerTime ↔ startsEntry env saProfiles p (key, triggerTime) = true := by
  have alone : (startedOn env saProfiles (single key triggerTime)).loopTrace (atoi key) =
      loopTurn env (init ∅ saProfiles) (atoi key)
        (armedFirst env [(key, triggerTime)] (atoi key)) := by
    rw [startedOn_loopTrace, single_live (mem_liveEntries.mp member).1]
  have first : arms env (atoi key) triggerTime = true →
      armedFirst env [(key, triggerTime)] (atoi key) = some triggerTime := by
    intro arming
    rw [armedFirst_cons loop, if_pos ⟨rfl, arming⟩]
  have starts : startsEntry env saProfiles p (key, triggerTime) = true ↔
      loopTurn env (init ∅ saProfiles) (atoi key) (armedFirst env (liveEntries p.toList) (atoi key)) =
          loopTurn env (init ∅ saProfiles) (atoi key)
            (armedFirst env [(key, triggerTime)] (atoi key)) ∧
        (inUse saProfiles (atoi key) = true → arms env (atoi key) triggerTime = true →
          (loopTurn env (init ∅ saProfiles) (atoi key) (some triggerTime)).2 ≠ []) := by
    rw [startsEntry]
    simp only [loop, Bool.and_eq_true, beq_iff_eq, Bool.or_eq_true, Bool.not_eq_true',
      Bool.and_eq_false_iff, List.isEmpty_eq_false_iff, Bool.false_eq_true, if_false]
    grind
  rw [starts]
  constructor
  · intro handled
    have same := handled.loopAlone loop
    refine ⟨by rw [← startedOn_loopTrace, same, alone], ?_⟩
    intro used arming none
    obtain ⟨delay, waits⟩ := handled.loop loop used arming
    rw [← mem_loopTrace, same, alone, first arming, none] at waits
    cases waits
  · rintro ⟨same, posts⟩
    have trace : (startedOn env saProfiles p).loopTrace (atoi key) =
        (startedOn env saProfiles (single key triggerTime)).loopTrace (atoi key) := by
      rw [startedOn_loopTrace, same, alone]
    constructor
    · intro timed
      simp [loop] at timed
    · intro timed
      simp [loop] at timed
    · intro _ used arming
      obtain ⟨⟨task, delay⟩, posted⟩ := List.exists_mem_of_ne_nil _ (posts used arming)
      rw [← first arming, ← alone, ← trace] at posted
      have own := (List.mem_filter.mp posted).2
      rw [beq_iff_eq] at own
      simp only at own
      rw [own] at posted
      exact ⟨delay, mem_loopTrace.mp posted⟩
    · intro timed
      simp [loop] at timed
    · exact fun _ => trace

theorem mem_timedTrace (d : DeviceTimedCollect) (key : String) (delay : Int) :
    (timedReport key ∈ (d.timedTrace key).1 ↔ timedReport key ∈ d.reports) ∧
      ((.timed true key, delay) ∈ (d.timedTrace key).2.1 ↔ (.timed true key, delay) ∈ d.waiting) ∧
      ((d.timedTrace key).2.2 = false ↔ key ∉ d.preferencesUtil) := by
  simp [timedTrace, ← Std.TreeMap.contains_iff_mem]

theorem timedFirst_own {time : Int} (stored : p[key]? = some (.long triggerTime))
    (found : timedFirst (liveEntries p.toList) key = some time) : time = triggerTime := by
  simp only [timedFirst, Option.map_eq_some_iff, Option.filter_eq_some_iff] at found
  obtain ⟨⟨place, time⟩, ⟨found, same⟩, rfl⟩ := found
  have there := (mem_liveEntries.mp (List.mem_of_find?_eq_some found)).2
  rw [beq_iff_eq] at same
  simp only at same
  rw [same, Std.TreeMap.mem_toList_iff_getElem?_eq_some, stored] at there
  cases there
  rfl

/-- A timed entry that is still to come waits for its own time exactly if it is the first one and its
delay can be posted. -/
theorem startedOn_waits_iff (timed : isTimedKey key = true)
    (stored : p[key]? = some (.long triggerTime)) (ahead : env.now < triggerTime) :
    (.timed true key, triggerTime - env.now) ∈ (startedOn env saProfiles p).waiting ↔
      timedFirst (liveEntries p.toList) key = some triggerTime ∧
        timerHolds env (.timed true key) (triggerTime - env.now) = true := by
  rw [← (mem_timedTrace _ _ _).2.1, startedOn_timedTrace env saProfiles p timed]
  cases first : timedFirst (liveEntries p.toList) key with
  | none => simp [timedTurn]
  | some time =>
      rw [timedFirst_own stored first, timedTurn, if_neg (by omega), mem_timerEntries (by omega)]
      simp

theorem handled_timed_iff (timed : isTimedKey key = true)
    (member : (key, triggerTime) ∈ liveEntries p.toList) :
    Handled env saProfiles p key triggerTime ↔ startsEntry env saProfiles p (key, triggerTime) = true := by
  obtain ⟨mark, stored⟩ := mem_liveEntries.mp member
  rw [Std.TreeMap.mem_toList_iff_getElem?_eq_some] at stored
  have contained : p.contains key = true := by
    rw [Std.TreeMap.contains_eq_isSome_getElem?, stored]
    rfl
  have alone : (startedOn env saProfiles (single key triggerTime)).timedTrace key =
      timedTurn env key true (some triggerTime) := by
    rw [startedOn_timedTrace env _ _ timed, single_live mark, timedFirst_cons_of_timed timed, if_pos rfl]
    congr 1
    simp [single, PreferencesUtil.saveLong]
  have trace := startedOn_timedTrace env saProfiles p timed
  rw [contained] at trace
  obtain ⟨reports, -, erased⟩ := mem_timedTrace (startedOn env saProfiles p) key
    (triggerTime - env.now)
  have starts : startsEntry env saProfiles p (key, triggerTime) = true ↔
      timedFirst (liveEntries p.toList) key = some triggerTime ∧
        (triggerTime ≤ env.now ∨
          timerHolds env (.timed true key) (triggerTime - env.now) = true) := by
    rw [startsEntry]
    simp only [timed, if_true, Bool.and_eq_true, beq_iff_eq, Bool.or_eq_true, decide_eq_true_eq]
  rw [starts]
  constructor
  · intro handled
    rcases le_or_gt triggerTime env.now with past | future
    · refine ⟨?_, Or.inl past⟩
      cases first : timedFirst (liveEntries p.toList) key with
      | some time => rw [timedFirst_own stored first]
      | none =>
          rw [first] at trace
          have reported := reports.mpr (handled.due timed past).1
          rw [trace] at reported
          cases reported
    · obtain ⟨found, holds⟩ := (startedOn_waits_iff timed stored future).mp
        (handled.ahead timed future)
      exact ⟨found, Or.inr holds⟩
  · rintro ⟨found, holds⟩
    rw [found, timedTurn] at trace
    constructor
    · intro _ past
      rw [if_pos past] at trace
      rw [← reports, ← erased, trace]
      exact ⟨List.mem_singleton.mpr rfl, rfl⟩
    · intro _ future
      exact (startedOn_waits_iff timed stored future).mpr ⟨found, holds.resolve_left (by omega)⟩
    · intro loop
      simp [timed] at loop
    · intro _
      rw [trace, alone, timedTurn]
    · intro loop
      simp [timed] at loop

/-- The start handles every entry of a store exactly when one entry at most is timed, with a delay
that can be posted, and each loop is armed as its own entry would arm it. -/
theorem every_timer_is_handled_iff (env : TimedEnv) (saProfiles : List CollMgrSaProfile)
    (p : PreferencesUtil) :
    (∀ entry ∈ liveEntries p.toList, Handled env saProfiles p entry.1 entry.2) ↔
      ∀ entry ∈ liveEntries p.toList, startsEntry env saProfiles p entry = true := by
  constructor
  · rintro handled ⟨key, triggerTime⟩ member
    cases timed : isTimedKey key
    · exact (handled_loop_iff timed member).mp (handled _ member)
    · exact (handled_timed_iff timed member).mp (handled _ member)
  · rintro starts ⟨key, triggerTime⟩ member
    cases timed : isTimedKey key
    · exact (handled_loop_iff timed member).mpr (starts _ member)
    · exact (handled_timed_iff timed member).mpr (starts _ member)

/-- Two timed events, the first of them still to come and the second one past. -/
def twoTimedEvents : PreferencesUtil :=
  (PreferencesUtil.saveLong ∅ "2017-9-1-16:59:10" 6000).saveLong "2017-9-1-16:59:11" 4000

/-- The start ends at the first timed event. -/
theorem second_timed_event_is_forgotten : ¬ ∀ (env : TimedEnv) (saProfiles : List CollMgrSaProfile)
    (p : PreferencesUtil), ∀ entry ∈ liveEntries p.toList, Handled env saProfiles p entry.1 entry.2 := by
  intro always
  have reported := (always { now := 5000 } [] twoTimedEvents ("2017-9-1-16:59:11", 4000)
    (by decide +kernel)).due (by decide +kernel) (by decide +kernel)
  revert reported
  decide +kernel

end Handled

end DeviceTimedCollect

end Samgr
