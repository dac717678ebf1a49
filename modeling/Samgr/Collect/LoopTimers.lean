import Samgr.Collect.Updates
import Samgr.Lib.Runs

/-! The loops that the timed collector runs and the loop events in use. Two kinds of events, each with
and without persistence, share an interval, while a withdrawal compares whole events. -/
namespace Samgr

namespace DeviceTimedCollect

variable {env : TimedEnv} {c : DeviceTimedCollect} {event : PolicyEvent} {name : String}
  {interval : Int} {persistence : Bool}

/-- The intervals of one family. -/
def loopSet (c : DeviceTimedCollect) : Bool → Std.TreeSet Int
  | true => c.persitenceLoopEventSet
  | false => c.nonPersitenceLoopEventSet

/-- The interval is known to have an event of this name. -/
def marked (infos : Std.TreeMap Int TimeInfo) (name : String) (interval : Int) : Bool :=
  (name == LOOP_EVENT && ((infos[interval]?).getD {}).normal) ||
    (name == AWAKE_LOOP_EVENT && ((infos[interval]?).getD {}).awake)

/-- A loop of this name and interval. -/
def IsLoopOf (event : PolicyEvent) (name : String) (interval : Int) : Prop :=
  isLoop event = true ∧ event.name = name ∧ atoi event.value = interval

theorem isLoop_iff : isLoop event = true ↔ event.name = LOOP_EVENT ∨ event.name = AWAKE_LOOP_EVENT := by
  simp [isLoop]

/-- Saving an event marks its interval with its name. -/
theorem marked_saved : marked (c.timeInfos.insert (atoi event.value) (c.infoWith event)) name interval = true ↔
    marked c.timeInfos name interval = true ∨ IsLoopOf event name interval := by
  simp only [marked, infoWith, IsLoopOf, Std.TreeMap.getElem?_insert, Std.compare_eq_iff_eq]
  by_cases here : atoi event.value = interval
  · subst here
    simp only [if_true, Option.getD_some, Bool.or_eq_true, Bool.and_eq_true, beq_iff_eq, isLoop]
    grind [LOOP_EVENT, AWAKE_LOOP_EVENT]
  · simp [here]

theorem withLoop_infos : (withLoop env event c).timeInfos =
    c.timeInfos.insert (atoi event.value) (c.infoWith event) := by
  rw [withLoop]
  split <;> rfl

theorem mem_withLoop : interval ∈ (withLoop env event c).loopSet persistence ↔
    interval ∈ c.loopSet persistence ∨ (persistence = false ∧ atoi event.value = interval) := by
  rw [withLoop]
  cases persistence
  · simp only [loopSet]
    split
    · rename_i here
      grind
    · simp only [Std.TreeSet.mem_insert, Std.compare_eq_iff_eq]
      grind
  · simp only [loopSet]
    split <;> simp

theorem withTimed_loopSet : (withTimed env event c).loopSet persistence = c.loopSet persistence := by
  rw [withTimed]
  split <;> cases persistence <;> rfl

theorem withTimed_infos : (withTimed env event c).timeInfos = c.timeInfos := by
  rw [withTimed]
  split <;> rfl

theorem saveTimedEvent_marked : marked (saveTimedEvent c event).timeInfos name interval = true ↔
    marked c.timeInfos name interval = true ∨
      (event.eventId = TIMED_EVENT ∧ validInterval event = true ∧ IsLoopOf event name interval) := by
  rw [saveTimedEvent]
  split
  · rename_i loop
    simp only [loop.1, loop.2.2, true_and]
    cases event.persistence <;> exact marked_saved
  · rename_i other
    simp only [IsLoopOf]
    grind

theorem mem_saveTimedEvent : interval ∈ (saveTimedEvent c event).loopSet persistence ↔
    interval ∈ c.loopSet persistence ∨
      (event.eventId = TIMED_EVENT ∧ isLoop event = true ∧ validInterval event = true ∧
        event.persistence = persistence ∧ atoi event.value = interval) := by
  rw [saveTimedEvent]
  split
  · rename_i loop
    cases event.persistence <;> cases persistence <;>
      simp [loopSet, saveTimedInfos, loop, Std.TreeSet.mem_insert, or_comm]
  · rename_i other
    grind

/-- An entry with neither mark counts as none. -/
theorem removeTimesInfo_getD {place : Int} :
    ((c.removeTimesInfo event place).timeInfos[interval]?).getD {} =
      if place = interval then
        { normal := ((c.timeInfos[place]?).getD {}).normal && event.name != LOOP_EVENT
          awake := ((c.timeInfos[place]?).getD {}).awake && event.name != AWAKE_LOOP_EVENT }
      else (c.timeInfos[interval]?).getD {} := by
  rw [removeTimesInfo]
  by_cases here : place = interval
  · subst here
    cases known : c.timeInfos[place]? with
    | none => simp [known]
    | some info =>
        simp only [Option.getD_some, if_true]
        split
        · rename_i unmarked
          rw [Bool.and_eq_true, Bool.not_eq_true', Bool.not_eq_true'] at unmarked
          rw [Std.TreeMap.getElem?_erase_self, unmarked.1, unmarked.2]
          rfl
        · rw [Std.TreeMap.getElem?_insert_self]
          rfl
  · rw [if_neg here]
    split
    · rfl
    · simp only
      split
      · rw [Std.TreeMap.getElem?_erase, if_neg (by simpa using here)]
      · rw [Std.TreeMap.getElem?_insert, if_neg (by simpa using here)]

/-- Removing an event takes its name off its interval, whoever else has marked it. -/
theorem removeUnusedEvent_marked : marked (removeUnusedEvent c event).timeInfos name interval = true ↔
    marked c.timeInfos name interval = true ∧ ¬ IsLoopOf event name interval := by
  rw [removeUnusedEvent]
  split
  · rename_i loop
    have infos : (if event.persistence then c.removePersistenceLoopTask (atoi event.value)
        else c.removeNonPersistenceLoopTask (atoi event.value)).timeInfos = c.timeInfos := by
      rw [removePersistenceLoopTask, removeNonPersistenceLoopTask]
      split <;> split <;> rfl
    simp only [marked, removeTimesInfo_getD, infos, IsLoopOf, loop, true_and]
    split
    · rename_i here
      subst here
      simp only [Bool.or_eq_true, Bool.and_eq_true, beq_iff_eq, bne_iff_ne]
      grind [LOOP_EVENT, AWAKE_LOOP_EVENT]
    · rename_i other
      simp [other]
  · rename_i other
    simp [IsLoopOf, other]

theorem mem_removePersistenceLoopTask {place : Int} :
    interval ∈ (c.removePersistenceLoopTask place).loopSet persistence ↔
      interval ∈ c.loopSet persistence ∧ ¬ (persistence = true ∧ place = interval) := by
  rw [removePersistenceLoopTask]
  cases persistence
  · split <;> simp [loopSet]
  · simp only [loopSet]
    split
    · simp [Std.TreeSet.mem_erase, and_comm]
    · rename_i absent
      grind

theorem mem_removeNonPersistenceLoopTask {place : Int} :
    interval ∈ (c.removeNonPersistenceLoopTask place).loopSet persistence ↔
      interval ∈ c.loopSet persistence ∧ ¬ (persistence = false ∧ place = interval) := by
  rw [removeNonPersistenceLoopTask]
  cases persistence
  · simp only [loopSet]
    split
    · simp [Std.TreeSet.mem_erase, and_comm]
    · rename_i absent
      grind
  · split <;> simp [loopSet]

theorem mem_removeUnusedEvent : interval ∈ (removeUnusedEvent c event).loopSet persistence ↔
    interval ∈ c.loopSet persistence ∧
      ¬ (isLoop event = true ∧ event.persistence = persistence ∧ atoi event.value = interval) := by
  have sets : ∀ (d : DeviceTimedCollect), (d.removeTimesInfo event (atoi event.value)).loopSet
      persistence = d.loopSet persistence := by
    intro d
    rw [removeTimesInfo]
    split <;> cases persistence <;> rfl
  rw [removeUnusedEvent]
  split
  · rename_i loop
    simp only [sets]
    split
    · rename_i own
      rw [mem_removePersistenceLoopTask]
      simp [loop, own, eq_comm]
    · rename_i own
      rw [mem_removeNonPersistenceLoopTask]
      simp [loop, own, eq_comm]
  · rename_i other
    simp [other]

/-- The two collectors run the same loops and know the same of their intervals. -/
structure SameLoops (c d : DeviceTimedCollect) : Prop where
  loopSet : ∀ persistence, d.loopSet persistence = c.loopSet persistence
  timeInfos : d.timeInfos = c.timeInfos

theorem SameLoops.refl (c : DeviceTimedCollect) : SameLoops c c := ⟨fun _ => rfl, rfl⟩

theorem SameLoops.trans {d e : DeviceTimedCollect} (first : SameLoops c d) (second : SameLoops d e) :
    SameLoops c e :=
  ⟨fun persistence => (second.loopSet persistence).trans (first.loopSet persistence),
    second.timeInfos.trans first.timeInfos⟩

theorem postPersistenceDelayTask_sameLoops {task : TimedTask} {disTime : Int} :
    SameLoops c (c.postPersistenceDelayTask env task interval disTime) := by
  rw [postPersistenceDelayTask, postDelayTaskByTimeInfo_eq]
  exact ⟨fun persistence => by cases persistence <;> rfl, rfl⟩

theorem processPersistenceLoopTask_sameLoops {disTime triggerTime : Int} {strInterval : String} :
    SameLoops c (c.processPersistenceLoopTask env disTime triggerTime strInterval) := by
  simp only [processPersistenceLoopTask]
  split
  · exact .refl c
  · split
    · exact .refl c
    · split
      · exact .refl c
      · split
        · rw [reportEventByTimeInfo_eq]
          refine SameLoops.trans ?_ postPersistenceDelayTask_sameLoops
          exact ⟨fun persistence => by cases persistence <;> rfl, rfl⟩
        · rw [postDelayTaskByTimeInfo_eq]
          exact ⟨fun persistence => by cases persistence <;> rfl, rfl⟩

theorem processPersistenceTimedTask_sameLoops {disTime : Int} {timeString : String} :
    SameLoops c (c.processPersistenceTimedTask env disTime timeString) := by
  rw [processPersistenceTimedTask, postTimer_eq]
  split <;> exact ⟨fun persistence => by cases persistence <;> rfl, rfl⟩

theorem postNonPersistenceLoopTaskLocked_sameLoops :
    SameLoops c (c.postNonPersistenceLoopTaskLocked env interval) := by
  rw [postNonPersistenceLoopTaskLocked, postDelayTaskByTimeInfo_eq]
  split
  · exact .refl c
  · exact ⟨fun persistence => by cases persistence <;> rfl, rfl⟩

theorem postPersistenceLoopTaskLocked_sameLoops :
    SameLoops c (c.postPersistenceLoopTaskLocked env interval) := by
  rw [postPersistenceLoopTaskLocked]
  split
  · exact .refl c
  · refine SameLoops.trans ?_ postPersistenceDelayTask_sameLoops
    exact ⟨fun persistence => by cases persistence <;> rfl, rfl⟩

/-- Nothing that is done at the start changes which loops there are. -/
theorem onStart_sameLoops (env : TimedEnv) (c : DeviceTimedCollect) : SameLoops c (c.onStart env) := by
  refine onStart_keeps (SameLoops c) ?_ ?_ ?_ ?_ (.refl c)
  · exact fun _ _ same => same.trans processPersistenceTimedTask_sameLoops
  · exact fun _ _ _ same => same.trans processPersistenceLoopTask_sameLoops
  · exact fun _ _ same => same.trans postNonPersistenceLoopTaskLocked_sameLoops
  · exact fun _ same => same.trans postPersistenceLoopTaskLocked_sameLoops

end DeviceTimedCollect

namespace CollectState

open DeviceTimedCollect

variable {s : CollectState} {u : PolicyUpdate}

/-- Some current policy has a loop of this family and interval. -/
def LoopUsed (events : List PolicyEvent) (persistence : Bool) (interval : Int) : Prop :=
  ∃ event ∈ events, event.eventId = TIMED_EVENT ∧ isLoop event = true ∧
    event.persistence = persistence ∧ atoi event.value = interval

/-- Some current policy has a loop of this name and interval. -/
def NameUsed (events : List PolicyEvent) (name : String) (interval : Int) : Prop :=
  ∃ event ∈ events, event.eventId = TIMED_EVENT ∧ IsLoopOf event name interval

/-- The loops that run are those in use, and each reports by the names in use. -/
structure CoversLoops (s : CollectState) : Prop where
  sets : ∀ persistence interval,
    interval ∈ s.deviceTimed.loopSet persistence ↔ LoopUsed s.events persistence interval
  infos : ∀ persistence interval, interval ∈ s.deviceTimed.loopSet persistence →
    ∃ info, s.deviceTimed.timeInfos[interval]? = some info ∧
      (info.normal = true ↔ NameUsed s.events LOOP_EVENT interval) ∧
      (info.awake = true ↔ NameUsed s.events AWAKE_LOOP_EVENT interval)

/-- The sets and all marks, of intervals in use or not. -/
structure LoopsInStep (s : CollectState) : Prop where
  sets : ∀ persistence interval,
    interval ∈ s.deviceTimed.loopSet persistence ↔ LoopUsed s.events persistence interval
  marks : ∀ name interval,
    marked s.deviceTimed.timeInfos name interval = true ↔ NameUsed s.events name interval

theorem nameUsed_of_loopUsed {events : List PolicyEvent} {persistence : Bool} {interval : Int}
    (used : LoopUsed events persistence interval) :
    NameUsed events LOOP_EVENT interval ∨ NameUsed events AWAKE_LOOP_EVENT interval := by
  obtain ⟨event, member, own, loop, -, place⟩ := used
  rcases isLoop_iff.mp loop with name | name
  · exact .inl ⟨event, member, own, loop, name, place⟩
  · exact .inr ⟨event, member, own, loop, name, place⟩

theorem marked_normal {infos : Std.TreeMap Int TimeInfo} {interval : Int} :
    marked infos LOOP_EVENT interval = ((infos[interval]?).getD {}).normal := by
  simp [marked, LOOP_EVENT, AWAKE_LOOP_EVENT]

theorem marked_awake {infos : Std.TreeMap Int TimeInfo} {interval : Int} :
    marked infos AWAKE_LOOP_EVENT interval = ((infos[interval]?).getD {}).awake := by
  simp [marked, LOOP_EVENT, AWAKE_LOOP_EVENT]

theorem LoopsInStep.covers (inStep : s.LoopsInStep) : s.CoversLoops where
  sets := inStep.sets
  infos persistence interval member := by
    have normal := inStep.marks LOOP_EVENT interval
    have awake := inStep.marks AWAKE_LOOP_EVENT interval
    rw [marked_normal] at normal
    rw [marked_awake] at awake
    cases known : s.deviceTimed.timeInfos[interval]? with
    | none =>
        -- an interval in use has a mark, so it is known
        rw [known] at normal awake
        rcases nameUsed_of_loopUsed ((inStep.sets persistence interval).mp member) with used | used
        · exact absurd (normal.mpr used) Bool.false_ne_true
        · exact absurd (awake.mpr used) Bool.false_ne_true
    | some info =>
        rw [known] at normal awake
        exact ⟨info, rfl, normal, awake⟩

theorem loopsInStep_init (preferencesUtil : PreferencesUtil) (saProfiles : List CollMgrSaProfile)
    (valid : ∀ event ∈ saProfiles.flatMap CollMgrSaProfile.events, event.eventId = TIMED_EVENT →
      isLoop event = true → validInterval event = true) :
    (init preferencesUtil saProfiles).LoopsInStep := by
  constructor
  · intro persistence interval
    change interval ∈ (Runs.run saveTimedEvent { preferencesUtil }
      (saProfiles.flatMap CollMgrSaProfile.events)).loopSet persistence ↔ _
    rw [Runs.run_adds saveTimedEvent (fun c => interval ∈ c.loopSet persistence)
      (fun _ _ => mem_saveTimedEvent)]
    have none : interval ∉ ({ preferencesUtil } : DeviceTimedCollect).loopSet persistence := by
      cases persistence <;> simp [loopSet]
    simp only [none, false_or, LoopUsed, events_init]
    refine exists_congr fun event => and_congr_right fun member => and_congr_right fun own => ?_
    exact ⟨fun ⟨loop, _, rest⟩ => ⟨loop, rest⟩,
      fun ⟨loop, rest⟩ => ⟨loop, valid event member own loop, rest⟩⟩
  · intro name interval
    change marked (Runs.run saveTimedEvent { preferencesUtil }
      (saProfiles.flatMap CollMgrSaProfile.events)).timeInfos name interval = true ↔ _
    rw [Runs.run_adds saveTimedEvent (fun c => marked c.timeInfos name interval = true)
      (fun _ _ => saveTimedEvent_marked)]
    have none : marked (∅ : Std.TreeMap Int TimeInfo) name interval = false := by simp [marked]
    simp only [none, Bool.false_eq_true, false_or, NameUsed, events_init]
    refine exists_congr fun event => and_congr_right fun member => and_congr_right fun own => ?_
    exact ⟨fun ⟨_, loop⟩ => loop, fun loop => ⟨valid event member own loop.1, loop⟩⟩

/-- What a new event brings to the timed collector, and what a withdrawn one takes away. -/
theorem update_timed_iff (succeeded : s.succeeds u = true) (holds : DeviceTimedCollect → Prop)
    {brings takes : PolicyEvent → Prop}
    (stored : ∀ c preferencesUtil, holds { c with preferencesUtil } ↔ holds c)
    (timed : ∀ env event c, holds (withTimed env event c) ↔ holds c)
    (loop : ∀ env event c, holds (withLoop env event c) ↔ holds c ∨ brings event)
    (removed : ∀ c event, holds (DeviceTimedCollect.removeUnusedEvent c event) ↔ holds c ∧ ¬ takes event) :
    holds (s.update u).deviceTimed ↔
      (holds s.deviceTimed ∨ ∃ event ∈ u.events, event.eventId = TIMED_EVENT ∧
          (isLoop event = true ∧ event.persistence = false) ∧ brings event) ∧
        ¬ ∃ event ∈ s.withdrawnEvents u, event.eventId = TIMED_EVENT ∧ takes event := by
  obtain ⟨taken, -, -, preferencesUtil, same⟩ := update_parts succeeded
  obtain ⟨added, valid⟩ := addCollectEvents_timed taken
  have kept := Runs.run_removes DeviceTimedCollect.removeUnusedEvent holds removed
    { (s.collected u).deviceTimed with preferencesUtil }
    ((s.withdrawnEvents u).filter fun event => event.eventId == TIMED_EVENT)
  have one : ∀ c (entry : PolicyEvent × EventAnswer),
      holds (stepTimed u.env c (.timed entry.1 entry.2)) ↔
        holds c ∨ (entry.1.name ≠ ORDER_TIMED_EVENT ∧ brings entry.1) := by
    intro c entry
    simp only [stepTimed]
    split
    · rename_i order
      simp [timed, order]
    · rename_i other
      simp [loop, other]
  have brought := Runs.run_adds (fun c (entry : PolicyEvent × EventAnswer) =>
    stepTimed u.env c (.timed entry.1 entry.2)) holds one s.deviceTimed
    (u.env.ofPlugin u.events TIMED_EVENT)
  rw [same]
  refine kept.trans (and_congr ?_ ?_)
  · rw [stored, collected, added]
    refine brought.trans (or_congr_right ?_)
    have events := u.env.ofPlugin_events u.events TIMED_EVENT
    constructor
    · rintro ⟨entry, member, other, brings⟩
      have inside : entry.1 ∈ (u.env.ofPlugin u.events TIMED_EVENT).map Prod.fst :=
        List.mem_map_of_mem member
      rw [events, List.mem_filter, beq_iff_eq] at inside
      have takes := valid entry.1 inside.1 inside.2
      simp only [DeviceTimedCollect.takes, Bool.or_eq_true, beq_iff_eq, other, false_or,
        Bool.and_eq_true, Bool.not_eq_true'] at takes
      exact ⟨entry.1, inside.1, inside.2, takes.1, brings⟩
    · rintro ⟨event, member, own, ⟨loops, -⟩, brings⟩
      have inside : event ∈ (u.env.ofPlugin u.events TIMED_EVENT).map Prod.fst := by
        rw [events, List.mem_filter, beq_iff_eq]
        exact ⟨member, own⟩
      obtain ⟨entry, within, rfl⟩ := List.mem_map.mp inside
      refine ⟨entry, within, fun order => ?_, brings⟩
      rw [not_isLoop_of_timed order] at loops
      cases loops
  · simp only [List.mem_filter, beq_iff_eq, and_assoc]

theorem update_loopSet (succeeded : s.succeeds u = true) {persistence : Bool} {interval : Int} :
    interval ∈ (s.update u).deviceTimed.loopSet persistence ↔
      (interval ∈ s.deviceTimed.loopSet persistence ∨
          ∃ event ∈ u.events, event.eventId = TIMED_EVENT ∧
            (isLoop event = true ∧ event.persistence = false) ∧
              persistence = false ∧ atoi event.value = interval) ∧
        ¬ LoopUsed (s.withdrawnEvents u) persistence interval := by
  refine update_timed_iff succeeded (fun c => interval ∈ c.loopSet persistence) ?_ ?_ ?_ ?_
  · intro c preferencesUtil
    cases persistence <;> rfl
  · intro env event c
    rw [withTimed_loopSet]
  · exact fun env event c => mem_withLoop
  · exact fun c event => mem_removeUnusedEvent

theorem update_marked (succeeded : s.succeeds u = true) {name : String} {interval : Int} :
    marked (s.update u).deviceTimed.timeInfos name interval = true ↔
      (marked s.deviceTimed.timeInfos name interval = true ∨
          ∃ event ∈ u.events, event.eventId = TIMED_EVENT ∧
            (isLoop event = true ∧ event.persistence = false) ∧ IsLoopOf event name interval) ∧
        ¬ NameUsed (s.withdrawnEvents u) name interval := by
  refine update_timed_iff succeeded (fun c => marked c.timeInfos name interval = true) ?_ ?_ ?_ ?_
  · exact fun c preferencesUtil => Iff.rfl
  · intro env event c
    rw [withTimed_infos]
  · intro env event c
    rw [withLoop_infos, marked_saved]
  · exact fun c event => removeUnusedEvent_marked

/-- No loop that is withdrawn shares its interval with a loop of the new state that has its family
or its name. -/
def keepsLoops (s : CollectState) (u : PolicyUpdate) : Bool :=
  (s.withdrawnEvents u).all fun event =>
    !(event.eventId == TIMED_EVENT && isLoop event) ||
      (s.eventsAfter u).all fun other =>
        !(other.eventId == TIMED_EVENT && isLoop other && atoi other.value == atoi event.value) ||
          (other.persistence != event.persistence && other.name != event.name)

theorem keepsLoops_iff : s.keepsLoops u = true ↔
    ∀ event ∈ s.withdrawnEvents u, event.eventId = TIMED_EVENT → isLoop event = true →
      ∀ other ∈ s.eventsAfter u, other.eventId = TIMED_EVENT → isLoop other = true →
        atoi other.value = atoi event.value →
          other.persistence ≠ event.persistence ∧ other.name ≠ event.name := by
  simp only [keepsLoops, List.all_eq_true, Bool.or_eq_true, Bool.not_eq_true', Bool.and_eq_true,
    Bool.and_eq_false_iff, beq_eq_false_iff_ne, bne_iff_ne]
  refine forall₂_congr fun event member => ?_
  constructor
  · intro apart own loop other inside theirs loops place
    have all := apart.resolve_left (by simp [own, loop]) other inside
    exact all.resolve_left (by simp [theirs, loops, place])
  · intro apart
    by_cases own : event.eventId = TIMED_EVENT ∧ isLoop event = true
    · refine .inr fun other inside => ?_
      by_cases theirs : (other.eventId = TIMED_EVENT ∧ isLoop other = true) ∧
          atoi other.value = atoi event.value
      · exact .inr (apart own.1 own.2 other inside theirs.1.1 theirs.1.2 theirs.2)
      · left
        grind
    · left
      grind

/-- A loop in use before an update is in use after it, unless it is withdrawn. -/
theorem loopUsed_after (succeeded : s.succeeds u = true) {persistence : Bool} {interval : Int}
    (used : LoopUsed s.events persistence interval)
    (kept : ¬ LoopUsed (s.withdrawnEvents u) persistence interval) :
    LoopUsed (s.eventsAfter u) persistence interval := by
  obtain ⟨event, member, own, loop, family, place⟩ := used
  rcases used_or_withdrawn succeeded member with ⟨other, inside, same⟩ | withdrawn
  · obtain ⟨theirs, name, value, persistent⟩ := isSameEventName_timed own same
    refine ⟨other, inside, theirs, ?_, persistent.trans family, by rw [value, place]⟩
    rw [isLoop_iff, name, ← isLoop_iff]
    exact loop
  · exact absurd ⟨event, withdrawn, own, loop, family, place⟩ kept

theorem nameUsed_after (succeeded : s.succeeds u = true) {name : String} {interval : Int}
    (used : NameUsed s.events name interval)
    (kept : ¬ NameUsed (s.withdrawnEvents u) name interval) :
    NameUsed (s.eventsAfter u) name interval := by
  obtain ⟨event, member, own, loop, named, place⟩ := used
  rcases used_or_withdrawn succeeded member with ⟨other, inside, same⟩ | withdrawn
  · obtain ⟨theirs, sameName, value, -⟩ := isSameEventName_timed own same
    refine ⟨other, inside, theirs, ?_, sameName.trans named, by rw [value, place]⟩
    rw [isLoop_iff, sameName, ← isLoop_iff]
    exact loop
  · exact absurd ⟨event, withdrawn, own, loop, named, place⟩ kept

/-- A new loop is never persistent. -/
theorem new_loop_not_persistent (succeeded : s.succeeds u = true) {event : PolicyEvent}
    (member : event ∈ u.events) (own : event.eventId = TIMED_EVENT) (loop : isLoop event = true) :
    event.persistence = false := by
  obtain ⟨taken, -⟩ := update_parts succeeded
  have takes := (addCollectEvents_timed taken).2 event member own
  rw [DeviceTimedCollect.takes, Bool.or_eq_true, beq_iff_eq] at takes
  rcases takes with order | takes
  · rw [not_isLoop_of_timed order] at loop
    cases loop
  · simp only [Bool.and_eq_true, Bool.not_eq_true'] at takes
    exact takes.1.2

theorem loopsInStep_update (succeeded : s.succeeds u = true) (inStep : s.LoopsInStep)
    (keeps : s.keepsLoops u = true) : (s.update u).LoopsInStep := by
  rw [keepsLoops_iff] at keeps
  obtain ⟨-, events, -⟩ := update_parts succeeded
  obtain ⟨new, origin, -⟩ := mem_eventsAfter succeeded
  constructor
  · intro persistence interval
    rw [update_loopSet succeeded, inStep.sets, events]
    constructor
    · rintro ⟨used | ⟨event, member, own, ⟨loop, family⟩, rfl, place⟩, kept⟩
      · exact loopUsed_after succeeded used kept
      · exact ⟨event, new event member, own, loop, family, place⟩
    · rintro ⟨event, member, own, loop, family, place⟩
      constructor
      · rcases origin event member with fresh | old
        · have plain := new_loop_not_persistent succeeded fresh own loop
          exact .inr ⟨event, fresh, own, ⟨loop, plain⟩, family.symm.trans plain, place⟩
        · exact .inl ⟨event, old, own, loop, family, place⟩
      · rintro ⟨gone, withdrawn, theirs, loops, same, there⟩
        exact (keeps gone withdrawn theirs loops event member own loop (place.trans there.symm)).1
          (family.trans same.symm)
  · intro name interval
    rw [update_marked succeeded, inStep.marks, events]
    constructor
    · rintro ⟨used | ⟨event, member, own, -, loop⟩, kept⟩
      · exact nameUsed_after succeeded used kept
      · exact ⟨event, new event member, own, loop⟩
    · rintro ⟨event, member, own, loop, named, place⟩
      constructor
      · rcases origin event member with fresh | old
        · exact .inr ⟨event, fresh, own, ⟨loop, new_loop_not_persistent succeeded fresh own loop⟩,
            loop, named, place⟩
        · exact .inl ⟨event, old, own, loop, named, place⟩
      · rintro ⟨gone, withdrawn, theirs, loops, same, there⟩
        exact (keeps gone withdrawn theirs loops event member own loop (place.trans there.symm)).2
          (named.trans same.symm)

/-- A withdrawn loop that shares its interval with such a loop stops it or takes its name. -/
theorem keepsLoops_of_covers (succeeded : s.succeeds u = true) (covers : (s.update u).CoversLoops) :
    s.keepsLoops u = true := by
  rw [keepsLoops_iff]
  obtain ⟨-, events, -⟩ := update_parts succeeded
  intro gone withdrawn theirs loops event member own loop place
  have runs : atoi gone.value ∈ (s.update u).deviceTimed.loopSet event.persistence := by
    rw [covers.sets, events]
    exact ⟨event, member, own, loop, rfl, place⟩
  constructor
  · intro same
    exact ((update_loopSet succeeded).mp runs).2 ⟨gone, withdrawn, theirs, loops, same.symm, rfl⟩
  · intro same
    obtain ⟨info, known, normal, awake⟩ := covers.infos _ _ runs
    rw [events] at normal awake
    have unmarked : ¬ marked (s.update u).deviceTimed.timeInfos event.name (atoi gone.value) = true :=
      fun marks => ((update_marked succeeded).mp marks).2
        ⟨gone, withdrawn, theirs, loops, same.symm, rfl⟩
    refine unmarked ?_
    rcases isLoop_iff.mp loop with name | name
    · rw [name, marked_normal, known]
      exact normal.mpr ⟨event, member, own, loop, name, place⟩
    · rw [name, marked_awake, known]
      exact awake.mpr ⟨event, member, own, loop, name, place⟩

/-- The state after `Init` and `OnStart`. -/
def started (env : TimedEnv) (preferencesUtil : PreferencesUtil) (saProfiles : List CollMgrSaProfile) :
    CollectState :=
  { init preferencesUtil saProfiles with
    deviceTimed := (init preferencesUtil saProfiles).deviceTimed.onStart env }

theorem loopsInStep_started (env : TimedEnv) (preferencesUtil : PreferencesUtil)
    (saProfiles : List CollMgrSaProfile)
    (valid : ∀ event ∈ saProfiles.flatMap CollMgrSaProfile.events, event.eventId = TIMED_EVENT →
      isLoop event = true → validInterval event = true) :
    (started env preferencesUtil saProfiles).LoopsInStep := by
  have inStep := loopsInStep_init preferencesUtil saProfiles valid
  have same := onStart_sameLoops env (init preferencesUtil saProfiles).deviceTimed
  constructor
  · intro persistence interval
    rw [started, same.loopSet]
    exact inStep.sets persistence interval
  · intro name interval
    rw [started, same.timeInfos]
    exact inStep.marks name interval

/-- All along a run of updates the loops are those in use exactly when no update withdraws a loop
that shares its interval with another one of its family or its name. -/
theorem loops_stay_covered_iff (env : TimedEnv) (preferencesUtil : PreferencesUtil)
    (saProfiles : List CollMgrSaProfile)
    (valid : ∀ event ∈ saProfiles.flatMap CollMgrSaProfile.events, event.eventId = TIMED_EVENT →
      isLoop event = true → validInterval event = true)
    (updates : List PolicyUpdate)
    (succeed : Runs.Guarded update (fun s u => s.succeeds u = true)
      (started env preferencesUtil saProfiles) updates) :
    (∀ before, before <+: updates →
        (Runs.run update (started env preferencesUtil saProfiles) before).CoversLoops) ↔
      Runs.Guarded update (fun s u => s.keepsLoops u = true) (started env preferencesUtil saProfiles)
        updates :=
  Runs.forall_prefix_iff_guarded_of LoopsInStep
    (fun _ _ succeeded keeps inStep => loopsInStep_update succeeded inStep keeps)
    (fun _ inStep => inStep.covers)
    (fun _ _ succeeded _ loses covers => loses (keepsLoops_of_covers succeeded covers))
    succeed (loopsInStep_started env preferencesUtil saProfiles valid)

section Sample

/-- Two abilities share an interval, one with a plain loop and one with a loop that wakes. -/
def sharedInterval : List CollMgrSaProfile :=
  [{ saId := 1401, startOnDemandEvents :=
      [{ eventId := TIMED_EVENT, name := LOOP_EVENT, value := "3600" }], stopOnDemandEvents := [] },
    { saId := 1402, startOnDemandEvents :=
      [{ eventId := TIMED_EVENT, name := AWAKE_LOOP_EVENT, value := "3600" }], stopOnDemandEvents := [] }]

def plainLoopWithdrawn : List PolicyUpdate :=
  [{ systemAbilityId := 1401, type := START_POLICY, events := [] }]

theorem sharedInterval_stays_covered :
    (∀ before, before <+: plainLoopWithdrawn →
        (Runs.run update (started {} ∅ sharedInterval) before).CoversLoops) ↔
      Runs.Guarded update (fun s u => s.keepsLoops u = true) (started {} ∅ sharedInterval)
        plainLoopWithdrawn :=
  loops_stay_covered_iff {} ∅ sharedInterval (by decide +kernel) plainLoopWithdrawn
    (by decide +kernel)

/-- The loop that wakes is silent when the plain one is gone. -/
theorem plain_loop_silences_awake_loop : ¬ ∀ (env : TimedEnv) (saProfiles : List CollMgrSaProfile)
    (updates : List PolicyUpdate),
    (∀ event ∈ saProfiles.flatMap CollMgrSaProfile.events, event.eventId = TIMED_EVENT →
        isLoop event = true → validInterval event = true) →
      Runs.Guarded update (fun s u => s.succeeds u = true) (started env ∅ saProfiles) updates →
        (Runs.run update (started env ∅ saProfiles) updates).CoversLoops := by
  intro always
  have covers := always {} sharedInterval plainLoopWithdrawn (by decide +kernel) (by decide +kernel)
  have runs := (covers.sets false 3600).mpr
    ⟨{ eventId := TIMED_EVENT, name := AWAKE_LOOP_EVENT, value := "3600" }, by decide +kernel,
      rfl, rfl, rfl, by decide +kernel⟩
  revert runs
  decide +kernel

end Sample

end CollectState

end Samgr
