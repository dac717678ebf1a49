import Samgr.Collect.StartTimers

/-! The delays of timed events. A distance in seconds goes to the timer of the base user as it is, or
through 32 bits to the collect handler, which takes milliseconds. -/
namespace Samgr

namespace DeviceTimedCollect

section Parts

variable {α β : Type*} {f g : α → List β}

theorem length_flatMap_le {items : List α} (fewer : ∀ item, (f item).length ≤ (g item).length) :
    (items.flatMap f).length ≤ (items.flatMap g).length := by
  induction items with
  | nil => exact Nat.le_refl _
  | cons item items hypothesis =>
      rw [List.flatMap_cons, List.flatMap_cons, List.length_append, List.length_append]
      exact Nat.add_le_add (fewer item) hypothesis

/-- Parts that are never longer give the same list only if they are the same. -/
theorem flatMap_eq_iff {items : List α} (fewer : ∀ item, (f item).length ≤ (g item).length) :
    items.flatMap f = items.flatMap g ↔ ∀ item ∈ items, f item = g item := by
  induction items with
  | nil => simp
  | cons item items hypothesis =>
      rw [List.forall_mem_cons, ← hypothesis, List.flatMap_cons, List.flatMap_cons]
      constructor
      · intro same
        have lengths := congrArg List.length same
        rw [List.length_append, List.length_append] at lengths
        have first := fewer item
        have rest : (items.flatMap f).length ≤ (items.flatMap g).length := length_flatMap_le fewer
        exact List.append_inj same (by omega)
      · rintro ⟨first, rest⟩
        rw [first, rest]

end Parts

def isTimedTask : TimedTask → Bool
  | .timed _ _ => true
  | .loop _ _ => false

/-- A waiting task with its delay in milliseconds. -/
def inMilliseconds (entry : TimedTask × Int) : TimedTask × Int := (entry.1, entry.2 * TO_MILLISECOND)

/-- The waiting timed events. -/
def timedWaiting (c : DeviceTimedCollect) : List (TimedTask × Int) :=
  (c.waiting.filter fun entry => isTimedTask entry.1).map inMilliseconds

def isTimedEvent (entry : PolicyEvent × TimedEnv) : Bool := entry.1.name == ORDER_TIMED_EVENT

def timedTask (event : PolicyEvent) : TimedTask := .timed event.persistence event.value

/-- The distance of an event from now. -/
def timeGap (entry : PolicyEvent × TimedEnv) : Int := calculateDelayTime entry.2 entry.1.value

/-- An accepted call has posted every timed event with its distance. -/
def SchedulesAll (c : DeviceTimedCollect) (events : List (PolicyEvent × TimedEnv)) : Prop :=
  (c.addCollectEvent events).2 = true →
    (c.addCollectEvent events).1.timedWaiting =
      ((events.filter isTimedEvent).reverse.map fun entry =>
        (timedTask entry.1, timeGap entry * TO_MILLISECOND)) ++ c.timedWaiting

/-- The start has posted every stored timed event that is still to come with its distance. -/
def ResumesAll (env : TimedEnv) (saProfiles : List CollMgrSaProfile) (p : PreferencesUtil) : Prop :=
  ∀ key triggerTime, p[key]? = some (.long triggerTime) → isTimedKey key = true →
    env.now < triggerTime →
      (TimedTask.timed true key, (triggerTime - env.now) * TO_MILLISECOND) ∈
        (startedOn env saProfiles p).timedWaiting

variable {c : DeviceTimedCollect} {events : List (PolicyEvent × TimedEnv)}

/-- What is posted for an event that is taken, as far as it is timed. -/
def timedPosted (entry : PolicyEvent × TimedEnv) : List (TimedTask × Int) :=
  if isTimedEvent entry ∧ 0 < timeGap entry then
    timerEntries entry.2 (timedTask entry.1) (timeGap entry)
  else []

def timedExpected (entry : PolicyEvent × TimedEnv) : List (TimedTask × Int) :=
  if isTimedEvent entry then [(timedTask entry.1, timeGap entry)] else []

theorem filter_timerEntries (env : TimedEnv) (task : TimedTask) (delay : Int) :
    (timerEntries env task delay).filter (fun entry => isTimedTask entry.1) =
      if isTimedTask task then timerEntries env task delay else [] := by
  rcases timerEntries_cases env task delay with none | ⟨time, one⟩
  · simp [none]
  · cases timed : isTimedTask task <;> simp [one, timed]

theorem filter_infoEntries_timed (env : TimedEnv) (info : Option TimeInfo) (persistence : Bool)
    (interval delay : Int) :
    (infoEntries env info (.loop persistence interval) delay).filter
      (fun entry => isTimedTask entry.1) = [] := by
  rcases infoEntries_cases env info (.loop persistence interval) delay with none | ⟨time, one⟩
  · simp [none]
  · simp [one, isTimedTask]

/-- One event that is taken. -/
theorem addEvent_timed {entry : PolicyEvent × TimedEnv} {added : DeviceTimedCollect}
    (taken : c.addEvent entry.2 entry.1 = some added) :
    (added.waiting.filter fun entry => isTimedTask entry.1) =
      timedPosted entry ++ c.waiting.filter fun entry => isTimedTask entry.1 := by
  rw [addEvent_eq] at taken
  split at taken
  · cases taken
    by_cases timed : entry.1.name = ORDER_TIMED_EVENT
    · have isTimed : isTimedEvent entry = true := by simp [isTimedEvent, timed]
      have gap : timeGap entry = entry.2.orderTime entry.1.value - entry.2.now := rfl
      rw [if_pos timed, withTimed, timedPosted, isTimed, gap]
      split
      · rename_i past
        rw [if_neg (fun both => by omega), List.nil_append]
      · rename_i ahead
        have counts : true = true ∧ 0 < entry.2.orderTime entry.1.value - entry.2.now :=
          ⟨rfl, by omega⟩
        rw [List.filter_append, filter_timerEntries, if_pos counts, timedTask, isTimedTask, if_pos rfl]
    · have isLoop : isTimedEvent entry = false := by simp [isTimedEvent, timed]
      rw [if_neg timed, withLoop, timedPosted, isLoop]
      split
      · simp
      · rw [List.filter_append]
        split
        · simp
        · simp [filter_infoEntries_timed]
  · cases taken

/-- A whole call: it is accepted if every event is taken, and then it has posted what is posted for
each of them. -/
theorem addCollectEvent_timed :
    ((c.addCollectEvent events).2 = true ↔ ∀ entry ∈ events, takes entry.1 = true) ∧
      ((c.addCollectEvent events).2 = true →
        ((c.addCollectEvent events).1.waiting.filter fun entry => isTimedTask entry.1) =
          events.reverse.flatMap timedPosted ++ c.waiting.filter fun entry => isTimedTask entry.1) := by
  rw [addCollectEvent]
  induction events generalizing c with
  | nil => simp
  | cons entry events hypothesis =>
      cases added : c.addEvent entry.2 entry.1 with
      | none =>
          have refused : takes entry.1 = false := by
            rw [addEvent_eq] at added
            by_contra taken
            rw [Bool.not_eq_false] at taken
            rw [if_pos taken] at added
            cases added
          rw [Fallible.run_rejected (by simp [added])]
          simp [added, refused]
      | some next =>
          have taken : takes entry.1 = true := by
            rw [addEvent_eq] at added
            by_contra refused
            rw [if_neg refused] at added
            cases added
          obtain ⟨all, posted⟩ := hypothesis (c := next)
          rw [Fallible.run_accepted (by simp [added])]
          simp only [added, List.forall_mem_cons, taken, true_and]
          refine ⟨all, fun accepted => ?_⟩
          rw [posted accepted, addEvent_timed added, List.reverse_cons, List.flatMap_append,
            List.flatMap_singleton, List.append_assoc]

/-- An event is posted as it should be if it is still to come and its delay can be posted. -/
theorem timedPosted_eq_iff {entry : PolicyEvent × TimedEnv} :
    (timedPosted entry).length ≤ (timedExpected entry).length ∧
      (timedPosted entry = timedExpected entry ↔
        (isTimedEvent entry = true → 0 < timeGap entry ∧
          timerHolds entry.2 (timedTask entry.1) (timeGap entry) = true)) := by
  rw [timedPosted, timedExpected]
  cases timed : isTimedEvent entry with
  | false => simp
  | true =>
      simp only [true_and, if_true, forall_const]
      by_cases ahead : 0 < timeGap entry
      · rw [if_pos ahead, ← mem_timerEntries ahead]
        rcases timerEntries_cases entry.2 (timedTask entry.1) (timeGap entry) with none | ⟨time, one⟩
        · simp [none]
        · rw [one]
          simp only [List.length_singleton, le_refl, List.cons.injEq, Prod.mk.injEq, true_and,
            and_true, ahead, List.mem_singleton]
          exact eq_comm
      · simp [ahead]

theorem inMilliseconds_injective : Function.Injective inMilliseconds := by
  rintro ⟨task, delay⟩ ⟨other, time⟩ same
  simp only [inMilliseconds, TO_MILLISECOND, Prod.mk.injEq] at same ⊢
  exact ⟨same.1, by omega⟩

/-- The timed events of a call are posted as they should be exactly if it is rejected, or each of
them is still to come with a delay that can be posted. -/
theorem schedulesAll_iff : SchedulesAll c events ↔
    ((∀ entry ∈ events, takes entry.1 = true) → ∀ entry ∈ events, isTimedEvent entry = true →
      0 < timeGap entry ∧ timerHolds entry.2 (timedTask entry.1) (timeGap entry) = true) := by
  obtain ⟨accepted, posted⟩ := @addCollectEvent_timed c events
  have expected : ((events.filter isTimedEvent).reverse.map fun entry =>
      (timedTask entry.1, timeGap entry * TO_MILLISECOND)) =
        (events.reverse.flatMap timedExpected).map inMilliseconds := by
    rw [← List.filter_reverse]
    induction events.reverse with
    | nil => rfl
    | cons entry events hypothesis =>
        rw [List.flatMap_cons, List.map_append, ← hypothesis, timedExpected]
        cases timed : isTimedEvent entry <;> simp [timed, inMilliseconds]
  rw [SchedulesAll, accepted]
  refine forall_congr' fun taken => ?_
  rw [timedWaiting, posted (accepted.mpr taken), List.map_append, expected, timedWaiting,
    List.append_cancel_right_eq, (List.map_injective_iff.mpr inMilliseconds_injective).eq_iff,
    flatMap_eq_iff fun entry => timedPosted_eq_iff.1]
  simp only [List.mem_reverse, timedPosted_eq_iff.2]

theorem resumesAll_iff {env : TimedEnv} {saProfiles : List CollMgrSaProfile} {p : PreferencesUtil} :
    ResumesAll env saProfiles p ↔
      ∀ key triggerTime, p[key]? = some (.long triggerTime) → isTimedKey key = true →
        env.now < triggerTime → timedFirst (liveEntries p.toList) key = some triggerTime ∧
          timerHolds env (.timed true key) (triggerTime - env.now) = true := by
  refine forall₂_congr fun key triggerTime => forall₃_congr fun stored timed ahead => ?_
  rw [← @startedOn_waits_iff env saProfiles p key triggerTime timed stored ahead, timedWaiting]
  change inMilliseconds (.timed true key, triggerTime - env.now) ∈ _ ↔ _
  rw [List.mem_map_of_injective inMilliseconds_injective]
  simp [isTimedTask]

/-- No distance is lost between an event and its timer exactly if every timed event of an accepted
call is still to come, with a delay that the timer takes or that fits the milliseconds of the collect
handler, and at the start only the first stored timed event is still to come, with such a delay. -/
theorem timed_events_keep_their_distance_iff {env : TimedEnv} {saProfiles : List CollMgrSaProfile}
    {p : PreferencesUtil} :
    (SchedulesAll c events ↔
      ((∀ entry ∈ events, takes entry.1 = true) → ∀ entry ∈ events, isTimedEvent entry = true →
        0 < timeGap entry ∧ timerHolds entry.2 (timedTask entry.1) (timeGap entry) = true)) ∧
    (ResumesAll env saProfiles p ↔
      ∀ key triggerTime, p[key]? = some (.long triggerTime) → isTimedKey key = true →
        env.now < triggerTime → timedFirst (liveEntries p.toList) key = some triggerTime ∧
          timerHolds env (.timed true key) (triggerTime - env.now) = true) :=
  ⟨schedulesAll_iff, resumesAll_iff⟩

section Sample

def appointment (value : String) : PolicyEvent :=
  { eventId := TIMED_EVENT, name := ORDER_TIMED_EVENT, value }

/-- Three appointments of a user with a manager of its own: 5 seconds ago, in 2147484 seconds, which
are too many milliseconds, and in 4294967301 seconds. -/
def appointments : List (PolicyEvent × TimedEnv) :=
  let env : TimedEnv :=
    { now := 1000
      isMultiUser := true
      orderTime := fun timeString =>
        if timeString = "2017-9-1-16:59:10" then 995
        else if timeString = "2042-9-1-16:59:10" then 2148484
        else 4294968301 }
  [(appointment "2017-9-1-16:59:10", env), (appointment "2042-9-1-16:59:10", env),
    (appointment "2153-9-1-16:59:10", env)]

/-- All three are accepted. The first two are dropped, and the third is due in 5 seconds. -/
theorem appointments_lose_their_distance :
    (addCollectEvent {} appointments).2 = true ∧
      (addCollectEvent {} appointments).1.waiting = [(.timed false "2153-9-1-16:59:10", 5)] ∧
      ¬ SchedulesAll {} appointments := by
  have accepted : (addCollectEvent {} appointments).2 = true := by decide +kernel
  have waiting : (addCollectEvent {} appointments).1.waiting =
      [(.timed false "2153-9-1-16:59:10", 5)] := by decide +kernel
  refine ⟨accepted, waiting, fun all => ?_⟩
  have lengths := congrArg List.length (all accepted)
  rw [timedWaiting, waiting] at lengths
  revert lengths
  decide +kernel

end Sample

end DeviceTimedCollect

end Samgr
