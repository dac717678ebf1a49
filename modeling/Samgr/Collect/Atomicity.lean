import Samgr.Collect.State

/-! A policy update that fails. Each plugin keeps what it has taken before the failure, so the update
leaves the collectors alone exactly when what is taken up to there was there already. -/
namespace Samgr

namespace DeviceTimedCollect

/-- All that is known of an interval stays known. -/
def Known (info other : Option TimeInfo) : Prop :=
  ∀ before, info = some before →
    ∃ after, other = some after ∧ (before.normal → after.normal) ∧ (before.awake → after.awake)

theorem Known.trans {info other third : Option TimeInfo} (first : Known info other)
    (second : Known other third) : Known info third := by
  intro before found
  obtain ⟨middle, there, normal, awake⟩ := first before found
  obtain ⟨after, last, normally, awakely⟩ := second middle there
  exact ⟨after, last, fun holds => normally (normal holds), fun holds => awakely (awake holds)⟩

theorem Known.antisymm {info other : Option TimeInfo} (up : Known info other)
    (down : Known other info) : other = info := by
  cases info with
  | none =>
      cases other with
      | none => rfl
      | some after =>
          obtain ⟨before, found, -⟩ := down after rfl
          cases found
  | some before =>
      obtain ⟨after, rfl, normal, awake⟩ := up before rfl
      obtain ⟨again, found, normally, awakely⟩ := down after rfl
      cases found
      obtain ⟨n, a⟩ := before
      obtain ⟨m, b⟩ := after
      simp only at normal awake normally awakely
      rw [Bool.eq_iff_iff.mpr ⟨normal, normally⟩, Bool.eq_iff_iff.mpr ⟨awake, awakely⟩]

/-- The two collectors watch the same: they differ in what they report at most. -/
structure Alike (c d : DeviceTimedCollect) : Prop where
  intervals : ∀ interval : Int,
    interval ∈ d.nonPersitenceLoopEventSet ↔ interval ∈ c.nonPersitenceLoopEventSet
  tasks : ∀ interval : Int, interval ∈ d.nonPersitenceLoopTasks ↔ interval ∈ c.nonPersitenceLoopTasks
  infos : ∀ interval : Int, d.timeInfos[interval]? = c.timeInfos[interval]?
  stored : ∀ key : String, d.preferencesUtil[key]? = c.preferencesUtil[key]?
  waiting : d.waiting = c.waiting

/-- The second collector watches what the first does, and maybe more: what it has stored besides
is the time of a timed event. -/
structure Within (orderTime : String → Int) (c d : DeviceTimedCollect) : Prop where
  intervals : ∀ interval : Int,
    interval ∈ c.nonPersitenceLoopEventSet → interval ∈ d.nonPersitenceLoopEventSet
  tasks : ∀ interval : Int, interval ∈ c.nonPersitenceLoopTasks → interval ∈ d.nonPersitenceLoopTasks
  infos : ∀ interval : Int, Known c.timeInfos[interval]? d.timeInfos[interval]?
  stored : ∀ key : String, d.preferencesUtil[key]? = c.preferencesUtil[key]? ∨
    d.preferencesUtil[key]? = some (.long (orderTime key))
  waiting : c.waiting <:+ d.waiting

section Growing

variable {env : TimedEnv} {event : PolicyEvent} {orderTime : String → Int}
  {c d e : DeviceTimedCollect}

theorem Within.refl (orderTime : String → Int) (c : DeviceTimedCollect) : Within orderTime c c :=
  ⟨fun _ => id, fun _ => id, fun _ before found => ⟨before, found, id, id⟩, fun _ => .inl rfl,
    List.suffix_rfl⟩

theorem Within.trans (first : Within orderTime c d) (second : Within orderTime d e) :
    Within orderTime c e where
  intervals interval member := second.intervals interval (first.intervals interval member)
  tasks interval member := second.tasks interval (first.tasks interval member)
  infos interval := (first.infos interval).trans (second.infos interval)
  stored key := by
    rcases second.stored key with same | order
    · rw [same]
      exact first.stored key
    · exact .inr order
  waiting := first.waiting.trans second.waiting

theorem alike_iff_within (orderTime : String → Int) : c.Alike d ↔ Within orderTime c d ∧ Within orderTime d c := by
  constructor
  · rintro ⟨intervals, tasks, infos, stored, waiting⟩
    have known : ∀ interval : Int, Known c.timeInfos[interval]? d.timeInfos[interval]? := by
      intro interval before found
      exact ⟨before, by rw [infos, found], id, id⟩
    constructor
    · exact ⟨fun i => (intervals i).mpr, fun i => (tasks i).mpr, known,
        fun key => .inl (stored key), waiting ▸ List.suffix_rfl⟩
    · refine ⟨fun i => (intervals i).mp, fun i => (tasks i).mp, ?_,
        fun key => .inl (stored key).symm, waiting ▸ List.suffix_rfl⟩
      intro interval before found
      exact ⟨before, by rw [← infos, found], id, id⟩
  · rintro ⟨up, down⟩
    refine ⟨fun i => ⟨down.intervals i, up.intervals i⟩, fun i => ⟨down.tasks i, up.tasks i⟩,
      fun i => (up.infos i).antisymm (down.infos i), ?_, ?_⟩
    · intro key
      -- where the stores differ, each holds the time of the event
      rcases up.stored key with same | order
      · exact same
      · rcases down.stored key with same | again
        · exact same.symm
        · rw [order, again]
    · exact (up.waiting.eq_of_length_le down.waiting.length_le).symm

/-- The events that the collector has nothing to do for, though it takes them: a timed event that is
over or is not posted, and a loop that runs already. -/
def idleEvent (env : TimedEnv) (c : DeviceTimedCollect) (event : PolicyEvent) : Bool :=
  if event.name = ORDER_TIMED_EVENT then
    env.orderTime event.value - env.now ≤ 0 ||
      ((timerEntries env (.timed event.persistence event.value)
          (env.orderTime event.value - env.now)).isEmpty &&
        (!event.persistence ||
          c.preferencesUtil[event.value]? == some (.long (env.orderTime event.value))))
  else
    c.nonPersitenceLoopEventSet.contains (atoi event.value) &&
      c.timeInfos[atoi event.value]? == some (c.infoWith event)

theorem withTimed_within : Within env.orderTime c (withTimed env event c) := by
  rw [withTimed]
  split
  · exact Within.refl env.orderTime c
  · refine ⟨fun _ => id, fun _ => id, (Within.refl env.orderTime c).infos, ?_,
      List.suffix_append _ _⟩
    intro key
    cases event.persistence
    · exact .inl rfl
    · simp only [if_true, PreferencesUtil.saveLong, Std.TreeMap.getElem?_insert,
        Std.compare_eq_iff_eq]
      grind

theorem withLoop_within : Within orderTime c (withLoop env event c) := by
  have infos : ∀ interval : Int, Known c.timeInfos[interval]?
      (c.timeInfos.insert (atoi event.value) (c.infoWith event))[interval]? := by
    intro interval before found
    rw [Std.TreeMap.getElem?_insert]
    split
    · rename_i here
      rw [Std.compare_eq_iff_eq] at here
      subst here
      exact ⟨_, rfl, by simp +contextual [infoWith, found], by simp +contextual [infoWith, found]⟩
    · exact ⟨before, found, id, id⟩
  rw [withLoop]
  split
  · exact ⟨fun _ => id, fun _ => id, infos, fun _ => .inl rfl, List.suffix_rfl⟩
  · refine ⟨?_, ?_, infos, fun _ => .inl rfl, List.suffix_append _ _⟩
    · intro interval member
      exact Std.TreeSet.mem_insert.mpr (.inr member)
    · intro interval member
      simp only
      split
      · exact member
      · exact Std.TreeSet.mem_insert.mpr (.inr member)

theorem Alike.infoWith (same : c.Alike d) : d.infoWith event = c.infoWith event := by
  simp only [DeviceTimedCollect.infoWith, same.infos]

theorem Alike.withTimed (same : c.Alike d) : (withTimed env event c).Alike (withTimed env event d) := by
  simp only [DeviceTimedCollect.withTimed]
  split
  · exact same
  · refine ⟨same.intervals, same.tasks, same.infos, ?_, by simp only [same.waiting]⟩
    intro key
    cases event.persistence
    · exact same.stored key
    · simp only [if_true, PreferencesUtil.saveLong, Std.TreeMap.getElem?_insert, same.stored key]

theorem Alike.withLoop (same : c.Alike d) : (withLoop env event c).Alike (withLoop env event d) := by
  have infos : ∀ interval : Int,
      (d.timeInfos.insert (atoi event.value) (d.infoWith event))[interval]? =
        (c.timeInfos.insert (atoi event.value) (c.infoWith event))[interval]? := by
    intro interval
    simp only [Std.TreeMap.getElem?_insert, same.infos interval, same.infoWith]
  simp only [DeviceTimedCollect.withLoop, same.intervals, same.tasks, same.infoWith]
  split
  · exact ⟨same.intervals, same.tasks, by simpa only [same.infoWith] using infos, same.stored,
      same.waiting⟩
  · refine ⟨?_, ?_, by simpa only [same.infoWith] using infos, same.stored,
      by simp only [same.waiting]⟩
    · intro interval
      simp only [Std.TreeSet.mem_insert, same.intervals]
    · intro interval
      simp only
      split
      · exact same.tasks interval
      · simp only [Std.TreeSet.mem_insert, same.tasks]

theorem withTimed_inert_iff (timed : event.name = ORDER_TIMED_EVENT) :
    Within env.orderTime (withTimed env event c) c ↔ c.idleEvent env event = true := by
  rw [withTimed, idleEvent, if_pos timed]
  by_cases past : env.orderTime event.value - env.now ≤ 0
  · simp [past, Within.refl]
  · simp only [past, if_false, decide_false, Bool.false_or, Bool.and_eq_true, List.isEmpty_iff,
      Bool.or_eq_true, Bool.not_eq_true', beq_iff_eq]
    constructor
    · intro inert
      have posted := inert.waiting.length_le
      rw [List.length_append] at posted
      refine ⟨List.length_eq_zero_iff.mp (by omega), ?_⟩
      cases persistence : event.persistence
      · exact .inl rfl
      · have stored := inert.stored event.value
        simp only [persistence, if_true, PreferencesUtil.saveLong,
          Std.TreeMap.getElem?_insert_self] at stored
        exact .inr (stored.elim id id)
    · rintro ⟨none, stored⟩
      refine ⟨fun _ => id, fun _ => id, (Within.refl env.orderTime c).infos, ?_,
        by rw [none]; exact List.suffix_rfl⟩
      intro key
      rcases stored with persistence | stored
      · exact .inl (by simp [persistence])
      · cases event.persistence
        · exact .inl rfl
        · simp only [if_true, PreferencesUtil.saveLong, Std.TreeMap.getElem?_insert,
            Std.compare_eq_iff_eq]
          grind

theorem withLoop_inert_iff (orderTime : String → Int) (loop : event.name ≠ ORDER_TIMED_EVENT) :
    Within orderTime (withLoop env event c) c ↔ c.idleEvent env event = true := by
  rw [idleEvent, if_neg loop, Bool.and_eq_true, Std.TreeSet.contains_iff_mem, beq_iff_eq]
  constructor
  · intro inert
    have here : atoi event.value ∈ c.nonPersitenceLoopEventSet := by
      by_contra new
      refine new (inert.intervals _ ?_)
      simp [withLoop, new]
    refine ⟨here, ?_⟩
    have down := inert.infos (atoi event.value)
    have grown : Within orderTime c (withLoop env event c) := withLoop_within
    have up := grown.infos (atoi event.value)
    rw [up.antisymm down |>.symm]
    simp [withLoop, here]
  · rintro ⟨here, info⟩
    rw [withLoop]
    simp only [here, if_true]
    refine ⟨fun _ => id, fun _ => id, ?_, fun _ => .inl rfl, List.suffix_rfl⟩
    intro interval before found
    refine ⟨before, ?_, id, id⟩
    simp only [Std.TreeMap.getElem?_insert, Std.compare_eq_iff_eq] at found
    grind

end Growing

end DeviceTimedCollect

namespace CollectState

/-- The two states hold the same policies, in memory and in the store, and watch the same. -/
structure Alike (s t : CollectState) : Prop where
  onDemandSaProfiles : t.onDemandSaProfiles = s.onDemandSaProfiles
  pendingParams : ∀ name, name ∈ t.deviceParam.pendingParams ↔ name ∈ s.deviceParam.pendingParams
  params : ∀ name, name ∈ t.deviceParam.params ↔ name ∈ s.deviceParam.params
  commonEventNames : ∀ name, name ∈ t.commonEventNames ↔ name ∈ s.commonEventNames
  deviceTimed : s.deviceTimed.Alike t.deviceTimed

theorem Alike.refl (s : CollectState) : s.Alike s :=
  ⟨rfl, fun _ => .rfl, fun _ => .rfl, fun _ => .rfl,
    ⟨fun _ => .rfl, fun _ => .rfl, fun _ => rfl, fun _ => rfl, rfl⟩⟩

/-- The second state holds the same policies and watches more at most. -/
structure Within (orderTime : String → Int) (s t : CollectState) : Prop where
  onDemandSaProfiles : t.onDemandSaProfiles = s.onDemandSaProfiles
  pendingParams : t.deviceParam.pendingParams = s.deviceParam.pendingParams
  params : ∀ name, name ∈ s.deviceParam.params → name ∈ t.deviceParam.params
  commonEventNames : ∀ name, name ∈ s.commonEventNames → name ∈ t.commonEventNames
  deviceTimed : s.deviceTimed.Within orderTime t.deviceTimed

/-- What `addStep` takes. -/
def acceptsStep (env : CollectEnv) (s : CollectState) : CollectStep → Bool
  | .param event answer => s.deviceParam.params.contains event.name || answer.watchParameter
  | .commonEvents events =>
      env.subscribeCommonEvent || events.all fun event => s.commonEventNames.contains event.name
  | .timed event _ => DeviceTimedCollect.takes event

/-- What `addStep` has nothing to do for. -/
def idleStep (env : CollectEnv) (s : CollectState) : CollectStep → Bool
  | .param event _ => s.deviceParam.params.contains event.name
  | .commonEvents events => events.all fun event => s.commonEventNames.contains event.name
  | .timed event answer => s.deviceTimed.idleEvent (env.timed answer) event

/-- The switch collector takes all of its events: each is a switch, and it listens already or
the subscription for the first one succeeds. -/
def takesSwitches (env : CollectEnv) (s : CollectState) (events : List PolicyEvent) : Bool :=
  let switches := env.ofPlugin events SETTING_SWITCH
  switches.all (fun entry => isSwitchEvent entry.1) &&
    (s.listensSwitch || switches.head?.all fun entry => entry.2.subscribeSwitch)

/-- A failing update has done nothing when it fails: no plugin was asked, or all that the plugins
took up to the first failure was idle. -/
def failsIdle (env : CollectEnv) (s : CollectState) (systemAbilityId : Int)
    (events : List PolicyEvent) : Bool :=
  (s.findProfile systemAbilityId).isNone || !(events.all fun event => isExistInPluginMap event.eventId) ||
    !(s.takesSwitches env events) ||
    ((collectSteps env events).takeWhile (s.acceptsStep env)).all (s.idleStep env)

variable {env : CollectEnv} {s t u : CollectState}

theorem addStep_accepted (step : CollectStep) :
    (addStep env s step).2 = s.acceptsStep env step := by
  cases step with
  | param event answer =>
      rw [Bool.eq_iff_iff]
      simp only [addStep, DeviceParamCollect.addEvent, acceptsStep]
      split
      · simp [*]
      · split <;> simp [*]
  | commonEvents events =>
      rw [Bool.eq_iff_iff]
      simp [addStep, acceptsStep, CommonEventCollect.addCollectEvent_accepted]
  | timed event answer =>
      simp only [addStep, acceptsStep, DeviceTimedCollect.addEvent_eq]
      split <;> simp_all

theorem addStep_timed {event : PolicyEvent} {answer : EventAnswer}
    (takes : DeviceTimedCollect.takes event = true) :
    (addStep env s (.timed event answer)).1 =
      { s with
        deviceTimed :=
          if event.name = ORDER_TIMED_EVENT then
            s.deviceTimed.withTimed (env.timed answer) event
          else s.deviceTimed.withLoop (env.timed answer) event } := by
  simp [addStep, DeviceTimedCollect.addEvent_eq, takes]

theorem Within.refl (orderTime : String → Int) (s : CollectState) : Within orderTime s s :=
  ⟨rfl, rfl, fun _ => id, fun _ => id, .refl _ _⟩

theorem Within.trans {orderTime : String → Int} (first : Within orderTime s t)
    (second : Within orderTime t u) : Within orderTime s u where
  onDemandSaProfiles := second.onDemandSaProfiles.trans first.onDemandSaProfiles
  pendingParams := second.pendingParams.trans first.pendingParams
  params name member := second.params name (first.params name member)
  commonEventNames name member := second.commonEventNames name (first.commonEventNames name member)
  deviceTimed := first.deviceTimed.trans second.deviceTimed

theorem addStep_within (env : CollectEnv) (s : CollectState) (step : CollectStep) : Within env.orderTime s (addStep env s step).1 := by
  cases step with
  | param event answer =>
      refine ⟨rfl, ?_, ?_, fun _ => id, .refl _ _⟩
      · simp only [addStep, DeviceParamCollect.addEvent]
        split
        · rfl
        · split <;> rfl
      · intro name member
        simp only [addStep, DeviceParamCollect.addEvent]
        split
        · exact member
        · split
          · exact Std.TreeSet.mem_insert.mpr (.inr member)
          · exact member
  | commonEvents events =>
      refine ⟨rfl, rfl, fun _ => id, ?_, .refl _ _⟩
      intro name member
      exact CommonEventCollect.mem_addCollectEvent.mpr (.inl member)
  | timed event answer =>
      cases takes : DeviceTimedCollect.takes event
      · simpa [addStep, DeviceTimedCollect.addEvent_eq, takes] using Within.refl env.orderTime s
      · rw [addStep_timed takes]
        refine ⟨rfl, rfl, fun _ => id, fun _ => id, ?_⟩
        simp only
        split
        · have grown : s.deviceTimed.Within (env.timed answer).orderTime
              (s.deviceTimed.withTimed (env.timed answer) event) :=
            DeviceTimedCollect.withTimed_within
          exact grown
        · exact DeviceTimedCollect.withLoop_within

/-- What is rejected changes nothing, and what is taken changes nothing exactly when it is idle. -/
theorem addStep_inert_iff (step : CollectStep) (accepted : s.acceptsStep env step = true) :
    Within env.orderTime (addStep env s step).1 s ↔ s.idleStep env step = true := by
  cases step with
  | param event answer =>
      simp only [acceptsStep, idleStep, Bool.or_eq_true, Std.TreeSet.contains_iff_mem] at accepted ⊢
      constructor
      · intro inert
        by_contra new
        refine new (inert.params event.name ?_)
        simp [addStep, DeviceParamCollect.addEvent, new, accepted.resolve_left new]
      · intro watched
        simpa [addStep, DeviceParamCollect.addEvent, watched] using Within.refl env.orderTime s
  | commonEvents events =>
      rw [← addStep_accepted] at accepted
      simp only [idleStep, List.all_eq_true, Std.TreeSet.contains_iff_mem]
      constructor
      · intro inert event member
        refine inert.commonEventNames event.name ?_
        exact CommonEventCollect.mem_addCollectEvent.mpr (.inr ⟨accepted, event, member, rfl⟩)
      · intro watched
        refine ⟨rfl, rfl, fun _ => id, ?_, .refl _ _⟩
        intro name member
        rcases CommonEventCollect.mem_addCollectEvent.mp member with before | ⟨-, event, inside, rfl⟩
        · exact before
        · exact watched event inside
  | timed event answer =>
      rw [acceptsStep] at accepted
      rw [addStep_timed accepted, idleStep]
      by_cases timed : event.name = ORDER_TIMED_EVENT
      · rw [← DeviceTimedCollect.withTimed_inert_iff timed]
        simp only [timed, if_true]
        exact ⟨fun inert => inert.deviceTimed, fun inert => ⟨rfl, rfl, fun _ => id, fun _ => id, inert⟩⟩
      · rw [← DeviceTimedCollect.withLoop_inert_iff env.orderTime timed]
        simp only [timed, if_false]
        exact ⟨fun inert => inert.deviceTimed, fun inert => ⟨rfl, rfl, fun _ => id, fun _ => id, inert⟩⟩

theorem addStep_rejected (step : CollectStep) (rejected : (addStep env s step).2 = false) :
    Within env.orderTime (addStep env s step).1 s := by
  cases step with
  | param event answer =>
      simp only [addStep, DeviceParamCollect.addEvent] at rejected ⊢
      split at rejected
      · cases rejected
      · split at rejected
        · cases rejected
        · simp only [*, if_false]
          exact Within.refl env.orderTime s
  | commonEvents events =>
      refine ⟨rfl, rfl, fun _ => id, ?_, .refl _ _⟩
      intro name member
      rcases CommonEventCollect.mem_addCollectEvent.mp member with before | ⟨taken, -⟩
      · exact before
      · exact absurd (rejected.symm.trans taken) Bool.false_ne_true
  | timed event answer =>
      rw [addStep_accepted, acceptsStep] at rejected
      simpa [addStep, DeviceTimedCollect.addEvent_eq, rejected] using Within.refl env.orderTime s

theorem alike_iff_within (orderTime : String → Int) (pending :
    t.deviceParam.pendingParams = s.deviceParam.pendingParams) :
    s.Alike t ↔ Within orderTime s t ∧ Within orderTime t s := by
  constructor
  · rintro ⟨profiles, -, params, names, timed⟩
    have both := (DeviceTimedCollect.alike_iff_within orderTime).mp timed
    exact ⟨⟨profiles, pending, fun name => (params name).mpr, fun name => (names name).mpr, both.1⟩,
      ⟨profiles.symm, pending.symm, fun name => (params name).mp, fun name => (names name).mp, both.2⟩⟩
  · rintro ⟨up, down⟩
    refine ⟨up.onDemandSaProfiles, fun name => by rw [pending], ?_, ?_,
      (DeviceTimedCollect.alike_iff_within orderTime).mpr ⟨up.deviceTimed, down.deviceTimed⟩⟩
    · exact fun name => ⟨down.params name, up.params name⟩
    · exact fun name => ⟨down.commonEventNames name, up.commonEventNames name⟩

theorem Alike.acceptsStep (same : s.Alike t) (step : CollectStep) :
    s.acceptsStep env step = t.acceptsStep env step := by
  cases step with
  | param event answer =>
      rw [Bool.eq_iff_iff]
      simp [CollectState.acceptsStep, same.params event.name]
  | commonEvents events =>
      rw [Bool.eq_iff_iff]
      simp [CollectState.acceptsStep, same.commonEventNames]
  | timed event answer => rfl

theorem Alike.addStep (same : s.Alike t) (step : CollectStep) :
    (addStep env s step).1.Alike (addStep env t step).1 := by
  cases step with
  | param event answer =>
      refine ⟨same.onDemandSaProfiles, ?_, ?_, same.commonEventNames, same.deviceTimed⟩
      all_goals
        intro name
        simp only [CollectState.addStep, DeviceParamCollect.addEvent, same.params]
        split
        · simp only [same.pendingParams, same.params]
        · split
          · simp only [same.pendingParams, same.params, Std.TreeSet.mem_insert]
          · simp only [same.pendingParams, same.params]
  | commonEvents events =>
      refine ⟨same.onDemandSaProfiles, same.pendingParams, same.params, ?_, same.deviceTimed⟩
      intro name
      have accepted : (CommonEventCollect.addCollectEvent env.subscribeCommonEvent t.commonEventNames
          events).2 = (CommonEventCollect.addCollectEvent env.subscribeCommonEvent s.commonEventNames
          events).2 := by
        rw [Bool.eq_iff_iff]
        simp only [CommonEventCollect.addCollectEvent_accepted, same.commonEventNames]
      simp only [CollectState.addStep, CommonEventCollect.mem_addCollectEvent, accepted,
        same.commonEventNames]
  | timed event answer =>
      cases takes : DeviceTimedCollect.takes event
      · simpa [CollectState.addStep, DeviceTimedCollect.addEvent_eq, takes] using same
      · rw [addStep_timed takes, addStep_timed takes]
        refine ⟨same.onDemandSaProfiles, same.pendingParams, same.params, same.commonEventNames, ?_⟩
        simp only
        split
        · exact same.deviceTimed.withTimed
        · exact same.deviceTimed.withLoop

/-- The plugins only add to what they watch. -/
theorem addStep_grows (env : CollectEnv) : Fallible.Grows (Within env.orderTime) (addStep env) where
  refl := Within.refl env.orderTime
  trans := Within.trans
  grow := addStep_within env
  reject := addStep_rejected _
  alike up down step := by
    rw [addStep_accepted, addStep_accepted]
    exact ((alike_iff_within env.orderTime up.pendingParams).mpr ⟨up, down⟩).acceptsStep step
  same up down step := by
    have same := (alike_iff_within env.orderTime up.pendingParams).mpr ⟨up, down⟩
    have pending : (addStep env _ step).1.deviceParam.pendingParams = _ :=
      ((addStep_within env _ step).pendingParams.trans up.pendingParams).trans
        (addStep_within env _ step).pendingParams.symm
    exact ((alike_iff_within env.orderTime pending).mp (same.addStep step)).1

/-- Whether a step is taken, and whether it is idle, has nothing to do with the switches. -/
theorem collected_alike_iff (events : List PolicyEvent) (listens : Bool) :
    s.Alike (Fallible.run (addStep env) { s with listensSwitch := listens }
        (collectSteps env events)).1 ↔
      ((collectSteps env events).takeWhile (s.acceptsStep env)).all (s.idleStep env) = true := by
  have grown := (addStep_grows env).run { s with listensSwitch := listens } (collectSteps env events)
  have moved : s.Alike (Fallible.run (addStep env) { s with listensSwitch := listens }
      (collectSteps env events)).1 ↔
      Within env.orderTime (Fallible.run (addStep env) { s with listensSwitch := listens }
        (collectSteps env events)).1 { s with listensSwitch := listens } := by
    rw [alike_iff_within (s := s) env.orderTime grown.pendingParams]
    constructor
    · rintro ⟨-, down⟩
      exact ⟨down.1, down.2, down.3, down.4, down.5⟩
    · intro down
      exact ⟨⟨grown.1, grown.2, grown.3, grown.4, grown.5⟩, ⟨down.1, down.2, down.3, down.4, down.5⟩⟩
  rw [moved, (addStep_grows env).unchanged_iff, List.all_eq_true, Fallible.accepted]
  simp only [addStep_accepted]
  refine forall₂_congr fun step member => ?_
  exact addStep_inert_iff (s := { s with listensSwitch := listens }) step
    (List.mem_takeWhile_imp member)

theorem addCollectEvents_alike_iff (events : List PolicyEvent) :
    s.Alike (s.addCollectEvents env events).1 ↔
      ((events.all fun event => isExistInPluginMap event.eventId) = false ∨
        s.takesSwitches env events = false ∨
        ((collectSteps env events).takeWhile (s.acceptsStep env)).all (s.idleStep env) = true) := by
  have itself : ∀ listens, s.Alike { s with listensSwitch := listens } := fun listens =>
    have same := Alike.refl s
    ⟨same.1, same.2, same.3, same.4, same.5⟩
  obtain ⟨⟨listens, same⟩, switched⟩ := addSwitchEvents_eq s (env.ofPlugin events SETTING_SWITCH)
  change _ = s.takesSwitches env events at switched
  rw [addCollectEvents]
  split
  · rename_i supported
    simp only [switched]
    cases taken : s.takesSwitches env events
    · simp only [Bool.false_eq_true, if_false, true_or, or_true, iff_true, same]
      exact itself listens
    · simp only [if_true, same, supported, Bool.true_eq_false, false_or]
      exact collected_alike_iff events listens
  · rename_i unsupported
    simp only [unsupported, true_or, iff_true]
    exact Alike.refl s

/-- An update that fails leaves the policies and what the plugins watch alone exactly when it fails
before a plugin has done anything. -/
theorem failed_update_changes_nothing_iff (env : CollectEnv) (s : CollectState)
    (systemAbilityId type : Int) (events : List PolicyEvent)
    (failed : (s.updateOnDemandEvents env systemAbilityId type events).2 ≠ .errOk) :
    s.Alike (s.updateOnDemandEvents env systemAbilityId type events).1 ↔
      s.failsIdle env systemAbilityId events = true := by
  rw [updateOnDemandEvents_failed failed, failsIdle, Bool.or_assoc, Bool.or_assoc]
  cases profile : s.findProfile systemAbilityId with
  | none =>
      simp only [Option.isNone_none, if_true, Bool.true_or, iff_true]
      exact Alike.refl s
  | some found =>
      simp only [Option.isNone_some, Bool.false_eq_true, if_false, Bool.false_or, Bool.or_eq_true,
        Bool.not_eq_true']
      exact addCollectEvents_alike_iff events

section Sample

/-- The second parameter of the list cannot be watched. -/
def secondRejected : CollectEnv where
  answer number := if number = 1 then { watchParameter := false } else {}

def paramEvents : List PolicyEvent :=
  [{ eventId := PARAM, name := "first.param", value := "true" },
    { eventId := PARAM, name := "second.param", value := "true" }]

/-- One ability, with a stop policy only. -/
def oneAbility : List CollMgrSaProfile :=
  [{ saId := 1401, startOnDemandEvents := []
     stopOnDemandEvents := [{ eventId := PARAM, name := "bootevent.boot.completed", value := "true" }] }]

def onePlainAbility : CollectState := init ∅ oneAbility

theorem failed_update_of_plain_ability :
    onePlainAbility.Alike
        (onePlainAbility.updateOnDemandEvents secondRejected 1401 START_POLICY paramEvents).1 ↔
      onePlainAbility.failsIdle secondRejected 1401 paramEvents = true :=
  failed_update_changes_nothing_iff secondRejected onePlainAbility 1401 START_POLICY paramEvents
    (by decide +kernel)

/-- The first parameter stays watched though no policy names it. -/
theorem failed_update_leaves_watch : ¬ ∀ (saProfiles : List CollMgrSaProfile) (env : CollectEnv)
    (systemAbilityId type : Int) (events : List PolicyEvent),
    ((init ∅ saProfiles).updateOnDemandEvents env systemAbilityId type events).2 ≠ .errOk →
      (init ∅ saProfiles).Alike
        ((init ∅ saProfiles).updateOnDemandEvents env systemAbilityId type events).1 := by
  intro always
  have same := always oneAbility secondRejected 1401 START_POLICY paramEvents (by decide +kernel)
  have watched := same.params "first.param"
  revert watched
  decide +kernel

end Sample

end CollectState

end Samgr
