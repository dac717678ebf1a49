import Samgr.Collect.PersistedControls

/-! The controls that a reported event leads to: what the current policies ask for, and what the
store adds, which keeps every policy text it has ever been given. -/
namespace Samgr

section Stable

variable {α : Type*} {r before : α → α → Prop} [DecidableRel r] [Std.Total r] [IsTrans α r]

theorem orderedInsert_stable {item : α} {items : List α} (ahead : ∀ other ∈ items, before item other)
    (ordered : items.Pairwise fun a b => r a b ∧ (r b a → before a b)) :
    (items.orderedInsert r item).Pairwise fun a b => r a b ∧ (r b a → before a b) := by
  induction items with
  | nil => exact List.pairwise_singleton _ _
  | cons first rest hypothesis =>
      rw [List.pairwise_cons] at ordered
      rw [List.orderedInsert_cons]
      split
      · rename_i here
        refine List.pairwise_cons.mpr ⟨?_, List.pairwise_cons.mpr ordered⟩
        intro other member
        refine ⟨?_, fun _ => ahead other member⟩
        rcases List.mem_cons.mp member with rfl | member
        · exact here
        · exact IsTrans.trans _ _ _ here (ordered.1 other member).1
      · rename_i later
        refine List.pairwise_cons.mpr ⟨?_, hypothesis (fun other member =>
          ahead other (List.mem_cons_of_mem _ member)) ordered.2⟩
        intro other member
        rcases (List.mem_orderedInsert r).mp member with rfl | member
        · exact ⟨(Std.Total.total first other).resolve_right later, fun back => absurd back later⟩
        · exact ordered.1 other member

/-- Insertion sort keeps the order of what it cannot tell apart. -/
theorem insertionSort_stable {items : List α} (ordered : items.Pairwise before) :
    (items.insertionSort r).Pairwise fun a b => r a b ∧ (r b a → before a b) := by
  induction items with
  | nil => exact List.Pairwise.nil
  | cons item items hypothesis =>
      rw [List.pairwise_cons] at ordered
      refine orderedInsert_stable (fun other member => ?_) (hypothesis ordered.2)
      exact ordered.1 other ((List.mem_insertionSort r).mp member)

theorem pairwise_idxOf {α : Type*} [DecidableEq α] {items : List α} (distinct : items.Nodup) :
    items.Pairwise fun a b => items.idxOf a < items.idxOf b := by
  rw [List.pairwise_iff_getElem]
  intro i j inside within earlier
  rw [distinct.idxOf_getElem, distinct.idxOf_getElem]
  exact earlier

end Stable

namespace DeviceStatusCollectManager

variable (c : DeviceStatusCollectManager)

/-- The event meets a policy now. -/
def meets (event policy : PolicyEvent) : Bool :=
  isSameEvent event policy && c.checkConditions policy && c.checkExtraMessages event policy

theorem matched_eq_find? (event : PolicyEvent) (policies : List PolicyEvent) :
    c.matched event policies = policies.find? (c.meets event) := rfl

/-- The place of the ability among the profiles. -/
def place (saId : Int) : Nat := (c.onDemandSaProfiles.map CollMgrSaProfile.saId).idxOf saId

/-- The order of the profiles, a start before a stop. -/
def Earlier (control other : PolicyControl) : Prop :=
  c.place control.saId < c.place other.saId ∨
    (control.saId = other.saId ∧ control.ondemandId = START_ON_DEMAND ∧
      other.ondemandId = STOP_ON_DEMAND)

/-- The controls are those of the current policies for the event: at most one of each kind for an
ability, there exactly when the policy is met, with the data of the first match, by priority and,
among equal ones, in the order of the profiles. -/
structure ControlsExact (event : PolicyEvent) (controls : List PolicyControl) : Prop where
  kinds : ∀ control ∈ controls, ∃ kind : OnDemandPolicyType, control.ondemandId = kind.ondemandId
  single : ∀ saId ondemandId,
    (controls.filter fun control => control.saId == saId && control.ondemandId == ondemandId).length ≤ 1
  asked : ∀ (saId : Int) (kind : OnDemandPolicyType),
    (∃ control ∈ controls, control.saId = saId ∧ control.ondemandId = kind.ondemandId) ↔
      ∃ profile ∈ c.onDemandSaProfiles, profile.saId = saId ∧
        ∃ policy ∈ profile.policy kind, c.meets event policy = true
  first : ∀ control ∈ controls, ∀ kind : OnDemandPolicyType, control.ondemandId = kind.ondemandId →
    ∀ profile ∈ c.onDemandSaProfiles, profile.saId = control.saId →
      ∀ policy, (profile.policy kind).find? (c.meets event) = some policy →
        control.enableOnce = policy.enableOnce ∧ control.loadPriority = policy.loadPriority ∧
          control.cacheCommonEvent = profile.cacheCommonEvent
  sorted : controls.Pairwise fun control other =>
    control.loadPriority < other.loadPriority ∨
      (control.loadPriority = other.loadPriority ∧ c.Earlier control other)

variable {c} {event : PolicyEvent}

theorem mem_getSaControlListByEvent {control : PolicyControl} :
    control ∈ c.getSaControlListByEvent event ↔
      ∃ profile ∈ c.onDemandSaProfiles, ∃ kind : OnDemandPolicyType, ∃ policy,
        (profile.policy kind).find? (c.meets event) = some policy ∧
          control = DeviceStatusCollectManager.control kind.ondemandId profile policy := by
  simp only [getSaControlListByEvent, List.mem_flatMap, List.mem_append, Option.mem_toList,
    Option.map_eq_some_iff, matched_eq_find?]
  refine exists_congr fun profile => and_congr_right fun _ => ?_
  constructor
  · rintro (⟨policy, found, rfl⟩ | ⟨policy, found, rfl⟩)
    · exact ⟨.startPolicy, policy, found, rfl⟩
    · exact ⟨.stopPolicy, policy, found, rfl⟩
  · rintro ⟨kind, policy, found, rfl⟩
    cases kind with
    | startPolicy => exact .inl ⟨policy, found, rfl⟩
    | stopPolicy => exact .inr ⟨policy, found, rfl⟩

theorem saId_of_mem_controls {profile : CollMgrSaProfile} {start stop : Option PolicyEvent}
    {control : PolicyControl}
    (member : control ∈
      (start.map (DeviceStatusCollectManager.control START_ON_DEMAND profile)).toList ++
        (stop.map (DeviceStatusCollectManager.control STOP_ON_DEMAND profile)).toList) :
    control.saId = profile.saId := by
  simp only [List.mem_append, Option.mem_toList, Option.map_eq_some_iff] at member
  rcases member with ⟨policy, -, rfl⟩ | ⟨policy, -, rfl⟩ <;> rfl

theorem getSaControlListByEvent_earlier (event : PolicyEvent)
    (distinct : (c.onDemandSaProfiles.map CollMgrSaProfile.saId).Nodup) :
    (c.getSaControlListByEvent event).Pairwise c.Earlier := by
  have places := List.pairwise_map.mp (pairwise_idxOf distinct)
  rw [getSaControlListByEvent, List.pairwise_flatMap]
  constructor
  · intro profile _
    -- the two controls of one ability
    rw [List.pairwise_append]
    refine ⟨?_, ?_, ?_⟩
    · cases c.matched event profile.startOnDemandEvents <;> simp
    · cases c.matched event profile.stopOnDemandEvents <;> simp
    · intro control start other stop
      simp only [Option.mem_toList, Option.map_eq_some_iff] at start stop
      obtain ⟨policy, -, rfl⟩ := start
      obtain ⟨other, -, rfl⟩ := stop
      exact .inr ⟨rfl, rfl, rfl⟩
  · refine places.imp fun {profile other} earlier => ?_
    intro control member second inside
    left
    rw [saId_of_mem_controls member, saId_of_mem_controls inside]
    exact earlier

theorem ondemandId_injective {kind other : OnDemandPolicyType}
    (same : kind.ondemandId = other.ondemandId) : kind = other := by
  cases kind <;> cases other <;> first | rfl | exact absurd same (by decide)

theorem Earlier.differ {control other : PolicyControl} (earlier : c.Earlier control other)
    (same : control.saId = other.saId) : control.ondemandId ≠ other.ondemandId := by
  rcases earlier with place | ⟨-, start, stop⟩
  · rw [same] at place
    exact absurd place (lt_irrefl _)
  · rw [start, stop]
    decide

theorem mem_sort {controls : List PolicyControl} {control : PolicyControl} :
    control ∈ sortSaControlListByLoadPriority controls ↔ control ∈ controls :=
  List.mem_insertionSort _

/-- What the current policies ask for, sorted, is exact. -/
theorem exact_of_current (distinct : (c.onDemandSaProfiles.map CollMgrSaProfile.saId).Nodup) :
    c.ControlsExact event (sortSaControlListByLoadPriority (c.getSaControlListByEvent event)) where
  kinds control member := by
    obtain ⟨profile, -, kind, policy, -, rfl⟩ := mem_getSaControlListByEvent.mp (mem_sort.mp member)
    exact ⟨kind, rfl⟩
  single saId ondemandId := by
    have moved := (List.perm_insertionSort (fun control other : PolicyControl =>
      control.loadPriority ≤ other.loadPriority) (c.getSaControlListByEvent event)).filter
        fun control => control.saId == saId && control.ondemandId == ondemandId
    rw [sortSaControlListByLoadPriority, moved.length_eq]
    have apart := (getSaControlListByEvent_earlier event distinct).filter
      fun control => control.saId == saId && control.ondemandId == ondemandId
    have all : ∀ control ∈ (c.getSaControlListByEvent event).filter fun control =>
        control.saId == saId && control.ondemandId == ondemandId,
        control.saId = saId ∧ control.ondemandId = ondemandId := by
      intro control member
      simpa using (List.mem_filter.mp member).2
    generalize ((c.getSaControlListByEvent event).filter fun control =>
      control.saId == saId && control.ondemandId == ondemandId) = found at apart all
    match found with
    | [] => simp
    | [control] => simp
    | control :: other :: rest =>
        have one := all control List.mem_cons_self
        have two := all other (List.mem_cons_of_mem _ List.mem_cons_self)
        have earlier := List.rel_of_pairwise_cons apart List.mem_cons_self
        exact absurd (one.2.trans two.2.symm) (earlier.differ (one.1.trans two.1.symm))
  asked saId kind := by
    constructor
    · rintro ⟨control, member, own, asked⟩
      obtain ⟨profile, inside, other, policy, found, rfl⟩ :=
        mem_getSaControlListByEvent.mp (mem_sort.mp member)
      cases ondemandId_injective asked
      exact ⟨profile, inside, own, policy, List.mem_of_find?_eq_some found, List.find?_some found⟩
    · rintro ⟨profile, inside, own, policy, member, met⟩
      obtain ⟨found, first⟩ := Option.isSome_iff_exists.mp
        (List.find?_isSome.mpr ⟨policy, member, met⟩)
      exact ⟨_, mem_sort.mpr (mem_getSaControlListByEvent.mpr
        ⟨profile, inside, kind, found, first, rfl⟩), own, rfl⟩
  first control member kind asked profile inside own policy found := by
    obtain ⟨other, within, kindOf, policyOf, first, rfl⟩ :=
      mem_getSaControlListByEvent.mp (mem_sort.mp member)
    cases ondemandId_injective asked
    cases List.inj_on_of_nodup_map distinct inside within own
    cases Option.some_inj.mp (found.symm.trans first)
    exact ⟨rfl, rfl, rfl⟩
  sorted := by
    have : Std.Total fun control other : PolicyControl => control.loadPriority ≤ other.loadPriority :=
      ⟨fun _ _ => le_total _ _⟩
    have : IsTrans PolicyControl fun control other => control.loadPriority ≤ other.loadPriority :=
      ⟨fun _ _ _ => le_trans⟩
    refine (insertionSort_stable (getSaControlListByEvent_earlier event distinct)).imp ?_
    rintro control other ⟨below, tied⟩
    rcases Nat.lt_or_eq_of_le below with less | same
    · exact .inl less
    · exact .inr ⟨same, tied same.ge⟩

end DeviceStatusCollectManager

namespace CollectState

variable {splitStr : String → List String} {s : CollectState} {plugins : Int → Option CollectPlugin}
  {event : PolicyEvent}

/-- A text without any policy in it. -/
def noPolicies (splitStr : String → List String) (text : String) : Bool :=
  text == "" || (splitStr text).isEmpty

/-- The store holds no policy text under the text of the event. -/
def storesNoPolicy (s : CollectState) (splitStr : String → List String) (event : PolicyEvent) : Bool :=
  noPolicies splitStr (s.deviceTimed.preferencesUtil.obtainString event.toText)

theorem getSaControlListByPersistEvent_eq_nil :
    s.getSaControlListByPersistEvent splitStr event = [] ↔ s.storesNoPolicy splitStr event = true := by
  rw [getSaControlListByPersistEvent_eq, textControls, storesNoPolicy, noPolicies]
  split
  · rename_i empty
    simp [empty]
  · rename_i nonempty
    simp [nonempty]

/-- `Init` leaves the store as it is found. -/
theorem storesNoPolicy_init {preferencesUtil : PreferencesUtil} (saProfiles : List CollMgrSaProfile)
    (none : preferencesUtil.obtainString event.toText = "") :
    (init preferencesUtil saProfiles).storesNoPolicy splitStr event = true := by
  have store : (DeviceTimedCollect.init preferencesUtil saProfiles).preferencesUtil = preferencesUtil := by
    refine Runs.run_invariant (fun c : DeviceTimedCollect => c.preferencesUtil = preferencesUtil)
      (fun c event same => ?_) (saProfiles.flatMap CollMgrSaProfile.events) rfl
    rw [DeviceTimedCollect.saveTimedEvent]
    split
    · split <;> exact same
    · exact same
  have same : (init preferencesUtil saProfiles).deviceTimed.preferencesUtil = preferencesUtil := store
  simp [storesNoPolicy, noPolicies, same, none]

/-- A control from the store either stands beside the one of the current policy or has none. -/
theorem not_exact_of_stored {control : PolicyControl} {rest : List PolicyControl}
    (stored : s.getSaControlListByPersistEvent splitStr event = control :: rest) :
    ¬ (s.policies plugins).ControlsExact event (s.reportEvent splitStr plugins event) := by
  intro exact
  have member : control ∈ s.reportEvent splitStr plugins event := by
    rw [reportEvent, DeviceStatusCollectManager.mem_sort, stored]
    simp
  obtain ⟨kind, asked⟩ := exact.kinds control member
  obtain ⟨profile, inside, own, policy, within, met⟩ :=
    (exact.asked control.saId kind).mp ⟨control, member, rfl, asked⟩
  obtain ⟨found, first⟩ := Option.isSome_iff_exists.mp
    (List.find?_isSome.mpr ⟨policy, within, met⟩)
  have current : DeviceStatusCollectManager.control kind.ondemandId profile found ∈
      (s.policies plugins).getSaControlListByEvent event :=
    DeviceStatusCollectManager.mem_getSaControlListByEvent.mpr
      ⟨profile, inside, kind, found, first, rfl⟩
  have moved := (List.perm_insertionSort (fun control other : PolicyControl =>
    control.loadPriority ≤ other.loadPriority)
      ((s.policies plugins).getSaControlListByEvent event ++
        s.getSaControlListByPersistEvent splitStr event)).filter
    fun other => other.saId == control.saId && other.ondemandId == control.ondemandId
  have single := exact.single control.saId control.ondemandId
  rw [reportEvent, DeviceStatusCollectManager.sortSaControlListByLoadPriority, moved.length_eq,
    List.filter_append, List.length_append, stored] at single
  have one : 0 < (((s.policies plugins).getSaControlListByEvent event).filter fun other =>
      other.saId == control.saId && other.ondemandId == control.ondemandId).length := by
    refine List.length_pos_of_mem (List.mem_filter.mpr ⟨current, ?_⟩)
    simp [DeviceStatusCollectManager.control, own, asked]
  simp only [List.filter_cons, beq_self_eq_true, Bool.and_self, if_true, List.length_cons] at single
  omega

theorem reportEvent_exact_iff
    (distinct : (s.onDemandSaProfiles.map CollMgrSaProfile.saId).Nodup) :
    (s.policies plugins).ControlsExact event (s.reportEvent splitStr plugins event) ↔
      s.storesNoPolicy splitStr event = true := by
  rw [← getSaControlListByPersistEvent_eq_nil]
  constructor
  · intro exact
    cases stored : s.getSaControlListByPersistEvent splitStr event with
    | nil => rfl
    | cons control rest => exact absurd exact (not_exact_of_stored stored)
  · intro none
    rw [reportEvent, none, List.append_nil]
    exact DeviceStatusCollectManager.exact_of_current distinct

theorem update_saIds (u : PolicyUpdate) :
    (s.update u).onDemandSaProfiles.map CollMgrSaProfile.saId =
      s.onDemandSaProfiles.map CollMgrSaProfile.saId := by
  rw [update]
  by_cases succeeded :
      (s.updateOnDemandEvents u.env u.systemAbilityId u.type u.events).2 = .errOk
  · obtain ⟨profile, kind, found, -, -, same⟩ := updateOnDemandEvents_succeeded succeeded
    have kept : (s.addCollectEvents u.env u.events).1.findProfile u.systemAbilityId = some profile := by
      rw [findProfile, addCollectEvents_onDemandSaProfiles]
      exact found
    obtain ⟨-, before, after, whole, replaced⟩ := setPolicy_eq kept kind u.events
    rw [addCollectEvents_onDemandSaProfiles] at whole
    rw [same, removeUnusedEventsLocked_onDemandSaProfiles, persistOnDemandEvent, replaced, whole]
    cases kind <;> simp [CollMgrSaProfile.setPolicy]
  · rw [updateOnDemandEvents_failed succeeded]
    split
    · rfl
    · rw [addCollectEvents_onDemandSaProfiles]

/-- After any updates the controls of a reported event are those of the current policies exactly
when the store holds no policy text for it. -/
theorem reported_controls_exact_iff (splitStr : String → List String) (preferencesUtil : PreferencesUtil)
    (saProfiles : List CollMgrSaProfile) (distinct : (saProfiles.map CollMgrSaProfile.saId).Nodup)
    (updates : List PolicyUpdate) (plugins : Int → Option CollectPlugin) (event : PolicyEvent) :
    let s := Runs.run update (init preferencesUtil saProfiles) updates
    (s.policies plugins).ControlsExact event (s.reportEvent splitStr plugins event) ↔
      s.storesNoPolicy splitStr event = true := by
  have same : (Runs.run update (init preferencesUtil saProfiles) updates).onDemandSaProfiles.map
      CollMgrSaProfile.saId = (filterOnDemandSaProfiles saProfiles).map CollMgrSaProfile.saId :=
    Runs.run_invariant (fun s : CollectState => s.onDemandSaProfiles.map CollMgrSaProfile.saId =
      (filterOnDemandSaProfiles saProfiles).map CollMgrSaProfile.saId)
      (fun s u before => (update_saIds u).trans before) updates rfl
  refine reportEvent_exact_iff ?_
  rw [same]
  exact distinct.sublist (List.filter_sublist.map _)

section History

variable {env : CollectEnv}

/-- Only a persistent timed event is saved when it is taken. -/
theorem addEvent_store {env : TimedEnv} {c added : DeviceTimedCollect}
    (taken : c.addEvent env event = some added) :
    added.preferencesUtil = c.preferencesUtil ∨
      (event.name = ORDER_TIMED_EVENT ∧ event.persistence = true ∧
        added.preferencesUtil = c.preferencesUtil.saveLong event.value (env.orderTime event.value)) := by
  rw [DeviceTimedCollect.addEvent_eq] at taken
  split at taken
  · cases taken
    split
    · rename_i order
      rw [DeviceTimedCollect.withTimed]
      split
      · exact .inl rfl
      · cases persistent : event.persistence with
        | false => exact .inl rfl
        | true => exact .inr ⟨order, rfl, rfl⟩
    · rw [DeviceTimedCollect.withLoop]
      split <;> exact .inl rfl
  · cases taken

theorem addStep_store (holds : PreferencesUtil → Prop)
    (keep : ∀ preferencesUtil key value, holds preferencesUtil →
      holds (PreferencesUtil.saveLong preferencesUtil key value))
    (step : CollectStep) (before : holds s.deviceTimed.preferencesUtil) :
    holds (addStep env s step).1.deviceTimed.preferencesUtil := by
  cases step with
  | param event answer => exact before
  | commonEvents events => exact before
  | timed event answer =>
      rw [addStep]
      split
      · exact before
      · rename_i added taken
        rcases addEvent_store taken with same | ⟨-, -, saved⟩
        · exact same ▸ before
        · exact saved ▸ keep _ _ _ before

theorem addCollectEvents_store (holds : PreferencesUtil → Prop)
    (keep : ∀ preferencesUtil key value, holds preferencesUtil →
      holds (PreferencesUtil.saveLong preferencesUtil key value))
    (events : List PolicyEvent) (before : holds s.deviceTimed.preferencesUtil) :
    holds (s.addCollectEvents env events).1.deviceTimed.preferencesUtil := by
  apply addCollectEvents_keeps fun t => holds t.deviceTimed.preferencesUtil
  · intro t listens before
    exact before
  · intro t step _ before
    exact addStep_store holds keep step before
  · exact before

theorem removeUnusedEventsLocked_store {events : List PolicyEvent} :
    (s.removeUnusedEventsLocked env events).deviceTimed.preferencesUtil =
      s.deviceTimed.preferencesUtil := by
  apply removeUnusedEventsLocked_keeps fun t =>
    t.deviceTimed.preferencesUtil = s.deviceTimed.preferencesUtil
  · intro t removed event same
    simp only [removeUnusedEvent]
    split
    · exact same
    · split
      · exact same
      · split
        · simp only [DeviceTimedCollect.removeUnusedEvent, DeviceTimedCollect.removeTimesInfo,
            DeviceTimedCollect.removePersistenceLoopTask,
            DeviceTimedCollect.removeNonPersistenceLoopTask]
          split
          · split <;> split <;> split <;> exact same
          · exact same
        · exact same
  · rfl

/-- Under a text that no new event has, the store says of policies what it said before. -/
theorem persistOnDemandEvent_obtainString {text : String} {systemAbilityId : Int}
    {kind : OnDemandPolicyType} {events : List PolicyEvent}
    (other : ∀ event ∈ events, needPersistOnDemandEvent event = true → event.toText ≠ text) :
    (s.persistOnDemandEvent systemAbilityId kind events).deviceTimed.preferencesUtil.obtainString
      text = s.deviceTimed.preferencesUtil.obtainString text := by
  have texts : ∀ event ∈ events.filter needPersistOnDemandEvent, event.toText ≠ text := by
    intro event member
    rw [List.mem_filter] at member
    exact other event member.1 member.2
  rw [persistOnDemandEvent]
  simp only
  generalize s.deviceTimed.preferencesUtil = preferencesUtil
  generalize events.filter needPersistOnDemandEvent = persistent at texts
  induction persistent generalizing preferencesUtil with
  | nil => rfl
  | cons event persistent hypothesis =>
      have apart := texts event List.mem_cons_self
      rw [List.foldl_cons, hypothesis _ fun other member => texts other (List.mem_cons_of_mem _ member)]
      rw [appendPolicy]
      split <;>
        simp [PreferencesUtil.obtainString, PreferencesUtil.saveString, Std.TreeMap.getElem?_insert,
          apart]

/-- What the condition means for a history: no update has carried such an event. -/
theorem storesNoPolicy_of_never_carried {updates : List PolicyUpdate}
    (never : ∀ u ∈ updates, ∀ carried ∈ u.events, needPersistOnDemandEvent carried = true →
      carried.toText ≠ event.toText)
    (start : s.storesNoPolicy splitStr event = true) :
    (Runs.run update s updates).storesNoPolicy splitStr event = true := by
  refine Runs.guarded_invariant (fun s : CollectState => s.storesNoPolicy splitStr event = true)
    (fun s u other before => ?_) (Runs.guarded_of_forall never s) start
  have collected : storesNoPolicy (s.addCollectEvents u.env u.events).1 splitStr event = true := by
    refine addCollectEvents_store
      (fun store => noPolicies splitStr (store.obtainString event.toText) = true)
      (fun store key value kept => ?_) u.events before
    by_cases here : key = event.toText
    · simp only [PreferencesUtil.obtainString, PreferencesUtil.saveLong, here,
        Std.TreeMap.getElem?_insert_self]
      rfl
    · simpa [PreferencesUtil.obtainString, PreferencesUtil.saveLong, Std.TreeMap.getElem?_insert,
        here] using kept
  rw [update]
  by_cases succeeded : (s.updateOnDemandEvents u.env u.systemAbilityId u.type u.events).2 = .errOk
  · obtain ⟨profile, kind, -, -, -, same⟩ := updateOnDemandEvents_succeeded succeeded
    rw [same, storesNoPolicy, removeUnusedEventsLocked_store, persistOnDemandEvent_obtainString other]
    exact collected
  · rw [updateOnDemandEvents_failed succeeded]
    split
    · exact before
    · exact collected

end History

section Sample

/-- A timed event that outlives a restart becomes the start policy of an ability, and then the
policy is withdrawn. -/
def persistentTimedEvent : PolicyEvent :=
  { eventId := TIMED_EVENT, name := ORDER_TIMED_EVENT, value := "2030-1-1-00:00:00",
    persistence := true }

def setAndWithdrawn : List PolicyUpdate :=
  [{ systemAbilityId := 1401, type := START_POLICY, events := [persistentTimedEvent] },
    { systemAbilityId := 1401, type := START_POLICY, events := [] }]

/-- The ability has a stop policy all the time. -/
def stoppedAtBoot : List CollMgrSaProfile :=
  [{ saId := 1401, startOnDemandEvents := []
     stopOnDemandEvents := [{ eventId := PARAM, name := "bootevent.boot.completed", value := "true" }] }]

theorem reported_controls_of_withdrawn :
    let s := Runs.run update (init ∅ stoppedAtBoot) setAndWithdrawn
    (s.policies fun _ => some {}).ControlsExact persistentTimedEvent
        (s.reportEvent splitAtPlus (fun _ => some {}) persistentTimedEvent) ↔
      s.storesNoPolicy splitAtPlus persistentTimedEvent = true :=
  reported_controls_exact_iff splitAtPlus ∅ stoppedAtBoot (by decide) setAndWithdrawn (fun _ => some {})
    persistentTimedEvent

/-- The ability is still started though its start policy is empty. -/
theorem withdrawn_policy_still_starts : ¬ ∀ (splitStr : String → List String)
    (saProfiles : List CollMgrSaProfile) (updates : List PolicyUpdate)
    (plugins : Int → Option CollectPlugin) (event : PolicyEvent),
    SplitsAtPlus splitStr → (saProfiles.map CollMgrSaProfile.saId).Nodup →
      Runs.Guarded update (fun s u => s.succeeds u = true) (init ∅ saProfiles) updates →
        let s := Runs.run update (init ∅ saProfiles) updates
        (s.policies plugins).ControlsExact event (s.reportEvent splitStr plugins event) := by
  intro always
  have exact := always splitAtPlus stoppedAtBoot setAndWithdrawn (fun _ => some {}) persistentTimedEvent
    splitAtPlus_splits (by decide) (by decide +kernel)
  have asked := (exact.asked 1401 .startPolicy).mp
  revert asked
  decide +kernel

end Sample

end CollectState

end Samgr
