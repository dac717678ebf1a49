import Samgr.Collect.Controls
import Samgr.Lib.Keyed

/-! The policy of an ability as its process reads it and writes it back. Outside the manager an event has
no priority and no extra messages, neither of its own nor in its conditions. -/
namespace Samgr

structure SystemAbilityOnDemandCondition where
  eventId : Int
  name : String
  value : String
  deriving DecidableEq, Repr

/-- An event as a process sees it. -/
structure SystemAbilityOnDemandEvent where
  eventId : Int
  name : String
  value : String
  persistence : Bool := false
  conditions : List SystemAbilityOnDemandCondition := []
  enableOnce : Bool := false
  deriving DecidableEq, Repr

def convertToOnDemandEvent (event : SystemAbilityOnDemandEvent) : PolicyEvent :=
  { eventId := event.eventId
    name := event.name
    value := event.value
    persistence := event.persistence
    conditions := event.conditions.map fun item =>
      { eventId := item.eventId, name := item.name, value := item.value }
    enableOnce := event.enableOnce }

def convertToSystemAbilityOnDemandEvent (event : PolicyEvent) : SystemAbilityOnDemandEvent :=
  { eventId := event.eventId
    name := event.name
    value := event.value
    persistence := event.persistence
    conditions := event.conditions.map fun item =>
      { eventId := item.eventId, name := item.name, value := item.value }
    enableOnce := event.enableOnce }

/-- The part of an ability profile that a policy call reads. -/
structure CommonSaProfile where
  process : String
  startAllowUpdate : Bool := false
  stopAllowUpdate : Bool := false
  deriving DecidableEq, Repr

/-- The caller is the process of the ability; `none` is a caller without a native token. -/
def checkCallerProcess (caller : Option String) (saProfile : CommonSaProfile) : Bool :=
  caller == some saProfile.process

def checkAllowUpdate (type : Int) (saProfile : CommonSaProfile) : Bool :=
  (type == START_POLICY && saProfile.startAllowUpdate) ||
    (type == STOP_POLICY && saProfile.stopAllowUpdate)

def CollectState.getOnDemandEvents (s : CollectState) (systemAbilityId type : Int) :
    List PolicyEvent × ErrCode :=
  match s.findProfile systemAbilityId with
  | none => ([], .errInvalidValue)
  | some profile =>
      match OnDemandPolicyType.ofInt type with
      | none => ([], .errInvalidValue)
      | some type => (profile.policy type, .errOk)

/-- A manager as far as the policies of its abilities go. -/
structure PolicyManager where
  getSaProfile : Int → Option CommonSaProfile
  collectManager : Option CollectState

namespace PolicyManager

variable (m : PolicyManager) (caller : Option String) (env : CollectEnv)

/-- What both calls check first. -/
def refusal (systemAbilityId type : Int) : Option ErrCode :=
  match m.getSaProfile systemAbilityId with
  | none => some .errInvalidValue
  | some saProfile =>
      if !checkCallerProcess caller saProfile then some .errInvalidValue
      else if !checkAllowUpdate type saProfile then some .errPermissionDenied
      else none

def getOnDemandPolicy (systemAbilityId type : Int) : List SystemAbilityOnDemandEvent × ErrCode :=
  match m.refusal caller systemAbilityId type, m.collectManager with
  | some error, _ => ([], error)
  | none, none => ([], .errInvalidValue)
  | none, some collectManager =>
      let found := collectManager.getOnDemandEvents systemAbilityId type
      if found.2 = .errOk then (found.1.map convertToSystemAbilityOnDemandEvent, .errOk)
      else ([], found.2)

def updateOnDemandPolicy (systemAbilityId type : Int) (events : List SystemAbilityOnDemandEvent) :
    PolicyManager × ErrCode :=
  match m.refusal caller systemAbilityId type, m.collectManager with
  | some error, _ => (m, error)
  | none, none => (m, .errInvalidValue)
  | none, some collectManager =>
      let updated := collectManager.updateOnDemandEvents env systemAbilityId type
        (events.map convertToOnDemandEvent)
      ({ m with collectManager := some updated.1 }, updated.2)

/-- The stored events of a policy. -/
def storedEvents (systemAbilityId type : Int) : List PolicyEvent :=
  match m.collectManager with
  | none => []
  | some collectManager => (collectManager.getOnDemandEvents systemAbilityId type).1

/-- The controls that the stored policies of all abilities ask for when an event is reported. -/
def selects (plugins : Int → Option CollectPlugin) (event : PolicyEvent) : List PolicyControl :=
  match m.collectManager with
  | none => []
  | some collectManager => (collectManager.policies plugins).getSaControlListByEvent event

/-- All controls for a reported event, those of the store too. -/
def reports (splitStr : String → List String) (plugins : Int → Option CollectPlugin)
    (event : PolicyEvent) : List PolicyControl :=
  match m.collectManager with
  | none => []
  | some collectManager => collectManager.reportEvent splitStr plugins event

end PolicyManager

/-- The event says nothing but what a process can see of it. -/
structure PolicyEvent.Plain (event : PolicyEvent) : Prop where
  extraDataId : event.extraDataId = -1
  loadPriority : event.loadPriority = LOW_PRIORITY
  extraMessages : event.extraMessages = []
  conditions : ∀ condition ∈ event.conditions, condition.extraMessages = []

/-- What a process writes is what it reads. -/
theorem convert_convertToOnDemandEvent (event : SystemAbilityOnDemandEvent) :
    convertToSystemAbilityOnDemandEvent (convertToOnDemandEvent event) = event := by
  cases event
  simp [convertToSystemAbilityOnDemandEvent, convertToOnDemandEvent, Function.comp_def]

theorem map_eq_self_iff {Item : Type} {f : Item → Item} {items : List Item} :
    items.map f = items ↔ ∀ item ∈ items, f item = item := by
  rw [← List.map_inj_left (g := fun item => item), List.map_id']

/-- An event comes back as it was just when it has nothing that is not seen outside. -/
theorem convert_eq_self_iff (event : PolicyEvent) :
    convertToOnDemandEvent (convertToSystemAbilityOnDemandEvent event) = event ↔ event.Plain := by
  obtain ⟨⟨eventId, name, value, extraDataId⟩, persistence, conditions, enableOnce, loadPriority,
    extraMessages⟩ := event
  have bare : conditions.map (fun item =>
      ({ eventId := item.eventId, name := item.name, value := item.value } : OnDemandCondition)) =
        conditions ↔ ∀ condition ∈ conditions, condition.extraMessages = [] := by
    rw [map_eq_self_iff]
    refine forall₂_congr fun condition _ => ?_
    cases condition
    simp [eq_comm]
  constructor
  · intro same
    simp only [convertToOnDemandEvent, convertToSystemAbilityOnDemandEvent, List.map_map,
      Function.comp_def, PolicyEvent.mk.injEq, OnDemandEvent.mk.injEq, true_and] at same
    exact ⟨same.1.symm, same.2.2.1.symm, same.2.2.2.symm, bare.mp same.2.1⟩
  · rintro ⟨rfl, rfl, rfl, plain⟩
    simp only [convertToOnDemandEvent, convertToSystemAbilityOnDemandEvent, List.map_map,
      Function.comp_def, bare.mpr plain]

namespace CollectState

variable {s : CollectState} {env : CollectEnv} {systemAbilityId type : Int} {events : List PolicyEvent}

/-- After an update that succeeds the policies are the old ones with the new events in their place. -/
theorem updated_onDemandSaProfiles
    (succeeded : (s.updateOnDemandEvents env systemAbilityId type events).2 = .errOk) :
    ∃ profile kind, s.findProfile systemAbilityId = some profile ∧
      OnDemandPolicyType.ofInt type = some kind ∧
      (s.updateOnDemandEvents env systemAbilityId type events).1.onDemandSaProfiles =
        (s.setPolicy systemAbilityId kind events).onDemandSaProfiles := by
  obtain ⟨profile, kind, found, valid, -, same⟩ := updateOnDemandEvents_succeeded succeeded
  refine ⟨profile, kind, found, valid, ?_⟩
  rw [same, removeUnusedEventsLocked_onDemandSaProfiles, persistOnDemandEvent]
  simp only [setPolicy, addCollectEvents_onDemandSaProfiles]

theorem getOnDemandEvents_of_updated
    (succeeded : (s.updateOnDemandEvents env systemAbilityId type events).2 = .errOk) :
    (s.updateOnDemandEvents env systemAbilityId type events).1.getOnDemandEvents systemAbilityId type =
      (events, .errOk) := by
  obtain ⟨profile, kind, found, valid, same⟩ := updated_onDemandSaProfiles succeeded
  have keeps : ∀ other : CollMgrSaProfile, other.saId = systemAbilityId →
      (other.setPolicy events kind).saId = systemAbilityId := by
    intro other own
    cases kind <;> exact own
  have replaced : (s.updateOnDemandEvents env systemAbilityId type events).1.findProfile systemAbilityId =
      some (profile.setPolicy events kind) := by
    rw [findProfile, same]
    have there : Keyed.find CollMgrSaProfile.saId
        (s.setPolicy systemAbilityId kind events).onDemandSaProfiles systemAbilityId =
          if systemAbilityId = systemAbilityId then
            (s.findProfile systemAbilityId).map fun other => other.setPolicy events kind
          else s.findProfile systemAbilityId := Keyed.find_replaceF keeps
    rw [if_pos rfl, found] at there
    exact there
  rw [getOnDemandEvents, replaced, valid]
  cases kind <;> rfl

/-- An update with the events that are stored leaves all policies as they are. -/
theorem updated_with_stored
    (succeeded : (s.updateOnDemandEvents env systemAbilityId type events).2 = .errOk)
    (stored : (s.getOnDemandEvents systemAbilityId type).1 = events) :
    (s.updateOnDemandEvents env systemAbilityId type events).1.onDemandSaProfiles =
      s.onDemandSaProfiles := by
  obtain ⟨profile, kind, found, valid, same⟩ := updated_onDemandSaProfiles succeeded
  rw [getOnDemandEvents, found, valid] at stored
  obtain ⟨-, before, after, whole, replaced⟩ := setPolicy_eq found kind events
  have own : profile.setPolicy events kind = profile := by
    cases kind <;> subst stored <;> rfl
  rw [same, replaced, own, whole]

theorem mem_ofPlugin {event : PolicyEvent} {answer : EventAnswer} {eventId : Int}
    (member : (event, answer) ∈ env.ofPlugin events eventId) : event ∈ events ∧ event.eventId = eventId := by
  simp only [CollectEnv.ofPlugin, CollectEnv.answered, List.mem_filter, List.mem_map, Prod.exists,
    Prod.mk.injEq, beq_iff_eq] at member
  obtain ⟨⟨other, index, inside, rfl, -⟩, own⟩ := member
  exact ⟨(List.mem_zipIdx' inside).2 ▸ List.getElem_mem _, own⟩

/-- Events that need not be stored leave the store as it is. -/
theorem addCollectEvents_store_of_unstored
    (unstored : ∀ event ∈ events, needPersistOnDemandEvent event = false) :
    (s.addCollectEvents env events).1.deviceTimed.preferencesUtil = s.deviceTimed.preferencesUtil := by
  apply addCollectEvents_keeps fun t =>
    t.deviceTimed.preferencesUtil = s.deviceTimed.preferencesUtil
  · intro t listens before
    exact before
  · intro t step member before
    cases step with
    | param event answer => exact before
    | commonEvents events => exact before
    | timed event answer =>
        have there : (event, answer) ∈ env.ofPlugin events TIMED_EVENT := by
          simpa [collectSteps] using member
        obtain ⟨own, isTimed⟩ := mem_ofPlugin there
        rw [addStep]
        split
        · exact before
        · rename_i added taken
          rcases addEvent_store taken with same | ⟨order, persistent, -⟩
          · exact same.trans before
          · have stored := unstored event own
            rw [needPersistOnDemandEvent, isTimed, order, persistent] at stored
            cases stored
  · rfl

theorem getSaControlListByPersistEvent_of_unstored
    (succeeded : (s.updateOnDemandEvents env systemAbilityId type events).2 = .errOk)
    (unstored : ∀ event ∈ events, needPersistOnDemandEvent event = false)
    (splitStr : String → List String) (event : PolicyEvent) :
    (s.updateOnDemandEvents env systemAbilityId type events).1.getSaControlListByPersistEvent splitStr event =
      s.getSaControlListByPersistEvent splitStr event := by
  obtain ⟨profile, kind, -, -, -, same⟩ := updateOnDemandEvents_succeeded succeeded
  have text : (s.updateOnDemandEvents env systemAbilityId type
      events).1.deviceTimed.preferencesUtil.obtainString event.toText =
        s.deviceTimed.preferencesUtil.obtainString event.toText := by
    rw [same, removeUnusedEventsLocked_store, persistOnDemandEvent_obtainString]
    · rw [setPolicy, addCollectEvents_store_of_unstored unstored]
    · intro other member needed
      rw [unstored other member] at needed
      cases needed
  rw [getSaControlListByPersistEvent, text]
  rfl

end CollectState

namespace PolicyManager

variable {m : PolicyManager} {reader writer : Option String} {env : CollectEnv} {systemAbilityId type : Int}
  {events : List SystemAbilityOnDemandEvent}

theorem refusal_ne_errOk (caller : Option String) : m.refusal caller systemAbilityId type ≠ some .errOk := by
  rw [refusal]
  split
  · simp
  · split
    · simp
    · split <;> simp

/-- What a call that reads a policy has read. -/
theorem getOnDemandPolicy_succeeded
    (read : m.getOnDemandPolicy reader systemAbilityId type = (events, .errOk)) :
    ∃ collectManager, m.collectManager = some collectManager ∧
      (m.storedEvents systemAbilityId type).map convertToSystemAbilityOnDemandEvent = events := by
  rw [getOnDemandPolicy] at read
  split at read
  · rename_i error refused
    have same : error = ErrCode.errOk := congrArg Prod.snd read
    rw [same] at refused
    exact absurd refused (refusal_ne_errOk reader)
  · cases read
  · rename_i collectManager _ there
    refine ⟨collectManager, there, ?_⟩
    simp only at read
    split at read
    · cases read
      rw [storedEvents, there]
    · rename_i failed
      exact absurd (congrArg Prod.snd read) failed

/-- What a call that writes a policy has done. -/
theorem updateOnDemandPolicy_succeeded {collectManager : CollectState}
    (there : m.collectManager = some collectManager)
    (written : (m.updateOnDemandPolicy writer env systemAbilityId type events).2 = .errOk) :
    (collectManager.updateOnDemandEvents env systemAbilityId type
      (events.map convertToOnDemandEvent)).2 = .errOk ∧
    (m.updateOnDemandPolicy writer env systemAbilityId type events).1.collectManager =
      some (collectManager.updateOnDemandEvents env systemAbilityId type
        (events.map convertToOnDemandEvent)).1 := by
  rw [updateOnDemandPolicy, there] at written ⊢
  cases refused : m.refusal writer systemAbilityId type with
  | some error =>
      rw [refused] at written
      have same : error = .errOk := written
      rw [same] at refused
      exact absurd refused (refusal_ne_errOk writer)
  | none =>
      rw [refused] at written
      exact ⟨written, rfl⟩

/-- After a policy has been written, it is read as it was written. -/
theorem getOnDemandPolicy_of_written {caller : Option String}
    (allowed : m.refusal caller systemAbilityId type = none)
    (written : (m.updateOnDemandPolicy caller env systemAbilityId type events).2 = .errOk) :
    (m.updateOnDemandPolicy caller env systemAbilityId type events).1.getOnDemandPolicy caller
      systemAbilityId type = (events, .errOk) := by
  cases there : m.collectManager with
  | none =>
      rw [updateOnDemandPolicy, allowed, there] at written
      cases written
  | some collectManager =>
      obtain ⟨succeeded, replaced⟩ := updateOnDemandPolicy_succeeded there written
      have still : (m.updateOnDemandPolicy caller env systemAbilityId type events).1.refusal caller
          systemAbilityId type = none := by
        rw [updateOnDemandPolicy, allowed, there]
        exact allowed
      have back : events.map (convertToSystemAbilityOnDemandEvent ∘ convertToOnDemandEvent) = events :=
        map_eq_self_iff.mpr fun event _ => convert_convertToOnDemandEvent event
      rw [getOnDemandPolicy, still, replaced]
      simp only [CollectState.getOnDemandEvents_of_updated succeeded, if_true, List.map_map, back]

/-- A policy that is read and written back is kept just when none of its events has a priority or extra
messages of its own. Where it is kept, all events select the controls they selected before; and if no
event of the policy is stored for a restart, the store adds none to them either. -/
theorem written_back_policy_is_kept_iff
    (read : m.getOnDemandPolicy reader systemAbilityId type = (events, .errOk))
    (written : (m.updateOnDemandPolicy writer env systemAbilityId type events).2 = .errOk) :
    let after := (m.updateOnDemandPolicy writer env systemAbilityId type events).1
    (after.storedEvents systemAbilityId type = m.storedEvents systemAbilityId type ↔
      ∀ event ∈ m.storedEvents systemAbilityId type, event.Plain) ∧
    (after.storedEvents systemAbilityId type = m.storedEvents systemAbilityId type →
      ∀ plugins event, after.selects plugins event = m.selects plugins event ∧
        ((∀ stored ∈ m.storedEvents systemAbilityId type,
            CollectState.needPersistOnDemandEvent stored = false) →
          ∀ splitStr, after.reports splitStr plugins event = m.reports splitStr plugins event)) := by
  intro after
  obtain ⟨collectManager, there, same⟩ := getOnDemandPolicy_succeeded read
  obtain ⟨succeeded, replaced⟩ := updateOnDemandPolicy_succeeded there written
  have old : m.storedEvents systemAbilityId type =
      (collectManager.getOnDemandEvents systemAbilityId type).1 := by
    rw [storedEvents, there]
  have new : after.storedEvents systemAbilityId type =
      (m.storedEvents systemAbilityId type).map fun event =>
        convertToOnDemandEvent (convertToSystemAbilityOnDemandEvent event) := by
    rw [storedEvents, replaced]
    simp only [CollectState.getOnDemandEvents_of_updated succeeded]
    rw [← same, List.map_map]
    rfl
  constructor
  · rw [new, map_eq_self_iff]
    exact forall₂_congr fun event _ => convert_eq_self_iff event
  · intro kept plugins event
    have stored : (collectManager.getOnDemandEvents systemAbilityId type).1 =
        events.map convertToOnDemandEvent := by
      rw [← old, ← kept, new, ← same, List.map_map]
      rfl
    have policies := CollectState.updated_with_stored succeeded stored
    have selected : after.selects plugins event = m.selects plugins event := by
      rw [selects, selects, replaced, there]
      simp only [CollectState.policies, policies]
    refine ⟨selected, ?_⟩
    intro unstored splitStr
    rw [reports, reports, replaced, there]
    rw [selects, selects, replaced, there] at selected
    simp only [CollectState.reportEvent] at selected ⊢
    rw [selected, CollectState.getSaControlListByPersistEvent_of_unstored succeeded]
    rw [← stored, ← old]
    exact unstored

/-- An ability that may update its start policy, which has one event. -/
def oneEventManager (event : PolicyEvent) : PolicyManager where
  getSaProfile _ := some { process := "battery_service", startAllowUpdate := true }
  collectManager := some (CollectState.init ∅
    [{ saId := 3302, startOnDemandEvents := [event], stopOnDemandEvents := [] }])

def plainBatteryEvent : PolicyEvent :=
  { eventId := COMMON_EVENT, name := "usual.event.BATTERY_CHANGED", enableOnce := true }

def filteredBatteryEvent : PolicyEvent :=
  { plainBatteryEvent with loadPriority := 1, extraMessages := [("soc", "<=20")] }

theorem plain_policy_is_kept :
    let events := [convertToSystemAbilityOnDemandEvent plainBatteryEvent]
    let after := ((oneEventManager plainBatteryEvent).updateOnDemandPolicy (some "battery_service") {}
      3302 START_POLICY events).1
    after.storedEvents 3302 START_POLICY =
        (oneEventManager plainBatteryEvent).storedEvents 3302 START_POLICY ↔
      ∀ event ∈ (oneEventManager plainBatteryEvent).storedEvents 3302 START_POLICY, event.Plain :=
  (@written_back_policy_is_kept_iff (oneEventManager plainBatteryEvent) (some "battery_service")
    (some "battery_service") {} 3302 START_POLICY [convertToSystemAbilityOnDemandEvent plainBatteryEvent]
    (by decide +kernel) (by decide +kernel)).1

/-- The priority is lost, and so is the filter: the ability is then started at every battery event. -/
theorem filter_is_lost : ¬ ∀ (m : PolicyManager) (caller : Option String) (env : CollectEnv)
    (systemAbilityId type : Int) (events : List SystemAbilityOnDemandEvent),
    m.getOnDemandPolicy caller systemAbilityId type = (events, .errOk) →
      (m.updateOnDemandPolicy caller env systemAbilityId type events).2 = .errOk →
        (m.updateOnDemandPolicy caller env systemAbilityId type events).1.storedEvents
            systemAbilityId type = m.storedEvents systemAbilityId type := by
  intro always
  have kept := always (oneEventManager filteredBatteryEvent) (some "battery_service") {} 3302
    START_POLICY [convertToSystemAbilityOnDemandEvent filteredBatteryEvent] (by decide +kernel)
    (by decide +kernel)
  revert kept
  decide +kernel

end PolicyManager

end Samgr
