import Samgr.Collect.State

/-! An update that succeeds, as the profiles see it: one policy is replaced, and the events of the old
one that no policy uses any more are withdrawn from the plugins. -/
namespace Samgr

theorem CollectEnv.ofPlugin_events (env : CollectEnv) (events : List PolicyEvent) (eventId : Int) :
    (env.ofPlugin events eventId).map Prod.fst = events.filter fun event => event.eventId == eventId := by
  have all : (env.answered events).map Prod.fst = events := by
    rw [CollectEnv.answered, List.map_map]
    exact List.zipIdx_map_fst 0 events
  rw [CollectEnv.ofPlugin]
  conv => rhs; rw [← all]
  rw [List.filter_map]
  rfl

namespace CollectState

variable {env : CollectEnv} {s : CollectState} {u : PolicyUpdate}

/-- The policy that an update replaces, and the state with nothing but the policy replaced. -/
def replacement (s : CollectState) (u : PolicyUpdate) : List PolicyEvent × CollectState :=
  match s.findProfile u.systemAbilityId, OnDemandPolicyType.ofInt u.type with
  | some profile, some kind => (profile.policy kind, s.setPolicy u.systemAbilityId kind u.events)
  | _, _ => ([], s)

/-- The events of all policies with the new one in its place. -/
def eventsAfter (s : CollectState) (u : PolicyUpdate) : List PolicyEvent := (s.replacement u).2.events

/-- The events of the old policy that no policy uses then. -/
def withdrawnEvents (s : CollectState) (u : PolicyUpdate) : List PolicyEvent :=
  (s.replacement u).1.filter fun event => !(s.replacement u).2.checkEventUsed event

/-- The withdrawn events of a list, each with the answer of the parameter service. -/
def unusedEntries (env : CollectEnv) (s : CollectState) (events : List PolicyEvent) :
    List (PolicyEvent × Bool) :=
  (events.zipIdx.filter fun entry => !s.checkEventUsed entry.1).map fun entry =>
    (entry.1, env.removeParameterWatcher entry.2)

theorem replacement_eq {profile : CollMgrSaProfile} {kind : OnDemandPolicyType}
    (found : s.findProfile u.systemAbilityId = some profile)
    (valid : OnDemandPolicyType.ofInt u.type = some kind) :
    s.replacement u = (profile.policy kind, s.setPolicy u.systemAbilityId kind u.events) := by
  rw [replacement, found, valid]

/-- The plugins leave the policies alone, so the new policy is put where it would be without them. -/
theorem replaced_onDemandSaProfiles (kind : OnDemandPolicyType) :
    (((s.addCollectEvents u.env u.events).1.setPolicy u.systemAbilityId kind
      u.events).persistOnDemandEvent u.systemAbilityId kind u.events).onDemandSaProfiles =
      (s.setPolicy u.systemAbilityId kind u.events).onDemandSaProfiles := by
  simp only [persistOnDemandEvent, setPolicy, addCollectEvents_onDemandSaProfiles]

theorem checkEventUsed_congr {t : CollectState} (same : t.onDemandSaProfiles = s.onDemandSaProfiles)
    (event : PolicyEvent) : t.checkEventUsed event = s.checkEventUsed event := by
  simp only [checkEventUsed, events, same]

/-- What is used does not change while the withdrawn events are removed. -/
theorem removeUnusedEventsLocked_eq (events : List PolicyEvent) :
    s.removeUnusedEventsLocked env events =
      (s.unusedEntries env events).foldl (fun s entry => s.removeUnusedEvent entry.2 entry.1) s := by
  rw [removeUnusedEventsLocked, unusedEntries]
  have general : ∀ (entries : List (PolicyEvent × Nat)) (t : CollectState),
      t.onDemandSaProfiles = s.onDemandSaProfiles →
      entries.foldl (fun s entry =>
        if s.checkEventUsed entry.1 then s
        else s.removeUnusedEvent (env.removeParameterWatcher entry.2) entry.1) t =
      ((entries.filter fun entry => !s.checkEventUsed entry.1).map fun entry =>
        (entry.1, env.removeParameterWatcher entry.2)).foldl
          (fun s entry => s.removeUnusedEvent entry.2 entry.1) t := by
    intro entries
    induction entries with
    | nil => exact fun _ _ => rfl
    | cons entry entries hypothesis =>
        intro t same
        rw [List.foldl_cons, checkEventUsed_congr same]
        cases used : s.checkEventUsed entry.1
        · simp only [Bool.false_eq_true, if_false, List.filter_cons, used, Bool.not_false, if_true,
            List.map_cons, List.foldl_cons]
          exact hypothesis _ ((removeUnusedEvent_onDemandSaProfiles _ _).trans same)
        · simp only [if_true, List.filter_cons, used, Bool.not_true, Bool.false_eq_true, if_false]
          exact hypothesis t same
  exact general events.zipIdx s rfl

theorem unusedEntries_events (env : CollectEnv) (s : CollectState) (events : List PolicyEvent) :
    (s.unusedEntries env events).map Prod.fst = events.filter fun event => !s.checkEventUsed event := by
  rw [unusedEntries, List.map_map]
  conv => rhs; rw [← List.zipIdx_map_fst 0 events]
  rw [List.filter_map]
  rfl

/-- The common event collector drops the names of its withdrawn events. -/
theorem foldl_removeUnusedEvent_names (entries : List (PolicyEvent × Bool)) (s : CollectState) :
    (entries.foldl (fun s entry => s.removeUnusedEvent entry.2 entry.1) s).commonEventNames =
      (((entries.map Prod.fst).filter fun event => event.eventId == COMMON_EVENT).map fun event =>
        event.name).foldl (fun names name => names.erase name) s.commonEventNames := by
  induction entries generalizing s with
  | nil => rfl
  | cons entry entries hypothesis =>
      rw [List.foldl_cons, hypothesis]
      by_cases common : entry.1.eventId = COMMON_EVENT
      · simp [removeUnusedEvent, common, COMMON_EVENT, PARAM]
      · simp only [removeUnusedEvent, common, if_false, List.map_cons, List.filter_cons, beq_iff_eq]
        split
        · rfl
        · split <;> rfl

/-- The timed collector drops its withdrawn loops. -/
theorem foldl_removeUnusedEvent_timed (entries : List (PolicyEvent × Bool)) (s : CollectState) :
    (entries.foldl (fun s entry => s.removeUnusedEvent entry.2 entry.1) s).deviceTimed =
      ((entries.map Prod.fst).filter fun event => event.eventId == TIMED_EVENT).foldl
        DeviceTimedCollect.removeUnusedEvent s.deviceTimed := by
  induction entries generalizing s with
  | nil => rfl
  | cons entry entries hypothesis =>
      rw [List.foldl_cons, hypothesis]
      by_cases timed : entry.1.eventId = TIMED_EVENT
      · simp [removeUnusedEvent, timed, COMMON_EVENT, PARAM, TIMED_EVENT]
      · simp only [removeUnusedEvent, timed, if_false, List.map_cons, List.filter_cons, beq_iff_eq]
        split
        · rfl
        · split <;> rfl

section Collected

/-- The names that a step makes watched. -/
def stepNames : CollectStep → List String
  | .commonEvents events => events.map fun event => event.name
  | _ => []

/-- What a step makes of the timed collector. -/
def stepTimed (env : CollectEnv) (c : DeviceTimedCollect) : CollectStep → DeviceTimedCollect
  | .timed event answer =>
      if event.name = ORDER_TIMED_EVENT then c.withTimed (env.timed answer) event
      else c.withLoop (env.timed answer) event
  | _ => c

theorem run_addStep_names {steps : List CollectStep} {s : CollectState}
    (all : (Fallible.run (addStep env) s steps).2 = true) {name : String} :
    name ∈ (Fallible.run (addStep env) s steps).1.commonEventNames ↔
      name ∈ s.commonEventNames ∨ ∃ step ∈ steps, name ∈ stepNames step := by
  refine Fallible.run_taken (fun s steps (t : CollectState) => name ∈ t.commonEventNames ↔
    name ∈ s.commonEventNames ∨ ∃ step ∈ steps, name ∈ stepNames step) (fun s => ?_) ?_ all
  · simp
  · intro s step steps t taken later
    rw [later]
    have one : name ∈ (addStep env s step).1.commonEventNames ↔
        name ∈ s.commonEventNames ∨ name ∈ stepNames step := by
      cases step with
      | param event answer => simp [addStep, stepNames]
      | commonEvents events =>
          simp only [addStep] at taken
          simp only [addStep, CommonEventCollect.mem_addCollectEvent, taken, true_and, stepNames,
            List.mem_map]
      | timed event answer =>
          rw [addStep]
          split <;> simp [stepNames]
    simp only [one, List.mem_cons, exists_eq_or_imp, or_assoc]

theorem run_addStep_timed {steps : List CollectStep} {s : CollectState}
    (all : (Fallible.run (addStep env) s steps).2 = true) :
    (Fallible.run (addStep env) s steps).1.deviceTimed = steps.foldl (stepTimed env) s.deviceTimed ∧
      ∀ event answer, .timed event answer ∈ steps → DeviceTimedCollect.takes event = true := by
  refine Fallible.run_taken (fun s steps (t : CollectState) =>
    t.deviceTimed = steps.foldl (stepTimed env) s.deviceTimed ∧
      ∀ event answer, .timed event answer ∈ steps → DeviceTimedCollect.takes event = true)
    (fun s => ?_) ?_ all
  · simp
  · rintro s step steps t taken ⟨same, takes⟩
    have one : (addStep env s step).1.deviceTimed = stepTimed env s.deviceTimed step ∧
        ∀ event answer, .timed event answer = step → DeviceTimedCollect.takes event = true := by
      cases step with
      | param event answer => exact ⟨rfl, fun _ _ other => by cases other⟩
      | commonEvents events => exact ⟨rfl, fun _ _ other => by cases other⟩
      | timed event answer =>
          simp only [addStep, DeviceTimedCollect.addEvent_eq] at taken ⊢
          cases takes : DeviceTimedCollect.takes event
          · simp [takes] at taken
          · refine ⟨by simp [stepTimed], ?_⟩
            intro other _ same
            cases same
            exact takes
    refine ⟨by rw [same, one.1]; rfl, ?_⟩
    intro event answer member
    rcases List.mem_cons.mp member with same | member
    · exact one.2 event answer same
    · exact takes event answer member

/-- If all is taken, it was taken step by step, and the switches have changed nothing else. -/
theorem addCollectEvents_run {events : List PolicyEvent} (taken : (s.addCollectEvents env events).2 = true) :
    ∃ listens, (s.addCollectEvents env events) =
        Fallible.run (addStep env) { s with listensSwitch := listens } (collectSteps env events) := by
  obtain ⟨⟨listens, same⟩, -⟩ := addSwitchEvents_eq s (env.ofPlugin events SETTING_SWITCH)
  rw [addCollectEvents] at taken ⊢
  split
  · rename_i supported
    simp only [supported, if_true] at taken ⊢
    split at taken
    · rename_i switched
      exact ⟨listens, by simp only [switched, if_true, same]⟩
    · rename_i rejected
      exact absurd taken rejected
  · rename_i unsupported
    simp [unsupported] at taken

theorem addCollectEvents_names {events : List PolicyEvent}
    (taken : (s.addCollectEvents env events).2 = true) {name : String} :
    name ∈ (s.addCollectEvents env events).1.commonEventNames ↔
      name ∈ s.commonEventNames ∨
        ∃ event ∈ events, event.eventId = COMMON_EVENT ∧ event.name = name := by
  obtain ⟨listens, same⟩ := addCollectEvents_run taken
  rw [same] at taken ⊢
  rw [run_addStep_names taken]
  refine or_congr_right ?_
  have common := env.ofPlugin_events events COMMON_EVENT
  constructor
  · rintro ⟨step, member, inside⟩
    rw [collectSteps, common] at member
    simp only [List.mem_append, List.mem_map] at member
    rcases member with (⟨entry, -, rfl⟩ | member) | ⟨entry, -, rfl⟩
    · cases inside
    · split at member
      · cases member
      · cases List.mem_singleton.mp member
        obtain ⟨event, member, rfl⟩ := List.mem_map.mp inside
        rw [List.mem_filter, beq_iff_eq] at member
        exact ⟨event, member.1, member.2, rfl⟩
    · cases inside
  · rintro ⟨event, member, own, rfl⟩
    have inside : event ∈ events.filter fun event => event.eventId == COMMON_EVENT :=
      List.mem_filter.mpr ⟨member, by simpa using own⟩
    refine ⟨.commonEvents (events.filter fun event => event.eventId == COMMON_EVENT), ?_,
      List.mem_map.mpr ⟨event, inside, rfl⟩⟩
    have some : (events.filter fun event => event.eventId == COMMON_EVENT).isEmpty = false := by
      rw [List.isEmpty_eq_false_iff]
      exact List.ne_nil_of_mem inside
    simp only [collectSteps, common, some, Bool.false_eq_true, if_false, List.mem_append,
      List.mem_singleton, true_or, or_true]

theorem addCollectEvents_timed {events : List PolicyEvent}
    (taken : (s.addCollectEvents env events).2 = true) :
    (s.addCollectEvents env events).1.deviceTimed =
        (env.ofPlugin events TIMED_EVENT).foldl
          (fun c entry => stepTimed env c (.timed entry.1 entry.2)) s.deviceTimed ∧
      ∀ event ∈ events, event.eventId = TIMED_EVENT → DeviceTimedCollect.takes event = true := by
  obtain ⟨listens, same⟩ := addCollectEvents_run taken
  rw [same] at taken ⊢
  obtain ⟨timed, takes⟩ := run_addStep_timed taken
  constructor
  · rw [timed, collectSteps]
    simp only [List.foldl_append, List.foldl_map]
    congr 1
    have idle : (env.ofPlugin events PARAM).foldl
        (fun c entry => stepTimed env c (.param entry.1 entry.2)) s.deviceTimed = s.deviceTimed := by
      generalize env.ofPlugin events PARAM = entries
      induction entries with
      | nil => rfl
      | cons entry entries hypothesis => exact hypothesis
    rw [idle]
    split <;> rfl
  · intro event member own
    have inside : event ∈ (env.ofPlugin events TIMED_EVENT).map Prod.fst := by
      rw [CollectEnv.ofPlugin_events]
      exact List.mem_filter.mpr ⟨member, by simpa using own⟩
    obtain ⟨entry, within, rfl⟩ := List.mem_map.mp inside
    refine takes entry.1 entry.2 ?_
    simp only [collectSteps, List.mem_append, List.mem_map]
    exact .inr ⟨entry, within, rfl⟩

end Collected

/-- The state when the plugins have taken the new events. -/
def collected (s : CollectState) (u : PolicyUpdate) : CollectState :=
  (s.addCollectEvents u.env u.events).1

/-- What an update that succeeds makes of the policies, the names and the timers. -/
theorem update_parts (succeeded : s.succeeds u = true) :
    (s.addCollectEvents u.env u.events).2 = true ∧ (s.update u).events = s.eventsAfter u ∧
      (s.update u).commonEventNames =
        (((s.withdrawnEvents u).filter fun event => event.eventId == COMMON_EVENT).map fun event =>
          event.name).foldl (fun names name => names.erase name) (s.collected u).commonEventNames ∧
      ∃ preferencesUtil, (s.update u).deviceTimed =
        ((s.withdrawnEvents u).filter fun event => event.eventId == TIMED_EVENT).foldl
          DeviceTimedCollect.removeUnusedEvent { (s.collected u).deviceTimed with preferencesUtil } := by
  rw [succeeds, beq_iff_eq] at succeeded
  obtain ⟨profile, kind, found, valid, taken, same⟩ := updateOnDemandEvents_succeeded succeeded
  have replaced := replacement_eq found valid
  have profiles := replaced_onDemandSaProfiles (s := s) (u := u) kind
  have unused := fun env => unusedEntries_events env
    (((s.addCollectEvents u.env u.events).1.setPolicy u.systemAbilityId kind
      u.events).persistOnDemandEvent u.systemAbilityId kind u.events) (profile.policy kind)
  simp only [checkEventUsed_congr profiles] at unused
  refine ⟨taken, ?_, ?_, ?_⟩
  · rw [update, same, events, removeUnusedEventsLocked_onDemandSaProfiles, profiles, eventsAfter,
      replaced, events]
  · rw [update, same, removeUnusedEventsLocked_eq, foldl_removeUnusedEvent_names, unused,
      withdrawnEvents, replaced]
    rfl
  · rw [update, same, removeUnusedEventsLocked_eq, foldl_removeUnusedEvent_timed, unused,
      withdrawnEvents, replaced]
    exact ⟨_, rfl⟩

theorem mem_update_names (succeeded : s.succeeds u = true) {name : String} :
    name ∈ (s.update u).commonEventNames ↔
      (name ∈ s.commonEventNames ∨
          ∃ event ∈ u.events, event.eventId = COMMON_EVENT ∧ event.name = name) ∧
        ¬ ∃ event ∈ s.withdrawnEvents u, event.eventId = COMMON_EVENT ∧ event.name = name := by
  obtain ⟨taken, -, names, -⟩ := update_parts succeeded
  rw [names, CommonEventCollect.mem_eraseNames, collected, addCollectEvents_names taken]
  simp only [List.mem_map, List.mem_filter, beq_iff_eq, and_assoc]

/-- The new events, the events of the other policies, and no others. -/
theorem mem_eventsAfter (succeeded : s.succeeds u = true) :
    (∀ event ∈ u.events, event ∈ s.eventsAfter u) ∧
      (∀ event ∈ s.eventsAfter u, event ∈ u.events ∨ event ∈ s.events) ∧
      (∀ event ∈ s.events, event ∈ s.eventsAfter u ∨ event ∈ (s.replacement u).1) ∧
      ∀ event ∈ (s.replacement u).1, event ∈ s.events := by
  rw [succeeds, beq_iff_eq] at succeeded
  obtain ⟨profile, kind, found, valid, -, -⟩ := updateOnDemandEvents_succeeded succeeded
  have replaced := replacement_eq found valid
  obtain ⟨-, before, after, whole, set⟩ := setPolicy_eq found kind u.events
  simp only [eventsAfter, replaced, events, whole, set, List.flatMap_append, List.flatMap_cons,
    List.mem_append]
  cases kind <;>
    · simp only [CollMgrSaProfile.events, CollMgrSaProfile.policy, CollMgrSaProfile.setPolicy,
        List.mem_append]
      grind

theorem checkEventUsed_iff {event : PolicyEvent} :
    s.checkEventUsed event = true ↔ ∃ other ∈ s.events, isSameEventName event other = true := by
  simp [checkEventUsed]

theorem isSameEventName_refl (event : PolicyEvent) : isSameEventName event event = true := by
  rw [isSameEventName]
  split <;> simp

/-- An event of the state before is still used after an update, or it is withdrawn. -/
theorem used_or_withdrawn (succeeded : s.succeeds u = true) {event : PolicyEvent}
    (member : event ∈ s.events) :
    (∃ other ∈ s.eventsAfter u, isSameEventName event other = true) ∨ event ∈ s.withdrawnEvents u := by
  rcases (mem_eventsAfter succeeded).2.2.1 event member with stays | old
  · exact .inl ⟨event, stays, isSameEventName_refl event⟩
  · cases used : (s.replacement u).2.checkEventUsed event
    · exact .inr (List.mem_filter.mpr ⟨old, by rw [used]; rfl⟩)
    · exact .inl (checkEventUsed_iff.mp used)

theorem isSameEventName_timed {event other : PolicyEvent} (own : event.eventId = TIMED_EVENT)
    (same : isSameEventName event other = true) :
    other.eventId = TIMED_EVENT ∧ other.name = event.name ∧ other.value = event.value ∧
      other.persistence = event.persistence := by
  simp only [isSameEventName, own, ne_eq, not_true_eq_false, if_false, Bool.and_eq_true,
    beq_iff_eq] at same
  exact ⟨same.1.1.1.symm, same.1.1.2.symm, same.1.2.symm, same.2.symm⟩

end CollectState

end Samgr
