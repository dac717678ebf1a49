import Samgr.Collect.Updates
import Samgr.Lib.Runs

/-! The parameters that the collector watches. `Init` leaves them pending until the parameter service
is there; an update watches its own, and the last use of a name that it takes away is withdrawn. -/
namespace Samgr

namespace DeviceParamCollect

variable {c : DeviceParamCollect} {entries : List (PolicyEvent × EventAnswer)} {name : String}

/-- One event of `AddCollectEvent`, with what is answered while it is handled. -/
def addAnswered (c : DeviceParamCollect) (entry : PolicyEvent × EventAnswer) :
    DeviceParamCollect × Bool :=
  c.addEvent entry.2.watchParameter entry.1

/-- The names that `AddCollectEvent` gets registered, one for each call of `WatchParameter` that
succeeds. The first call that fails ends it. -/
def registered (c : DeviceParamCollect) : List (PolicyEvent × EventAnswer) → List String
  | [] => []
  | entry :: entries =>
      if entry.1.name ∈ c.params then registered c entries
      else if entry.2.watchParameter then
        entry.1.name :: registered { c with params := c.params.insert entry.1.name } entries
      else []

theorem mem_init {saProfiles : List CollMgrSaProfile} :
    name ∈ (init saProfiles).pendingParams ↔
      ∃ event ∈ saProfiles.flatMap CollMgrSaProfile.events, event.eventId = PARAM ∧ event.name = name := by
  have names : (init saProfiles).pendingParams = CommonEventCollect.insertNames ∅
      (((saProfiles.flatMap CollMgrSaProfile.events).filter fun event => event.eventId == PARAM).map
        fun event => event.name) := by
    rw [init, CommonEventCollect.insertNames, List.foldl_map]
  rw [names, CommonEventCollect.mem_insertNames]
  simp only [Std.TreeSet.not_mem_emptyc, false_or, List.mem_map, List.mem_filter, beq_iff_eq, and_assoc]

theorem mem_watchParameters {watched : String → Bool} :
    name ∈ (c.watchParameters watched).params ↔
      name ∈ c.params ∨ (name ∈ c.pendingParams ∧ watched name = true) := by
  rw [watchParameters]
  simp only [← Std.TreeSet.mem_toList]
  generalize c.pendingParams.toList = pending
  generalize c.params = params
  induction pending generalizing params with
  | nil => simp
  | cons first rest hypothesis =>
      rw [List.foldl_cons, hypothesis]
      simp only [List.mem_cons]
      split
      · simp only [Std.TreeSet.mem_toList, Std.TreeSet.mem_insert, Std.compare_eq_iff_eq]
        grind
      · grind

/-- What is watched after `AddCollectEvent`, whether it fails or not. -/
theorem mem_run_addAnswered :
    name ∈ (Fallible.run addAnswered c entries).1.params ↔
      name ∈ c.params ∨ name ∈ c.registered entries := by
  induction entries generalizing c with
  | nil => simp [registered]
  | cons entry entries hypothesis =>
      rw [Fallible.run, registered, addAnswered, addEvent]
      by_cases watched : entry.1.name ∈ c.params
      · simp only [watched, if_true]
        exact hypothesis
      · cases answer : entry.2.watchParameter
        · simp [watched]
        · simp only [watched, if_false, if_true, hypothesis, List.mem_cons, Std.TreeSet.mem_insert,
            Std.compare_eq_iff_eq]
          grind

theorem run_addAnswered_pending :
    (Fallible.run addAnswered c entries).1.pendingParams = c.pendingParams := by
  refine Fallible.run_keeps (fun d : DeviceParamCollect => d.pendingParams = c.pendingParams) entries ?_ rfl
  intro d entry _ before
  rw [addAnswered, addEvent]
  split
  · exact before
  · split <;> exact before

/-- A name is registered once, and only if it was not watched. -/
theorem registered_fresh (c : DeviceParamCollect) (entries : List (PolicyEvent × EventAnswer)) :
    (c.registered entries).Nodup ∧ ∀ name ∈ c.registered entries, name ∉ c.params := by
  induction entries generalizing c with
  | nil => simp [registered]
  | cons entry entries hypothesis =>
      rw [registered]
      split
      · exact hypothesis c
      · rename_i fresh
        split
        · obtain ⟨once, later⟩ := hypothesis { c with params := c.params.insert entry.1.name }
          simp only [Std.TreeSet.mem_insert, Std.compare_eq_iff_eq, not_or] at later
          refine ⟨List.nodup_cons.mpr ⟨fun again => (later _ again).1 rfl, once⟩, ?_⟩
          intro name member
          rcases List.mem_cons.mp member with rfl | member
          · exact fresh
          · exact (later name member).2
        · simp

theorem mem_registered (member : name ∈ c.registered entries) : ∃ entry ∈ entries, entry.1.name = name := by
  induction entries generalizing c with
  | nil => cases member
  | cons entry entries hypothesis =>
      rw [List.exists_mem_cons_iff]
      rw [registered] at member
      split at member
      · exact .inr (hypothesis member)
      · split at member
        · rcases List.mem_cons.mp member with rfl | member
          · exact .inl rfl
          · exact .inr (hypothesis member)
        · cases member

theorem run_addAnswered_taken (taken : (Fallible.run addAnswered c entries).2 = true) :
    ∀ entry ∈ entries, entry.1.name ∈ (Fallible.run addAnswered c entries).1.params := by
  intro entry member
  refine @Fallible.run_gives _ _ _ (fun entry d => entry.1.name ∈ d.params) entries ?_ ?_ _ taken _ member
  · intro d entry _ accepted
    rw [addAnswered, addEvent] at accepted ⊢
    split
    · assumption
    · split
      · simp
      · simp_all
  · intro d entry other _ before
    rw [addAnswered, addEvent]
    split
    · exact before
    · split
      · simp [before]
      · exact before

end DeviceParamCollect

namespace CollectState

variable {env : CollectEnv} {s : CollectState} {u : PolicyUpdate}

/-- What the parameter collector is called with when new events are handed to the plugins; the
plugins of lower ids may refuse before it. -/
def paramCalls (env : CollectEnv) (s : CollectState) (events : List PolicyEvent) :
    List (PolicyEvent × EventAnswer) :=
  if (events.all fun event => isExistInPluginMap event.eventId) &&
      (Fallible.run addSwitchEvent s (env.ofPlugin events SETTING_SWITCH)).2 then
    env.ofPlugin events PARAM
  else []

theorem run_addStep_params (entries : List (PolicyEvent × EventAnswer)) (s : CollectState) :
    Fallible.run (addStep env) s (entries.map fun entry => .param entry.1 entry.2) =
      ({ s with deviceParam := (Fallible.run DeviceParamCollect.addAnswered s.deviceParam entries).1 },
        (Fallible.run DeviceParamCollect.addAnswered s.deviceParam entries).2) := by
  induction entries generalizing s with
  | nil => rfl
  | cons entry entries hypothesis =>
      have one : addStep env s (.param entry.1 entry.2) =
          ({ s with deviceParam := (s.deviceParam.addAnswered entry).1 },
            (s.deviceParam.addAnswered entry).2) := rfl
      rw [List.map_cons]
      cases taken : (s.deviceParam.addAnswered entry).2
      · rw [Fallible.run_rejected (by rw [one, taken]), Fallible.run_rejected taken, one]
      · rw [Fallible.run_accepted (by rw [one, taken]), Fallible.run_accepted taken, one, hypothesis]

/-- The plugins of higher ids come after the parameter collector. -/
theorem addCollectEvents_params (env : CollectEnv) (s : CollectState) (events : List PolicyEvent) :
    (s.addCollectEvents env events).1.deviceParam =
        (Fallible.run DeviceParamCollect.addAnswered s.deviceParam (s.paramCalls env events)).1 ∧
      ((s.addCollectEvents env events).2 = true →
        (Fallible.run DeviceParamCollect.addAnswered s.deviceParam (s.paramCalls env events)).2 = true ∧
          s.paramCalls env events = env.ofPlugin events PARAM) := by
  obtain ⟨⟨listens, same⟩, -⟩ := addSwitchEvents_eq s (env.ofPlugin events SETTING_SWITCH)
  rw [addCollectEvents, paramCalls]
  cases supported : events.all fun event => isExistInPluginMap event.eventId
  · simp
  · cases switched : (Fallible.run addSwitchEvent s (env.ofPlugin events SETTING_SWITCH)).2
    · simp [same, switched]
    · simp only [switched, if_true, Bool.and_true, same, collectSteps, List.append_assoc]
      rw [Fallible.run_append, run_addStep_params]
      cases (Fallible.run DeviceParamCollect.addAnswered s.deviceParam (env.ofPlugin events PARAM)).2
      · simp
      · simp only [if_true, implies_true, and_true]
        refine Fallible.run_keeps (fun t : CollectState => t.deviceParam =
          (Fallible.run DeviceParamCollect.addAnswered s.deviceParam (env.ofPlugin events PARAM)).1) _ ?_ rfl
        intro t step member before
        rcases List.mem_append.mp member with common | timed
        · split at common
          · cases common
          · cases List.mem_singleton.mp common
            exact before
        · obtain ⟨entry, -, rfl⟩ := List.mem_map.mp timed
          rw [addStep]
          split <;> exact before

/-- The calls of an update, which first looks for the profile. -/
def handed (s : CollectState) (u : PolicyUpdate) : List (PolicyEvent × EventAnswer) :=
  if (s.findProfile u.systemAbilityId).isSome then s.paramCalls u.env u.events else []

/-- The names that an update gets registered, also when it fails later. -/
def registeredBy (s : CollectState) (u : PolicyUpdate) : List String :=
  s.deviceParam.registered (s.handed u)

/-- `UpdateOnDemandEvents` up to `RemoveUnusedEventsLocked`, and if it comes so far, the events that
are to be withdrawn, each with the answer of the parameter service. -/
def replacePolicy (s : CollectState) (u : PolicyUpdate) :
    CollectState × Option (List (PolicyEvent × Bool)) :=
  match s.findProfile u.systemAbilityId with
  | none => (s, none)
  | some profile =>
      let collected := s.addCollectEvents u.env u.events
      if collected.2 then
        match OnDemandPolicyType.ofInt u.type with
        | none => (collected.1, none)
        | some type =>
            let replaced := (collected.1.setPolicy u.systemAbilityId type
              u.events).persistOnDemandEvent u.systemAbilityId type u.events
            (replaced, some (replaced.unusedEntries u.env (profile.policy type)))
      else (collected.1, none)

/-- The whole update is its first part and then one withdrawal after another. -/
theorem update_eq_replacePolicy (s : CollectState) (u : PolicyUpdate) :
    s.update u = ((s.replacePolicy u).2.getD []).foldl
        (fun s entry => s.removeUnusedEvent entry.2 entry.1) (s.replacePolicy u).1 ∧
      s.succeeds u = (s.replacePolicy u).2.isSome := by
  rw [update, succeeds, updateOnDemandEvents, replacePolicy]
  cases s.findProfile u.systemAbilityId with
  | none => exact ⟨rfl, rfl⟩
  | some profile =>
      simp only
      cases (s.addCollectEvents u.env u.events).2
      · exact ⟨rfl, rfl⟩
      · cases OnDemandPolicyType.ofInt u.type with
        | none => exact ⟨rfl, rfl⟩
        | some kind => exact ⟨removeUnusedEventsLocked_eq _, rfl⟩

theorem replacePolicy_deviceParam (s : CollectState) (u : PolicyUpdate) :
    (s.replacePolicy u).1.deviceParam =
        (Fallible.run DeviceParamCollect.addAnswered s.deviceParam (s.handed u)).1 ∧
      (s.succeeds u = true →
        ∀ event ∈ u.events, event.eventId = PARAM →
          event.name ∈ (s.replacePolicy u).1.deviceParam.params) := by
  rw [(update_eq_replacePolicy s u).2, replacePolicy, handed]
  cases s.findProfile u.systemAbilityId with
  | none => exact ⟨rfl, fun never => by cases never⟩
  | some profile =>
      obtain ⟨params, whole⟩ := addCollectEvents_params u.env s u.events
      simp only [Option.isSome_some, if_true]
      cases taken : (s.addCollectEvents u.env u.events).2
      · exact ⟨params, fun never => by cases never⟩
      · cases OnDemandPolicyType.ofInt u.type with
        | none => exact ⟨params, fun never => by cases never⟩
        | some kind =>
            refine ⟨params, fun _ event member own => ?_⟩
            obtain ⟨accepted, calls⟩ := whole taken
            have called : event ∈ (s.paramCalls u.env u.events).map Prod.fst := by
              rw [calls, CollectEnv.ofPlugin_events]
              exact List.mem_filter.mpr ⟨member, by simpa using own⟩
            obtain ⟨entry, inside, rfl⟩ := List.mem_map.mp called
            have watched := DeviceParamCollect.run_addAnswered_taken accepted entry inside
            rw [← params] at watched
            exact watched

theorem mem_replacePolicy_params {name : String} :
    name ∈ (s.replacePolicy u).1.deviceParam.params ↔
      name ∈ s.deviceParam.params ∨ name ∈ s.registeredBy u := by
  rw [(replacePolicy_deviceParam s u).1]
  exact DeviceParamCollect.mem_run_addAnswered

theorem mem_replacePolicy_pending {name : String} :
    name ∈ (s.replacePolicy u).1.deviceParam.pendingParams ↔ name ∈ s.deviceParam.pendingParams := by
  rw [(replacePolicy_deviceParam s u).1, DeviceParamCollect.run_addAnswered_pending]

/-- Only names of the new events are registered. -/
theorem mem_registeredBy {name : String} (member : name ∈ s.registeredBy u) :
    ∃ event ∈ u.events, event.eventId = PARAM ∧ event.name = name := by
  obtain ⟨entry, inside, rfl⟩ := DeviceParamCollect.mem_registered member
  rw [handed] at inside
  split at inside
  · rw [paramCalls] at inside
    split at inside
    · have own : entry.1 ∈ (u.env.ofPlugin u.events PARAM).map Prod.fst := List.mem_map_of_mem inside
      rw [CollectEnv.ofPlugin_events, List.mem_filter, beq_iff_eq] at own
      exact ⟨entry.1, own.1, own.2, rfl⟩
    · cases inside
  · cases inside

/-- Each name is registered at most once, and only if it was not watched. -/
theorem registrations_replacePolicy {name : String} :
    ((if name ∈ s.deviceParam.params then 1 else 0) + (s.registeredBy u).count name : Nat) =
      if name ∈ (s.replacePolicy u).1.deviceParam.params then 1 else 0 := by
  obtain ⟨once, fresh⟩ := DeviceParamCollect.registered_fresh s.deviceParam (s.handed u)
  rw [registeredBy, List.Nodup.count once]
  simp only [mem_replacePolicy_params, registeredBy]
  have disjoint := fresh name
  split <;> split <;> grind

theorem replacePolicy_failed (failed : s.succeeds u = false) :
    (s.replacePolicy u).1.events = s.events ∧ (s.replacePolicy u).2 = none := by
  rw [(update_eq_replacePolicy s u).2, Option.isSome_eq_false_iff, Option.isNone_iff_eq_none] at failed
  refine ⟨?_, failed⟩
  rw [replacePolicy] at failed ⊢
  cases found : s.findProfile u.systemAbilityId with
  | none => rfl
  | some profile =>
      simp only [found] at failed ⊢
      split
      · rename_i taken
        cases valid : OnDemandPolicyType.ofInt u.type with
        | none => rw [events, addCollectEvents_onDemandSaProfiles, events]
        | some kind => simp [taken, valid] at failed
      · rw [events, addCollectEvents_onDemandSaProfiles, events]

theorem replacePolicy_succeeded (succeeded : s.succeeds u = true) :
    (s.replacePolicy u).1.events = s.eventsAfter u ∧
      ((s.replacePolicy u).2.getD []).map Prod.fst = s.withdrawnEvents u := by
  rw [succeeds, beq_iff_eq] at succeeded
  obtain ⟨profile, kind, found, valid, taken, -⟩ := updateOnDemandEvents_succeeded succeeded
  have replaced := replacement_eq found valid
  have profiles := replaced_onDemandSaProfiles (s := s) (u := u) kind
  rw [replacePolicy, found, valid]
  simp only [taken, if_true, Option.getD_some]
  constructor
  · rw [events, profiles, eventsAfter, replaced, events]
  · rw [unusedEntries_events, withdrawnEvents, replaced]
    simp only [checkEventUsed_congr profiles]

theorem isSameEventName_param {event other : PolicyEvent} (own : event.eventId = PARAM) :
    isSameEventName event other = true ↔ other.eventId = PARAM ∧ other.name = event.name := by
  rw [isSameEventName, if_pos (by rw [own]; decide), own, Bool.and_eq_true, beq_iff_eq, beq_iff_eq]
  exact and_congr eq_comm eq_comm

/-- A name of the state before is still used after an update, or an event of it is withdrawn. -/
theorem used_or_leaving (succeeded : s.succeeds u = true) {event : PolicyEvent}
    (member : event ∈ s.events) (own : event.eventId = PARAM) :
    (∃ other ∈ (s.replacePolicy u).1.events, other.eventId = PARAM ∧ other.name = event.name) ∨
      event ∈ ((s.replacePolicy u).2.getD []).map Prod.fst := by
  obtain ⟨after, withdrawn⟩ := replacePolicy_succeeded succeeded
  rw [after, withdrawn]
  refine (used_or_withdrawn succeeded member).imp_left ?_
  rintro ⟨other, inside, same⟩
  exact ⟨other, inside, (isSameEventName_param own).mp same⟩

/-- A withdrawn event was in the old policy, and no policy uses its name. -/
theorem leaving_unused (succeeded : s.succeeds u = true) {entry : PolicyEvent × Bool}
    (member : entry ∈ (s.replacePolicy u).2.getD []) (own : entry.1.eventId = PARAM) :
    entry.1 ∈ s.events ∧ ∀ other ∈ (s.replacePolicy u).1.events,
      other.eventId = PARAM → other.name ≠ entry.1.name := by
  obtain ⟨after, withdrawn⟩ := replacePolicy_succeeded succeeded
  have inside : entry.1 ∈ s.withdrawnEvents u := withdrawn ▸ List.mem_map_of_mem member
  obtain ⟨old, unused⟩ := List.mem_filter.mp inside
  refine ⟨(mem_eventsAfter succeeded).2.2.2 entry.1 old, fun other present param same => ?_⟩
  rw [after] at present
  have used : (s.replacement u).2.checkEventUsed entry.1 = true :=
    checkEventUsed_iff.mpr ⟨other, present, (isSameEventName_param own).mpr ⟨param, same⟩⟩
  simp [used] at unused

/-- A name that some current profile uses. -/
def usesParam (s : CollectState) (name : String) : Bool :=
  s.events.any fun event => event.eventId == PARAM && event.name == name

theorem usesParam_iff {name : String} :
    s.usesParam name = true ↔ ∃ event ∈ s.events, event.eventId = PARAM ∧ event.name = name := by
  simp [usesParam]

theorem usesParam_eq_false_iff {name : String} :
    s.usesParam name = false ↔ ∀ event ∈ s.events, event.eventId = PARAM → event.name ≠ name := by
  simp [usesParam]

theorem mem_removeUnusedEvent_params {removed : Bool} {event : PolicyEvent} {name : String} :
    name ∈ (s.removeUnusedEvent removed event).deviceParam.params ↔ name ∈ s.deviceParam.params ∧
      ¬ (event.eventId = PARAM ∧ event.name = name ∧ removed = true) := by
  by_cases own : event.eventId = PARAM
  · simp only [removeUnusedEvent, own, if_true, DeviceParamCollect.removeUnusedEvent]
    split
    · simp only [Std.TreeSet.mem_erase, ne_eq, Std.compare_eq_iff_eq]
      grind
    · grind
  · simp only [removeUnusedEvent, own, if_false, false_and, not_false_eq_true, and_true]
    split
    · exact Iff.rfl
    · split <;> exact Iff.rfl

/-- What waits is not looked at. -/
theorem removeUnusedEvent_pending (removed : Bool) (event : PolicyEvent) :
    (s.removeUnusedEvent removed event).deviceParam.pendingParams = s.deviceParam.pendingParams := by
  rw [removeUnusedEvent]
  split
  · rw [DeviceParamCollect.removeUnusedEvent]
    split <;> rfl
  · split
    · rfl
    · split <;> rfl

theorem usesParam_initPlugins {saProfiles : List CollMgrSaProfile} {name : String} :
    (s.initPlugins saProfiles).usesParam name = true ↔
      s.usesParam name = true ∨ name ∈ (DeviceParamCollect.init saProfiles).pendingParams := by
  have all : (s.initPlugins saProfiles).events =
      s.events ++ saProfiles.flatMap CollMgrSaProfile.events := by
    rw [events, initPlugins, List.flatMap_append, filterOnDemandSaProfiles_events]
    rfl
  rw [usesParam_iff, usesParam_iff, DeviceParamCollect.mem_init, all]
  simp only [List.mem_append, or_and_right, exists_or]

end CollectState

/-- The parameters in use over a run. Beside the manager there are the live registrations of its
parameter collector, name by name, and the names that updates which succeeded have left without a
use. While `unused` is not empty, an update is withdrawing these events and holds the lock of the
profiles. -/
structure ParamUse where
  manager : CollectState := { onDemandSaProfiles := [] }
  unused : List (PolicyEvent × Bool) := []
  registrations : String → Nat := fun _ => 0
  gone : String → Bool := fun _ => false

/-- What is done at a time. `WatchParameters` may come between the withdrawals of an update. -/
inductive ParamStep where
  | init (saProfiles : List CollMgrSaProfile)
  | updateOnDemandEvents (u : PolicyUpdate)
  | removeUnusedEvent
  | watchParameters (watched : String → Bool)

namespace ParamUse

open CollectState

variable (x : ParamUse)

def params : Std.TreeSet String := x.manager.deviceParam.params

def pendingParams : Std.TreeSet String := x.manager.deviceParam.pendingParams

/-- Some event of the name is still to be withdrawn. -/
def leaving (entries : List (PolicyEvent × Bool)) (name : String) : Bool :=
  entries.any fun entry => entry.1.eventId == PARAM && entry.1.name == name

/-- A call of `WatchParameter` that succeeds is one more registration, and `RemoveParameterWatcher`
takes all of a name. `Init` and a further update wait for the lock of the profiles. -/
def step (x : ParamUse) : ParamStep → ParamUse
  | .init saProfiles =>
      if x.unused.isEmpty then
        let manager := x.manager.initPlugins saProfiles
        { manager, gone := fun name => x.gone name && !manager.usesParam name }
      else x
  | .updateOnDemandEvents u =>
      if x.unused.isEmpty then
        let replaced := x.manager.replacePolicy u
        { manager := replaced.1
          unused := replaced.2.getD []
          registrations := fun name => x.registrations name + (x.manager.registeredBy u).count name
          gone := fun name =>
            if replaced.2.isSome then
              (x.gone name || x.manager.usesParam name) && !replaced.1.usesParam name
            else x.gone name }
      else x
  | .removeUnusedEvent =>
      match x.unused with
      | [] => x
      | (event, removed) :: unused =>
          { x with
            manager := x.manager.removeUnusedEvent removed event
            unused := unused
            registrations := fun name =>
              if event.eventId = PARAM ∧ event.name = name ∧ name ∈ x.params ∧ removed then 0
              else x.registrations name }
  | .watchParameters watched =>
      { x with
        manager := { x.manager with deviceParam := x.manager.deviceParam.watchParameters watched }
        registrations := fun name =>
          x.registrations name + if name ∈ x.pendingParams ∧ watched name then 1 else 0 }

/-- Every name in use is watched or waits for it, none is watched twice, and the last use of a name
has taken both away. -/
def ExactlyInUse : Prop :=
  (∀ name, x.manager.usesParam name = true → 0 < x.registrations name ∨ name ∈ x.pendingParams) ∧
    (∀ name, x.registrations name ≤ 1) ∧
    ∀ name, x.gone name = true → leaving x.unused name = false →
      x.registrations name = 0 ∧ name ∉ x.pendingParams

/-- What keeps this: `Init` covers what was in use, an update that fails has no name registered that
an earlier one has withdrawn, a name is withdrawn when it does not wait and its watcher can be
removed, and the names that wait are watched if they are used and not watched yet, and only then
if they are watched. -/
def keepsUse (x : ParamUse) : ParamStep → Bool
  | .init saProfiles =>
      !x.unused.isEmpty || x.manager.events.all fun event =>
        event.eventId != PARAM || event.name ∈ (DeviceParamCollect.init saProfiles).pendingParams
  | .updateOnDemandEvents u =>
      !x.unused.isEmpty || x.manager.succeeds u ||
        (x.manager.registeredBy u).all fun name => !x.gone name
  | .removeUnusedEvent =>
      match x.unused with
      | [] => true
      | (event, removed) :: unused =>
          event.eventId != PARAM || leaving unused event.name ||
            (event.name ∉ x.pendingParams && (event.name ∉ x.params || removed))
  | .watchParameters watched =>
      x.pendingParams.toList.all fun name =>
        if name ∈ x.params then !watched name else !x.manager.usesParam name || watched name

/-- The registrations are what the collector takes for watched, and the names that are gone are those
that are being withdrawn or are neither watched nor waiting. -/
structure Exact : Prop where
  once : ∀ name, x.registrations name = if name ∈ x.params then 1 else 0
  held : ∀ name, x.manager.usesParam name = true → name ∈ x.params ∨ name ∈ x.pendingParams
  left : ∀ name, x.gone name = true → x.manager.usesParam name = false
  entered : ∀ entry ∈ x.unused, entry.1.eventId = PARAM → x.gone entry.1.name = true
  free : ∀ name, x.gone name = true → leaving x.unused name = false →
    name ∉ x.params ∧ name ∉ x.pendingParams

variable {x}

theorem leaving_eq_false_iff {entries : List (PolicyEvent × Bool)} {name : String} :
    leaving entries name = false ↔
      ∀ entry ∈ entries, entry.1.eventId = PARAM → entry.1.name ≠ name := by
  simp [leaving]

theorem Exact.exactlyInUse (exact : x.Exact) : x.ExactlyInUse := by
  refine ⟨fun name used => ?_, fun name => ?_, fun name gone alone => ?_⟩
  · rw [exact.once]
    rcases exact.held name used with watched | waits
    · exact .inl (by simp [watched])
    · exact .inr waits
  · rw [exact.once]
    split <;> omega
  · obtain ⟨unwatched, still⟩ := exact.free name gone alone
    exact ⟨by rw [exact.once, if_neg unwatched], still⟩

theorem covers_iff {saProfiles : List CollMgrSaProfile} (free : x.unused = []) :
    x.keepsUse (.init saProfiles) = true ↔ ∀ name, x.manager.usesParam name = true →
      name ∈ (DeviceParamCollect.init saProfiles).pendingParams := by
  simp only [keepsUse, free, List.isEmpty_nil, Bool.not_true, Bool.false_or, List.all_eq_true,
    Bool.or_eq_true, bne_iff_ne, decide_eq_true_eq, usesParam_iff]
  constructor
  · rintro all name ⟨event, member, own, rfl⟩
    exact (all event member).resolve_left (not_not_intro own)
  · intro all event member
    by_cases own : event.eventId = PARAM
    · exact .inr (all _ ⟨event, member, own, rfl⟩)
    · exact .inl own

section Init

variable {saProfiles : List CollMgrSaProfile} (free : x.unused = [])

include free

theorem init_exact (covers : x.keepsUse (.init saProfiles) = true) : (x.step (.init saProfiles)).Exact := by
  rw [covers_iff free] at covers
  rw [step, free]
  refine ⟨fun name => ?_, fun name used => ?_, fun name gone => ?_, fun entry member => ?_, ?_⟩
  · exact (if_neg (Std.TreeSet.not_mem_emptyc)).symm
  · rcases usesParam_initPlugins.mp used with before | named
    · exact .inr (covers name before)
    · exact .inr named
  · simpa using (Bool.and_eq_true_iff.mp gone).2
  · cases member
  · intro name gone _
    refine ⟨Std.TreeSet.not_mem_emptyc, fun waits => ?_⟩
    have used := usesParam_initPlugins (s := x.manager) |>.mpr (.inr waits)
    have unused : (x.manager.initPlugins saProfiles).usesParam name = false := by
      simpa using (Bool.and_eq_true_iff.mp gone).2
    rw [used] at unused
    cases unused

theorem init_breaks (misses : ¬ x.keepsUse (.init saProfiles) = true) :
    ¬ (x.step (.init saProfiles)).ExactlyInUse := by
  rw [covers_iff free] at misses
  intro promise
  refine misses fun name used => ?_
  have now := promise.1 name
  rw [step, free] at now
  rcases now (usesParam_initPlugins.mpr (.inl used)) with watched | waits
  · exact absurd watched (Nat.lt_irrefl 0)
  · exact waits

end Init

section Update

variable {u : PolicyUpdate} (free : x.unused = [])

include free

/-- While nothing is being withdrawn, an update goes ahead. -/
theorem step_update : x.step (.updateOnDemandEvents u) =
    { manager := (x.manager.replacePolicy u).1
      unused := (x.manager.replacePolicy u).2.getD []
      registrations := fun name => x.registrations name + (x.manager.registeredBy u).count name
      gone :=
        if x.manager.succeeds u then fun name =>
          (x.gone name || x.manager.usesParam name) && !(x.manager.replacePolicy u).1.usesParam name
        else x.gone } := by
  rw [step, (update_eq_replacePolicy x.manager u).2]
  simp only [free, List.isEmpty_nil, if_true]
  split <;> rfl

theorem succeeded_exact (succeeded : x.manager.succeeds u = true) (exact : x.Exact) :
    (x.step (.updateOnDemandEvents u)).Exact := by
  rw [step_update free, if_pos succeeded]
  obtain ⟨after, -⟩ := replacePolicy_succeeded succeeded
  refine ⟨fun name => ?_, fun name used => ?_, fun name gone => ?_, fun entry member own => ?_, ?_⟩
  · simp only [exact.once]
    exact registrations_replacePolicy
  · obtain ⟨event, member, own, rfl⟩ := usesParam_iff.mp used
    rw [after] at member
    rcases (mem_eventsAfter succeeded).2.1 event member with new | old
    · exact .inl ((replacePolicy_deviceParam x.manager u).2 succeeded event new own)
    · rcases exact.held _ (usesParam_iff.mpr ⟨event, old, own, rfl⟩) with watched | waits
      · exact .inl (mem_replacePolicy_params.mpr (.inl watched))
      · exact .inr (mem_replacePolicy_pending.mpr waits)
  · simpa using (Bool.and_eq_true_iff.mp gone).2
  · obtain ⟨old, unused⟩ := leaving_unused succeeded member own
    have before : x.manager.usesParam entry.1.name = true := usesParam_iff.mpr ⟨entry.1, old, own, rfl⟩
    simp only [before, Bool.or_true, Bool.true_and, Bool.not_eq_true', usesParam_eq_false_iff]
    exact unused
  · intro name gone alone
    simp only [Bool.and_eq_true, Bool.or_eq_true, Bool.not_eq_true', usesParam_eq_false_iff] at gone
    obtain ⟨before, unused⟩ := gone
    -- a name in use before is among the withdrawn ones, so only older names are meant
    have idle : x.manager.usesParam name = false := by
      rw [usesParam_eq_false_iff]
      rintro event member own rfl
      rcases used_or_leaving succeeded member own with ⟨other, inside, param, same⟩ | withdrawn
      · exact unused other inside param same
      · obtain ⟨entry, inside, rfl⟩ := List.mem_map.mp withdrawn
        exact leaving_eq_false_iff.mp alone entry inside own rfl
    obtain ⟨unwatched, still⟩ := exact.free name (before.resolve_right (by simp [idle]))
      (by rw [free]; rfl)
    refine ⟨fun watched => ?_, fun waits => still (mem_replacePolicy_pending.mp waits)⟩
    rcases mem_replacePolicy_params.mp watched with watched | registered
    · exact unwatched watched
    · obtain ⟨event, new, own, same⟩ := mem_registeredBy registered
      exact unused event (after ▸ (mem_eventsAfter succeeded).1 event new) own same

theorem failed_exact (failed : x.manager.succeeds u = false)
    (fresh : ∀ name ∈ x.manager.registeredBy u, x.gone name = false) (exact : x.Exact) :
    (x.step (.updateOnDemandEvents u)).Exact := by
  obtain ⟨same, none⟩ := replacePolicy_failed failed
  have uses : ∀ name, (x.manager.replacePolicy u).1.usesParam name = x.manager.usesParam name := by
    intro name
    rw [usesParam, same, usesParam]
  rw [step_update free, if_neg (by simp [failed]), none]
  refine ⟨fun name => ?_, fun name used => ?_, fun name gone => ?_, fun entry member => ?_, ?_⟩
  · simp only [exact.once]
    exact registrations_replacePolicy
  · rcases exact.held name (uses name ▸ used) with watched | waits
    · exact .inl (mem_replacePolicy_params.mpr (.inl watched))
    · exact .inr (mem_replacePolicy_pending.mpr waits)
  · exact (uses name).trans (exact.left name gone)
  · cases member
  · intro name gone _
    obtain ⟨unwatched, still⟩ := exact.free name gone (by rw [free]; rfl)
    refine ⟨fun watched => ?_, fun waits => still (mem_replacePolicy_pending.mp waits)⟩
    rcases mem_replacePolicy_params.mp watched with watched | registered
    · exact unwatched watched
    · rw [fresh name registered] at gone
      cases gone

theorem update_breaks (lost : ¬ x.keepsUse (.updateOnDemandEvents u) = true) :
    ¬ (x.step (.updateOnDemandEvents u)).ExactlyInUse := by
  simp only [keepsUse, free, List.isEmpty_nil, Bool.not_true, Bool.false_or, Bool.or_eq_true, not_or,
    Bool.not_eq_true, List.all_eq_false, Bool.not_eq_true', Bool.not_eq_false] at lost
  obtain ⟨failed, name, registered, gone⟩ := lost
  intro promise
  have none := (replacePolicy_failed failed).2
  have now := promise.2.2 name
  rw [step_update free, if_neg (by simp [failed]), none] at now
  have count : 0 < (x.manager.registeredBy u).count name := List.count_pos_iff.mpr registered
  have zero := (now gone rfl).1
  simp only at zero
  omega

end Update

section Remove

variable {event : PolicyEvent} {removed : Bool} {unused : List (PolicyEvent × Bool)}
  (next : x.unused = (event, removed) :: unused)

include next

theorem step_remove : x.step .removeUnusedEvent =
    { x with
      manager := x.manager.removeUnusedEvent removed event
      unused := unused
      registrations := fun name =>
        if event.eventId = PARAM ∧ event.name = name ∧ name ∈ x.params ∧ removed then 0
        else x.registrations name } := by
  rw [step, next]

theorem withdrawable_iff : x.keepsUse .removeUnusedEvent = true ↔
    (event.eventId = PARAM → leaving unused event.name = false →
      event.name ∉ x.pendingParams ∧ (event.name ∈ x.params → removed = true)) := by
  simp only [keepsUse, next, Bool.or_eq_true, Bool.and_eq_true, bne_iff_ne, decide_eq_true_eq]
  cases leaving unused event.name <;> grind

theorem leaving_next {name : String} (alone : leaving unused name = false)
    (other : ¬ (event.eventId = PARAM ∧ event.name = name)) : leaving x.unused name = false := by
  rw [leaving_eq_false_iff] at alone ⊢
  rw [next]
  intro entry member own same
  rcases List.mem_cons.mp member with rfl | member
  · exact other ⟨own, same⟩
  · exact alone entry member own same

theorem usesParam_step_remove (name : String) :
    (x.step .removeUnusedEvent).manager.usesParam name = x.manager.usesParam name := by
  rw [step_remove next]
  simp only [usesParam, events, removeUnusedEvent_onDemandSaProfiles]

theorem remove_exact (withdrawable : x.keepsUse .removeUnusedEvent = true) (exact : x.Exact) :
    (x.step .removeUnusedEvent).Exact := by
  rw [withdrawable_iff next] at withdrawable
  have uses := usesParam_step_remove next
  rw [step_remove next] at uses ⊢
  refine ⟨fun name => ?_, fun name used => ?_, fun name gone => ?_, fun entry member => ?_, ?_⟩
  · simp only [params, mem_removeUnusedEvent_params, exact.once]
    grind
  · rw [uses] at used
    refine (exact.held name used).imp (fun watched => mem_removeUnusedEvent_params.mpr ⟨watched, ?_⟩)
      fun waits => ?_
    · rintro ⟨own, rfl, -⟩
      have gone := exact.entered (event, removed) (by rw [next]; exact List.mem_cons_self) own
      rw [exact.left _ gone] at used
      cases used
    · rw [pendingParams, removeUnusedEvent_pending]
      exact waits
  · rw [uses]
    exact exact.left name gone
  · exact exact.entered entry (by rw [next]; exact List.mem_cons_of_mem _ member)
  · intro name gone alone
    rw [params, mem_removeUnusedEvent_params, pendingParams, removeUnusedEvent_pending]
    by_cases own : event.eventId = PARAM ∧ event.name = name
    · obtain ⟨own, rfl⟩ := own
      obtain ⟨still, taken⟩ := withdrawable own alone
      exact ⟨fun watched => watched.2 ⟨own, rfl, taken watched.1⟩, still⟩
    · obtain ⟨unwatched, still⟩ := exact.free name gone (leaving_next next alone own)
      exact ⟨fun watched => unwatched watched.1, still⟩

theorem remove_breaks (stuck : ¬ x.keepsUse .removeUnusedEvent = true) (exact : x.Exact) :
    ¬ (x.step .removeUnusedEvent).ExactlyInUse := by
  rw [withdrawable_iff next] at stuck
  intro promise
  refine stuck fun own alone => ?_
  have gone := exact.entered (event, removed) (by rw [next]; exact List.mem_cons_self) own
  have now := promise.2.2 event.name
  rw [step_remove next] at now
  obtain ⟨unregistered, still⟩ := now gone alone
  rw [pendingParams, removeUnusedEvent_pending] at still
  refine ⟨still, fun watched => ?_⟩
  simp only [own, watched, true_and, exact.once, if_true] at unregistered
  simpa using unregistered

end Remove

section Watch

variable {watched : String → Bool}

theorem watchable_iff : x.keepsUse (.watchParameters watched) = true ↔
    ∀ name ∈ x.pendingParams, (name ∈ x.params → watched name = false) ∧
      (name ∉ x.params → x.manager.usesParam name = true → watched name = true) := by
  simp only [keepsUse, List.all_eq_true, Std.TreeSet.mem_toList]
  refine forall₂_congr fun name waits => ?_
  split <;> grind

theorem watch_exact (watchable : x.keepsUse (.watchParameters watched) = true) (exact : x.Exact) :
    (x.step (.watchParameters watched)).Exact := by
  rw [watchable_iff] at watchable
  have params : ∀ name, name ∈ (x.manager.deviceParam.watchParameters watched).params ↔
      name ∈ x.params ∨ (name ∈ x.pendingParams ∧ watched name = true) :=
    fun _ => DeviceParamCollect.mem_watchParameters
  rw [step]
  refine ⟨fun name => ?_, fun name used => .inl ((params name).mpr ?_), exact.left, exact.entered, ?_⟩
  · have once := watchable name
    simp only [ParamUse.params, params, exact.once, pendingParams] at once ⊢
    grind
  · rcases exact.held name used with already | waits
    · exact .inl already
    · by_cases already : name ∈ x.params
      · exact .inl already
      · exact .inr ⟨waits, (watchable name waits).2 already used⟩
  · intro name gone alone
    obtain ⟨unwatched, still⟩ := exact.free name gone alone
    refine ⟨fun registered => ?_, Std.TreeSet.not_mem_emptyc⟩
    rcases (params name).mp registered with already | ⟨waits, -⟩
    · exact unwatched already
    · exact still waits

theorem watch_breaks (lost : ¬ x.keepsUse (.watchParameters watched) = true) (exact : x.Exact) :
    ¬ (x.step (.watchParameters watched)).ExactlyInUse := by
  rw [watchable_iff] at lost
  intro promise
  refine lost fun name waits => ⟨fun already => ?_, fun fresh used => ?_⟩
  · have single := promise.2.1 name
    simp only [step, exact.once, already, waits, if_true, true_and] at single
    cases answer : watched name
    · rfl
    · simp [answer] at single
  · rcases promise.1 name used with registered | still
    · simp only [step, exact.once, fresh, waits, if_false, true_and] at registered
      cases answer : watched name
      · simp [answer] at registered
      · rfl
    · exact absurd still Std.TreeSet.not_mem_emptyc

end Watch

/-- The withdrawals of an update, one after another and with nothing in between. -/
theorem run_withdrawals (entries : List (PolicyEvent × Bool)) {x : ParamUse} (next : x.unused = entries) :
    (Runs.run step x (List.replicate entries.length .removeUnusedEvent)).manager =
        entries.foldl (fun s entry => s.removeUnusedEvent entry.2 entry.1) x.manager ∧
      (Runs.run step x (List.replicate entries.length .removeUnusedEvent)).unused = [] := by
  induction entries generalizing x with
  | nil => exact ⟨rfl, next⟩
  | cons entry entries hypothesis =>
      rw [List.length_cons, List.replicate_succ, Runs.run_cons, step_remove next]
      exact hypothesis rfl

/-- An update by steps is the update as a whole, if nothing comes in between. -/
theorem run_update (free : x.unused = []) (u : PolicyUpdate) :
    (Runs.run step x (.updateOnDemandEvents u :: List.replicate
      ((x.manager.replacePolicy u).2.getD []).length .removeUnusedEvent)).manager = x.manager.update u := by
  rw [Runs.run_cons, step_update free, (update_eq_replacePolicy x.manager u).1]
  exact (run_withdrawals _ rfl).1

section Whole

variable {label : ParamStep}

theorem step_exact (good : x.keepsUse label = true) (exact : x.Exact) : (x.step label).Exact := by
  cases label with
  | init saProfiles =>
      cases free : x.unused with
      | nil => exact init_exact free good
      | cons entry unused => rwa [step, free]
  | updateOnDemandEvents u =>
      cases free : x.unused with
      | nil =>
          cases succeeded : x.manager.succeeds u
          · refine failed_exact free succeeded (fun name registered => ?_) exact
            simp only [keepsUse, free, succeeded, List.isEmpty_nil, Bool.not_true, Bool.false_or,
              List.all_eq_true, Bool.not_eq_true'] at good
            exact good name registered
          · exact succeeded_exact free succeeded exact
      | cons entry unused => rwa [step, free]
  | removeUnusedEvent =>
      cases next : x.unused with
      | nil => rwa [step, next]
      | cons entry unused => exact remove_exact next good exact
  | watchParameters watched => exact watch_exact good exact

theorem step_breaks (exact : x.Exact) (bad : ¬ x.keepsUse label = true) :
    ¬ (x.step label).ExactlyInUse := by
  cases label with
  | init saProfiles =>
      cases free : x.unused with
      | nil => exact init_breaks free bad
      | cons entry unused => simp [keepsUse, free] at bad
  | updateOnDemandEvents u =>
      cases free : x.unused with
      | nil => exact update_breaks free bad
      | cons entry unused => simp [keepsUse, free] at bad
  | removeUnusedEvent =>
      cases next : x.unused with
      | nil => simp [keepsUse, next] at bad
      | cons entry unused => exact remove_breaks next bad exact
  | watchParameters watched => exact watch_breaks bad exact

theorem exact_empty : Exact {} where
  once _ := (if_neg Std.TreeSet.not_mem_emptyc).symm
  held _ used := by cases used
  left _ gone := by cases gone
  entered _ member := by cases member
  free _ gone := by cases gone

/-- In any order of `Init`, updates, withdrawals and starts of the parameter service, the parameters
are watched exactly while in use as long as each step is one of those that keep it so. -/
theorem exactly_in_use_iff (labels : List ParamStep) :
    (∀ done, done <+: labels → (Runs.run step {} done).ExactlyInUse) ↔
      Runs.Guarded step (fun x label => x.keepsUse label = true) {} labels :=
  Runs.forall_prefix_iff_guarded Exact (fun _ _ => step_exact) (fun _ => Exact.exactlyInUse)
    (fun _ _ => step_breaks) exact_empty

/-- A parameter is withdrawn before the parameter service is there: it waits on. -/
theorem withdrawn_parameter_waits : ¬ ∀ labels done : List ParamStep, done <+: labels →
    (Runs.run step {} done).ExactlyInUse := by
  intro always
  let event : PolicyEvent := { eventId := PARAM, name := "bootevent.boot.completed", value := "true" }
  let labels : List ParamStep :=
    [.init [{ saId := 1401, startOnDemandEvents := [event], stopOnDemandEvents := [] }],
      .updateOnDemandEvents { systemAbilityId := 1401, type := START_POLICY, events := [] },
      .removeUnusedEvent]
  have free := ((always labels labels (List.prefix_refl labels)).2.2 "bootevent.boot.completed"
    (by decide +kernel) (by decide +kernel)).2
  revert free
  decide +kernel

end Whole

end ParamUse

end Samgr
