import Samgr.Collect.Timed
import Samgr.Facade.ExtraData

/-! The collect manager with the state of its plugins: the policies, what each plugin watches, and
the update of a policy, which hands the new events to the plugins before it stores them. -/
namespace Samgr

def SETTING_SWITCH : Int := 2
def PARAM : Int := 3
def UNREF_EVENT : Int := 6
def WIFI_NAME : String := "wifi_status"
def BLUETOOTH_NAME : String := "bluetooth_status"
def START_POLICY : Int := 0
def STOP_POLICY : Int := 1

structure DeviceParamCollect where
  pendingParams : Std.TreeSet String := ∅
  params : Std.TreeSet String := ∅

namespace DeviceParamCollect

variable (c : DeviceParamCollect)

/-- The parameters of a profile wait until the parameter service is there. -/
def init (saProfiles : List CollMgrSaProfile) : DeviceParamCollect :=
  { pendingParams :=
      ((saProfiles.flatMap CollMgrSaProfile.events).filter fun event => event.eventId == PARAM).foldl
        (fun pending event => pending.insert event.name) ∅ }

/-- One event of `AddCollectEvent`; `watched` is the answer of `WatchParameter`. -/
def addEvent (watched : Bool) (event : PolicyEvent) : DeviceParamCollect × Bool :=
  if event.name ∈ c.params then (c, true)
  else if watched then ({ c with params := c.params.insert event.name }, true)
  else (c, false)

/-- `removed` is the answer of `RemoveParameterWatcher`. -/
def removeUnusedEvent (removed : Bool) (event : PolicyEvent) : DeviceParamCollect :=
  if event.name ∈ c.params ∧ removed then { c with params := c.params.erase event.name } else c

/-- `WatchParameters`: what cannot be watched is given up. -/
def watchParameters (watched : String → Bool) : DeviceParamCollect :=
  { pendingParams := ∅
    params := c.pendingParams.toList.foldl
      (fun params param => if watched param then params.insert param else params) c.params }

end DeviceParamCollect

namespace CommonEventCollect

/-- The names that the collector watches for itself. -/
def ownEventNames : List String :=
  ["usual.event.SCREEN_ON", "usual.event.SCREEN_OFF", "usual.event.CHARGING",
    "usual.event.DISCHARGING", "usual.event.POWER_CONNECTED", "usual.event.POWER_DISCONNECTED",
    "usual.event.USER_UNLOCKED", "RECENT_EVENT"]

def insertNames (names : Std.TreeSet String) (added : List String) : Std.TreeSet String :=
  added.foldl (fun names name => names.insert name) names

/-- The names of common events in the conditions of an event. -/
def conditionNames (event : PolicyEvent) : List String :=
  (event.conditions.filter fun condition => condition.eventId == COMMON_EVENT).map
    OnDemandCondition.name

/-- `InitCommonEventState`, as far as the watched names go. -/
def initCommonEventState (names : Std.TreeSet String) (event : PolicyEvent) : Std.TreeSet String :=
  insertNames (if event.eventId = COMMON_EVENT then names.insert event.name else names)
    (conditionNames event)

def initNames (saProfiles : List CollMgrSaProfile) : Std.TreeSet String :=
  (saProfiles.flatMap CollMgrSaProfile.events).foldl initCommonEventState
    (insertNames ∅ ownEventNames)

/-- `AddCommonEventName`: the names after it, and those it has inserted. -/
def addCommonEventName (names : Std.TreeSet String) :
    List PolicyEvent → Std.TreeSet String × List String
  | [] => (names, [])
  | event :: events =>
      if event.name ∈ names then addCommonEventName names events
      else
        let added := addCommonEventName (names.insert event.name) events
        (added.1, event.name :: added.2)

/-- `AddCollectEvent`; a subscription that fails takes the inserted names back. -/
def addCollectEvent (subscribed : Bool) (names : Std.TreeSet String) (events : List PolicyEvent) :
    Std.TreeSet String × Bool :=
  let added := addCommonEventName names events
  if added.2.isEmpty ∨ subscribed then (added.1, true)
  else (added.2.foldl (fun names name => names.erase name) added.1, false)

theorem mem_insertNames {names : Std.TreeSet String} {added : List String} {name : String} :
    name ∈ insertNames names added ↔ name ∈ names ∨ name ∈ added := by
  induction added generalizing names with
  | nil => simp [insertNames]
  | cons first rest hypothesis =>
      change name ∈ insertNames (names.insert first) rest ↔ _
      rw [hypothesis, List.mem_cons]
      simp only [Std.TreeSet.mem_insert, Std.compare_eq_iff_eq]
      grind

theorem mem_initCommonEventState {names : Std.TreeSet String} {event : PolicyEvent} {name : String} :
    name ∈ initCommonEventState names event ↔
      name ∈ names ∨ (event.eventId = COMMON_EVENT ∧ event.name = name) ∨
        name ∈ conditionNames event := by
  rw [initCommonEventState, mem_insertNames]
  split
  · simp only [Std.TreeSet.mem_insert, Std.compare_eq_iff_eq]
    grind
  · grind

theorem mem_addCommonEventName {names : Std.TreeSet String} {events : List PolicyEvent}
    {name : String} :
    (name ∈ (addCommonEventName names events).1 ↔
      name ∈ names ∨ ∃ event ∈ events, event.name = name) ∧
    (name ∈ (addCommonEventName names events).2 ↔
      name ∉ names ∧ ∃ event ∈ events, event.name = name) := by
  induction events generalizing names with
  | nil => simp [addCommonEventName]
  | cons event events hypothesis =>
      rw [addCommonEventName]
      split
      · rw [(hypothesis).1, (hypothesis).2]
        grind
      · rename_i fresh
        have later := @hypothesis (names.insert event.name)
        simp only [List.mem_cons, later.1, later.2, Std.TreeSet.mem_insert, Std.compare_eq_iff_eq]
        grind

theorem mem_eraseNames {names : Std.TreeSet String} {erased : List String} {name : String} :
    name ∈ erased.foldl (fun names name => names.erase name) names ↔
      name ∈ names ∧ name ∉ erased := by
  induction erased generalizing names with
  | nil => simp
  | cons first rest hypothesis =>
      rw [List.foldl_cons, hypothesis, List.mem_cons]
      simp only [Std.TreeSet.mem_erase, ne_eq, Std.compare_eq_iff_eq]
      grind

/-- Nothing is asked of the system if every name is watched already. -/
theorem addCollectEvent_accepted {subscribed : Bool} {names : Std.TreeSet String}
    {events : List PolicyEvent} :
    (addCollectEvent subscribed names events).2 = true ↔
      subscribed = true ∨ ∀ event ∈ events, event.name ∈ names := by
  have empty : (addCommonEventName names events).2 = [] ↔ ∀ event ∈ events, event.name ∈ names := by
    rw [List.eq_nil_iff_forall_not_mem]
    constructor
    · intro none event member
      by_contra fresh
      exact none event.name (mem_addCommonEventName.2.mpr ⟨fresh, event, member, rfl⟩)
    · intro all name inserted
      obtain ⟨fresh, event, member, rfl⟩ := mem_addCommonEventName.2.mp inserted
      exact fresh (all event member)
  simp only [addCollectEvent, List.isEmpty_iff, empty]
  split <;> grind

theorem mem_addCollectEvent {subscribed : Bool} {names : Std.TreeSet String}
    {events : List PolicyEvent} {name : String} :
    name ∈ (addCollectEvent subscribed names events).1 ↔
      name ∈ names ∨
        ((addCollectEvent subscribed names events).2 = true ∧ ∃ event ∈ events, event.name = name) := by
  simp only [addCollectEvent]
  split
  · simp [mem_addCommonEventName.1]
  · simp only [mem_eraseNames, mem_addCommonEventName.1, mem_addCommonEventName.2]
    grind

end CommonEventCollect

/-- What the system answers while one event is handled. -/
structure EventAnswer where
  now : Int := 0
  timerTaken : TimedTask → Bool := fun _ => true
  watchParameter : Bool := true
  subscribeSwitch : Bool := true

/-- What it answers during one call: for each new event, for the subscription of common events, and
for each event that is withdrawn. -/
structure CollectEnv where
  orderTime : String → Int := fun _ => 0
  isMultiUser : Bool := false
  answer : Nat → EventAnswer := fun _ => {}
  subscribeCommonEvent : Bool := true
  removeParameterWatcher : Nat → Bool := fun _ => true

def CollectEnv.timed (env : CollectEnv) (answer : EventAnswer) : TimedEnv :=
  { now := answer.now
    orderTime := env.orderTime
    isMultiUser := env.isMultiUser
    timerTaken := answer.timerTaken }

/-- A call of `UpdateOnDemandEvents`, with what the system answers during it. -/
structure PolicyUpdate where
  env : CollectEnv := {}
  systemAbilityId : Int
  type : Int
  events : List PolicyEvent

/-- A place behind the switches at which `AddCollectEvents` can fail: an event of a plugin that
takes its events one by one, or all events of the common event collector. -/
inductive CollectStep where
  | param (event : PolicyEvent) (answer : EventAnswer)
  | commonEvents (events : List PolicyEvent)
  | timed (event : PolicyEvent) (answer : EventAnswer)

structure CollectState where
  onDemandSaProfiles : List CollMgrSaProfile
  deviceParam : DeviceParamCollect := {}
  commonEventNames : Std.TreeSet String := ∅
  listensSwitch : Bool := false
  deviceTimed : DeviceTimedCollect := {}

/-- Every plugin of the enumeration is compiled in. -/
def isExistInPluginMap (eventId : Int) : Bool := DEVICE_ONLINE ≤ eventId && eventId ≤ UNREF_EVENT

def isSwitchEvent (event : PolicyEvent) : Bool :=
  event.eventId == SETTING_SWITCH && (event.name == WIFI_NAME || event.name == BLUETOOTH_NAME)

/-- The new events with the answers given while each is handled. -/
def CollectEnv.answered (env : CollectEnv) (events : List PolicyEvent) :
    List (PolicyEvent × EventAnswer) :=
  events.zipIdx.map fun entry => (entry.1, env.answer entry.2)

/-- The new events of a plugin. -/
def CollectEnv.ofPlugin (env : CollectEnv) (events : List PolicyEvent) (eventId : Int) :
    List (PolicyEvent × EventAnswer) :=
  (env.answered events).filter fun entry => entry.1.eventId == eventId

/-- The events by plugin, in the order of the ids. The plugins not listed take every event. -/
def collectSteps (env : CollectEnv) (events : List PolicyEvent) : List CollectStep :=
  let commonEvents := (env.ofPlugin events COMMON_EVENT).map Prod.fst
  (env.ofPlugin events PARAM).map (fun entry => .param entry.1 entry.2) ++
    (if commonEvents.isEmpty then [] else [.commonEvents commonEvents]) ++
    (env.ofPlugin events TIMED_EVENT).map fun entry => .timed entry.1 entry.2

def isSameEventName (event other : PolicyEvent) : Bool :=
  if event.eventId ≠ TIMED_EVENT then
    event.eventId == other.eventId && event.name == other.name
  else
    event.eventId == other.eventId && event.name == other.name && event.value == other.value &&
      event.persistence == other.persistence

def OnDemandPolicyType.ofInt (type : Int) : Option OnDemandPolicyType :=
  if type = START_POLICY then some .startPolicy
  else if type = STOP_POLICY then some .stopPolicy
  else none

def CollMgrSaProfile.policy (profile : CollMgrSaProfile) : OnDemandPolicyType → List PolicyEvent
  | .startPolicy => profile.startOnDemandEvents
  | .stopPolicy => profile.stopOnDemandEvents

def CollMgrSaProfile.setPolicy (profile : CollMgrSaProfile) (events : List PolicyEvent) :
    OnDemandPolicyType → CollMgrSaProfile
  | .startPolicy => { profile with startOnDemandEvents := events }
  | .stopPolicy => { profile with stopOnDemandEvents := events }

def OnDemandEvent.toText (event : OnDemandEvent) : String := event.name ++ "_" ++ event.value

def typeAndSaidToString (type : OnDemandPolicyType) (systemAbilityId : Int) : String :=
  (match type with
    | .startPolicy => "start#"
    | .stopPolicy => "stop#") ++ toString systemAbilityId ++ "#"

/-- A part that cannot be read counts as a start of ability -1. -/
def stringToTypeAndSaid (part : String) : OnDemandPolicyType × Int :=
  match part.toList.dropWhile (· != '#') with
  | [] => (.startPolicy, -1)
  | _ :: said =>
      let strType := part.toList.takeWhile (· != '#')
      if strType = "start".toList then (.startPolicy, toInt32 (Decimal.value said))
      else if strType = "stop".toList then (.stopPolicy, toInt32 (Decimal.value said))
      else (.startPolicy, -1)

def OnDemandPolicyType.ondemandId : OnDemandPolicyType → Int
  | .startPolicy => START_ON_DEMAND
  | .stopPolicy => STOP_ON_DEMAND

namespace CollectState

variable (env : CollectEnv) (s : CollectState)

/-- The collectors get the profiles without a policy too. -/
def filterOnDemandSaProfiles (saProfiles : List CollMgrSaProfile) : List CollMgrSaProfile :=
  saProfiles.filter fun profile =>
    !(profile.startOnDemandEvents.isEmpty && profile.stopOnDemandEvents.isEmpty)

/-- `Init` of the manager: the profiles with a policy are added to those it has, and every plugin is
new. -/
def initPlugins (saProfiles : List CollMgrSaProfile) : CollectState :=
  { onDemandSaProfiles := s.onDemandSaProfiles ++ filterOnDemandSaProfiles saProfiles
    deviceParam := DeviceParamCollect.init saProfiles
    commonEventNames := CommonEventCollect.initNames saProfiles
    listensSwitch := false
    deviceTimed := DeviceTimedCollect.init s.deviceTimed.preferencesUtil saProfiles }

/-- A new manager after its `Init`, on a store as it is found. -/
def init (preferencesUtil : PreferencesUtil) (saProfiles : List CollMgrSaProfile) : CollectState :=
  initPlugins { onDemandSaProfiles := [], deviceTimed := { preferencesUtil } } saProfiles

/-- One event of the switch collector, which subscribes once. -/
def addSwitchEvent (s : CollectState) (entry : PolicyEvent × EventAnswer) : CollectState × Bool :=
  if isSwitchEvent entry.1 && (s.listensSwitch || entry.2.subscribeSwitch) then
    ({ s with listensSwitch := true }, true)
  else (s, false)

def addStep (s : CollectState) : CollectStep → CollectState × Bool
  | .param event answer =>
      let added := s.deviceParam.addEvent answer.watchParameter event
      ({ s with deviceParam := added.1 }, added.2)
  | .commonEvents events =>
      let added := CommonEventCollect.addCollectEvent env.subscribeCommonEvent s.commonEventNames events
      ({ s with commonEventNames := added.1 }, added.2)
  | .timed event answer =>
      match s.deviceTimed.addEvent (env.timed answer) event with
      | none => (s, false)
      | some deviceTimed => ({ s with deviceTimed }, true)

def addCollectEvents (events : List PolicyEvent) : CollectState × Bool :=
  if events.all fun event => isExistInPluginMap event.eventId then
    let switched := Fallible.run addSwitchEvent s (env.ofPlugin events SETTING_SWITCH)
    if switched.2 then Fallible.run (addStep env) switched.1 (collectSteps env events) else switched
  else (s, false)

def events : List PolicyEvent := s.onDemandSaProfiles.flatMap CollMgrSaProfile.events

def checkEventUsed (event : PolicyEvent) : Bool := s.events.any (isSameEventName event)

/-- `RemoveUnusedEvent` of the plugin of the event. -/
def removeUnusedEvent (removed : Bool) (event : PolicyEvent) : CollectState :=
  if event.eventId = PARAM then
    { s with deviceParam := s.deviceParam.removeUnusedEvent removed event }
  else if event.eventId = COMMON_EVENT then
    { s with commonEventNames := s.commonEventNames.erase event.name }
  else if event.eventId = TIMED_EVENT then
    { s with deviceTimed := s.deviceTimed.removeUnusedEvent event }
  else s

def removeUnusedEventsLocked (events : List PolicyEvent) : CollectState :=
  events.zipIdx.foldl
    (fun s entry =>
      if s.checkEventUsed entry.1 then s
      else s.removeUnusedEvent (env.removeParameterWatcher entry.2) entry.1) s

def needPersistOnDemandEvent (event : PolicyEvent) : Bool :=
  event.eventId == TIMED_EVENT && event.name == ORDER_TIMED_EVENT && event.persistence

/-- The text under an event, with one more policy at its end. -/
def appendPolicy (preferencesUtil : PreferencesUtil) (event : PolicyEvent) (strTypeAndSaid : String) :
    PreferencesUtil :=
  if event.toText ∈ preferencesUtil then
    preferencesUtil.saveString event.toText
      (preferencesUtil.obtainString event.toText ++ "+" ++ strTypeAndSaid)
  else preferencesUtil.saveString event.toText strTypeAndSaid

def persistOnDemandEvent (systemAbilityId : Int) (type : OnDemandPolicyType)
    (events : List PolicyEvent) : CollectState :=
  { s with
    deviceTimed := { s.deviceTimed with
      preferencesUtil := (events.filter needPersistOnDemandEvent).foldl
        (fun preferencesUtil event =>
          appendPolicy preferencesUtil event (typeAndSaidToString type systemAbilityId))
        s.deviceTimed.preferencesUtil } }

def findProfile (systemAbilityId : Int) : Option CollMgrSaProfile :=
  s.onDemandSaProfiles.find? fun profile => profile.saId == systemAbilityId

def setPolicy (systemAbilityId : Int) (type : OnDemandPolicyType) (events : List PolicyEvent) :
    CollectState :=
  { s with
    onDemandSaProfiles := s.onDemandSaProfiles.replaceF fun profile =>
      if profile.saId == systemAbilityId then some (profile.setPolicy events type) else none }

/-- The type is looked at only after the plugins have taken the events. -/
def updateOnDemandEvents (systemAbilityId type : Int) (events : List PolicyEvent) :
    CollectState × ErrCode :=
  match s.findProfile systemAbilityId with
  | none => (s, .errInvalidValue)
  | some profile =>
      let collected := s.addCollectEvents env events
      if collected.2 then
        match OnDemandPolicyType.ofInt type with
        | none => (collected.1, .errInvalidValue)
        | some type =>
            (((collected.1.setPolicy systemAbilityId type events).persistOnDemandEvent
              systemAbilityId type events).removeUnusedEventsLocked env (profile.policy type), .errOk)
      else (collected.1, .errInvalidValue)

def update (u : PolicyUpdate) : CollectState :=
  (s.updateOnDemandEvents u.env u.systemAbilityId u.type u.events).1

def succeeds (u : PolicyUpdate) : Bool :=
  (s.updateOnDemandEvents u.env u.systemAbilityId u.type u.events).2 == .errOk

variable {env s}

/-- What is dropped has no events. -/
theorem filterOnDemandSaProfiles_events (saProfiles : List CollMgrSaProfile) :
    (filterOnDemandSaProfiles saProfiles).flatMap CollMgrSaProfile.events =
      saProfiles.flatMap CollMgrSaProfile.events := by
  induction saProfiles with
  | nil => rfl
  | cons profile saProfiles hypothesis =>
      rw [filterOnDemandSaProfiles, List.filter_cons]
      split
      · rw [List.flatMap_cons, List.flatMap_cons, ← hypothesis]
        rfl
      · rename_i idle
        rw [List.flatMap_cons, ← hypothesis]
        have nothing : profile.events = [] := by
          simpa [CollMgrSaProfile.events] using idle
        rw [nothing]
        rfl

theorem events_init (preferencesUtil : PreferencesUtil) (saProfiles : List CollMgrSaProfile) :
    (init preferencesUtil saProfiles).events = saProfiles.flatMap CollMgrSaProfile.events :=
  filterOnDemandSaProfiles_events saProfiles

theorem updateOnDemandEvents_failed {systemAbilityId type : Int} {events : List PolicyEvent}
    (failed : (s.updateOnDemandEvents env systemAbilityId type events).2 ≠ .errOk) :
    (s.updateOnDemandEvents env systemAbilityId type events).1 =
      if (s.findProfile systemAbilityId).isNone then s else (s.addCollectEvents env events).1 := by
  rw [updateOnDemandEvents] at failed ⊢
  cases profile : s.findProfile systemAbilityId with
  | none => rfl
  | some found =>
      simp only [profile, Option.isNone_some, Bool.false_eq_true, if_false] at failed ⊢
      split at failed
      · rename_i collected
        simp only [collected, if_true]
        split at failed
        · simp only
        · exact absurd rfl failed
      · rename_i rejected
        simp only [rejected, Bool.false_eq_true, if_false]

/-- What an update that succeeds has done. -/
theorem updateOnDemandEvents_succeeded {systemAbilityId type : Int} {events : List PolicyEvent}
    (succeeded : (s.updateOnDemandEvents env systemAbilityId type events).2 = .errOk) :
    ∃ profile kind, s.findProfile systemAbilityId = some profile ∧
      OnDemandPolicyType.ofInt type = some kind ∧ (s.addCollectEvents env events).2 = true ∧
      (s.updateOnDemandEvents env systemAbilityId type events).1 =
        ((((s.addCollectEvents env events).1.setPolicy systemAbilityId kind events).persistOnDemandEvent
          systemAbilityId kind events).removeUnusedEventsLocked env (profile.policy kind)) := by
  rw [updateOnDemandEvents] at succeeded ⊢
  cases profile : s.findProfile systemAbilityId with
  | none =>
      rw [profile] at succeeded
      cases succeeded
  | some found =>
      simp only [profile] at succeeded ⊢
      split at succeeded
      · rename_i collected
        split at succeeded
        · cases succeeded
        · rename_i kind valid
          exact ⟨found, kind, rfl, valid, collected, by simp only [collected, if_true]⟩
      · cases succeeded

theorem addSwitchEvents_eq (s : CollectState) (switches : List (PolicyEvent × EventAnswer)) :
    (∃ listens, (Fallible.run addSwitchEvent s switches).1 = { s with listensSwitch := listens }) ∧
      (Fallible.run addSwitchEvent s switches).2 =
        (switches.all (fun entry => isSwitchEvent entry.1) &&
          (s.listensSwitch || switches.head?.all fun entry => entry.2.subscribeSwitch)) := by
  induction switches generalizing s with
  | nil => exact ⟨⟨s.listensSwitch, rfl⟩, by simp⟩
  | cons entry switches hypothesis =>
      cases taken : isSwitchEvent entry.1 && (s.listensSwitch || entry.2.subscribeSwitch)
      · have rejected : addSwitchEvent s entry = (s, false) := by simp [addSwitchEvent, taken]
        rw [Fallible.run_rejected (by rw [rejected]), rejected]
        refine ⟨⟨s.listensSwitch, rfl⟩, ?_⟩
        rw [Bool.and_eq_false_iff] at taken
        rcases taken with invalid | deaf
        · simp [invalid]
        · simp only [List.head?_cons, Option.all_some, deaf, Bool.and_false]
      · have accepted : addSwitchEvent s entry = ({ s with listensSwitch := true }, true) := by
          simp [addSwitchEvent, taken]
        rw [Fallible.run_accepted (by rw [accepted]), accepted]
        obtain ⟨⟨listens, same⟩, answered⟩ := hypothesis { s with listensSwitch := true }
        rw [Bool.and_eq_true] at taken
        exact ⟨⟨listens, same⟩, by
          rw [answered]
          simp only [List.all_cons, List.head?_cons, Option.all_some, taken.1, taken.2,
            Bool.true_or, Bool.true_and, Bool.and_true]⟩

/-- What a new subscription and every step keep, the taking of new events keeps. -/
theorem addCollectEvents_keeps (inv : CollectState → Prop) {events : List PolicyEvent}
    (listening : ∀ {t : CollectState} (listens : Bool), inv t → inv { t with listensSwitch := listens })
    (keep : ∀ {t : CollectState} {step : CollectStep}, step ∈ collectSteps env events → inv t →
      inv (addStep env t step).1)
    (start : inv s) : inv (s.addCollectEvents env events).1 := by
  have switched : inv (Fallible.run addSwitchEvent s (env.ofPlugin events SETTING_SWITCH)).1 := by
    obtain ⟨⟨listens, same⟩, -⟩ := addSwitchEvents_eq s (env.ofPlugin events SETTING_SWITCH)
    rw [same]
    exact listening listens start
  rw [addCollectEvents]
  split
  · simp only
    split
    · exact Fallible.run_keeps inv _ keep switched
    · exact switched
  · exact start

theorem addCollectEvents_onDemandSaProfiles {events : List PolicyEvent} :
    (s.addCollectEvents env events).1.onDemandSaProfiles = s.onDemandSaProfiles := by
  apply addCollectEvents_keeps fun t => t.onDemandSaProfiles = s.onDemandSaProfiles
  · intro t listens same
    exact same
  · intro t step _ same
    cases step with
    | param event answer => exact same
    | commonEvents events => exact same
    | timed event answer =>
        rw [addStep]
        split <;> exact same
  · rfl

/-- Where a policy is replaced, and that all else stays in its place. -/
theorem setPolicy_eq {systemAbilityId : Int} {profile : CollMgrSaProfile}
    (found : s.findProfile systemAbilityId = some profile) (kind : OnDemandPolicyType)
    (events : List PolicyEvent) :
    profile.saId = systemAbilityId ∧ ∃ before after,
      s.onDemandSaProfiles = before ++ profile :: after ∧
        (s.setPolicy systemAbilityId kind events).onDemandSaProfiles =
          before ++ profile.setPolicy events kind :: after := by
  rw [findProfile] at found
  refine ⟨by simpa using List.find?_some found, ?_⟩
  simp only [setPolicy]
  generalize s.onDemandSaProfiles = profiles at found ⊢
  induction profiles with
  | nil => cases found
  | cons first rest hypothesis =>
      rw [List.find?_cons] at found
      split at found
      · rename_i here
        cases found
        exact ⟨[], rest, rfl, by simp [List.replaceF, here]⟩
      · rename_i other
        obtain ⟨before, after, split, replaced⟩ := hypothesis found
        exact ⟨first :: before, after, by rw [split]; rfl, by
          simp only [List.replaceF, other, Bool.false_eq_true, if_false, replaced, List.cons_append]⟩

theorem removeUnusedEvent_onDemandSaProfiles (removed : Bool) (event : PolicyEvent) :
    (s.removeUnusedEvent removed event).onDemandSaProfiles = s.onDemandSaProfiles := by
  simp only [removeUnusedEvent]
  split
  · rfl
  · split
    · rfl
    · split <;> rfl

/-- What the withdrawal of one event keeps, that of all keeps. -/
theorem removeUnusedEventsLocked_keeps (inv : CollectState → Prop)
    (keep : ∀ {t : CollectState} (removed : Bool) (event : PolicyEvent), inv t →
      inv (t.removeUnusedEvent removed event))
    {events : List PolicyEvent} (start : inv s) : inv (s.removeUnusedEventsLocked env events) := by
  rw [removeUnusedEventsLocked]
  generalize events.zipIdx = entries
  induction entries generalizing s with
  | nil => exact start
  | cons entry entries hypothesis =>
      rw [List.foldl_cons]
      apply hypothesis
      split
      · exact start
      · exact keep _ entry.1 start

theorem removeUnusedEventsLocked_onDemandSaProfiles {events : List PolicyEvent} :
    (s.removeUnusedEventsLocked env events).onDemandSaProfiles = s.onDemandSaProfiles := by
  apply removeUnusedEventsLocked_keeps fun t => t.onDemandSaProfiles = s.onDemandSaProfiles
  · intro t removed event same
    rw [removeUnusedEvent_onDemandSaProfiles, same]
  · rfl

variable (s)

/-- The policies, for the judgement of an event: `plugins` is how the plugins judge it now. -/
def policies (plugins : Int → Option CollectPlugin) : DeviceStatusCollectManager :=
  { onDemandSaProfiles := s.onDemandSaProfiles, collectPluginMap := plugins }

/-- `splitStr` gives the parts of a text between plus signs. -/
def getSaControlListByPersistEvent (splitStr : String → List String) (event : PolicyEvent) :
    List PolicyControl :=
  let value := s.deviceTimed.preferencesUtil.obtainString event.toText
  if value = "" then []
  else
    (splitStr value).map fun part =>
      { ondemandId := (stringToTypeAndSaid part).1.ondemandId, saId := (stringToTypeAndSaid part).2 }

/-- The list that `ReportEvent` makes; an empty one is not passed on. -/
def reportEvent (splitStr : String → List String) (plugins : Int → Option CollectPlugin)
    (event : PolicyEvent) : List PolicyControl :=
  DeviceStatusCollectManager.sortSaControlListByLoadPriority
    ((s.policies plugins).getSaControlListByEvent event ++
      s.getSaControlListByPersistEvent splitStr event)

end CollectState

end Samgr
