import Samgr.Collect.Controls
import Samgr.Cache.Service

/-! Events of the network of devices. Only the base instance watches the devices; what it reports
is dispatched to its own abilities first and passed on to the users from there, and each user
matches it against its own policies. -/
namespace Samgr

def SA_TAG_DEVICE_ON_LINE : String := "deviceonline"

/-- `stateCallback` holds the devices that are online, once the collector has been started. -/
structure DeviceNetworkingCollect where
  stateCallback : Option (List String) := none

namespace DeviceNetworkingCollect

variable (n : DeviceNetworkingCollect)

/-- The collectors of the users are not started. -/
def onStart (userId : Int) : DeviceNetworkingCollect :=
  if userId ≠ BASE_USER then n else { n with stateCallback := some [] }

def updateDeviceOnlineSet (deviceId : String) : DeviceNetworkingCollect :=
  { n with stateCallback := n.stateCallback.map fun devices => devices.insert deviceId }

def isOnline : Bool := n.stateCallback.any fun devices => !devices.isEmpty

def checkCondition (condition : OnDemandCondition) : Bool :=
  condition.value == "on" && n.isOnline || condition.value == "off" && !n.isOnline

def plugin : CollectPlugin := { checkCondition := n.checkCondition }

end DeviceNetworkingCollect

/-- The event that the networking collector reports when a device comes online, or when the last one
goes. -/
def deviceOnlineEvent (value : String) : PolicyEvent :=
  { eventId := DEVICE_ONLINE, name := SA_TAG_DEVICE_ON_LINE, value }

/-- The collect manager of an instance, its networking collector apart. Its store holds policies of
timed events only. -/
structure CollectSource where
  collect : CollectState
  plugins : Int → Option CollectPlugin := fun _ => none
  unstored : ∀ splitStr value, collect.storesNoPolicy splitStr (deviceOnlineEvent value) = true

/-- No timed event has the text of a device event. -/
theorem toText_ne_deviceOnline {event : PolicyEvent}
    (timed : CollectState.needPersistOnDemandEvent event = true) (value : String) :
    event.toText ≠ (deviceOnlineEvent value).toText := by
  intro same
  have name : event.name = ORDER_TIMED_EVENT := by
    simp only [CollectState.needPersistOnDemandEvent, Bool.and_eq_true, beq_iff_eq] at timed
    exact timed.1.2
  have letters := congrArg (fun text => text.toList.head?) same
  simp [OnDemandEvent.toText, name, deviceOnlineEvent, SA_TAG_DEVICE_ON_LINE, ORDER_TIMED_EVENT]
    at letters

namespace CollectSource

/-- A new collect manager on an empty store. -/
def ofProfiles (saProfiles : List CollMgrSaProfile) : CollectSource where
  collect := CollectState.init ∅ saProfiles
  unstored _ _ := CollectState.storesNoPolicy_init saProfiles rfl

/-- The collect manager after updates of its policies. -/
def afterUpdates (source : CollectSource) (updates : List PolicyUpdate) : CollectSource where
  collect := Runs.run CollectState.update source.collect updates
  plugins := source.plugins
  unstored splitStr value :=
    CollectState.storesNoPolicy_of_never_carried
      (fun _ _ _ _ timed => toText_ne_deviceOnline timed value) (source.unstored splitStr value)

/-- How its plugins judge, with this networking collector. -/
def judges (source : CollectSource) (networking : DeviceNetworkingCollect) :
    Int → Option CollectPlugin :=
  Function.update source.plugins DEVICE_ONLINE (some networking.plugin)

/-- The policies, judged with a networking collector. -/
def manager (source : CollectSource) (networking : DeviceNetworkingCollect) :
    DeviceStatusCollectManager :=
  source.collect.policies (source.judges networking)

/-- The list that `ReportEvent` makes with this networking collector. -/
def saControlList (splitStr : String → List String) (source : CollectSource)
    (networking : DeviceNetworkingCollect) (event : PolicyEvent) : List PolicyControl :=
  source.collect.reportEvent splitStr (source.judges networking) event

end CollectSource

/-- The collector of the base instance when it knows of these devices. -/
def DeviceNetworkingCollect.watching (online : List String) : DeviceNetworkingCollect :=
  online.foldl DeviceNetworkingCollect.updateDeviceOnlineSet
    (DeviceNetworkingCollect.onStart {} BASE_USER)

section Fleet

variable (splitStr : String → List String)

/-- The controls that match an event in the policies of an instance, with the conditions on
devices judged against `online`. -/
def CollectSource.matching (source : CollectSource) (online : List String) (event : PolicyEvent) :
    List PolicyControl :=
  source.saControlList splitStr (.watching online) event

/-- Some policy of the instance meets the event. -/
def CollectSource.Meets (source : CollectSource) (online : List String) (event : PolicyEvent) : Prop :=
  ∃ profile ∈ source.collect.onDemandSaProfiles,
    ∃ policy ∈ profile.startOnDemandEvents ++ profile.stopOnDemandEvents,
      DeviceStatusCollectManager.isSameEvent event policy ∧
        (source.manager (.watching online)).checkConditions policy ∧
        (source.manager (.watching online)).checkExtraMessages event policy

/-- The collect managers of the base instance and of the active users. -/
structure CollectFleet where
  base : CollectSource
  online : List String
  users : Int → Option CollectSource

namespace CollectFleet

variable (f : CollectFleet)

/-- The list of the base instance. -/
def baseControls (event : PolicyEvent) : List PolicyControl :=
  f.base.saControlList splitStr (.watching f.online) event

/-- The list of a user, whose collector is its own. -/
def userControls (userId : Int) (source : CollectSource) (event : PolicyEvent) : List PolicyControl :=
  source.saControlList splitStr (DeviceNetworkingCollect.onStart {} userId) event

/-- What each manager's `ProcessOnDemandEvent` is called with; it is not called with nothing. The
base instance passes a device event on when it dispatches it. -/
def reportEvent (event : PolicyEvent) (userId : Int) : List PolicyControl :=
  let saControlList := f.baseControls splitStr event
  if userId = BASE_USER then saControlList
  else if saControlList = [] ∨ event.eventId ≠ DEVICE_ONLINE then []
  else
    match f.users userId with
    | none => []
    | some source => userControls splitStr userId source event

/-- Every active user dispatches what matches in its own policies, and so does the base instance. -/
def Reaches (event : PolicyEvent) : Prop :=
  f.reportEvent splitStr event BASE_USER = f.base.matching splitStr f.online event ∧
    ∀ userId source, userId ≠ BASE_USER → f.users userId = some source →
      f.reportEvent splitStr event userId = source.matching splitStr f.online event

end CollectFleet

end Fleet

section Controls

variable {splitStr : String → List String}

theorem isSome_matched_iff (c : DeviceStatusCollectManager) (event : PolicyEvent)
    (policies : List PolicyEvent) :
    (c.matched event policies).isSome ↔
      ∃ policy ∈ policies, DeviceStatusCollectManager.isSameEvent event policy ∧
        c.checkConditions policy ∧ c.checkExtraMessages event policy := by
  simp only [DeviceStatusCollectManager.matched, List.find?_isSome, Bool.and_eq_true, and_assoc]

theorem insertionSort_eq_nil {α : Type*} (r : α → α → Prop) [DecidableRel r] (l : List α) :
    l.insertionSort r = [] ↔ l = [] := by
  constructor
  · intro sorted
    have same : ([] : List α).Perm l := sorted ▸ List.perm_insertionSort r l
    exact same.symm.eq_nil
  · rintro rfl
    rfl

theorem saControlList_deviceOnline_eq_nil (source : CollectSource) (online : List String) (value : String) :
    source.matching splitStr online (deviceOnlineEvent value) = [] ↔
      ¬ source.Meets online (deviceOnlineEvent value) := by
  have stored : source.collect.getSaControlListByPersistEvent splitStr (deviceOnlineEvent value) = [] :=
    CollectState.getSaControlListByPersistEvent_eq_nil.mpr (source.unstored splitStr value)
  rw [CollectSource.matching, CollectSource.saControlList, CollectState.reportEvent,
    DeviceStatusCollectManager.sortSaControlListByLoadPriority, insertionSort_eq_nil, stored,
    List.append_nil, DeviceStatusCollectManager.getSaControlListByEvent, List.flatMap_eq_nil_iff]
  simp only [CollectSource.Meets, not_exists]
  constructor
  · rintro none profile ⟨listed, policy, asked, meets⟩
    have empty := List.append_eq_nil_iff.mp (none profile listed)
    rcases List.mem_append.mp asked with start | stop
    · have found := (isSome_matched_iff _ _ _).mpr ⟨policy, start, meets⟩
      have missing := empty.1
      simp only [Option.toList_eq_nil_iff, Option.map_eq_none_iff] at missing
      exact Option.isSome_iff_ne_none.mp found missing
    · have found := (isSome_matched_iff _ _ _).mpr ⟨policy, stop, meets⟩
      have missing := empty.2
      simp only [Option.toList_eq_nil_iff, Option.map_eq_none_iff] at missing
      exact Option.isSome_iff_ne_none.mp found missing
  · intro unmet profile listed
    have start : (source.manager (.watching online)).matched (deviceOnlineEvent value)
        profile.startOnDemandEvents = none := by
      by_contra found
      obtain ⟨policy, asked, meets⟩ := (isSome_matched_iff _ _ _).mp (Option.isSome_iff_ne_none.mpr found)
      exact unmet profile ⟨listed, policy, List.mem_append_left _ asked, meets⟩
    have stop : (source.manager (.watching online)).matched (deviceOnlineEvent value)
        profile.stopOnDemandEvents = none := by
      by_contra found
      obtain ⟨policy, asked, meets⟩ := (isSome_matched_iff _ _ _).mp (Option.isSome_iff_ne_none.mpr found)
      exact unmet profile ⟨listed, policy, List.mem_append_right _ asked, meets⟩
    rw [CollectSource.manager] at start stop
    simp only [start, stop, Option.map_none, Option.toList_none, List.append_nil]

end Controls

section Collectors

variable {splitStr : String → List String}

/-- A collector is known by its answer alone. -/
theorem saControlList_congr (source : CollectSource) {networking other : DeviceNetworkingCollect}
    (same : networking.isOnline = other.isOnline) :
    source.saControlList splitStr networking = source.saControlList splitStr other := by
  have judged : networking.checkCondition = other.checkCondition := by
    funext condition
    simp only [DeviceNetworkingCollect.checkCondition, same]
  funext event
  simp only [CollectSource.saControlList, CollectSource.judges, DeviceNetworkingCollect.plugin, judged]

/-- The collector of a user is never started, and judges as if no device were online. -/
theorem userControls_eq_offline {userId : Int} (user : userId ≠ BASE_USER) (source : CollectSource)
    (event : PolicyEvent) :
    CollectFleet.userControls splitStr userId source event = source.matching splitStr [] event := by
  rw [CollectFleet.userControls, DeviceNetworkingCollect.onStart, if_pos user]
  exact congrFun (saControlList_congr source rfl) event

end Collectors

namespace CollectFleet

variable (splitStr : String → List String) (f : CollectFleet)

/-- The share of a user in a device event. -/
theorem reportEvent_user {userId : Int} {source : CollectSource} (user : userId ≠ BASE_USER)
    (active : f.users userId = some source) (value : String) :
    f.reportEvent splitStr (deviceOnlineEvent value) userId =
      if f.base.matching splitStr f.online (deviceOnlineEvent value) = [] then []
      else source.matching splitStr [] (deviceOnlineEvent value) := by
  rw [reportEvent, if_neg user, active]
  simp only [userControls_eq_offline user]
  by_cases empty : f.baseControls splitStr (deviceOnlineEvent value) = []
  · rw [if_pos (.inl empty), if_pos (by exact empty)]
  · rw [if_neg (by simpa [deviceOnlineEvent] using empty), if_neg (by exact empty)]

/-- A device event reaches the users exactly when some base policy meets it and no user's controls
depend on the devices that are online, or no policy meets it at all. -/
theorem reaches_iff_base_meets (value : String) :
    f.Reaches splitStr (deviceOnlineEvent value) ↔
      ∀ userId source, userId ≠ BASE_USER → f.users userId = some source →
        f.base.Meets f.online (deviceOnlineEvent value) ∧
            source.matching splitStr f.online (deviceOnlineEvent value) =
              source.matching splitStr [] (deviceOnlineEvent value) ∨
          ¬ f.base.Meets f.online (deviceOnlineEvent value) ∧
            ¬ source.Meets f.online (deviceOnlineEvent value) := by
  constructor
  · intro reaches userId source user active
    have share := reaches.2 userId source user active
    rw [f.reportEvent_user splitStr user active] at share
    by_cases meets : f.base.Meets f.online (deviceOnlineEvent value)
    · rw [if_neg (by rw [saControlList_deviceOnline_eq_nil]; exact not_not_intro meets)] at share
      exact .inl ⟨meets, share.symm⟩
    · rw [if_pos (saControlList_deviceOnline_eq_nil _ _ _ |>.mpr meets)] at share
      exact .inr ⟨meets, (saControlList_deviceOnline_eq_nil _ _ _).mp share.symm⟩
  · intro condition
    refine ⟨rfl, ?_⟩
    intro userId source user active
    rw [f.reportEvent_user splitStr user active]
    rcases condition userId source user active with ⟨meets, same⟩ | ⟨unmet, empty⟩
    · rw [if_neg (by rw [saControlList_deviceOnline_eq_nil]; exact not_not_intro meets), same]
    · rw [if_pos (saControlList_deviceOnline_eq_nil _ _ _ |>.mpr unmet)]
      exact (saControlList_deviceOnline_eq_nil _ _ _ |>.mpr empty).symm

/-- A device comes online: an ability of user 100 is to be started then, and no base ability. -/
def forgottenUser : CollectFleet :=
  { base := .ofProfiles []
    online := ["phone"]
    users := fun userId =>
      if userId = 100 then
        some (.ofProfiles
          [{ saId := 5000, startOnDemandEvents := [deviceOnlineEvent "on"], stopOnDemandEvents := [] }])
      else none }

theorem forgotten_user_dispatches_nothing :
    ¬ forgottenUser.Reaches CollectState.splitAtPlus (deviceOnlineEvent "on") := by
  intro reaches
  have share := reaches.2 100 _ (by decide) rfl
  revert share
  decide +kernel

end CollectFleet

end Samgr
