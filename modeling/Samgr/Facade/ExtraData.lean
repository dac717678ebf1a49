import Samgr.Facade.Collect
import Samgr.Cache.Service
import Samgr.Lib.Runs

/-! The data of common events. Each instance has a collector that stores the data under numbers of
its own, and a process learns the numbers from the reason it is started for or asks for them; it
then asks for the data. -/
namespace Samgr

def COMMON_EVENT : Int := 4
def MAX_EXTRA_DATA_ID : Int := 1000000000
def UID : String := "uid"
def NET_TYPE : String := "NetType"
def BUNDLE_NAME : String := "bundleName"
def COMMON_EVENT_ACTION_NAME : String := "common_event_action_name"
def SA_OPERATION_NOT_ALLOWED : ErrCode := .other 1027

/-- `RouteForSa`: the base user acts on base abilities, the other users on their own. -/
def routeForSa (multiInstanceSaIds : List Int) (saId caller : Int) : ErrCode :=
  if caller = BASE_USER then
    if saId ∈ multiInstanceSaIds then SA_OPERATION_NOT_ALLOWED else .errOk
  else
    if saId ∈ multiInstanceSaIds then .errOk else SA_OPERATION_NOT_ALLOWED

structure OnDemandReasonExtraData where
  code : Int
  data : String
  want : List (String × String)
  deriving DecidableEq, Repr

/-- A common event as it is received; `params` are the parameters of its want as texts. -/
structure CommonEventData where
  code : Int
  data : String := ""
  action : String
  bundle : String := ""
  uid : Int := -1
  netType : Int := -1
  params : List (String × String) := []
  deriving DecidableEq, Repr

/-- Assignment to a key of a map of texts. -/
def assign (wantMap : List (String × String)) (key value : String) : List (String × String) :=
  (key, value) :: wantMap.filter fun entry => entry.1 != key

def CommonEventData.extraData (data : CommonEventData) : OnDemandReasonExtraData :=
  let wantMap := assign data.params UID (toString data.uid)
  let wantMap := assign wantMap NET_TYPE (toString data.netType)
  let wantMap := assign wantMap BUNDLE_NAME data.bundle
  { code := data.code, data := data.data, want := assign wantMap COMMON_EVENT_ACTION_NAME data.action }

/-- `workHandler` says whether the collector has been started, and `removals` are the numbers
whose removal it has been sent. -/
structure CommonEventCollect where
  workHandler : Bool := true
  extraDataId : Int := 0
  extraDatas : Int → Option OnDemandReasonExtraData := fun _ => none
  saExtraDataIdMap : Int → List Int := fun _ => []
  removals : List Int := []

namespace CommonEventCollect

variable (c : CommonEventCollect)

def generateExtraDataIdLocked : Int :=
  if c.extraDataId + 1 > MAX_EXTRA_DATA_ID then 1 else c.extraDataId + 1

def saveOnDemandReasonExtraData (data : CommonEventData) : CommonEventCollect × Int :=
  let extraDataId := c.generateExtraDataIdLocked
  let saved := { c with
    extraDataId
    extraDatas := Function.update c.extraDatas extraDataId (some data.extraData) }
  -- The data stay when there is no handler to send their removal to.
  if c.workHandler then ({ saved with removals := saved.removals ++ [extraDataId] }, extraDataId)
  else (saved, -1)

def removeSaExtraDataId (extraDataId : Int) : CommonEventCollect :=
  { c with saExtraDataIdMap := fun saId => (c.saExtraDataIdMap saId).erase extraDataId }

def removeOnDemandReasonExtraData (extraDataId : Int) : CommonEventCollect :=
  { c with extraDatas := Function.update c.extraDatas extraDataId none }.removeSaExtraDataId extraDataId

def getOnDemandReasonExtraData (extraDataId : Int) : Option OnDemandReasonExtraData :=
  c.extraDatas extraDataId

def saveSaExtraDataId (saId extraDataId : Int) : CommonEventCollect :=
  { c with saExtraDataIdMap :=
      Function.update c.saExtraDataIdMap saId (c.saExtraDataIdMap saId ++ [extraDataId]) }

def getCacheCommonEventSa (event : PolicyEvent) (saControlList : List PolicyControl) : List Int :=
  if event.eventId ≠ COMMON_EVENT ∨ event.extraDataId = -1 then []
  else (saControlList.filter fun control => control.cacheCommonEvent).map fun control => control.saId

def saveCacheCommonEventSaExtraId (event : PolicyEvent) (saControlList : List PolicyControl) :
    CommonEventCollect :=
  (getCacheCommonEventSa event saControlList).foldl
    (fun collect saId => collect.saveSaExtraDataId saId event.extraDataId) c

def clearSaExtraDataId (saId : Int) : CommonEventCollect :=
  { c with saExtraDataIdMap := Function.update c.saExtraDataIdMap saId [] }

/-- All numbers of the ability, or those of one event whose data are still stored. -/
def getSaExtraDataIdList (saId : Int) (eventName : String) : List Int :=
  if eventName = "" then c.saExtraDataIdMap saId
  else (c.saExtraDataIdMap saId).filter fun extraDataId =>
    (c.getOnDemandReasonExtraData extraDataId).any fun extraData =>
      (extraData.want.lookup COMMON_EVENT_ACTION_NAME).getD "" == eventName

theorem saveOnDemandReasonExtraData_extraDatas (data : CommonEventData) :
    (c.saveOnDemandReasonExtraData data).1.extraDatas =
      Function.update c.extraDatas c.generateExtraDataIdLocked (some data.extraData) := by
  rw [saveOnDemandReasonExtraData]
  split <;> rfl

theorem saveCacheCommonEventSaExtraId_extraDatas (event : PolicyEvent) (saControlList : List PolicyControl) :
    (c.saveCacheCommonEventSaExtraId event saControlList).extraDatas = c.extraDatas := by
  rw [saveCacheCommonEventSaExtraId]
  generalize getCacheCommonEventSa event saControlList = saIds
  induction saIds generalizing c with
  | nil => rfl
  | cons saId rest hypothesis => exact hypothesis (c.saveSaExtraDataId saId event.extraDataId)

end CommonEventCollect

/-- What has become of the data of the collectors. -/
inductive ExtraDataRecord where
  | saved (userId extraDataId : Int) (extraData : OnDemandReasonExtraData)
  | removed (userId extraDataId : Int)
  | renewed (userId : Int)
  deriving DecidableEq, Repr

/-- The data that a user's collector has saved under a number and not removed since; the latest
record stands first. -/
def savedUnder : List ExtraDataRecord → Int → Int → Option OnDemandReasonExtraData
  | [], _, _ => none
  | .saved userId extraDataId extraData :: rest, user, number =>
      if userId = user ∧ extraDataId = number then some extraData else savedUnder rest user number
  | .removed userId extraDataId :: rest, user, number =>
      if userId = user ∧ extraDataId = number then none else savedUnder rest user number
  | .renewed userId :: rest, user, number =>
      if userId = user then none else savedUnder rest user number

/-- The collectors of the base user and of the active users. `reported` are the events that each
has reported to its manager, and `obtained` the numbers that the processes of each user know. -/
structure CommonEventFleet where
  multiInstanceSaIds : List Int := []
  isCacheCommonEvent : Int → Bool := fun _ => true
  base : CommonEventCollect := {}
  users : Int → Option CommonEventCollect := fun _ => none
  reported : List (Int × PolicyEvent) := []
  obtained : List (Int × Int) := []
  history : List ExtraDataRecord := []

inductive CommonEventLabel where
  | onReceiveEvent (userId : Int) (data : CommonEventData)
  | processOnDemandEvent (userId : Int) (event : PolicyEvent) (saControlList : List PolicyControl)
  | startAbility (userId : Int) (event : PolicyEvent)
  | removeExtraData (userId extraDataId : Int)
  | clearSaExtraDataId (userId saId : Int)
  | getCommonEventExtraDataIdlist (caller saId : Int) (eventName : String)
  | activate (userId : Int)
  | stop (userId : Int)

namespace CommonEventFleet

variable (f : CommonEventFleet)

def collector (userId : Int) : Option CommonEventCollect :=
  if userId = BASE_USER then some f.base else f.users userId

def setCollector (userId : Int) (collect : CommonEventCollect) : CommonEventFleet :=
  if userId = BASE_USER then { f with base := collect }
  else { f with users := Function.update f.users userId (some collect) }

/-- The facade asks the base instance, whoever calls. -/
def getOnDemandReasonExtraData (_caller extraDataId : Int) : Except ErrCode OnDemandReasonExtraData :=
  match f.base.getOnDemandReasonExtraData extraDataId with
  | some extraData => .ok extraData
  | none => .error .errInvalidValue

/-- The facade asks the instance of the caller. -/
def getCommonEventExtraDataIdlist (caller saId : Int) (eventName : String) : Except ErrCode (List Int) :=
  match routeForSa f.multiInstanceSaIds saId caller with
  | .errOk =>
      match f.collector caller with
      | none => .error .errInvalidValue
      | some collect =>
          if f.isCacheCommonEvent saId then .ok (collect.getSaExtraDataIdList saId eventName) else .ok []
  | code => .error code

/-- The subscriber of a collector stores the data of an event and reports it. -/
def onReceiveEvent (userId : Int) (collect : CommonEventCollect) (data : CommonEventData) :
    CommonEventFleet :=
  let event : PolicyEvent :=
    { eventId := COMMON_EVENT, name := data.action, value := toString data.code
      extraDataId := (collect.saveOnDemandReasonExtraData data).2 }
  { f.setCollector userId (collect.saveOnDemandReasonExtraData data).1 with
    reported := (userId, event) :: f.reported
    history := .saved userId collect.generateExtraDataIdLocked data.extraData :: f.history }

/-- A label that does not apply changes nothing. -/
def step : CommonEventLabel → CommonEventFleet
  | .onReceiveEvent userId data =>
      match f.collector userId with
      | some collect => f.onReceiveEvent userId collect data
      | none => f
  | .processOnDemandEvent userId event saControlList =>
      match f.collector userId with
      | some collect =>
          if (userId, event) ∈ f.reported then
            f.setCollector userId (collect.saveCacheCommonEventSaExtraId event saControlList)
          else f
      | none => f
  | .startAbility userId event =>
      -- The reason that the process is started with holds the number.
      if (userId, event) ∈ f.reported then
        { f with obtained := (userId, event.extraDataId) :: f.obtained }
      else f
  | .removeExtraData userId extraDataId =>
      match f.collector userId with
      | some collect =>
          if extraDataId ∈ collect.removals then
            { f.setCollector userId
                ({ collect with removals := collect.removals.erase extraDataId
                    }.removeOnDemandReasonExtraData extraDataId) with
              history := .removed userId extraDataId :: f.history }
          else f
      | none => f
  | .clearSaExtraDataId userId saId =>
      match f.collector userId with
      | some collect => f.setCollector userId (collect.clearSaExtraDataId saId)
      | none => f
  | .getCommonEventExtraDataIdlist caller saId eventName =>
      match f.getCommonEventExtraDataIdlist caller saId eventName with
      | .ok extraDataIds => { f with obtained := extraDataIds.map (caller, ·) ++ f.obtained }
      | .error _ => f
  | .activate userId =>
      if userId = BASE_USER ∨ (f.users userId).isSome then f
      else { f.setCollector userId {} with history := .renewed userId :: f.history }
  | .stop userId =>
      if userId = BASE_USER then f
      else { f with
        users := Function.update f.users userId none
        history := .renewed userId :: f.history }

/-- What a process obtained from its user's collector is answered with the data saved there. -/
def Resolves : Prop :=
  ∀ userId extraDataId extraData, (userId, extraDataId) ∈ f.obtained →
    savedUnder f.history userId extraDataId = some extraData →
      f.getOnDemandReasonExtraData userId extraDataId = .ok extraData

/-- Each collector holds what the history says. -/
def Recorded : Prop :=
  ∀ userId extraDataId,
    (f.collector userId).bind (fun collect => collect.extraDatas extraDataId) =
      savedUnder f.history userId extraDataId

variable {f}

@[simp] theorem collector_setCollector_self (userId : Int) (collect : CommonEventCollect) :
    (f.setCollector userId collect).collector userId = some collect := by
  simp only [setCollector]
  split
  · simp [collector, *]
  · simp [collector, *]

theorem collector_setCollector_ne {userId other : Int} (different : other ≠ userId)
    (collect : CommonEventCollect) :
    (f.setCollector userId collect).collector other = f.collector other := by
  simp only [setCollector]
  split
  · next base =>
    have user : other ≠ BASE_USER := base ▸ different
    simp [collector, user]
  · simp [collector, Function.update_of_ne different]

@[simp] theorem setCollector_history (userId : Int) (collect : CommonEventCollect) :
    (f.setCollector userId collect).history = f.history := by
  rw [setCollector]
  split <;> rfl

/-- The part of a fleet that `Recorded` reads. -/
theorem Recorded.of_same {g : CommonEventFleet} (recorded : f.Recorded) (history : g.history = f.history)
    (collectors : ∀ userId, g.collector userId = f.collector userId) : g.Recorded := by
  intro userId extraDataId
  rw [collectors, history]
  exact recorded userId extraDataId

/-- A collector is exchanged, and the history says what it holds then. -/
theorem Recorded.exchange {g : CommonEventFleet} {userId : Int} (recorded : f.Recorded)
    (collect : CommonEventCollect)
    (exchanged : ∀ other, g.collector other = (f.setCollector userId collect).collector other)
    (kept : ∀ other extraDataId, other ≠ userId →
      savedUnder g.history other extraDataId = savedUnder f.history other extraDataId)
    (holds : ∀ extraDataId, collect.extraDatas extraDataId = savedUnder g.history userId extraDataId) :
    g.Recorded := by
  intro other extraDataId
  by_cases same : other = userId
  · rw [same, exchanged, collector_setCollector_self]
    exact holds extraDataId
  · rw [exchanged, collector_setCollector_ne same, kept other extraDataId same]
    exact recorded other extraDataId

/-- A collector whose data stay is exchanged. -/
theorem Recorded.setCollector {userId : Int} {old collect : CommonEventCollect} (recorded : f.Recorded)
    (active : f.collector userId = some old) (data : collect.extraDatas = old.extraDatas) :
    (f.setCollector userId collect).Recorded := by
  refine recorded.exchange collect (fun _ => rfl) ?_ ?_
  · intro other extraDataId _
    rw [setCollector_history]
  · intro extraDataId
    rw [setCollector_history, data, ← recorded userId extraDataId, active]
    rfl

theorem Recorded.onReceiveEvent {userId : Int} {collect : CommonEventCollect} (recorded : f.Recorded)
    (active : f.collector userId = some collect) (data : CommonEventData) :
    (f.onReceiveEvent userId collect data).Recorded := by
  refine recorded.exchange (collect.saveOnDemandReasonExtraData data).1 (fun _ => rfl) ?_ ?_
  · intro other extraDataId different
    simp [CommonEventFleet.onReceiveEvent, savedUnder, different.symm]
  · intro extraDataId
    have before := recorded userId extraDataId
    rw [active] at before
    by_cases same : collect.generateExtraDataIdLocked = extraDataId
    · simp [CommonEventFleet.onReceiveEvent, savedUnder, same,
        CommonEventCollect.saveOnDemandReasonExtraData_extraDatas]
    · simpa [CommonEventFleet.onReceiveEvent, savedUnder, same, Function.update_of_ne (Ne.symm same),
        CommonEventCollect.saveOnDemandReasonExtraData_extraDatas] using before

theorem Recorded.step (recorded : f.Recorded) (label : CommonEventLabel) : (f.step label).Recorded := by
  cases label with
  | onReceiveEvent userId data =>
      simp only [CommonEventFleet.step]
      split
      · next collect active => exact recorded.onReceiveEvent active data
      · exact recorded
  | processOnDemandEvent userId event saControlList =>
      simp only [CommonEventFleet.step]
      split
      · next collect active =>
        split
        · apply recorded.setCollector active
          exact collect.saveCacheCommonEventSaExtraId_extraDatas event saControlList
        · exact recorded
      · exact recorded
  | startAbility userId event =>
      simp only [CommonEventFleet.step]
      split
      · exact recorded.of_same rfl fun _ => rfl
      · exact recorded
  | removeExtraData userId extraDataId =>
      simp only [CommonEventFleet.step]
      split
      · next collect active =>
        split
        · refine recorded.exchange
            ({ collect with removals := collect.removals.erase extraDataId
                }.removeOnDemandReasonExtraData extraDataId) (fun _ => rfl) ?_ ?_
          · intro other number different
            simp [savedUnder, different.symm]
          · intro number
            have before := recorded userId number
            rw [active] at before
            by_cases same : extraDataId = number
            · simp [savedUnder, same, CommonEventCollect.removeOnDemandReasonExtraData,
                CommonEventCollect.removeSaExtraDataId]
            · simpa [savedUnder, same, CommonEventCollect.removeOnDemandReasonExtraData,
                CommonEventCollect.removeSaExtraDataId, Function.update_of_ne (Ne.symm same)] using before
        · exact recorded
      · exact recorded
  | clearSaExtraDataId userId saId =>
      simp only [CommonEventFleet.step]
      split
      · next collect active => exact recorded.setCollector active rfl
      · exact recorded
  | getCommonEventExtraDataIdlist caller saId eventName =>
      simp only [CommonEventFleet.step]
      split
      · exact recorded.of_same rfl fun _ => rfl
      · exact recorded
  | activate userId =>
      simp only [CommonEventFleet.step]
      split
      · exact recorded
      · refine recorded.exchange {} (fun _ => rfl) ?_ ?_
        · intro other extraDataId different
          simp [savedUnder, different.symm]
        · intro extraDataId
          simp [savedUnder]
  | stop userId =>
      simp only [CommonEventFleet.step]
      split
      · exact recorded
      · next user =>
        intro other extraDataId
        by_cases same : other = userId
        · simp [collector, savedUnder, same, user]
        · have before := recorded other extraDataId
          simpa [collector, savedUnder, same, Ne.symm same, Function.update_of_ne same] using before

/-- The fleet before any event. -/
def started (multiInstanceSaIds : List Int) (isCacheCommonEvent : Int → Bool) : CommonEventFleet :=
  { multiInstanceSaIds, isCacheCommonEvent }

theorem recorded_run (multiInstanceSaIds : List Int) (isCacheCommonEvent : Int → Bool)
    (labels : List CommonEventLabel) :
    (Runs.run step (started multiInstanceSaIds isCacheCommonEvent) labels).Recorded := by
  apply Runs.run_invariant Recorded
  · intro fleet label recorded
    exact recorded.step label
  · intro userId extraDataId
    rw [collector]
    split <;> rfl

/-- The answers are right exactly for the base user and where the base collector happens to hold
the same data under the same number. -/
theorem resolves_iff_base_agrees (multiInstanceSaIds : List Int) (isCacheCommonEvent : Int → Bool)
    (labels : List CommonEventLabel) :
    let fleet := Runs.run step (started multiInstanceSaIds isCacheCommonEvent) labels
    fleet.Resolves ↔
      ∀ userId extraDataId extraData, (userId, extraDataId) ∈ fleet.obtained →
        savedUnder fleet.history userId extraDataId = some extraData →
          userId = BASE_USER ∨ savedUnder fleet.history BASE_USER extraDataId = some extraData := by
  intro fleet
  have recorded : fleet.Recorded := recorded_run multiInstanceSaIds isCacheCommonEvent labels
  have answer : ∀ caller extraDataId extraData,
      fleet.getOnDemandReasonExtraData caller extraDataId = .ok extraData ↔
        savedUnder fleet.history BASE_USER extraDataId = some extraData := by
    intro caller extraDataId extraData
    have held := recorded BASE_USER extraDataId
    simp only [collector, if_true, Option.bind_some] at held
    rw [← held, getOnDemandReasonExtraData, CommonEventCollect.getOnDemandReasonExtraData]
    cases fleet.base.extraDatas extraDataId with
    | none => simp
    | some stored => simp
  constructor
  · intro resolves userId extraDataId extraData obtained saved
    have answered := resolves userId extraDataId extraData obtained saved
    exact .inr ((answer userId extraDataId extraData).mp answered)
  · intro condition userId extraDataId extraData obtained saved
    rcases condition userId extraDataId extraData obtained saved with base | same
    · exact (answer userId extraDataId extraData).mpr (base ▸ saved)
    · exact (answer userId extraDataId extraData).mpr same

/-- User 100 and the base user each receive an event, and an ability is started for the user. -/
def collidingNumbers : List CommonEventLabel :=
  [.activate 100, .onReceiveEvent 100 { code := 7, action := "usual.event.A" },
    .onReceiveEvent BASE_USER { code := 8, action := "usual.event.B" },
    .startAbility 100
      { eventId := COMMON_EVENT, name := "usual.event.A", value := toString (7 : Int), extraDataId := 1 }]

theorem colliding_numbers_answer_other_data :
    ¬ (Runs.run step (started [] fun _ => false) collidingNumbers).Resolves := by
  intro resolves
  have answer := resolves 100 1 (CommonEventData.extraData { code := 7, action := "usual.event.A" })
    (by decide) (by decide)
  revert answer
  decide

end CommonEventFleet

end Samgr
