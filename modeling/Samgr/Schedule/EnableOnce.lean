import Samgr.Schedule.Operations
import Samgr.Lib.Threads

/-! Controls that are enabled once. A dispatch records its event before it makes its request
and withdraws the record if the request fails; the two sections take a lock of their own each,
and the request between them takes none of these, so that dispatches may overlap at will. -/
namespace Samgr

/-- `OnDemandEvent::operator==`. -/
def OnDemandEvent.same (event other : OnDemandEvent) : Bool :=
  event.eventId == other.eventId && event.name == other.name && event.value == other.value

def isSameEvent (event : OnDemandEvent) (enableOnceList : List OnDemandEvent) : Bool :=
  enableOnceList.any fun other =>
    event.eventId == other.eventId && event.name == other.name && event.value == other.value

/-- What two events that are the same have in common. -/
def OnDemandEvent.key (event : OnDemandEvent) : Int × String × String :=
  (event.eventId, event.name, event.value)

theorem OnDemandEvent.same_iff {event other : OnDemandEvent} :
    event.same other = true ↔ event.key = other.key := by
  simp [OnDemandEvent.same, OnDemandEvent.key, and_assoc]

theorem isSameEvent_iff {event : OnDemandEvent} {enableOnceList : List OnDemandEvent} :
    isSameEvent event enableOnceList = true ↔ event.key ∈ enableOnceList.map OnDemandEvent.key := by
  simp only [isSameEvent, List.any_eq_true, List.mem_map, OnDemandEvent.key, Prod.mk.injEq,
    Bool.and_eq_true, beq_iff_eq, and_assoc]
  exact exists_congr fun other => by tauto

inductive OnDemandType where
  | start
  | stop
  deriving DecidableEq, Repr

def START_ON_DEMAND : Int := 1
def STOP_ON_DEMAND : Int := 2

structure SaControlInfo where
  ondemandId : Int
  saId : Int
  enableOnce : Bool := false
  deriving DecidableEq, Repr

/-- One control of a dispatch, with the callback and the pid of its load request. -/
structure Dispatch where
  event : OnDemandEvent
  saControl : SaControlInfo
  callback : RemoteInterface
  callingPid : Int
  deriving DecidableEq, Repr

abbrev EnableOnceMap : Type := Std.TreeMap Int (List OnDemandEvent)

/-- The records of an ability. -/
def EnableOnceMap.at (records : EnableOnceMap) (saId : Int) : List OnDemandEvent :=
  (records[saId]?).getD []

/-- The first section: nothing if the event is recorded already. -/
def EnableOnceMap.enter (records : EnableOnceMap) (saId : Int) (event : OnDemandEvent) :
    Option EnableOnceMap :=
  if isSameEvent event (records.at saId) then none
  else some (records.insert saId (records.at saId ++ [event]))

/-- The second section: `list::remove` takes out every equal event, and an empty list leaves
the map. -/
def EnableOnceMap.withdraw (records : EnableOnceMap) (saId : Int) (event : OnDemandEvent) :
    EnableOnceMap :=
  let left := (records.at saId).filter fun other => !other.same event
  if left.isEmpty then records.erase saId else records.insert saId left

/-- What a request has returned. -/
structure Answer where
  type : OnDemandType
  dispatch : Dispatch
  result : ErrCode
  deriving DecidableEq, Repr

/-- The scheduler with its two maps. The source does not keep the answers, newest first. -/
structure EnableOnce where
  sched : Scheduler
  startEnableOnceMap : EnableOnceMap := ∅
  stopEnableOnceMap : EnableOnceMap := ∅
  answers : List Answer := []

/-- What a dispatch still has to do for one control. -/
inductive OncePiece where
  | check (type : OnDemandType) (dispatch : Dispatch)
  | request (type : OnDemandType) (dispatch : Dispatch)
  | withdraw (type : OnDemandType) (dispatch : Dispatch)
  deriving DecidableEq, Repr

namespace EnableOnce

def mapOf (x : EnableOnce) : OnDemandType → EnableOnceMap
  | .start => x.startEnableOnceMap
  | .stop => x.stopEnableOnceMap

def setMap (x : EnableOnce) (type : OnDemandType) (records : EnableOnceMap) : EnableOnce :=
  match type with
  | .start => { x with startEnableOnceMap := records }
  | .stop => { x with stopEnableOnceMap := records }

def checkStartEnableOnce (event : OnDemandEvent) (saControl : SaControlInfo)
    (callback : RemoteInterface) (callingPid : Int) : OncePiece :=
  .check .start { event, saControl, callback, callingPid }

def checkStopEnableOnce (event : OnDemandEvent) (saControl : SaControlInfo)
    (callback : RemoteInterface) (callingPid : Int) : OncePiece :=
  .check .stop { event, saControl, callback, callingPid }

/-- `CheckEnableOnce`: one control after the other, all with one callback. -/
def checkEnableOnce (event : OnDemandEvent) (saControlList : List SaControlInfo)
    (callback : RemoteInterface) (callingPid : Int) : List OncePiece :=
  saControlList.filterMap fun saControl =>
    if saControl.ondemandId = START_ON_DEMAND then
      some (checkStartEnableOnce event saControl callback callingPid)
    else if saControl.ondemandId = STOP_ON_DEMAND then
      some (checkStopEnableOnce event saControl callback callingPid)
    else none

/-- The request that is made between the two sections. -/
def request (env : Env) (sched : Scheduler) (dispatch : Dispatch) : OnDemandType → Scheduler × ErrCode
  | .start => sched.handleLoadAbilityEvent env
      { deviceId := LOCAL_DEVICE
        callback := some dispatch.callback
        systemAbilityId := dispatch.saControl.saId
        callingPid := dispatch.callingPid
        loadEvent := dispatch.event }
  | .stop => sched.handleUnloadAbilityEvent env (some
      { unloadEvent := dispatch.event
        systemAbilityId := dispatch.saControl.saId
        callingPid := dispatch.callingPid })

def exec (env : Env) (x : EnableOnce) : OncePiece → EnableOnce × List OncePiece
  | .check type dispatch =>
      if dispatch.saControl.enableOnce then
        match (x.mapOf type).enter dispatch.saControl.saId dispatch.event with
        | none => (x, [])
        | some records => (x.setMap type records, [.request type dispatch])
      else (x, [.request type dispatch])
  | .request type dispatch =>
      let answered := request env x.sched dispatch type
      ({ x with
        sched := answered.1
        answers := { type, dispatch, result := answered.2 } :: x.answers },
        if dispatch.saControl.enableOnce ∧ answered.2 ≠ .errOk then [.withdraw type dispatch] else [])
  | .withdraw type dispatch =>
      (x.setMap type ((x.mapOf type).withdraw dispatch.saControl.saId dispatch.event), [])

/-- A call of `CheckEnableOnce`. -/
structure OnceCall where
  event : OnDemandEvent
  saControlList : List SaControlInfo
  callback : RemoteInterface
  callingPid : Int
  deriving DecidableEq, Repr

/-- Dispatches run in threads of their own, and any operation of the scheduler may come in
between. -/
def onceProgram : Threads.Program EnableOnce OnceCall OncePiece Env (Env × Scheduler.Op) Unit where
  enter _ call := checkEnableOnce call.event call.saControlList call.callback call.callingPid
  exec
  take _ := none
  act x label := { x with sched := x.sched.step label }
  needs _ _ := none
  releases _ := none

end EnableOnce

abbrev Dispatcher : Type := Threads.Config EnableOnce OncePiece

abbrev OnceLabel : Type := Threads.Label EnableOnce.OnceCall Env (Env × Scheduler.Op)

namespace Dispatcher

def init (saProfiles : List SaProfile) : Dispatcher := { shared := { sched := Scheduler.init saProfiles } }

def step (x : Dispatcher) (label : OnceLabel) : Dispatcher :=
  Threads.Config.step EnableOnce.onceProgram x label

/-- The piece that the label runs in this state, if it runs one. -/
def next (x : Dispatcher) (label : OnceLabel) : Option OncePiece :=
  Threads.Config.next EnableOnce.onceProgram x label

def runFrom (saProfiles : List SaProfile) (labels : List OnceLabel) : Dispatcher :=
  Runs.run step (init saProfiles) labels

end Dispatcher

namespace EnableOnceMap

variable {records : EnableOnceMap} {saId other : Int} {event : OnDemandEvent}

theorem at_insert {events : List OnDemandEvent} :
    EnableOnceMap.at (records.insert saId events) other =
      if other = saId then events else records.at other := by
  by_cases same : other = saId
  · subst same
    simp [EnableOnceMap.at]
  · have apart : ¬ compare saId other = .eq := by
      rw [Std.LawfulEqCmp.compare_eq_iff_eq]
      exact Ne.symm same
    simp [EnableOnceMap.at, Std.TreeMap.getElem?_insert, apart, same]

theorem at_erase : EnableOnceMap.at (records.erase saId) other =
    if other = saId then [] else records.at other := by
  by_cases same : other = saId
  · subst same
    simp [EnableOnceMap.at]
  · have apart : ¬ compare saId other = .eq := by
      rw [Std.LawfulEqCmp.compare_eq_iff_eq]
      exact Ne.symm same
    simp [EnableOnceMap.at, Std.TreeMap.getElem?_erase, apart, same]

theorem at_withdraw : (records.withdraw saId event).at other =
    if other = saId then (records.at saId).filter fun other => !other.same event
    else records.at other := by
  simp only [withdraw]
  split
  · rename_i empty
    rw [at_erase, List.isEmpty_iff.mp empty]
  · exact at_insert

theorem enter_eq_some {admitted : EnableOnceMap} (admits : records.enter saId event = some admitted) :
    event.key ∉ (records.at saId).map OnDemandEvent.key ∧
      ∀ other, admitted.at other = if other = saId then records.at saId ++ [event] else records.at other := by
  simp only [enter] at admits
  split at admits
  · cases admits
  · rename_i absent
    obtain rfl := Option.some.inj admits
    exact ⟨fun member => absent (isSameEvent_iff.mpr member), fun other => at_insert⟩

/-- A record that is alone with its key is all that goes. -/
theorem filter_same {before after : List OnDemandEvent}
    (single : ((before ++ event :: after).map OnDemandEvent.key).Nodup) :
    ((before ++ event :: after).filter fun other => !other.same event) = before ++ after := by
  have apart : ∀ other ∈ before ++ after, (!other.same event) = true := by
    intro other member
    rw [Bool.not_eq_true', Bool.eq_false_iff, ne_eq, OnDemandEvent.same_iff]
    intro equal
    have moved : ((event :: (before ++ after)).map OnDemandEvent.key).Nodup :=
      (List.perm_middle.map OnDemandEvent.key).nodup_iff.mp single
    rw [List.map_cons, List.nodup_cons] at moved
    exact moved.1 (equal ▸ List.mem_map_of_mem member)
  have self : event.same event = true := OnDemandEvent.same_iff.mpr rfl
  rw [List.filter_append, List.filter_cons, self]
  simp only [Bool.not_true, Bool.false_eq_true, if_false]
  rw [← List.filter_append]
  exact List.filter_eq_self.mpr apart

end EnableOnceMap

/-- The event of a dispatch, as far as it is about the ability and of the type. -/
def Dispatch.eventFor (dispatch : Dispatch) (own type : OnDemandType) (saId : Int) : Option OnDemandEvent :=
  if own = type ∧ dispatch.saControl.saId = saId then some dispatch.event else none

/-- The record that a piece of a dispatch has made and may still withdraw. -/
def OncePiece.record (type : OnDemandType) (saId : Int) : OncePiece → Option OnDemandEvent
  | .check _ _ => none
  | .request own dispatch =>
      if dispatch.saControl.enableOnce then dispatch.eventFor own type saId else none
  | .withdraw own dispatch => dispatch.eventFor own type saId

/-- The event of an enable-once request that returned ERR_OK. -/
def Answer.accepted (type : OnDemandType) (saId : Int) (answer : Answer) : Option OnDemandEvent :=
  if answer.dispatch.saControl.enableOnce ∧ answer.result = .errOk then
    answer.dispatch.eventFor answer.type type saId else none

theorem filterMap_cons_toList {Item Mark : Type} {f : Item → Option Mark} {item : Item} {items : List Item} :
    (item :: items).filterMap f = (f item).toList ++ items.filterMap f := by
  cases marked : f item <;> simp [marked]

namespace EnableOnce

variable {env : Env} {x : EnableOnce} {pieces : List OncePiece}

/-- The records of an ability. -/
def records (x : EnableOnce) (type : OnDemandType) (saId : Int) : List OnDemandEvent :=
  (x.mapOf type).at saId

/-- The events of an ability whose enable-once requests returned ERR_OK. -/
def accepted (x : EnableOnce) (type : OnDemandType) (saId : Int) : List OnDemandEvent :=
  x.answers.filterMap (Answer.accepted type saId)

/-- Each record belongs to a dispatch on its way or to an accepted one, and no two records of
an ability are of the same event. -/
structure Once (x : EnableOnce) (pieces : List OncePiece) : Prop where
  owned : ∀ type saId, (x.records type saId).Perm
    (pieces.filterMap (OncePiece.record type saId) ++ x.accepted type saId)
  single : ∀ type saId, ((x.records type saId).map OnDemandEvent.key).Nodup

theorem mapOf_setMap {type other : OnDemandType} {records : EnableOnceMap} :
    (x.setMap type records).mapOf other = if other = type then records else x.mapOf other := by
  cases type <;> cases other <;> rfl

@[simp] theorem accepted_setMap {type kind : OnDemandType} {records : EnableOnceMap} {saId : Int} :
    (x.setMap type records).accepted kind saId = x.accepted kind saId := by
  cases type <;> rfl

theorem Once.perm {others : List OncePiece} (same : pieces.Perm others) (good : x.Once pieces) :
    x.Once others := by
  refine ⟨fun type saId => (good.owned type saId).trans ?_, good.single⟩
  exact (same.filterMap _).append_right _

/-- Pieces without a record do not matter. -/
theorem Once.plain {made : List OncePiece} (good : x.Once pieces)
    (plain : ∀ piece ∈ made, ∀ type saId, piece.record type saId = none) : x.Once (made ++ pieces) := by
  refine ⟨fun type saId => ?_, good.single⟩
  have none : made.filterMap (OncePiece.record type saId) = [] :=
    List.filterMap_eq_nil_iff.mpr fun piece member => plain piece member type saId
  rw [List.filterMap_append, none]
  exact good.owned type saId

theorem checkEnableOnce_plain {event : OnDemandEvent} {saControlList : List SaControlInfo}
    {callback : RemoteInterface} {callingPid : Int} :
    ∀ piece ∈ checkEnableOnce event saControlList callback callingPid,
      ∀ type saId, piece.record type saId = none := by
  intro piece member type saId
  obtain ⟨saControl, -, made⟩ := List.mem_filterMap.mp member
  split at made
  · obtain rfl := Option.some.inj made
    rfl
  · split at made
    · obtain rfl := Option.some.inj made
      rfl
    · cases made

theorem Once.drop {piece : OncePiece} (plain : ∀ type saId, piece.record type saId = none)
    (good : x.Once (piece :: pieces)) : x.Once pieces := by
  refine ⟨fun type saId => ?_, good.single⟩
  have owned := good.owned type saId
  rwa [List.filterMap_cons, plain type saId] at owned

theorem Once.check {type : OnDemandType} {dispatch : Dispatch}
    (good : x.Once (.check type dispatch :: pieces)) :
    (exec env x (.check type dispatch)).1.Once ((exec env x (.check type dispatch)).2 ++ pieces) := by
  have left : x.Once pieces := good.drop fun _ _ => rfl
  simp only [exec]
  split
  · rename_i once
    split
    · exact left
    · rename_i admitted admits
      obtain ⟨absent, after⟩ := EnableOnceMap.enter_eq_some admits
      have recorded : ∀ kind saId, (x.setMap type admitted).records kind saId =
          x.records kind saId ++ (dispatch.eventFor type kind saId).toList := by
        intro kind saId
        simp only [records, mapOf_setMap, Dispatch.eventFor]
        by_cases same : type = kind
        · subst same
          by_cases own : dispatch.saControl.saId = saId
          · subst own
            simp [after]
          · simp [after, own, Ne.symm own]
        · simp [same, Ne.symm same]
      have made : ∀ kind saId, (OncePiece.request type dispatch).record kind saId =
          dispatch.eventFor type kind saId := by
        intro kind saId
        simp only [OncePiece.record, once, if_true]
      refine ⟨fun kind saId => ?_, fun kind saId => ?_⟩
      · rw [recorded, List.singleton_append, filterMap_cons_toList, made, List.append_assoc, accepted_setMap]
        exact List.perm_append_comm.trans ((left.owned kind saId).append_left _)
      · rw [recorded, List.map_append]
        cases own : dispatch.eventFor type kind saId with
        | none => simpa using left.single kind saId
        | some event =>
            simp only [Dispatch.eventFor] at own
            split at own
            · rename_i same
              obtain ⟨rfl, rfl⟩ := same
              obtain rfl := Option.some.inj own
              refine List.nodup_append.mpr ⟨left.single type _, List.nodup_singleton _, ?_⟩
              intro key member other last equal
              obtain rfl : other = dispatch.event.key := List.mem_singleton.mp last
              exact absent (equal ▸ member)
            · cases own
  · rename_i always
    refine left.plain fun piece member kind saId => ?_
    rw [List.mem_singleton.mp member]
    simp [OncePiece.record, always]

/-- A request that returns ERR_OK keeps its record for good; another one leaves the record to
its withdrawal. -/
theorem Once.request {type : OnDemandType} {dispatch : Dispatch}
    (good : x.Once (.request type dispatch :: pieces)) :
    (exec env x (.request type dispatch)).1.Once ((exec env x (.request type dispatch)).2 ++ pieces) := by
  have kept : ∀ kind saId, (exec env x (.request type dispatch)).1.records kind saId =
      x.records kind saId := by
    intro kind saId
    cases kind <;> rfl
  refine ⟨fun kind saId => ?_, fun kind saId => ?_⟩
  · have owned := good.owned kind saId
    rw [filterMap_cons_toList, OncePiece.record] at owned
    rw [kept]
    simp only [exec, accepted, filterMap_cons_toList, Answer.accepted]
    cases once : dispatch.saControl.enableOnce with
    | false => simpa [once, accepted] using owned
    | true =>
        by_cases ok : (EnableOnce.request env x.sched dispatch type).2 = .errOk
        · simp only [once, if_true, List.append_assoc] at owned
          simp only [ok, ne_eq, not_true_eq_false, and_false, if_false, List.nil_append, and_self, if_true]
          refine owned.trans ?_
          rw [← List.append_assoc, ← List.append_assoc]
          exact List.perm_append_comm.append_right _
        · simpa [once, ok, filterMap_cons_toList, OncePiece.record, accepted] using owned
  · rw [kept]
    exact good.single kind saId

/-- A withdrawal takes out the record of its dispatch and no other. -/
theorem Once.withdrawn (env : Env) {type : OnDemandType} {dispatch : Dispatch}
    (good : x.Once (.withdraw type dispatch :: pieces)) :
    ∃ before after, x.records type dispatch.saControl.saId = before ++ dispatch.event :: after ∧
      (exec env x (.withdraw type dispatch)).1.records type dispatch.saControl.saId = before ++ after := by
  have owned := good.owned type dispatch.saControl.saId
  have own : (OncePiece.withdraw type dispatch).record type dispatch.saControl.saId =
      some dispatch.event := by
    simp [OncePiece.record, Dispatch.eventFor]
  rw [filterMap_cons_toList, own] at owned
  have member : dispatch.event ∈ x.records type dispatch.saControl.saId :=
    owned.mem_iff.mpr List.mem_cons_self
  obtain ⟨before, after, split⟩ := List.append_of_mem member
  refine ⟨before, after, split, ?_⟩
  have single := good.single type dispatch.saControl.saId
  rw [split] at single
  simp only [exec, records, mapOf_setMap, if_true, EnableOnceMap.at_withdraw]
  rw [← EnableOnceMap.filter_same single, ← split]
  rfl

theorem withdraw_elsewhere {type other : OnDemandType} {dispatch : Dispatch} {saId : Int}
    (apart : ¬ (type = other ∧ dispatch.saControl.saId = saId)) :
    (exec env x (.withdraw type dispatch)).1.records other saId = x.records other saId := by
  simp only [exec, records, mapOf_setMap]
  split
  · rename_i same
    subst same
    rw [EnableOnceMap.at_withdraw, if_neg fun own => apart ⟨rfl, own.symm⟩]
  · rfl

theorem Once.withdraw {type : OnDemandType} {dispatch : Dispatch}
    (good : x.Once (.withdraw type dispatch :: pieces)) :
    (exec env x (.withdraw type dispatch)).1.Once ((exec env x (.withdraw type dispatch)).2 ++ pieces) := by
  obtain ⟨before, after, split, left⟩ := good.withdrawn env
  refine ⟨fun kind saId => ?_, fun kind saId => ?_⟩
  · have owned := good.owned kind saId
    rw [filterMap_cons_toList, OncePiece.record] at owned
    have answers : (exec env x (.withdraw type dispatch)).1.accepted kind saId = x.accepted kind saId := by
      simp only [exec, accepted_setMap]
    rw [answers]
    by_cases own : type = kind ∧ dispatch.saControl.saId = saId
    · obtain ⟨rfl, rfl⟩ := own
      rw [split, Dispatch.eventFor, if_pos ⟨rfl, rfl⟩] at owned
      rw [left]
      exact (List.perm_middle.symm.trans owned).cons_inv
    · rw [Dispatch.eventFor, if_neg own] at owned
      rw [withdraw_elsewhere own]
      exact owned
  · have single := good.single kind saId
    by_cases own : type = kind ∧ dispatch.saControl.saId = saId
    · obtain ⟨rfl, rfl⟩ := own
      rw [left]
      rw [split] at single
      exact single.sublist ((List.Sublist.append_left (List.sublist_cons_self _ _) before).map _)
    · rw [withdraw_elsewhere own]
      exact single

theorem exec_once {piece : OncePiece} (good : x.Once (piece :: pieces)) :
    (exec env x piece).1.Once ((exec env x piece).2 ++ pieces) := by
  cases piece with
  | check type dispatch => exact good.check
  | request type dispatch => exact good.request
  | withdraw type dispatch => exact good.withdraw

end EnableOnce

namespace Dispatcher

theorem step_once {x : Dispatcher} (label : OnceLabel) (good : x.shared.Once x.inFlight) :
    (x.step label).shared.Once (x.step label).inFlight := by
  refine Threads.Config.step_keeps (P := EnableOnce.onceProgram) EnableOnce.Once ?_ ?_ ?_ ?_ ?_ good
  · exact fun same good => good.perm same
  · exact fun _ _ good => good.plain EnableOnce.checkEnableOnce_plain
  · exact fun _ _ _ _ _ _ good => EnableOnce.exec_once good
  · exact fun _ _ _ taken => by cases taken
  · exact fun _ _ good => ⟨good.owned, good.single⟩

theorem runFrom_once (saProfiles : List SaProfile) (labels : List OnceLabel) :
    (runFrom saProfiles labels).shared.Once (runFrom saProfiles labels).inFlight := by
  refine Runs.run_invariant (fun x : Dispatcher => x.shared.Once x.inFlight)
    (fun x label good => step_once label good) labels ⟨fun type saId => ?_, fun type saId => ?_⟩
  · cases type <;> exact List.Perm.refl _
  · cases type <;> exact List.nodup_nil

/-- The enable-once requests of one type for an ability and an event that returned ERR_OK. -/
def successes (x : Dispatcher) (type : OnDemandType) (saId : Int) (event : OnDemandEvent) : List Answer :=
  x.shared.answers.filter fun answer => answer.type = type ∧ answer.dispatch.saControl.enableOnce ∧
    answer.dispatch.saControl.saId = saId ∧ answer.dispatch.event.same event ∧ answer.result = .errOk

theorem successes_length {x : Dispatcher} {type : OnDemandType} {saId : Int} {event : OnDemandEvent} :
    (x.successes type saId event).length =
      ((x.shared.accepted type saId).map OnDemandEvent.key).count event.key := by
  simp only [successes, EnableOnce.accepted]
  induction x.shared.answers with
  | nil => rfl
  | cons answer answers hypothesis =>
      have first : ((answer.accepted type saId).toList.map OnDemandEvent.key).count event.key =
          if answer.type = type ∧ answer.dispatch.saControl.enableOnce ∧
            answer.dispatch.saControl.saId = saId ∧ answer.dispatch.event.same event ∧
            answer.result = .errOk then 1 else 0 := by
        simp only [OnDemandEvent.same_iff, Answer.accepted, Dispatch.eventFor]
        split_ifs <;> simp_all
      rw [filterMap_cons_toList, List.map_append, List.count_append, ← hypothesis, first, List.filter_cons]
      simp only [decide_eq_true_eq]
      split <;> simp [Nat.add_comm]

/-- The section of a request notes what came back, leaves the records alone, and makes a
withdrawal next exactly if the control is enabled once and the request has failed. -/
theorem step_request {x : Dispatcher} {client : Option Nat} {env : Env} {type : OnDemandType}
    {dispatch : Dispatch} (next : x.next (.run client env) = some (.request type dispatch)) :
    let result := (EnableOnce.request env x.shared.sched dispatch type).2
    let y := x.step (.run client env)
    y.shared.answers = { type, dispatch, result } :: x.shared.answers ∧
    (∀ other saId, y.shared.records other saId = x.shared.records other saId) ∧
    ∃ rest, x.thread client = .request type dispatch :: rest ∧
      y.thread client =
        (if dispatch.saControl.enableOnce ∧ result ≠ .errOk then [.withdraw type dispatch] else []) ++ rest := by
  intro result y
  have ran : y.shared = (EnableOnce.exec env x.shared (.request type dispatch)).1 :=
    Threads.Config.shared_of_run next
  obtain ⟨rest, before, after⟩ := Threads.Config.thread_of_run next
  refine ⟨?_, ?_, rest, before, after⟩
  · rw [ran]
    rfl
  · intro other saId
    rw [ran]
    cases other <;> rfl

/-- The section of a check that finds no record of the event makes one and asks next. -/
theorem step_check {x : Dispatcher} {client : Option Nat} {env : Env} {type : OnDemandType}
    {dispatch : Dispatch} (next : x.next (.run client env) = some (.check type dispatch))
    (once : dispatch.saControl.enableOnce = true) :
    let saId := dispatch.saControl.saId
    let y := x.step (.run client env)
    ∃ rest, x.thread client = .check type dispatch :: rest ∧
      if isSameEvent dispatch.event (x.shared.records type saId) then
        y.shared = x.shared ∧ y.thread client = rest
      else
        y.shared.records type saId = x.shared.records type saId ++ [dispatch.event] ∧
          y.thread client = .request type dispatch :: rest := by
  intro saId y
  have ran : y.shared = (EnableOnce.exec env x.shared (.check type dispatch)).1 :=
    Threads.Config.shared_of_run next
  obtain ⟨rest, before, after⟩ := Threads.Config.thread_of_run next
  refine ⟨rest, before, ?_⟩
  have made : y.thread client = (EnableOnce.exec env x.shared (.check type dispatch)).2 ++ rest := after
  simp only [EnableOnce.exec, once, if_true, EnableOnceMap.enter] at ran made
  split
  · rename_i found
    have known : isSameEvent dispatch.event
        (EnableOnceMap.at (x.shared.mapOf type) dispatch.saControl.saId) = true := found
    simp only [known, if_true] at ran made
    exact ⟨ran, made⟩
  · rename_i absent
    have unknown : isSameEvent dispatch.event
        (EnableOnceMap.at (x.shared.mapOf type) dispatch.saControl.saId) = false :=
      Bool.eq_false_iff.mpr absent
    simp only [unknown, Bool.false_eq_true, if_false] at ran made
    refine ⟨?_, made⟩
    rw [ran]
    simp only [EnableOnce.records, EnableOnce.mapOf_setMap, if_true, EnableOnceMap.at_insert, saId]

/-- In every interleaving of dispatches, with anything else the scheduler does in between, at
most one enable-once request for an ability and an event returns ERR_OK. A dispatch makes one
record before its request; a request that fails is followed in its thread by a withdrawal,
which takes this record out and leaves all others as they are, so that the records there are
belong to dispatches on their way and to the accepted ones. -/
theorem enable_once_is_at_most_once (saProfiles : List SaProfile) (labels : List OnceLabel) :
    let x := runFrom saProfiles labels
    (∀ type saId event, (x.successes type saId event).length ≤ 1) ∧
    (∀ client env type dispatch, x.next (.run client env) = some (.check type dispatch) →
      dispatch.saControl.enableOnce = true →
      ∃ rest, x.thread client = .check type dispatch :: rest ∧
        if isSameEvent dispatch.event (x.shared.records type dispatch.saControl.saId) then
          (x.step (.run client env)).shared = x.shared ∧ (x.step (.run client env)).thread client = rest
        else
          (x.step (.run client env)).shared.records type dispatch.saControl.saId =
            x.shared.records type dispatch.saControl.saId ++ [dispatch.event] ∧
          (x.step (.run client env)).thread client = .request type dispatch :: rest) ∧
    (∀ client env type dispatch, x.next (.run client env) = some (.request type dispatch) →
      let result := (EnableOnce.request env x.shared.sched dispatch type).2
      let y := x.step (.run client env)
      y.shared.answers = { type, dispatch, result } :: x.shared.answers ∧
      (∀ other saId, y.shared.records other saId = x.shared.records other saId) ∧
      ∃ rest, x.thread client = .request type dispatch :: rest ∧
        y.thread client =
          (if dispatch.saControl.enableOnce ∧ result ≠ .errOk then [.withdraw type dispatch] else []) ++ rest) ∧
    (∀ label type dispatch, x.next label = some (.withdraw type dispatch) →
      (∃ before after,
        x.shared.records type dispatch.saControl.saId = before ++ dispatch.event :: after ∧
        (x.step label).shared.records type dispatch.saControl.saId = before ++ after) ∧
      ∀ other saId, ¬ (type = other ∧ dispatch.saControl.saId = saId) →
        (x.step label).shared.records other saId = x.shared.records other saId) ∧
    ∀ type saId, (x.shared.records type saId).Perm
      (x.inFlight.filterMap (OncePiece.record type saId) ++ x.shared.accepted type saId) := by
  intro x
  have good : x.shared.Once x.inFlight := runFrom_once saProfiles labels
  refine ⟨?_, ?_, ?_, ?_, good.owned⟩
  · intro type saId event
    rw [successes_length]
    refine List.nodup_iff_count_le_one.mp ?_ event.key
    have both : ((x.inFlight.filterMap (OncePiece.record type saId) ++
        x.shared.accepted type saId).map OnDemandEvent.key).Nodup :=
      ((good.owned type saId).map OnDemandEvent.key).nodup_iff.mp (good.single type saId)
    exact both.sublist ((List.sublist_append_right _ _).map _)
  · intro client env type dispatch next once
    exact step_check next once
  · intro client env type dispatch next
    exact step_request next
  · intro label type dispatch next
    obtain ⟨env, others, flying, same⟩ := Threads.Config.step_of_next next
    have stepped : (x.step label).shared = (EnableOnce.exec env x.shared (.withdraw type dispatch)).1 := same
    rw [stepped]
    exact ⟨(good.perm flying).withdrawn env, fun other saId apart => EnableOnce.withdraw_elsewhere apart⟩

end Dispatcher

end Samgr
