import Samgr.Collect.LogicRelation
import Samgr.Lib.Latest

/-! What the collector of common events knows is what the events have told it. Its three tables are
written and read in sections under one lock, and an event that comes in takes two of them, so the
sections of several events may come in any order. -/
namespace Samgr

/-- `Want`, as the collector reads it. -/
structure Want where
  action : String
  getIntParam : String → Int → Int
  getStringParam : String → String
  getBoolParam : String → Bool → Bool

namespace CommonEventState

/-- `CommonEventData` with a want whose parameters are not texts yet. -/
structure EventData where
  want : Want
  code : Int

def COMMON_EVENT_USER_UNLOCKED : String := "usual.event.USER_UNLOCKED"

/-- The events of which the one takes the other back. -/
def opposites : List (String × String) :=
  [("usual.event.SCREEN_ON", "usual.event.SCREEN_OFF"),
    ("usual.event.SCREEN_OFF", "usual.event.SCREEN_ON"),
    ("usual.event.CHARGING", "usual.event.DISCHARGING"),
    ("usual.event.DISCHARGING", "usual.event.CHARGING"),
    ("usual.event.POWER_CONNECTED", "usual.event.POWER_DISCONNECTED"),
    ("usual.event.POWER_DISCONNECTED", "usual.event.POWER_CONNECTED")]

/-- What is taken to be the case before any event. -/
def initialNames : List String :=
  ["usual.event.SCREEN_ON", "usual.event.DISCHARGING", "usual.event.POWER_DISCONNECTED"]

/-- `GetParamFromWant`: a number goes before a text, and a truth value before both. -/
def getParamFromWant (key : String) (want : Want) : String :=
  let valueInt := want.getIntParam key (-1)
  let valueString := if valueInt = -1 then want.getStringParam key else toString valueInt
  if want.getBoolParam key false then "true"
  else if !want.getBoolParam key true then "false"
  else valueString

variable (s : CommonEventState)

/-- The keys of a condition are known from the start, without a value. -/
def initCondition (condition : OnDemandCondition) : CommonEventState :=
  if condition.eventId ≠ COMMON_EVENT then s
  else
    condition.extraMessages.foldl (fun s entry =>
      { s with
        commonEventConditionExtraData := s.commonEventConditionExtraData.insert condition.name
          ((s.commonEventConditionExtraData.getD condition.name ∅).insert entry.1 "") }) s

def conditionsOf (saProfiles : List CollMgrSaProfile) : List OnDemandCondition :=
  (saProfiles.flatMap CollMgrSaProfile.events).flatMap fun event => event.conditions

/-- `Init`, as far as the tables go. -/
def init (saProfiles : List CollMgrSaProfile) : CommonEventState :=
  (conditionsOf saProfiles).foldl initCondition
    { commonEventWhitelist := CommonEventCollect.insertNames ∅ initialNames }

def saveAction (action : String) : CommonEventState :=
  match opposites.lookup action with
  | some opposite =>
      { s with commonEventWhitelist := (s.commonEventWhitelist.insert action).erase opposite }
  | none =>
      if action = COMMON_EVENT_USER_UNLOCKED then
        { s with commonEventWhitelist := s.commonEventWhitelist.insert action }
      else s

/-- The keys that are known get the values of the event. -/
def saveOnDemandConditionExtraData (data : EventData) : CommonEventState :=
  { s with
    commonEventConditionValue := s.commonEventConditionValue.insert data.want.action (toString data.code)
    commonEventConditionExtraData := s.commonEventConditionExtraData.insert data.want.action
      ((s.commonEventConditionExtraData.getD data.want.action ∅).map fun key _ =>
        getParamFromWant key data.want) }

/-- The user's unlocking is forgotten when the account service dies. -/
def removeWhiteCommonEvent : CommonEventState :=
  { s with commonEventWhitelist := s.commonEventWhitelist.erase COMMON_EVENT_USER_UNLOCKED }

/-- A section under `commonEventStateLock_`. -/
inductive Section where
  | saveAction (action : String)
  | saveOnDemandConditionExtraData (data : EventData)
  | removeWhiteCommonEvent
  | checkCondition (condition : OnDemandCondition)

/-- `OnReceiveEvent`, in order. -/
def onReceiveEvent (data : EventData) : List Section :=
  [.saveAction data.want.action, .saveOnDemandConditionExtraData data]

variable (strToInt : String → Option Int)

def exec : Section → CommonEventState
  | .saveAction action => s.saveAction action
  | .saveOnDemandConditionExtraData data => s.saveOnDemandConditionExtraData data
  | .removeWhiteCommonEvent => s.removeWhiteCommonEvent
  | .checkCondition condition => (s.checkCondition strToInt condition).1

section History

/-- Whether a section says that what a name stands for is so, or that it is not. -/
def tells (name : String) : Section → Option Bool
  | .saveAction action =>
      if action = name then some true
      else if opposites.lookup action = some name then some false else none
  | .removeWhiteCommonEvent => if name = COMMON_EVENT_USER_UNLOCKED then some false else none
  | _ => none

/-- The latest event of the name, or of its opposite, decides. -/
def stands (name : String) (sections : List Section) : Bool :=
  (Latest.latest (tells name) sections).getD (initialNames.contains name)

/-- The event of the name that a section saves. -/
def saves (name : String) : Section → Option EventData
  | .saveOnDemandConditionExtraData data => if data.want.action = name then some data else none
  | _ => none

/-- The latest event of the name. -/
def latestData (name : String) (sections : List Section) : Option EventData :=
  Latest.latest (saves name) sections

/-- Some condition of a profile asks for the key. -/
def Watched (saProfiles : List CollMgrSaProfile) (name key : String) : Prop :=
  ∃ condition ∈ conditionsOf saProfiles, condition.eventId = COMMON_EVENT ∧ condition.name = name ∧
    key ∈ condition.extraMessages.map Prod.fst

instance (saProfiles : List CollMgrSaProfile) (name key : String) :
    Decidable (Watched saProfiles name key) :=
  inferInstanceAs (Decidable (∃ condition ∈ conditionsOf saProfiles, _))

/-- What the latest event has for a key that is asked for; a key without a value is empty. -/
def knownValue (saProfiles : List CollMgrSaProfile) (name key : String) (sections : List Section) : String :=
  if Watched saProfiles name key then
    ((latestData name sections).map fun data => getParamFromWant key data.want).getD ""
  else ""

/-- What is asked of the code of the latest event, and without an event of the empty text. -/
def codeMatches (condition : OnDemandCondition) (sections : List Section) : Prop :=
  condition.value = "" ∨
    ((latestData condition.name sections).map fun data => toString data.code) = some condition.value

end History

section Whitelist

variable {s : CommonEventState} {strToInt : String → Option Int} {name action opposite : String}

theorem lookup_opposites : opposites.lookup action = some opposite ↔ (action, opposite) ∈ opposites := by
  have all : ∀ pair ∈ opposites, opposites.lookup pair.1 = some pair.2 := by decide
  constructor
  · intro found
    obtain ⟨before, after, split, _⟩ := List.lookup_eq_some_iff.mp found
    rw [split]
    exact List.mem_append_right before List.mem_cons_self
  · exact all (action, opposite)

theorem opposite_ne (found : opposites.lookup action = some opposite) : action ≠ opposite := by
  have all : ∀ pair ∈ opposites, pair.1 ≠ pair.2 := by decide
  exact all (action, opposite) (lookup_opposites.mp found)

/-- The opposite of a name is the opposite of no other. -/
theorem opposite_iff (pair : (name, opposite) ∈ opposites) :
    opposites.lookup action = some opposite ↔ action = name := by
  have single : ∀ pair ∈ opposites, ∀ other ∈ opposites, other.2 = pair.2 → other.1 = pair.1 := by decide
  constructor
  · intro found
    exact single (name, opposite) pair (action, opposite) (lookup_opposites.mp found) rfl
  · rintro rfl
    exact lookup_opposites.mpr pair

/-- What tells of a name tells the contrary of its opposite. -/
theorem tells_opposite (pair : (name, opposite) ∈ opposites) (done : Section) :
    tells opposite done = (tells name done).map (!·) := by
  have back : ∀ pair ∈ opposites, (pair.2, pair.1) ∈ opposites := by decide
  have locked : ∀ pair ∈ opposites, pair.1 ≠ COMMON_EVENT_USER_UNLOCKED := by decide
  have apart := opposite_ne (lookup_opposites.mpr pair)
  cases done with
  | saveAction action =>
      simp only [tells, opposite_iff pair, opposite_iff (back _ pair)]
      by_cases here : action = name
      · subst here
        simp [apart]
      · by_cases there : action = opposite
        · simp [there, Ne.symm apart]
        · simp [there, here]
  | removeWhiteCommonEvent =>
      simp only [tells, if_neg (locked _ pair), if_neg (locked _ (back _ pair)), Option.map_none]
  | saveOnDemandConditionExtraData data => rfl
  | checkCondition condition => rfl

theorem stands_opposite {pair : String × String} (member : pair ∈ opposites) (sections : List Section) :
    stands pair.1 sections = !stands pair.2 sections := by
  have start : ∀ pair ∈ opposites, initialNames.contains pair.2 = !initialNames.contains pair.1 := by decide
  rw [stands, stands, Latest.latest_map (tells_opposite member), start pair member]
  cases Latest.latest (tells pair.1) sections with
  | none => simp
  | some told => simp

theorem unlocked_of_no_opposite (listed : name ∈ whitelistNames) (none : opposites.lookup name = none) :
    name = COMMON_EVENT_USER_UNLOCKED := by
  simp only [whitelistNames, List.mem_cons, List.not_mem_nil, or_false] at listed
  rcases listed with rfl | rfl | rfl | rfl | rfl | rfl | rfl
  all_goals first | rfl | exact absurd none (by decide)

theorem contains_saveAction (listed : name ∈ whitelistNames) :
    (s.saveAction action).commonEventWhitelist.contains name =
      (tells name (.saveAction action)).getD (s.commonEventWhitelist.contains name) := by
  rw [saveAction, tells]
  cases found : opposites.lookup action with
  | some opposite =>
      have apart := opposite_ne found
      simp only [Std.TreeSet.contains_erase, Std.TreeSet.contains_insert, Option.some.injEq]
      grind
  | none =>
      by_cases unlocked : action = COMMON_EVENT_USER_UNLOCKED
      · rw [if_pos unlocked]
        simp only [Std.TreeSet.contains_insert, reduceCtorEq, if_false]
        grind
      · rw [if_neg unlocked]
        have apart : action ≠ name := by
          rintro rfl
          exact unlocked (unlocked_of_no_opposite listed found)
        simp [apart]

/-- The whitelist is written by what tells of the name. -/
theorem contains_exec (listed : name ∈ whitelistNames) (done : Section) :
    (s.exec strToInt done).commonEventWhitelist.contains name =
      (tells name done).getD (s.commonEventWhitelist.contains name) := by
  cases done with
  | saveAction action => exact contains_saveAction listed
  | saveOnDemandConditionExtraData data => rfl
  | removeWhiteCommonEvent =>
      simp only [exec, removeWhiteCommonEvent, tells, Std.TreeSet.contains_erase]
      grind
  | checkCondition condition =>
      simp only [exec, checkCondition, tells, Option.getD_none]
      split
      · split
        · rfl
        · split <;> rfl
      · rfl

end Whitelist

section Values

variable {s : CommonEventState} {strToInt : String → Option Int} {name key : String}
  {saProfiles : List CollMgrSaProfile}

def codeOf (s : CommonEventState) (name : String) : String := s.commonEventConditionValue.getD name ""

def keyOf (s : CommonEventState) (name key : String) : Option String :=
  (s.commonEventConditionExtraData.getD name ∅)[key]?

/-- A check gives nothing a value. -/
theorem codeOf_checkCondition (condition : OnDemandCondition) :
    (s.checkCondition strToInt condition).1.codeOf name = s.codeOf name := by
  simp only [checkCondition, codeOf]
  split
  · split
    · exact getD_insertIfNew_fallback _ _ _ _
    · split <;> exact getD_insertIfNew_fallback _ _ _ _
  · rfl

theorem keyOf_checkCondition (condition : OnDemandCondition) :
    (s.checkCondition strToInt condition).1.keyOf name key = s.keyOf name key := by
  have looked : (s.commonEventConditionExtraData.insertIfNew condition.name ∅).getD name ∅ =
      s.commonEventConditionExtraData.getD name ∅ := getD_insertIfNew_fallback _ _ _ _
  simp only [checkCondition, keyOf]
  split
  · split
    · rw [looked]
    · split <;> rw [looked]
  · rw [looked]

theorem codeOf_exec (done : Section) : (s.exec strToInt done).codeOf name =
    ((saves name done).map fun data => toString data.code).getD (s.codeOf name) := by
  cases done with
  | saveAction action =>
      simp only [exec, saveAction, saves]
      split
      · rfl
      · split <;> rfl
  | saveOnDemandConditionExtraData data =>
      simp only [exec, saveOnDemandConditionExtraData, codeOf, saves, Std.TreeMap.getD_insert]
      grind
  | removeWhiteCommonEvent => rfl
  | checkCondition condition => exact codeOf_checkCondition condition

theorem keyOf_exec (done : Section) : (s.exec strToInt done).keyOf name key =
    ((saves name done).map fun data => (s.keyOf name key).map fun _ =>
      getParamFromWant key data.want).getD (s.keyOf name key) := by
  cases done with
  | saveAction action =>
      simp only [exec, saveAction, saves]
      split
      · rfl
      · split <;> rfl
  | saveOnDemandConditionExtraData data =>
      simp only [exec, saveOnDemandConditionExtraData, keyOf, saves, Std.TreeMap.getD_insert]
      by_cases same : data.want.action = name
      · subst same
        simp [Std.TreeMap.getElem?_map]
      · have apart : compare data.want.action name ≠ .eq := fun eq => same (Std.LawfulEqCmp.eq_of_compare eq)
        simp [same]
  | removeWhiteCommonEvent => rfl
  | checkCondition condition => exact keyOf_checkCondition condition

/-- One key of a condition. -/
def initKey (condition : OnDemandCondition) (s : CommonEventState) (entry : String × String) :
    CommonEventState :=
  { s with
    commonEventConditionExtraData := s.commonEventConditionExtraData.insert condition.name
      ((s.commonEventConditionExtraData.getD condition.name ∅).insert entry.1 "") }

theorem keyOf_initKey {condition : OnDemandCondition} {entry : String × String} :
    (initKey condition s entry).keyOf name key =
      if condition.name = name ∧ entry.1 = key then some "" else s.keyOf name key := by
  simp only [initKey, keyOf, Std.TreeMap.getD_insert]
  by_cases same : condition.name = name
  · subst same
    simp [Std.TreeMap.getElem?_insert]
  · simp [same]

/-- Whether a condition makes the key known. -/
def Asks (name key : String) (condition : OnDemandCondition) : Prop :=
  condition.eventId = COMMON_EVENT ∧ condition.name = name ∧ key ∈ condition.extraMessages.map Prod.fst

theorem keyOf_initCondition {condition : OnDemandCondition} :
    (s.initCondition condition).keyOf name key = some "" ↔
      s.keyOf name key = some "" ∨ Asks name key condition := by
  rw [initCondition]
  split
  · rename_i other
    exact (or_iff_left fun asks => other asks.1).symm
  · rename_i own
    have one : ∀ (s : CommonEventState) (entry : String × String),
        (initKey condition s entry).keyOf name key = some "" ↔
          s.keyOf name key = some "" ∨ (condition.name = name ∧ entry.1 = key) := by
      intro s entry
      rw [keyOf_initKey]
      split
      · rename_i here
        exact iff_of_true rfl (Or.inr here)
      · rename_i apart
        exact (or_iff_left apart).symm
    refine (Runs.run_adds (initKey condition) (fun s => s.keyOf name key = some "") one s _).trans ?_
    refine or_congr_right ?_
    rw [Asks, List.mem_map]
    constructor
    · rintro ⟨entry, member, same, here⟩
      exact ⟨not_not.mp own, same, entry, member, here⟩
    · rintro ⟨-, same, entry, member, here⟩
      exact ⟨entry, member, same, here⟩

/-- A key has no value before the first event. -/
def Empty (s : CommonEventState) : Prop :=
  (∀ name key value, s.keyOf name key = some value → value = "") ∧ ∀ name, s.codeOf name = ""

theorem Empty.initCondition {condition : OnDemandCondition} (empty : s.Empty) :
    (s.initCondition condition).Empty := by
  rw [CommonEventState.initCondition]
  split
  · exact empty
  · refine @Runs.run_invariant _ _ (initKey condition) Empty (fun s entry empty => ?_) _ _ empty
    refine ⟨fun name key value found => ?_, empty.2⟩
    rw [keyOf_initKey] at found
    split at found
    · cases found
      rfl
    · exact empty.1 name key value found

theorem init_empty : (init saProfiles).Empty := by
  refine @Runs.run_invariant _ _ initCondition Empty (fun _ _ empty => empty.initCondition) _ _ ?_
  refine ⟨fun name key value found => ?_, fun name => ?_⟩
  · simp [keyOf] at found
  · simp [codeOf]

theorem keyOf_init : (init saProfiles).keyOf name key =
    if Watched saProfiles name key then some "" else none := by
  have known : (init saProfiles).keyOf name key = some "" ↔ Watched saProfiles name key := by
    refine (Runs.run_adds initCondition (fun s => s.keyOf name key = some "")
      (fun _ _ => keyOf_initCondition) _ _).trans ?_
    refine or_iff_right ?_
    simp [keyOf]
  split
  · rename_i watched
    exact known.mpr watched
  · rename_i unwatched
    cases found : (init saProfiles).keyOf name key with
    | none => rfl
    | some value =>
        rw [init_empty.1 name key value found] at found
        exact absurd (known.mp found) unwatched

theorem contains_init : (init saProfiles).commonEventWhitelist.contains name = initialNames.contains name := by
  have same : (init saProfiles).commonEventWhitelist = CommonEventCollect.insertNames ∅ initialNames := by
    refine @Runs.run_invariant _ _ initCondition (fun s => s.commonEventWhitelist =
      CommonEventCollect.insertNames ∅ initialNames) (fun s condition kept => ?_) _ _ rfl
    rw [initCondition]
    split
    · exact kept
    · exact @Runs.run_invariant _ _ (initKey condition) (fun s => s.commonEventWhitelist =
        CommonEventCollect.insertNames ∅ initialNames) (fun _ _ kept => kept) _ _ kept
  rw [same, Bool.eq_iff_iff, ← Std.TreeSet.mem_iff_contains, CommonEventCollect.mem_insertNames]
  simp

end Values

section Runs

variable {strToInt : String → Option Int} {saProfiles : List CollMgrSaProfile} {name key : String}
  (sections : List Section)

theorem contains_run (listed : name ∈ whitelistNames) :
    (Runs.run (exec · strToInt) (init saProfiles) sections).commonEventWhitelist.contains name =
      stands name sections := by
  rw [stands, ← @contains_init name saProfiles]
  exact Latest.run_latest (exec · strToInt) (fun s => s.commonEventWhitelist.contains name) (tells name)
    (fun _ => True) (fun _ _ _ => trivial) (fun _ done _ => contains_exec listed done) trivial sections

theorem codeOf_run : (Runs.run (exec · strToInt) (init saProfiles) sections).codeOf name =
    ((latestData name sections).map fun data => toString data.code).getD "" := by
  rw [latestData, ← Latest.latest_map (fun _ => rfl), ← init_empty.2 name]
  exact Latest.run_latest (exec · strToInt) (codeOf · name)
    (fun done => (saves name done).map fun data => toString data.code) (fun _ => True)
    (fun _ _ _ => trivial) (fun _ done _ => codeOf_exec done) trivial sections

theorem keyOf_run : ((Runs.run (exec · strToInt) (init saProfiles) sections).keyOf name key).getD "" =
    knownValue saProfiles name key sections := by
  have keep : ∀ s (done : Section), (keyOf s name key).isSome = decide (Watched saProfiles name key) →
      ((s.exec strToInt done).keyOf name key).isSome = decide (Watched saProfiles name key) := by
    intro s done same
    rw [keyOf_exec]
    cases saves name done with
    | none => exact same
    | some data => simpa using same
  have start : (keyOf (init saProfiles) name key).isSome = decide (Watched saProfiles name key) := by
    rw [keyOf_init]
    split <;> simp [*]
  rw [knownValue]
  by_cases watched : Watched saProfiles name key
  · rw [if_pos watched]
    have read := Latest.run_latest (exec · strToInt) (fun s => (keyOf s name key).getD "")
      (fun done => (saves name done).map fun data => getParamFromWant key data.want)
      (fun s => (keyOf s name key).isSome = decide (Watched saProfiles name key)) keep
      (fun s done same => by
        obtain ⟨value, found⟩ := Option.isSome_iff_exists.mp (same.trans (decide_eq_true watched))
        rw [keyOf_exec, found]
        cases saves name done <;> rfl) start sections
    refine read.trans ?_
    rw [latestData, ← Latest.latest_map (fun _ => rfl), keyOf_init, if_pos watched]
    rfl
  · rw [if_neg watched]
    have kept : ((Runs.run (exec · strToInt) (init saProfiles) sections).keyOf name key).isSome = _ :=
      Runs.run_invariant (fun s => (keyOf s name key).isSome = decide (Watched saProfiles name key)) keep
        sections start
    rw [decide_eq_false watched, Option.isSome_eq_false_iff, Option.isNone_iff_eq_none] at kept
    rw [kept]
    rfl

end Runs

/-- A condition on common events is judged by the latest events: its code by the latest event of its
name, each of its keys by the same event as far as a profile asked for the key from the start, and a
name that has an opposite by the latest of the two. One of two opposites is always the case. -/
theorem conditions_follow_events (strToInt : String → Option Int) (saProfiles : List CollMgrSaProfile)
    (sections : List Section) :
    let s := Runs.run (exec · strToInt) (init saProfiles) sections
    (∀ condition : OnDemandCondition,
      (s.checkCondition strToInt condition).2 = true ↔
        (∀ entry ∈ condition.extraMessages,
          checkLogicRelationship strToInt (knownValue saProfiles condition.name entry.1 sections) entry.2) ∧
        codeMatches condition sections ∧
        (condition.name ∈ whitelistNames → stands condition.name sections = true)) ∧
      ∀ pair ∈ opposites, s.commonEventWhitelist.contains pair.1 = !s.commonEventWhitelist.contains pair.2 := by
  intro s
  constructor
  · intro condition
    have value : (codeOf s condition.name == condition.value || condition.value == "") = true ↔
        codeMatches condition sections := by
      rw [show codeOf s condition.name = _ from codeOf_run sections, codeMatches]
      cases latestData condition.name sections with
      | none =>
          simp only [Option.map_none, Option.getD_none, Bool.or_eq_true, beq_iff_eq, reduceCtorEq, or_false]
          exact ⟨fun either => either.elim Eq.symm id, Or.inr⟩
      | some data =>
          simp only [Option.map_some, Option.getD_some, Bool.or_eq_true, beq_iff_eq, Option.some.injEq]
          exact or_comm
    rw [checkCondition_eq, Bool.and_eq_true, passes, Bool.and_eq_true, and_comm, ← value]
    refine and_congr ?_ (and_congr ?_ ?_)
    · simp only [asked, List.all_map, List.all_eq_true, Function.comp_apply]
      refine forall₂_congr fun entry member => ?_
      rw [show ((s.commonEventConditionExtraData.getD condition.name ∅).getD entry.1 "") = _ from
        Std.TreeMap.getD_eq_getD_getElem?.trans (keyOf_run sections)]
    · rw [Bool.or_comm]
      rfl
    · by_cases listed : condition.name ∈ whitelistNames
      · rw [← @contains_run strToInt saProfiles condition.name sections listed]
        simp [listed, s]
      · simp [listed]
  · intro pair member
    have listed : pair.1 ∈ whitelistNames ∧ pair.2 ∈ whitelistNames := by
      have all : ∀ pair ∈ opposites, pair.1 ∈ whitelistNames ∧ pair.2 ∈ whitelistNames := by decide
      exact all pair member
    rw [contains_run sections listed.1, contains_run sections listed.2]
    exact stands_opposite member sections

end CommonEventState

end Samgr
