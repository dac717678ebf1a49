import Samgr.Collect.State

/-! The policy texts in the store. Every call of `PersistOnDemandEvent` adds its policy behind the
texts that the keys of its events have, and a text is read as the controls of its parts. -/
namespace Samgr

/-- A call of `PersistOnDemandEvent`. -/
structure PersistCall where
  systemAbilityId : Int
  type : OnDemandPolicyType
  events : List PolicyEvent

namespace PersistCall

variable (call : PersistCall)

def control : PolicyControl :=
  { ondemandId := call.type.ondemandId, saId := call.systemAbilityId }

/-- The events of the call that are stored under the key of an event. -/
def under (event : PolicyEvent) : List PolicyEvent :=
  call.events.filter fun stored =>
    CollectState.needPersistOnDemandEvent stored && stored.toText == event.toText

def fits : Prop := -INT32_MAX - 1 ≤ call.systemAbilityId ∧ call.systemAbilityId ≤ INT32_MAX

end PersistCall

def CollectState.persistAll (s : CollectState) (calls : List PersistCall) : CollectState :=
  calls.foldl (fun s call => s.persistOnDemandEvent call.systemAbilityId call.type call.events) s

/-- `SplitStr` of c_utils at the plus sign: the sign ends a part, empty parts are dropped, and a part
without blanks is kept as it is. -/
structure SplitsAtPlus (splitStr : String → List String) : Prop where
  append : ∀ front back, splitStr (front ++ "+" ++ back) = splitStr front ++ splitStr back
  empty : splitStr "" = []
  single : ∀ part, '+' ∉ part.toList → ' ' ∉ part.toList → part ≠ "" → splitStr part = [part]

/-- The control that one part of a text says. -/
def partControl (part : String) : PolicyControl :=
  { ondemandId := (stringToTypeAndSaid part).1.ondemandId, saId := (stringToTypeAndSaid part).2 }

/-- The controls that a text says. -/
def textControls (splitStr : String → List String) (text : String) : List PolicyControl :=
  if text = "" then [] else (splitStr text).map partControl

theorem CollectState.getSaControlListByPersistEvent_eq {splitStr : String → List String}
    {s : CollectState} {event : PolicyEvent} :
    s.getSaControlListByPersistEvent splitStr event =
      textControls splitStr (s.deviceTimed.preferencesUtil.obtainString event.toText) := rfl

def OnDemandPolicyType.word : OnDemandPolicyType → List Char
  | .startPolicy => "start".toList
  | .stopPolicy => "stop".toList

section Part

variable {splitStr : String → List String} {type : OnDemandPolicyType} {systemAbilityId : Int}

theorem typeAndSaidToString_toList :
    (typeAndSaidToString type systemAbilityId).toList =
      type.word ++ '#' :: (Decimal.chars systemAbilityId ++ ['#']) := by
  cases type <;>
    simp [typeAndSaidToString, OnDemandPolicyType.word, Decimal.chars, String.toList_append]

/-- A policy is written without plus signs and blanks. -/
theorem not_mem_typeAndSaidToString {c : Char} (letter : ∀ type : OnDemandPolicyType, c ∉ type.word)
    (mark : c ≠ '#') (digit : c.isDigit = false) (sign : c ≠ '-') :
    c ∉ (typeAndSaidToString type systemAbilityId).toList := by
  rw [typeAndSaidToString_toList]
  simp only [List.mem_append, List.mem_cons, List.not_mem_nil, or_false, not_or]
  exact ⟨letter type, mark, Decimal.not_mem_chars digit sign, mark⟩

theorem typeAndSaidToString_ne_empty : typeAndSaidToString type systemAbilityId ≠ "" := by
  intro empty
  have chars := congrArg String.toList empty
  simp [typeAndSaidToString_toList] at chars

theorem SplitsAtPlus.typeAndSaidToString (splits : SplitsAtPlus splitStr) :
    splitStr (typeAndSaidToString type systemAbilityId) =
      [Samgr.typeAndSaidToString type systemAbilityId] := by
  apply splits.single
  · exact not_mem_typeAndSaidToString (by rintro (_ | _) <;> decide) (by decide) (by decide) (by decide)
  · exact not_mem_typeAndSaidToString (by rintro (_ | _) <;> decide) (by decide) (by decide) (by decide)
  · exact typeAndSaidToString_ne_empty

/-- One policy is read back. -/
theorem stringToTypeAndSaid_typeAndSaidToString
    (fits : -INT32_MAX - 1 ≤ systemAbilityId ∧ systemAbilityId ≤ INT32_MAX) :
    stringToTypeAndSaid (typeAndSaidToString type systemAbilityId) = (type, systemAbilityId) := by
  have number : toInt32 (Decimal.value (Decimal.chars systemAbilityId ++ ['#'])) =
      systemAbilityId := by
    rw [Decimal.value_chars_append (by simp)]
    obtain ⟨least, most⟩ := fits
    simp only [INT32_MAX] at least most
    exact Int.bmod_eq_of_le (by omega) (by omega)
  have front : ∀ {rest : List Char}, ∀ type : OnDemandPolicyType,
      (type.word ++ '#' :: rest).takeWhile (· != '#') = type.word ∧
        (type.word ++ '#' :: rest).dropWhile (· != '#') = '#' :: rest := by
    intro rest type
    have free : ∀ c ∈ type.word, (c != '#') = true := by
      rw [← List.all_eq_true]
      cases type <;> decide
    rw [List.takeWhile_append_of_pos free, List.dropWhile_append_of_pos free]
    simp
  rw [stringToTypeAndSaid, typeAndSaidToString_toList, (front type).1, (front type).2]
  simp only [number]
  cases type
  · rfl
  · rfl

end Part

section Texts

variable {splitStr : String → List String}

theorem textControls_empty : textControls splitStr "" = [] := rfl

theorem textControls_eq (splits : SplitsAtPlus splitStr) (text : String) :
    textControls splitStr text = (splitStr text).map partControl := by
  rw [textControls]
  split
  · rename_i empty
    rw [empty, splits.empty, List.map_nil]
  · rfl

theorem textControls_append (splits : SplitsAtPlus splitStr) {front back : String} :
    textControls splitStr (front ++ "+" ++ back) =
      textControls splitStr front ++ textControls splitStr back := by
  simp only [textControls_eq splits, splits.append, List.map_append]

theorem textControls_typeAndSaidToString (splits : SplitsAtPlus splitStr) {call : PersistCall}
    (fits : call.fits) :
    textControls splitStr (typeAndSaidToString call.type call.systemAbilityId) = [call.control] := by
  rw [textControls_eq splits, splits.typeAndSaidToString, List.map_singleton, partControl,
    stringToTypeAndSaid_typeAndSaidToString fits, PersistCall.control]

end Texts

theorem PreferencesUtil.obtainString_saveString {store : PreferencesUtil} {key value other : String} :
    (store.saveString key value).obtainString other =
      if key = other then value else store.obtainString other := by
  split
  · rename_i here
    simp only [obtainString, saveString, here, Std.TreeMap.getElem?_insert_self]
  · rename_i apart
    simp [obtainString, saveString, Std.TreeMap.getElem?_insert, apart]

theorem PreferencesUtil.obtainString_of_not_mem {store : PreferencesUtil} {key : String}
    (absent : key ∉ store) : store.obtainString key = "" := by
  rw [obtainString, Std.TreeMap.getElem?_eq_none absent]

namespace CollectState

variable {splitStr : String → List String}

/-- A policy is put behind those of its key, and no other key notices. -/
theorem textControls_appendPolicy (splits : SplitsAtPlus splitStr) {store : PreferencesUtil}
    {stored event : PolicyEvent} {text : String} :
    textControls splitStr ((appendPolicy store stored text).obtainString event.toText) =
      textControls splitStr (store.obtainString event.toText) ++
        if stored.toText = event.toText then textControls splitStr text else [] := by
  rw [appendPolicy]
  split
  · rw [PreferencesUtil.obtainString_saveString]
    split
    · rename_i here
      rw [here, textControls_append splits]
    · rw [List.append_nil]
  · rename_i absent
    rw [PreferencesUtil.obtainString_saveString]
    split
    · rename_i here
      rw [PreferencesUtil.obtainString_of_not_mem (here ▸ absent), textControls_empty, List.nil_append]
    · rw [List.append_nil]

/-- One call: its control is added once for each of its events under the key. -/
theorem getSaControlListByPersistEvent_persistOnDemandEvent (splits : SplitsAtPlus splitStr)
    {s : CollectState} {call : PersistCall} {event : PolicyEvent} (fits : call.fits) :
    (s.persistOnDemandEvent call.systemAbilityId call.type
        call.events).getSaControlListByPersistEvent splitStr event =
      s.getSaControlListByPersistEvent splitStr event ++
        (call.under event).map fun _ => call.control := by
  have appended : ∀ (events : List PolicyEvent) (store : PreferencesUtil),
      textControls splitStr ((events.foldl
          (fun store stored => appendPolicy store stored
            (typeAndSaidToString call.type call.systemAbilityId)) store).obtainString event.toText) =
        textControls splitStr (store.obtainString event.toText) ++
          (events.filter fun stored => stored.toText == event.toText).map fun _ => call.control := by
    intro events
    induction events with
    | nil => simp
    | cons first rest hypothesis =>
        intro store
        rw [List.foldl_cons, hypothesis, textControls_appendPolicy splits,
          textControls_typeAndSaidToString splits fits, List.append_assoc]
        by_cases here : first.toText = event.toText
        · simp [here]
        · simp [here]
  rw [getSaControlListByPersistEvent_eq, persistOnDemandEvent, appended, List.filter_filter,
    getSaControlListByPersistEvent_eq, PersistCall.under]
  simp only [Bool.and_comm]

/-- The controls read for a timed event are those that were stored under its key, in the order of
the calls, behind what the store held before, and a policy under another key is not among them. -/
theorem persisted_policies_are_read_back (splits : SplitsAtPlus splitStr) {s : CollectState}
    {calls : List PersistCall} (fits : ∀ call ∈ calls, call.fits) (event : PolicyEvent) :
    (s.persistAll calls).getSaControlListByPersistEvent splitStr event =
        s.getSaControlListByPersistEvent splitStr event ++
          calls.flatMap (fun call => (call.under event).map fun _ => call.control) ∧
      (event.toText ∉ s.deviceTimed.preferencesUtil →
        (s.persistAll calls).getSaControlListByPersistEvent splitStr event =
          calls.flatMap fun call => (call.under event).map fun _ => call.control) := by
  have general : ∀ s : CollectState, (s.persistAll calls).getSaControlListByPersistEvent splitStr event =
      s.getSaControlListByPersistEvent splitStr event ++
        calls.flatMap fun call => (call.under event).map fun _ => call.control := by
    induction calls with
    | nil => simp [persistAll]
    | cons call rest hypothesis =>
        intro s
        have later := hypothesis (fun other member => fits other (List.mem_cons_of_mem _ member))
          (s.persistOnDemandEvent call.systemAbilityId call.type call.events)
        rw [List.flatMap_cons, ← List.append_assoc,
          ← getSaControlListByPersistEvent_persistOnDemandEvent splits (fits call List.mem_cons_self)]
        exact later
  refine ⟨general s, fun absent => ?_⟩
  rw [general, getSaControlListByPersistEvent_eq, PreferencesUtil.obtainString_of_not_mem absent,
    textControls_empty, List.nil_append]

section Sample

/-- The parts between plus signs, without the blanks around them; empty parts are left out. -/
def splitAtPlus (text : String) : List String :=
  let trim (part : List Char) := ((part.dropWhile (· == ' ')).reverse.dropWhile (· == ' ')).reverse
  (((text.toList.splitOn '+').map trim).filter fun part => !part.isEmpty).map String.ofList

theorem splitAtPlus_splits : SplitsAtPlus splitAtPlus where
  append front back := by
    have text : (front ++ "+" ++ back).toList = front.toList ++ '+' :: back.toList := by
      simp [String.toList_append]
    simp only [splitAtPlus, text, List.splitOn_append_cons_self, List.map_append, List.filter_append]
  empty := by simp [splitAtPlus]
  single part noPlus noBlank some := by
    have kept : ∀ {chars : List Char}, ' ' ∉ chars → chars.dropWhile (· == ' ') = chars := by
      intro chars absent
      cases chars with
      | nil => rfl
      | cons c rest =>
          rw [List.dropWhile_cons_of_neg]
          simp only [beq_iff_eq]
          rintro rfl
          exact absent List.mem_cons_self
    have back : ' ' ∉ part.toList.reverse := by rwa [List.mem_reverse]
    rw [splitAtPlus, List.splitOn_eq_singleton noPlus]
    simp [kept noBlank, kept back, some]

def dawn : PolicyEvent :=
  { eventId := TIMED_EVENT, name := ORDER_TIMED_EVENT, value := "2030-01-01-06:00:00",
    persistence := true }

def dusk : PolicyEvent :=
  { eventId := TIMED_EVENT, name := ORDER_TIMED_EVENT, value := "2030-01-01-18:00:00",
    persistence := true }

/-- Three calls under two keys. -/
def dawnAndDusk : List PersistCall :=
  [{ systemAbilityId := 1401, type := .startPolicy, events := [dawn] },
    { systemAbilityId := 1402, type := .stopPolicy, events := [dusk, dawn] },
    { systemAbilityId := -7, type := .stopPolicy, events := [dawn] }]

theorem dawn_and_dusk_are_read_back :
    ((({ onDemandSaProfiles := [] } : CollectState).persistAll
        dawnAndDusk).getSaControlListByPersistEvent splitAtPlus dawn).map (fun control =>
          (control.ondemandId, control.saId)) =
      [(START_ON_DEMAND, 1401), (STOP_ON_DEMAND, 1402), (STOP_ON_DEMAND, -7)] := by
  have fits : ∀ call ∈ dawnAndDusk, call.fits := by
    simp only [dawnAndDusk, PersistCall.fits, INT32_MAX]
    decide
  rw [(persisted_policies_are_read_back splitAtPlus_splits fits dawn).2 Std.TreeMap.not_mem_emptyc]
  decide

end Sample

end CollectState

end Samgr
