import Samgr.Collect.State

/-! The values that a profile asks for: a text that begins with an operator sets a bound on the number it
is compared with, and any other text is to be met exactly. The common events judge the extra messages of
a policy and those of its conditions in this way. A text is read as its bytes, one character for each. -/
namespace Samgr

inductive LogicRelationship where
  | eq
  | greaterEq
  | greater
  | lessEq
  | less
  deriving DecidableEq, Repr

namespace LogicRelationship

/-- The operator at the front of a profile. -/
def sign : LogicRelationship → List Char
  | .eq => []
  | .greaterEq => ['>', '=']
  | .greater => ['>']
  | .lessEq => ['<', '=']
  | .less => ['<']

def holds (stateInt profileInt : Int) : LogicRelationship → Bool
  | .eq => decide (stateInt = profileInt)
  | .greaterEq => decide (stateInt ≥ profileInt)
  | .greater => decide (stateInt > profileInt)
  | .lessEq => decide (stateInt ≤ profileInt)
  | .less => decide (stateInt < profileInt)

/-- The relation that a profile begins with, and where its value starts. -/
def ofProfile : List Char → LogicRelationship × Nat
  | '>' :: '=' :: _ => (.greaterEq, 2)
  | '>' :: _ => (.greater, 1)
  | '<' :: '=' :: _ => (.lessEq, 2)
  | '<' :: _ => (.less, 1)
  | _ => (.eq, 0)

end LogicRelationship

def substr (text : List Char) (position count : Nat) : List Char := (text.drop position).take count

section Judged

variable (strToInt : String → Option Int)

def checkLogicRelationship (state profile : String) : Bool :=
  if profile = "" ∨ state = profile then true
  else if state = "" then false
  else
    let found := LogicRelationship.ofProfile profile.toList
    match strToInt (String.ofList (substr profile.toList found.2 (profile.length - 1))) with
    | none => false
    | some profileInt =>
        match strToInt state with
        | none => false
        | some stateInt => found.1.holds stateInt profileInt

/-- `CheckExtraMessage`: a key that the event does not have counts as the empty text. -/
def CommonEventCollect.checkExtraMessage (c : CommonEventCollect) (extraDataId : Int)
    (profileEvent : PolicyEvent) : Bool :=
  match c.getOnDemandReasonExtraData extraDataId with
  | none => false
  | some extraData =>
      profileEvent.extraMessages.all fun entry =>
        checkLogicRelationship strToInt ((extraData.want.lookup entry.1).getD "") entry.2

/-- What an event has for each key that a policy lists, with what is asked of it. -/
def OnDemandReasonExtraData.asked (extraData : OnDemandReasonExtraData) (profileEvent : PolicyEvent) :
    List (String × String) :=
  profileEvent.extraMessages.map fun entry => ((extraData.want.lookup entry.1).getD "", entry.2)

/-- What the collector of common events knows of the device, behind the lock of its own. -/
structure CommonEventState where
  commonEventWhitelist : Std.TreeSet String := ∅
  commonEventConditionExtraData : Std.TreeMap String (Std.TreeMap String String) := ∅
  commonEventConditionValue : Std.TreeMap String String := ∅

/-- The names whose conditions hold while the whitelist has them. -/
def whitelistNames : List String :=
  ["usual.event.SCREEN_ON", "usual.event.SCREEN_OFF", "usual.event.CHARGING",
    "usual.event.DISCHARGING", "usual.event.POWER_CONNECTED", "usual.event.POWER_DISCONNECTED",
    "usual.event.USER_UNLOCKED"]

namespace CommonEventState

variable (s : CommonEventState)

/-- A name that is looked up gets an entry of its own. -/
def checkCondition (condition : OnDemandCondition) : CommonEventState × Bool :=
  let stateMap := s.commonEventConditionExtraData.getD condition.name ∅
  let s := { s with
    commonEventConditionExtraData := s.commonEventConditionExtraData.insertIfNew condition.name ∅ }
  if condition.extraMessages.all fun entry =>
      checkLogicRelationship strToInt (stateMap.getD entry.1 "") entry.2 then
    let value := s.commonEventConditionValue.getD condition.name ""
    let s := { s with
      commonEventConditionValue := s.commonEventConditionValue.insertIfNew condition.name "" }
    if value ≠ condition.value ∧ condition.value ≠ "" then (s, false)
    else if condition.name ∈ whitelistNames then
      (s, s.commonEventWhitelist.contains condition.name)
    else (s, true)
  else (s, false)

/-- What is known for each key that a condition lists, with what is asked of it. -/
def asked (condition : OnDemandCondition) : List (String × String) :=
  condition.extraMessages.map fun entry =>
    ((s.commonEventConditionExtraData.getD condition.name ∅).getD entry.1 "", entry.2)

/-- What a condition asks for besides its extra messages: its value, and the whitelist. -/
def passes (condition : OnDemandCondition) : Bool :=
  (condition.value == "" || s.commonEventConditionValue.getD condition.name "" == condition.value) &&
    (!(whitelistNames.contains condition.name) || s.commonEventWhitelist.contains condition.name)

end CommonEventState

/-- The collector of common events as the collect manager uses it. -/
def CommonEventCollect.plugin (c : CommonEventCollect) (s : CommonEventState) : CollectPlugin where
  checkCondition condition := (s.checkCondition strToInt condition).2
  checkExtraMessage := c.checkExtraMessage strToInt

end Judged

/-- The 32 bits of a number lose nothing. -/
def IsInt32 (value : Int) : Prop := -INT32_MAX - 1 ≤ value ∧ value ≤ INT32_MAX

instance (value : Int) : Decidable (IsInt32 value) := inferInstanceAs (Decidable (_ ∧ _))

/-- Just the decimal texts of numbers in 32 bits are numbers. -/
def AcceptsInt32 (strToInt : String → Option Int) : Prop :=
  ∀ text value, strToInt text = some value ↔ IsInt32 value ∧ text = toString value

/-- What is asked of a state: nothing, the text itself, or a number in the relation of the profile to
the number behind its operator. -/
def Satisfies (state profile : String) : Prop :=
  profile = "" ∨ state = profile ∨
    ∃ (relation : LogicRelationship) (stateInt profileInt : Int),
      (IsInt32 stateInt ∧ state = toString stateInt) ∧
        (IsInt32 profileInt ∧ profile.toList = relation.sign ++ (toString profileInt).toList) ∧
          relation.holds stateInt profileInt = true

/-- The state is a number, and the profile is that number with one more character behind it. -/
def CutToState (state profile : String) : Prop :=
  (∃ stateInt : Int, IsInt32 stateInt ∧ state = toString stateInt) ∧
    ∃ last, profile.toList = state.toList ++ [last]

namespace LogicRelationship

/-- A number begins with a digit or the minus sign. -/
theorem chars_cons (value : Int) : ∃ first rest, (toString value).toList = first :: rest ∧
    first ≠ '>' ∧ first ≠ '<' ∧ first ≠ '=' := by
  obtain ⟨first, rest, shape⟩ := List.exists_cons_of_ne_nil (Decimal.chars_ne_nil value)
  have number : first.isDigit ∨ first = '-' := Decimal.mem_chars (i := value) (by simp [shape])
  refine ⟨first, rest, shape, ?_, ?_, ?_⟩ <;>
    rintro rfl <;>
    exact absurd number (by decide)

theorem ofProfile_number (relation : LogicRelationship) (value : Int) :
    ofProfile (relation.sign ++ (toString value).toList) = (relation, relation.sign.length) := by
  obtain ⟨first, rest, shape, noGreater, noLess, noEq⟩ := chars_cons value
  rw [shape]
  cases relation <;> simp [sign, ofProfile, noGreater, noLess, noEq]

theorem ofProfile_number_append (value : Int) (rest : List Char) :
    ofProfile ((toString value).toList ++ rest) = (.eq, 0) := by
  obtain ⟨first, digits, shape, noGreater, noLess, noEq⟩ := chars_cons value
  rw [shape]
  simp [ofProfile, noGreater, noLess]

/-- The relation is that of the operator in front, and the value starts behind it. -/
theorem eq_sign_append (profile : List Char) :
    profile = (ofProfile profile).1.sign ++ profile.drop (ofProfile profile).2 ∧
      (ofProfile profile).2 = (ofProfile profile).1.sign.length := by
  unfold ofProfile
  split <;> exact ⟨rfl, rfl⟩

end LogicRelationship

theorem substr_all {text : List Char} {position count : Nat} (enough : text.length ≤ position + count) :
    substr text position count = text.drop position := by
  rw [substr, List.take_of_length_le]
  rw [List.length_drop]
  omega

/-- Behind an operator the whole rest of the profile is read. -/
theorem substr_of_sign {profile : List Char} {relation : LogicRelationship}
    (found : (LogicRelationship.ofProfile profile).1 = relation) (signed : relation ≠ .eq) :
    substr profile (LogicRelationship.ofProfile profile).2 (profile.length - 1) =
      profile.drop (LogicRelationship.ofProfile profile).2 := by
  have length := (LogicRelationship.eq_sign_append profile).2
  rw [found] at length
  have positive : 0 < relation.sign.length := by
    cases relation with
    | eq => exact absurd rfl signed
    | greaterEq => decide
    | greater => decide
    | lessEq => decide
    | less => decide
  apply substr_all
  omega

/-- Without an operator the last character is not read. -/
theorem substr_of_eq {profile : List Char} (found : (LogicRelationship.ofProfile profile).1 = .eq) :
    substr profile (LogicRelationship.ofProfile profile).2 (profile.length - 1) = profile.dropLast := by
  have length := (LogicRelationship.eq_sign_append profile).2
  rw [found] at length
  rw [length, substr, List.dropLast_eq_take]
  rfl

theorem toString_ne_empty (value : Int) : toString value ≠ "" := by
  intro empty
  apply Decimal.chars_ne_nil value
  rw [Decimal.chars, empty]
  rfl

theorem CutToState.not_satisfies {state profile : String} (cut : CutToState state profile) :
    ¬ Satisfies state profile := by
  obtain ⟨⟨stateInt, -, rfl⟩, last, longer⟩ := cut
  have plain := LogicRelationship.ofProfile_number_append stateInt [last]
  rintro (rfl | same | ⟨relation, other, profileInt, ⟨-, sameState⟩, ⟨-, shape⟩, holds⟩)
  · exact List.cons_ne_nil _ _ (List.append_eq_nil_iff.mp longer.symm).2
  · rw [← same] at longer
    exact absurd (congrArg List.length longer) (by simp)
  · rw [← longer, shape, LogicRelationship.ofProfile_number] at plain
    have found : relation = .eq := congrArg Prod.fst plain
    subst found
    have equal : other = profileInt := of_decide_eq_true holds
    rw [sameState, equal] at longer
    rw [LogicRelationship.sign, List.nil_append, longer] at shape
    exact absurd (congrArg List.length shape) (by simp)

section Judgement

variable {strToInt : String → Option Int} {state profile : String}

/-- A profile that is not trivial asks for two numbers in its relation. -/
theorem checkLogicRelationship_of_ne (accepts : AcceptsInt32 strToInt) (asks : profile ≠ "")
    (differs : state ≠ profile) : checkLogicRelationship strToInt state profile = true ↔
      ∃ stateInt profileInt : Int, (IsInt32 stateInt ∧ state = toString stateInt) ∧
        (IsInt32 profileInt ∧
          substr profile.toList (LogicRelationship.ofProfile profile.toList).2
            (profile.toList.length - 1) = (toString profileInt).toList) ∧
          (LogicRelationship.ofProfile profile.toList).1.holds stateInt profileInt = true := by
  have texts : ∀ (chars : List Char) (text : String),
      String.ofList chars = text ↔ chars = text.toList := by
    intro chars text
    constructor
    · rintro rfl
      exact String.toList_ofList.symm
    · rintro rfl
      exact String.ofList_toList
  rw [checkLogicRelationship, if_neg (not_or.mpr ⟨asks, differs⟩)]
  simp only [← accepts state, ← texts, ← accepts (String.ofList _), String.length_toList]
  split
  · rename_i empty
    constructor
    · intro impossible
      cases impossible
    · rintro ⟨stateInt, profileInt, states, -⟩
      exact absurd (((accepts state stateInt).mp states).2.symm.trans empty) (toString_ne_empty stateInt)
  · cases strToInt (String.ofList (substr profile.toList
        (LogicRelationship.ofProfile profile.toList).2 (profile.length - 1))) with
    | none => simp
    | some profileInt =>
        cases strToInt state with
        | none => simp
        | some stateInt => simp

theorem checkLogicRelationship_iff (accepts : AcceptsInt32 strToInt) :
    checkLogicRelationship strToInt state profile = true ↔
      Satisfies state profile ∨ CutToState state profile := by
  by_cases trivial : profile = "" ∨ state = profile
  · rw [checkLogicRelationship, if_pos trivial]
    exact iff_of_true rfl (.inl (trivial.imp_right .inl))
  have asks := (not_or.mp trivial).1
  have differs := (not_or.mp trivial).2
  obtain ⟨front, start⟩ := LogicRelationship.eq_sign_append profile.toList
  rw [checkLogicRelationship_of_ne accepts asks differs]
  constructor
  · rintro ⟨stateInt, profileInt, states, ⟨fits, read⟩, holds⟩
    by_cases plain : (LogicRelationship.ofProfile profile.toList).1 = .eq
    · -- The number that is read is the state, and the profile goes on behind it.
      have equal : stateInt = profileInt := by
        rw [plain] at holds
        exact of_decide_eq_true holds
      rw [substr_of_eq plain] at read
      have nonempty : profile.toList ≠ [] := by simpa using asks
      refine .inr ⟨⟨stateInt, states⟩, profile.toList.getLast nonempty, ?_⟩
      rw [states.2, equal, ← read, List.dropLast_append_getLast]
    · rw [substr_of_sign rfl plain] at read
      rw [read] at front
      exact .inl (.inr (.inr ⟨_, stateInt, profileInt, states, ⟨fits, front⟩, holds⟩))
  · rintro (meets | ⟨⟨stateInt, states⟩, last, longer⟩)
    · rcases meets with empty | same | ⟨relation, stateInt, profileInt, states, ⟨fits, shape⟩, holds⟩
      · exact absurd empty asks
      · exact absurd same differs
      · have found := LogicRelationship.ofProfile_number relation profileInt
        rw [← shape] at found
        by_cases plain : relation = .eq
        · subst plain
          have equal : stateInt = profileInt := of_decide_eq_true holds
          refine absurd ?_ differs
          rw [states.2, equal]
          exact (String.toList_inj.mp shape).symm
        · have whole := substr_of_sign (congrArg Prod.fst found) plain
          refine ⟨stateInt, profileInt, states, ⟨fits, ?_⟩, ?_⟩
          · rw [whole, found, shape, List.drop_left]
          · rw [found]
            exact holds
    · have found := LogicRelationship.ofProfile_number_append stateInt [last]
      rw [← states.2, ← longer] at found
      refine ⟨stateInt, stateInt, states, ⟨states.1, ?_⟩, ?_⟩
      · rw [substr_of_eq (congrArg Prod.fst found), longer, ← states.2]
        exact List.dropLast_concat
      · rw [found]
        exact decide_eq_true rfl

end Judgement

/-- A number meets a profile with an operator just when it is in that relation to the number behind it. -/
theorem satisfies_number_iff {relation : LogicRelationship} {stateInt profileInt : Int} {profile : String}
    (fitsState : IsInt32 stateInt) (fitsProfile : IsInt32 profileInt)
    (shape : profile.toList = relation.sign ++ (toString profileInt).toList) :
    Satisfies (toString stateInt) profile ↔ relation.holds stateInt profileInt = true := by
  have found := LogicRelationship.ofProfile_number relation profileInt
  constructor
  · rintro (rfl | same | ⟨other, stateNumber, number, ⟨-, sameState⟩, ⟨-, sameShape⟩, holds⟩)
    · exact absurd (List.append_eq_nil_iff.mp shape.symm).2 (Decimal.chars_ne_nil profileInt)
    · -- Identical texts have no operator, and are one number.
      have plain := LogicRelationship.ofProfile_number_append stateInt []
      rw [List.append_nil, same, shape, found] at plain
      have isEq : relation = .eq := congrArg Prod.fst plain
      subst isEq
      rw [← same] at shape
      exact decide_eq_true (Decimal.chars_injective shape)
    · have sameRelation := LogicRelationship.ofProfile_number other number
      rw [← sameShape, shape, found] at sameRelation
      have isOther : relation = other := congrArg Prod.fst sameRelation
      subst isOther
      rw [shape] at sameShape
      have sameNumber := Decimal.chars_injective (List.append_cancel_left sameShape)
      have sameState := Decimal.chars_injective (congrArg String.toList sameState)
      rw [sameNumber, sameState]
      exact holds
  · intro holds
    exact .inr (.inr ⟨relation, stateInt, profileInt, ⟨fitsState, rfl⟩, ⟨fitsProfile, shape⟩, holds⟩)

/-- A text that is no number meets the empty profile and itself. -/
theorem satisfies_of_no_number {state profile : String}
    (noNumber : ¬ ∃ stateInt : Int, IsInt32 stateInt ∧ state = toString stateInt) :
    Satisfies state profile ↔ profile = "" ∨ state = profile := by
  constructor
  · rintro (empty | same | ⟨relation, stateInt, profileInt, states, -⟩)
    · exact .inl empty
    · exact .inr same
    · exact absurd ⟨stateInt, states⟩ noNumber
  · rintro (empty | same)
    · exact .inl empty
    · exact .inr (.inl same)

/-- Of what is asked, nothing is cut to its state, or something fails all the same. -/
def Decided (asked : List (String × String)) : Prop :=
  (∀ entry ∈ asked, ¬ CutToState entry.1 entry.2) ∨
    ∃ entry ∈ asked, ¬ Satisfies entry.1 entry.2 ∧ ¬ CutToState entry.1 entry.2

section Keys

variable {strToInt : String → Option Int}

theorem all_checked_iff (accepts : AcceptsInt32 strToInt) (asked : List (String × String)) :
    (asked.all (fun entry => checkLogicRelationship strToInt entry.1 entry.2) = true ↔
      ∀ entry ∈ asked, Satisfies entry.1 entry.2) ↔ Decided asked := by
  simp only [List.all_eq_true, checkLogicRelationship_iff accepts]
  constructor
  · intro agrees
    by_cases every : ∀ entry ∈ asked, Satisfies entry.1 entry.2 ∨ CutToState entry.1 entry.2
    · refine .inl ?_
      intro entry member cut
      exact cut.not_satisfies (agrees.mp every entry member)
    · simp only [not_forall, not_or] at every
      obtain ⟨entry, member, fails⟩ := every
      exact .inr ⟨entry, member, fails⟩
  · rintro (uncut | ⟨entry, member, fails⟩)
    · constructor
      · intro every entry member
        exact (every entry member).resolve_right (uncut entry member)
      · intro every entry member
        exact .inl (every entry member)
    · constructor
      · intro every
        exact absurd (every entry member) (not_or.mpr fails)
      · intro every
        exact absurd (every entry member) fails.1

theorem CommonEventCollect.checkExtraMessage_eq (c : CommonEventCollect) (extraDataId : Int)
    (profileEvent : PolicyEvent) : c.checkExtraMessage strToInt extraDataId profileEvent =
      (c.getOnDemandReasonExtraData extraDataId).any fun extraData =>
        (extraData.asked profileEvent).all fun entry =>
          checkLogicRelationship strToInt entry.1 entry.2 := by
  rw [checkExtraMessage]
  cases c.getOnDemandReasonExtraData extraDataId with
  | none => rfl
  | some extraData => simp [OnDemandReasonExtraData.asked, Function.comp_def]

/-- An entry with the value that a missing key stands for changes nothing that is looked up. -/
theorem getD_insertIfNew_fallback {Value : Type} (entries : Std.TreeMap String Value) (key name : String)
    (fallback : Value) :
    (entries.insertIfNew key fallback).getD name fallback = entries.getD name fallback := by
  rw [Std.TreeMap.getD_insertIfNew]
  split
  · rename_i fresh
    obtain ⟨same, missing⟩ := fresh
    rw [Std.LawfulEqCmp.eq_of_compare same] at missing
    exact (Std.TreeMap.getD_eq_fallback missing).symm
  · rfl

namespace CommonEventState

variable (s : CommonEventState)

theorem checkCondition_eq (condition : OnDemandCondition) : (s.checkCondition strToInt condition).2 =
    (s.passes condition && (s.asked condition).all fun entry =>
      checkLogicRelationship strToInt entry.1 entry.2) := by
  have same : (s.asked condition).all (fun entry => checkLogicRelationship strToInt entry.1 entry.2) =
      condition.extraMessages.all fun entry => checkLogicRelationship strToInt
        ((s.commonEventConditionExtraData.getD condition.name ∅).getD entry.1 "") entry.2 := by
    simp [asked, Function.comp_def]
  rw [checkCondition, same, passes]
  split
  · rename_i every
    rw [every]
    grind
  · rename_i fails
    rw [Bool.eq_false_iff.mpr fails, Bool.and_false]

/-- A check makes entries for the names that it looks up, and no later check can tell. -/
theorem checkCondition_again (condition other : OnDemandCondition) :
    ((s.checkCondition strToInt condition).1.checkCondition strToInt other).2 =
      (s.checkCondition strToInt other).2 := by
  rw [checkCondition_eq, checkCondition_eq, checkCondition]
  grind [passes, asked, getD_insertIfNew_fallback]

end CommonEventState

theorem CommonEventCollect.checkExtraMessage_decided (accepts : AcceptsInt32 strToInt) (c : CommonEventCollect)
    (extraDataId : Int) (profileEvent : PolicyEvent) :
    (c.checkExtraMessage strToInt extraDataId profileEvent = true ↔
      ∃ extraData, c.getOnDemandReasonExtraData extraDataId = some extraData ∧
        ∀ entry ∈ extraData.asked profileEvent, Satisfies entry.1 entry.2) ↔
      ∀ extraData, c.getOnDemandReasonExtraData extraDataId = some extraData →
        Decided (extraData.asked profileEvent) := by
  rw [c.checkExtraMessage_eq]
  cases c.getOnDemandReasonExtraData extraDataId with
  | none => simp
  | some extraData => simpa using all_checked_iff accepts (extraData.asked profileEvent)

/-- So the collect manager decides the extra messages of a policy for a common event. -/
theorem DeviceStatusCollectManager.checkExtraMessages_decided (accepts : AcceptsInt32 strToInt)
    {manager : DeviceStatusCollectManager} {c : CommonEventCollect} {s : CommonEventState} {event : PolicyEvent}
    (registered : manager.collectPluginMap event.eventId = some (c.plugin strToInt s)) (policy : PolicyEvent) :
    (manager.checkExtraMessages event policy = true ↔
      ∃ extraData, c.getOnDemandReasonExtraData event.extraDataId = some extraData ∧
        ∀ entry ∈ extraData.asked policy, Satisfies entry.1 entry.2) ↔
      ∀ extraData, c.getOnDemandReasonExtraData event.extraDataId = some extraData →
        Decided (extraData.asked policy) := by
  have judged : manager.checkExtraMessages event policy = c.checkExtraMessage strToInt event.extraDataId policy := by
    rw [checkExtraMessages, registered]
    rfl
  rw [judged]
  exact c.checkExtraMessage_decided accepts event.extraDataId policy

/-- Texts are compared as their profiles ask for, unless a profile is its state with one more character
behind it: then the last character is not read. What lists several keys is judged wrongly when such a
profile is the only reason to refuse it. -/
theorem relations_are_decided_iff (accepts : AcceptsInt32 strToInt) :
    (∀ state profile : String,
      (checkLogicRelationship strToInt state profile = true ↔ Satisfies state profile) ↔
        ¬ CutToState state profile) ∧
    (∀ (c : CommonEventCollect) (extraDataId : Int) (profileEvent : PolicyEvent),
      (c.checkExtraMessage strToInt extraDataId profileEvent = true ↔
        ∃ extraData, c.getOnDemandReasonExtraData extraDataId = some extraData ∧
          ∀ entry ∈ extraData.asked profileEvent, Satisfies entry.1 entry.2) ↔
        ∀ extraData, c.getOnDemandReasonExtraData extraDataId = some extraData →
          Decided (extraData.asked profileEvent)) ∧
    ∀ (s : CommonEventState) (condition : OnDemandCondition),
      ((s.checkCondition strToInt condition).2 = true ↔
        s.passes condition = true ∧ ∀ entry ∈ s.asked condition, Satisfies entry.1 entry.2) ↔
        (s.passes condition = true → Decided (s.asked condition)) := by
  refine ⟨?_, ?_, ?_⟩
  · intro state profile
    rw [checkLogicRelationship_iff accepts]
    constructor
    · intro agrees cut
      exact cut.not_satisfies (agrees.mp (.inr cut))
    · intro uncut
      exact or_iff_left uncut
  · exact fun c => c.checkExtraMessage_decided accepts
  · intro s condition
    rw [s.checkCondition_eq, Bool.and_eq_true, and_congr_right_iff]
    exact imp_congr_right fun _ => all_checked_iff accepts (s.asked condition)

end Keys

/-- Reads the decimal texts of numbers in 32 bits. -/
def readInt32 (text : String) : Option Int :=
  let value := Decimal.value text.toList
  if IsInt32 value ∧ text = toString value then some value else none

theorem readInt32_accepts : AcceptsInt32 readInt32 := by
  intro text value
  rw [readInt32]
  constructor
  · intro read
    split at read
    · rename_i number
      cases read
      exact number
    · cases read
  · rintro ⟨fits, rfl⟩
    have same : Decimal.value (toString value).toList = value := Decimal.value_chars value
    rw [same, if_pos ⟨fits, rfl⟩]

theorem lower_bound_is_decided :
    checkLogicRelationship readInt32 "-7" ">=-12" = true ↔ Satisfies "-7" ">=-12" := by
  refine ((relations_are_decided_iff readInt32_accepts).1 "-7" ">=-12").mpr ?_
  rintro ⟨-, last, longer⟩
  have lengths := congrArg List.length longer
  rw [List.length_append, List.length_singleton] at lengths
  exact absurd lengths (by decide)

/-- The profile asks for 12, and 1 is let through. -/
theorem last_digit_is_not_compared : ¬ ∀ strToInt, AcceptsInt32 strToInt →
    ∀ stateInt profileInt : Int, IsInt32 stateInt → IsInt32 profileInt →
      (checkLogicRelationship strToInt (toString stateInt) (toString profileInt) = true ↔
        stateInt = profileInt) := by
  intro always
  have same := (always readInt32 readInt32_accepts 1 12 (by decide) (by decide)).mp (by decide +kernel)
  exact absurd same (by decide)

end Samgr
