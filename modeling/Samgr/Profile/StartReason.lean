import Samgr.Lib.Decimal
import Samgr.Profile.WellFormed

/-! The reason for its start that a new process is given: the ability and the event in one text,
with a mark behind each field. The name and the value may have the mark in them. -/
namespace Samgr

inductive ProcessAction where
  | start
  | startOnDemand
  deriving DecidableEq, Repr

/-- A request to start a process; `userId` is left out for the processes of all users. -/
structure ServiceControl where
  processName : String
  action : ProcessAction
  userId : Option Int
  extraArgv : String
  deriving DecidableEq, Repr

def eventStr (systemAbilityId : Int) (event : OnDemandEvent) : String :=
  toString systemAbilityId ++ "#" ++ toString event.eventId ++ "#" ++ event.name ++ "#" ++
    event.value ++ "#" ++ toString event.extraDataId ++ "#"

/-- `c_str`: what is read of a text ends at its first null character. -/
def cStr (text : String) : String := String.ofList (text.toList.takeWhile (· != '\x00'))

/-- `StartDynamicSystemProcess` of the base manager: the requests it makes and the last result.
`serviceControl` is how init answers. -/
def BaseSystemAbilityManager.startDynamicSystemProcess (serviceControl : ProcessAction → Int)
    (name : String) (systemAbilityId : Int) (event : OnDemandEvent) : List ServiceControl × Int :=
  let extraArgv := cStr (eventStr systemAbilityId event)
  let request (action : ProcessAction) : ServiceControl :=
    { processName := name, action, userId := none, extraArgv }
  if event.name = "restart" then
    if serviceControl .startOnDemand ≠ 0 then
      ([request .startOnDemand, request .start], serviceControl .start)
    else ([request .startOnDemand], serviceControl .startOnDemand)
  else ([request .start], serviceControl .start)

/-- `StartDynamicSystemProcess` of the manager of a user. -/
def MultiSystemAbilityManager.startDynamicSystemProcess (serviceControl : ProcessAction → Int)
    (userId : Int) (name : String) (systemAbilityId : Int) (event : OnDemandEvent) :
    List ServiceControl × Int :=
  ([{ processName := name
      action := .start
      userId := some userId
      extraArgv := cStr (eventStr systemAbilityId event) }], serviceControl .start)

namespace StartReason

/-- The free part of the text. -/
def body (event : OnDemandEvent) : List Char := event.name.toList ++ '#' :: event.value.toList

/-- The fields behind the ids, as they are read. -/
def visible (event : OnDemandEvent) : List Char :=
  (body event ++ '#' :: (Decimal.chars event.extraDataId ++ ['#'])).takeWhile (· != '\x00')

theorem cStr_eventStr {systemAbilityId : Int} {event : OnDemandEvent} :
    (cStr (eventStr systemAbilityId event)).toList =
      Decimal.chars systemAbilityId ++ '#' :: (Decimal.chars event.eventId ++ '#' :: visible event) := by
  have free : ∀ {i : Int}, ∀ c ∈ Decimal.chars i, (c != '\x00') = true := by
    intro i c member
    rw [bne_iff_ne]
    rintro rfl
    exact Decimal.not_mem_chars (by decide) (by decide) member
  have text : (eventStr systemAbilityId event).toList =
      Decimal.chars systemAbilityId ++ '#' :: (Decimal.chars event.eventId ++ '#' ::
        (body event ++ '#' :: (Decimal.chars event.extraDataId ++ ['#']))) := by
    simp [eventStr, body, Decimal.chars, String.toList_append]
  rw [cStr, String.toList_ofList, text, List.takeWhile_append_of_pos free,
    List.takeWhile_cons_of_pos (by decide), List.takeWhile_append_of_pos free,
    List.takeWhile_cons_of_pos (by decide), visible]

/-- The ids can always be told apart. -/
theorem cStr_eventStr_eq_iff {systemAbilityId otherId : Int} {event other : OnDemandEvent} :
    cStr (eventStr systemAbilityId event) = cStr (eventStr otherId other) ↔
      systemAbilityId = otherId ∧ event.eventId = other.eventId ∧ visible event = visible other := by
  rw [← String.toList_inj, cStr_eventStr, cStr_eventStr]
  constructor
  · intro same
    obtain ⟨ids, same⟩ := Decimal.split_at_mark (by decide) (by decide) same
    obtain ⟨events, same⟩ := Decimal.split_at_mark (by decide) (by decide) same
    exact ⟨ids, events, same⟩
  · rintro ⟨ids, events, same⟩
    rw [ids, events, same]

/-- The mark in the name of one event can be that behind the name of the other. -/
def Shifted (event other : OnDemandEvent) : Prop :=
  ∃ middle : List Char, other.name.toList = event.name.toList ++ '#' :: middle ∧
    event.value.toList = middle ++ '#' :: other.value.toList

def CutShort (event : OnDemandEvent) : Prop := '\x00' ∈ body event

instance (event : OnDemandEvent) : Decidable (CutShort event) :=
  inferInstanceAs (Decidable ('\x00' ∈ body event))

def cut (text : List Char) : List Char := text.takeWhile (· != '\x00')

/-- Two events of which the names, values and extra data cannot be told apart. -/
def Confused (event other : OnDemandEvent) : Prop :=
  if CutShort event then
    if CutShort other then cut (body event) = cut (body other)
    else cut (body event) = body other ++ '#' :: (Decimal.chars other.extraDataId ++ ['#'])
  else if CutShort other then
    body event ++ '#' :: (Decimal.chars event.extraDataId ++ ['#']) = cut (body other)
  else event.extraDataId = other.extraDataId ∧ (Shifted event other ∨ Shifted other event)

variable {event other : OnDemandEvent}

theorem visible_of_cutShort (short : CutShort event) : visible event = cut (body event) := by
  obtain ⟨front, back, split⟩ := List.append_of_mem short
  have ends : ∀ rest, (body event ++ rest).takeWhile (· != '\x00') = cut (body event) := by
    intro rest
    rw [cut, split, List.append_assoc, List.cons_append, List.takeWhile_append, List.takeWhile_append]
    simp
  exact ends _

theorem visible_of_not_cutShort (whole : ¬ CutShort event) :
    visible event = body event ++ '#' :: (Decimal.chars event.extraDataId ++ ['#']) := by
  rw [visible, List.takeWhile_eq_self_iff]
  intro c member
  rw [bne_iff_ne]
  rintro rfl
  simp only [List.mem_append, List.mem_cons, List.not_mem_nil, or_false] at member
  rcases member with inside | same | number | same
  · exact whole inside
  · exact absurd same (by decide)
  · exact Decimal.not_mem_chars (by decide) (by decide) number
  · exact absurd same (by decide)

/-- One name goes on where the other ends: it ends there as well, or it has the mark. -/
theorem exists_between_iff :
    (∃ between, other.name.toList = event.name.toList ++ between ∧
        '#' :: event.value.toList = between ++ '#' :: other.value.toList) ↔
      (event.name = other.name ∧ event.value = other.value) ∨ Shifted event other := by
  constructor
  · rintro ⟨between, name, value⟩
    cases between with
    | nil =>
        rw [List.append_nil] at name
        rw [List.nil_append, List.cons.injEq] at value
        exact Or.inl ⟨(String.toList_inj.mp name).symm, String.toList_inj.mp value.2⟩
    | cons c middle =>
        rw [List.cons_append, List.cons.injEq] at value
        obtain ⟨rfl, value⟩ := value
        exact Or.inr ⟨middle, name, value⟩
  · rintro (⟨name, value⟩ | ⟨middle, name, value⟩)
    · exact ⟨[], by rw [name, List.append_nil], by rw [value, List.nil_append]⟩
    · exact ⟨'#' :: middle, name, by rw [value, List.cons_append]⟩

theorem body_eq_iff :
    body event = body other ↔
      (event.name = other.name ∧ event.value = other.value) ∨ Shifted event other ∨
        Shifted other event := by
  rw [body, body, List.append_eq_append_iff, exists_between_iff]
  have back := @exists_between_iff other event
  rw [back]
  grind

/-- Two different events look alike exactly if they are confused. -/
theorem visible_eq_iff (apart : event ≠ other) (ids : event.eventId = other.eventId) :
    visible event = visible other ↔ Confused event other := by
  rw [Confused]
  by_cases short : CutShort event
  · rw [if_pos short, visible_of_cutShort short]
    by_cases otherShort : CutShort other
    · rw [if_pos otherShort, visible_of_cutShort otherShort]
    · rw [if_neg otherShort, visible_of_not_cutShort otherShort]
  · rw [if_neg short, visible_of_not_cutShort short]
    by_cases otherShort : CutShort other
    · rw [if_pos otherShort, visible_of_cutShort otherShort]
    · rw [if_neg otherShort, visible_of_not_cutShort otherShort]
      have ends : body event ++ '#' :: (Decimal.chars event.extraDataId ++ ['#']) =
            body other ++ '#' :: (Decimal.chars other.extraDataId ++ ['#']) ↔
          body event = body other ∧ event.extraDataId = other.extraDataId := by
        constructor
        · intro same
          rw [← List.cons_append, ← List.cons_append, ← List.append_assoc, ← List.append_assoc]
            at same
          exact Decimal.split_at_last_mark (by decide) (by decide) (List.append_cancel_right same)
        · rintro ⟨bodies, extra⟩
          rw [bodies, extra]
      rw [ends, body_eq_iff]
      constructor
      · rintro ⟨same | shifted, extra⟩
        · refine absurd ?_ apart
          cases event
          cases other
          simp_all
        · exact ⟨extra, shifted⟩
      · rintro ⟨extra, shifted⟩
        exact ⟨Or.inr shifted, extra⟩

end StartReason

/-- The texts that a new process is started with. -/
def extraArgvs (started : List ServiceControl × Int) : List String :=
  started.1.map ServiceControl.extraArgv

section Starts

variable {serviceControl secondControl : ProcessAction → Int} {userId secondUser : Int}
  {name secondName : String} {systemAbilityId otherId : Int} {event other : OnDemandEvent}

theorem mem_extraArgvs_base {text : String} :
    text ∈ extraArgvs (BaseSystemAbilityManager.startDynamicSystemProcess serviceControl name
        systemAbilityId event) ↔ text = cStr (eventStr systemAbilityId event) := by
  rw [extraArgvs, BaseSystemAbilityManager.startDynamicSystemProcess]
  split
  · split <;> simp
  · simp

theorem mem_extraArgvs_multi {text : String} :
    text ∈ extraArgvs (MultiSystemAbilityManager.startDynamicSystemProcess serviceControl userId name
        systemAbilityId event) ↔ text = cStr (eventStr systemAbilityId event) := by
  simp [extraArgvs, MultiSystemAbilityManager.startDynamicSystemProcess]

theorem cStr_eventStr_ne_iff (apart : (systemAbilityId, event) ≠ (otherId, other)) :
    cStr (eventStr systemAbilityId event) ≠ cStr (eventStr otherId other) ↔
      ¬ (systemAbilityId = otherId ∧ event.eventId = other.eventId ∧
        StartReason.Confused event other) := by
  rw [ne_eq, StartReason.cStr_eventStr_eq_iff]
  refine not_congr (and_congr_right fun same => and_congr_right fun ids => ?_)
  refine StartReason.visible_eq_iff (fun equal => apart ?_) ids
  rw [same, equal]

/-- What a new process is told by either manager says which ability and which event it is started
for, unless the two are confused. -/
theorem start_reasons_differ_iff (apart : (systemAbilityId, event) ≠ (otherId, other)) :
    (List.Disjoint
        (extraArgvs (BaseSystemAbilityManager.startDynamicSystemProcess serviceControl name
          systemAbilityId event))
        (extraArgvs (BaseSystemAbilityManager.startDynamicSystemProcess secondControl secondName
          otherId other)) ∧
      List.Disjoint
        (extraArgvs (MultiSystemAbilityManager.startDynamicSystemProcess serviceControl userId name
          systemAbilityId event))
        (extraArgvs (MultiSystemAbilityManager.startDynamicSystemProcess secondControl secondUser
          secondName otherId other))) ↔
      ¬ (systemAbilityId = otherId ∧ event.eventId = other.eventId ∧
        StartReason.Confused event other) := by
  rw [← cStr_eventStr_ne_iff apart]
  simp only [List.Disjoint, mem_extraArgvs_base, mem_extraArgvs_multi, forall_eq, imp_false, and_self,
    ne_eq]

/-- A process can split its text at the marks if the event has none in its name and its value. -/
theorem reason_is_recovered (noMark : '#' ∉ event.name.toList ∧ '#' ∉ event.value.toList)
    (whole : ¬ StartReason.CutShort event) :
    (cStr (eventStr systemAbilityId event)).toList.splitOn '#' =
      [Decimal.chars systemAbilityId, Decimal.chars event.eventId, event.name.toList,
        event.value.toList, Decimal.chars event.extraDataId, []] := by
  have number : ∀ {i : Int}, '#' ∉ Decimal.chars i :=
    Decimal.not_mem_chars (by decide) (by decide)
  rw [StartReason.cStr_eventStr, StartReason.visible_of_not_cutShort whole, StartReason.body,
    List.append_assoc, List.cons_append]
  simp only [List.splitOn_append_cons_self, List.splitOn_eq_singleton number,
    List.splitOn_eq_singleton noMark.1, List.splitOn_eq_singleton noMark.2, List.splitOn_nil,
    List.singleton_append]

end Starts

section Sample

/-- Two parameters of one ability, one of which has the mark in its name. -/
def markedFile : Json :=
  .object [("process", .string "audio_server"), ("systemability", .array
    [.object [("libpath", .string "liba.z.so"), ("name", .integer 3001),
      ("start-on-demand", .object [("param", .array
        [.object [("name", .string "audio#mode"), ("value", .string "on")],
          .object [("name", .string "audio"), ("value", .string "mode#on")]])])]])]

def markedName : OnDemandEvent := { eventId := PARAM, name := "audio#mode", value := "on" }

def markedValue : OnDemandEvent := { eventId := PARAM, name := "audio", value := "mode#on" }

/-- The parser takes both events, and the process cannot tell which one it is started for. -/
theorem marked_events_are_confused :
    (ParseUtil.parseJsonFile {} markedFile).1.saProfiles.map (fun saProfile => (saProfile.saId,
        saProfile.startOnDemand.onDemandEvents.map PolicyEvent.toOnDemandEvent)) =
      [(3001, [markedName, markedValue])] ∧
    markedName ≠ markedValue ∧
    extraArgvs (BaseSystemAbilityManager.startDynamicSystemProcess (fun _ => 0) "audio_server" 3001
        markedName) =
      extraArgvs (BaseSystemAbilityManager.startDynamicSystemProcess (fun _ => 0) "audio_server" 3001
        markedValue) :=
  ⟨by decide, by decide, by decide⟩

theorem unmarked_events_differ :
    List.Disjoint
      (extraArgvs (BaseSystemAbilityManager.startDynamicSystemProcess (fun _ => 0) "audio_server" 3001
        markedName))
      (extraArgvs (BaseSystemAbilityManager.startDynamicSystemProcess (fun _ => 0) "audio_server" 3009
        markedName)) :=
  ((@start_reasons_differ_iff _ _ 100 100 _ _ _ _ _ _ (by decide)).mpr
    fun same => absurd same.1 (by decide)).1

end Sample

end Samgr
