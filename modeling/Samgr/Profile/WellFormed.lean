import Samgr.Profile.ParseUtil
import Mathlib.Data.Finset.Card

/-! What the parsing of a profile file does: which files it throws on, what it makes of the entries
of the others, and what every profile that it adds is like. -/
namespace Samgr

/-- A text of 1 to 128 bytes. -/
def Fits (text : String) : Prop := 1 ≤ text.utf8ByteSize ∧ text.utf8ByteSize ≤ MAX_JSON_STRING_LENGTH

theorem fits_iff {text : String} :
    Fits text ↔ text ≠ "" ∧ text.utf8ByteSize ≤ MAX_JSON_STRING_LENGTH := by
  rw [Fits, Nat.one_le_iff_ne_zero, ne_eq, String.utf8ByteSize_eq_zero_iff]

/-- An event that a profile can hold. -/
def PolicyEvent.Admitted (event : PolicyEvent) : Prop :=
  Fits event.name ∧ event.value.utf8ByteSize ≤ MAX_JSON_STRING_LENGTH

structure ParsedProfile.WellFormed (saProfile : ParsedProfile) : Prop where
  process : Fits saProfile.process
  saId : FIRST_SYS_ABILITY_ID ≤ saProfile.saId ∧ saProfile.saId ≤ LAST_SYS_ABILITY_ID
  libPath : Fits saProfile.libPath
  extensions : saProfile.extension.length ≤ MAX_EXTENSIONO_NUM
  distinct : saProfile.extension.Nodup
  extension : ∀ text ∈ saProfile.extension, text.utf8ByteSize ≤ MAX_JSON_STRING_LENGTH
  recycleStrategy :
    saProfile.recycleStrategy = IMMEDIATELY ∨ saProfile.recycleStrategy = LOW_MEMORY
  events : ∀ event ∈ saProfile.startOnDemand.onDemandEvents ++ saProfile.stopOnDemand.onDemandEvents,
    event.Admitted

namespace ParseUtil

open Json (Returns toString? toBoolean? toArray? toMembers?)

def toInt32? (item : Json) : Option Int :=
  match item with
  | .integer value => some (toInt32 value)
  | _ => none

section Readers

variable {obj : Json} {key : String}

@[simp] theorem getStringFromJson_eq {out : String} :
    getStringFromJson obj key out = .ok (obj.valueAt toString? key out) := Json.readMember_string

@[simp] theorem getBoolFromJson_eq {out : Bool} :
    getBoolFromJson obj key out = .ok (obj.valueAt toBoolean? key out) := Json.readMember_boolean

@[simp] theorem getInt32FromJson_eq {out : Int} :
    getInt32FromJson obj key out = .ok (obj.valueAt toInt32? key out) :=
  Json.readMember_eq fun value => by cases value <;> rfl

@[simp] theorem arrayFromJson_eq : arrayFromJson obj key = .ok (obj.valueAt toArray? key []) :=
  Json.readMember_array

theorem getIntArrayFromJson_returns {out : List Int} :
    Returns (getIntArrayFromJson obj key out) fun _ => True := by
  rw [getIntArrayFromJson, arrayFromJson_eq, Json.ok_bind]
  refine Returns.foldlM (fun out item _ => ?_) trivial
  cases item with
  | integer value => exact ⟨_, rfl, trivial⟩
  | _ => exact ⟨_, rfl, trivial⟩

theorem getOnDemandExtraMessagesFromJson_returns :
    Returns (getOnDemandExtraMessagesFromJson obj key) fun _ => True := by
  rw [getOnDemandExtraMessagesFromJson, Json.readMember_object, Json.ok_bind]
  refine Returns.foldlM (fun out it _ => ?_) trivial
  obtain ⟨name, value⟩ := it
  cases value with
  | string value => exact ⟨_, rfl, trivial⟩
  | _ => exact ⟨_, rfl, trivial⟩

theorem getOnDemandConditionsFromJson_returns :
    Returns (getOnDemandConditionsFromJson obj key) fun _ => True := by
  rw [getOnDemandConditionsFromJson, arrayFromJson_eq, Json.ok_bind]
  refine Returns.foldlM (fun out condition _ => ?_) trivial
  simp only [getStringFromJson_eq, Json.ok_bind]
  split
  · exact ⟨_, rfl, trivial⟩
  · exact getOnDemandExtraMessagesFromJson_returns.bind fun _ _ => ⟨_, rfl, trivial⟩

/-- Every event that is taken is one a profile can hold. -/
theorem getOnDemandArrayFromJson_returns {eventId : Int} {out : List PolicyEvent}
    (admitted : ∀ event ∈ out, event.Admitted) :
    Returns (getOnDemandArrayFromJson eventId obj key out) fun out =>
      ∀ event ∈ out, event.Admitted := by
  rw [getOnDemandArrayFromJson, arrayFromJson_eq, Json.ok_bind]
  refine Returns.foldlM (fun out item before => ?_) admitted
  simp only [getStringFromJson_eq, getBoolFromJson_eq, Json.ok_bind]
  refine getOnDemandConditionsFromJson_returns.bind fun conditions _ => ?_
  refine getOnDemandExtraMessagesFromJson_returns.bind fun extraMessages _ => ?_
  split
  · rename_i good
    refine Returns.pure fun event member => ?_
    rcases List.mem_append.mp member with old | new
    · exact before event old
    · rw [List.mem_singleton] at new
      subst new
      exact ⟨fits_iff.mpr ⟨good.1, good.2.1⟩, good.2.2⟩
  · exact Returns.pure before

theorem parseOndemandTag_returns {out : List PolicyEvent}
    (admitted : ∀ event ∈ out, event.Admitted) :
    Returns (parseOndemandTag obj out) fun out => ∀ event ∈ out, event.Admitted := by
  refine (getOnDemandArrayFromJson_returns admitted).bind fun _ online => ?_
  refine (getOnDemandArrayFromJson_returns online).bind fun _ switched => ?_
  refine (getOnDemandArrayFromJson_returns switched).bind fun _ common => ?_
  refine (getOnDemandArrayFromJson_returns common).bind fun _ params => ?_
  exact getOnDemandArrayFromJson_returns params

theorem parseJsonTag_returns : Returns (parseJsonTag obj key) fun _ => True := by
  rw [parseJsonTag]
  cases found : obj.find key with
  | none => exact ⟨_, rfl, trivial⟩
  | some value =>
      simp only [Json.member_of_find found]
      exact ⟨_, rfl, trivial⟩

theorem parseStartOndemandTag_returns {startOnDemand : StartOnDemand}
    (admitted : ∀ event ∈ startOnDemand.onDemandEvents, event.Admitted) :
    Returns (parseStartOndemandTag obj key startOnDemand) fun startOnDemand =>
      ∀ event ∈ startOnDemand.onDemandEvents, event.Admitted := by
  refine parseJsonTag_returns.bind fun tag _ => ?_
  cases tag with
  | none => exact Returns.pure admitted
  | some onDemandJson =>
      refine (parseOndemandTag_returns admitted).bind fun events good => ?_
      simp only [getBoolFromJson_eq, Json.ok_bind]
      exact Returns.pure good

theorem parseStopOndemandTag_returns {stopOnDemand : StopOnDemand}
    (admitted : ∀ event ∈ stopOnDemand.onDemandEvents, event.Admitted) :
    Returns (parseStopOndemandTag obj key stopOnDemand) fun stopOnDemand =>
      ∀ event ∈ stopOnDemand.onDemandEvents, event.Admitted := by
  refine parseJsonTag_returns.bind fun tag _ => ?_
  cases tag with
  | none => exact Returns.pure admitted
  | some onDemandJson =>
      refine (parseOndemandTag_returns admitted).bind fun events good => ?_
      simp only [getBoolFromJson_eq, getInt32FromJson_eq, Json.ok_bind]
      exact Returns.pure good

end Readers

/-- The entry names its ability and its library. -/
def BaseInfoGood (entry : Json) : Prop :=
  (1 ≤ entry.valueAt toInt32? "name" 0 ∧ entry.valueAt toInt32? "name" 0 ≤ LAST_SYS_ABILITY_ID) ∧
    Fits (entry.valueAt toString? "libpath" "")

/-- The entry gives no recycle strategy or a known one. -/
def RecycleStrategyGood (entry : Json) : Prop :=
  entry.valueAt toString? "recycle-strategy" "" ∈ ["", "immediately", "low-memory"]

/-- The extensions have an item that is no text, and none in front of it ends the reading. -/
def ReachesNoText (items : List Json) : Prop :=
  ∃ (front : List String) (item : Json) (rest : List Json),
    items = front.map Json.string ++ item :: rest ∧ item.isString = false ∧
      (∀ text ∈ front, text.utf8ByteSize ≤ MAX_JSON_STRING_LENGTH) ∧
      front.dropLast.toFinset.card < MAX_EXTENSIONO_NUM

/-- The entry is good up to its extensions, where it reaches an item that is no text. -/
def Breaks (entry : Json) : Prop :=
  BaseInfoGood entry ∧ RecycleStrategyGood entry ∧
    ReachesNoText (entry.valueAt toArray? "extension" [])

section Extensions

/-- The same from a list of extensions that are taken already. -/
def ReachesNoTextFrom (extension : List String) (items : List Json) : Prop :=
  ∃ (front : List String) (item : Json) (rest : List Json),
    items = front.map Json.string ++ item :: rest ∧ item.isString = false ∧
      (∀ text ∈ front, text.utf8ByteSize ≤ MAX_JSON_STRING_LENGTH) ∧
      (front = [] ∨ (extension ++ front.dropLast).toFinset.card < MAX_EXTENSIONO_NUM)

theorem reachesNoTextFrom_nil {items : List Json} :
    ReachesNoTextFrom [] items ↔ ReachesNoText items := by
  refine exists_congr fun front => exists_congr fun item => exists_congr fun rest => ?_
  cases front with
  | nil => simp [MAX_EXTENSIONO_NUM]
  | cons text front => simp

theorem reachesNoTextFrom_other {extension : List String} {item : Json} {items : List Json}
    (other : item.isString = false) : ReachesNoTextFrom extension (item :: items) :=
  ⟨[], item, items, rfl, other, by simp, Or.inl rfl⟩

/-- A text in front is one of those that must not end the reading. -/
theorem reachesNoTextFrom_text {extension : List String} {text : String} {items : List Json}
    (distinct : extension.Nodup) :
    ReachesNoTextFrom extension (.string text :: items) ↔
      text.utf8ByteSize ≤ MAX_JSON_STRING_LENGTH ∧ extension.length < MAX_EXTENSIONO_NUM ∧
        ReachesNoTextFrom (if text ∈ extension then extension else extension ++ [text]) items := by
  have joined : ∀ texts : List String,
      ((if text ∈ extension then extension else extension ++ [text]) ++ texts).toFinset =
        (extension ++ text :: texts).toFinset := by
    intro texts
    split
    · rename_i old
      ext other
      simp only [List.mem_toFinset, List.mem_append, List.mem_cons]
      grind
    · simp
  have fewer : ∀ texts : List String, extension.length ≤ (extension ++ texts).toFinset.card := by
    intro texts
    rw [← List.toFinset_card_of_nodup distinct]
    exact Finset.card_le_card fun other member => by
      simp only [List.mem_toFinset, List.mem_append] at member ⊢
      exact Or.inl member
  constructor
  · rintro ⟨front, item, rest, split, other, short, few⟩
    cases front with
    | nil =>
        simp only [List.map_nil, List.nil_append, List.cons.injEq] at split
        rw [← split.1] at other
        cases other
    | cons first front =>
        simp only [List.map_cons, List.cons_append, List.cons.injEq, Json.string.injEq] at split
        obtain ⟨rfl, split⟩ := split
        have few := few.resolve_left (List.cons_ne_nil _ _)
        refine ⟨short text List.mem_cons_self, lt_of_le_of_lt (fewer _) few,
          front, item, rest, split, other, fun text member => short text (List.mem_cons_of_mem _ member),
          ?_⟩
        cases front with
        | nil => exact Or.inl rfl
        | cons second front =>
            right
            rw [joined]
            exact few
  · rintro ⟨fits, room, front, item, rest, split, other, short, few⟩
    refine ⟨text :: front, item, rest, by rw [split]; rfl, other,
      List.forall_mem_cons.mpr ⟨fits, short⟩, Or.inr ?_⟩
    cases front with
    | nil =>
        rw [List.dropLast_singleton, List.append_nil, List.toFinset_card_of_nodup distinct]
        exact room
    | cons second front =>
        have few := few.resolve_left (List.cons_ne_nil _ _)
        rw [joined] at few
        exact few

theorem nodup_add {extension : List String} {text : String} (distinct : extension.Nodup) :
    (if text ∈ extension then extension else extension ++ [text]).Nodup := by
  split
  · exact distinct
  · rename_i new
    exact List.nodup_append'.mpr ⟨distinct, List.nodup_singleton _, by simpa using new⟩

/-- The reading throws exactly where it reaches an item that is no text. -/
theorem addExtensions_error_iff {extension : List String} {items : List Json}
    (distinct : extension.Nodup) :
    (∃ error, addExtensions extension items = .error error) ↔
      ReachesNoTextFrom extension items := by
  induction items generalizing extension with
  | nil => simp [addExtensions, ReachesNoTextFrom]
  | cons item items hypothesis =>
      cases text : item.isString with
      | false =>
          simp only [addExtensions, Json.getString_of_not_isString text,
            reachesNoTextFrom_other text, iff_true]
          exact ⟨_, rfl⟩
      | true =>
          obtain ⟨value, rfl, read⟩ := Json.getString_of_isString text
          rw [reachesNoTextFrom_text distinct, addExtensions, read, Json.ok_bind]
          split
          · rename_i long
            simp [Nat.not_le.mpr long]
          · rename_i short
            split
            · rename_i full
              simp [Nat.not_lt.mpr full]
            · rename_i room
              rw [hypothesis (nodup_add distinct)]
              simp [Nat.not_lt.mp short, Nat.not_le.mp room]

/-- What is taken are at most 100 different short texts. -/
theorem addExtensions_good {extension taken : List String} {items : List Json}
    (distinct : extension.Nodup) (few : extension.length ≤ MAX_EXTENSIONO_NUM)
    (short : ∀ text ∈ extension, text.utf8ByteSize ≤ MAX_JSON_STRING_LENGTH)
    (added : addExtensions extension items = .ok (some taken)) :
    taken.length ≤ MAX_EXTENSIONO_NUM ∧ taken.Nodup ∧
      ∀ text ∈ taken, text.utf8ByteSize ≤ MAX_JSON_STRING_LENGTH := by
  induction items generalizing extension with
  | nil =>
      cases added
      exact ⟨few, distinct, short⟩
  | cons item items hypothesis =>
      cases text : item.isString with
      | false =>
          rw [addExtensions, Json.getString_of_not_isString text] at added
          cases added
      | true =>
          obtain ⟨value, rfl, read⟩ := Json.getString_of_isString text
          rw [addExtensions, read, Json.ok_bind] at added
          split at added
          · cases added
          · rename_i fits
            split at added
            · cases added
            · rename_i room
              refine hypothesis (nodup_add distinct) ?_ ?_ added
              · split
                · exact few
                · simp only [List.length_append, List.length_singleton]
                  omega
              · split
                · exact short
                · intro other member
                  rcases List.mem_append.mp member with old | new
                  · exact short other old
                  · rw [List.mem_singleton] at new
                    subst new
                    exact Nat.not_lt.mp fits

end Extensions

section Entry

variable {entry : Json} {process : String}

theorem parseSystemAbilityGetSaBaseInfo_eq :
    (BaseInfoGood entry →
      parseSystemAbilityGetSaBaseInfo { process } entry =
        .ok (some { process
                    saId := entry.valueAt toInt32? "name" 0
                    libPath := entry.valueAt toString? "libpath" "" })) ∧
    (¬ BaseInfoGood entry → parseSystemAbilityGetSaBaseInfo { process } entry = .ok none) := by
  simp only [parseSystemAbilityGetSaBaseInfo, getInt32FromJson_eq, getStringFromJson_eq, Json.ok_bind,
    BaseInfoGood, fits_iff, FIRST_SYS_ABILITY_ID, LAST_SYS_ABILITY_ID]
  split
  · exact ⟨fun good => by omega, fun _ => rfl⟩
  · rename_i named
    split
    · exact ⟨fun good => by omega, fun _ => rfl⟩
    · rename_i inside
      split
      · rename_i empty
        exact ⟨fun good => absurd empty good.2.1, fun _ => rfl⟩
      · rename_i pathed
        split
        · rename_i long
          exact ⟨fun good => absurd good.2.2 (by omega), fun _ => rfl⟩
        · rename_i short
          exact ⟨fun _ => rfl, fun bad => absurd ⟨by omega, pathed, by omega⟩ bad⟩

theorem checkRecycleStrategy_eq {text : String} :
    (text ∈ ["", "immediately", "low-memory"] →
      ∃ strategy, checkRecycleStrategy text = some strategy ∧
        (strategy = IMMEDIATELY ∨ strategy = LOW_MEMORY)) ∧
    (text ∉ ["", "immediately", "low-memory"] → checkRecycleStrategy text = none) := by
  simp only [checkRecycleStrategy, List.mem_cons, List.not_mem_nil, or_false]
  split
  · exact ⟨fun _ => ⟨_, rfl, Or.inl rfl⟩, fun bad => absurd (by tauto) bad⟩
  · split
    · exact ⟨fun _ => ⟨_, rfl, Or.inr rfl⟩, fun bad => absurd (by tauto) bad⟩
    · exact ⟨fun good => absurd good (by tauto), fun _ => rfl⟩

/-- Up to the extensions nothing throws, and the events that are read can be held. -/
theorem parseSystemAbilityGetSaExtInfo_eq {saProfile : ParsedProfile}
    (admitted : ∀ event ∈ saProfile.startOnDemand.onDemandEvents ++
      saProfile.stopOnDemand.onDemandEvents, event.Admitted) :
    ∃ read : ParsedProfile,
      (read.process = saProfile.process ∧ read.saId = saProfile.saId ∧
        read.libPath = saProfile.libPath ∧ read.extension = saProfile.extension) ∧
      (∀ event ∈ read.startOnDemand.onDemandEvents ++ read.stopOnDemand.onDemandEvents,
        event.Admitted) ∧
      parseSystemAbilityGetSaExtInfo saProfile entry =
        match checkRecycleStrategy (entry.valueAt toString? "recycle-strategy" "") with
        | none => .ok none
        | some recycleStrategy =>
            parseSystemAbilityGetExtension { read with recycleStrategy } entry := by
  rw [List.forall_mem_append] at admitted
  obtain ⟨dependSa, depends, -⟩ :=
    @getIntArrayFromJson_returns entry "depend" saProfile.dependSa
  obtain ⟨startOnDemand, starts, startGood⟩ :=
    @parseStartOndemandTag_returns entry "start-on-demand" _ admitted.1
  obtain ⟨stopOnDemand, stops, stopGood⟩ :=
    @parseStopOndemandTag_returns entry "stop-on-demand" _ admitted.2
  simp only [parseSystemAbilityGetSaExtInfo, getBoolFromJson_eq, getInt32FromJson_eq,
    getStringFromJson_eq, Json.ok_bind, depends, starts, stops]
  -- the second name of the timeout is read only if the first gives none
  split <;>
    exact ⟨{ saProfile with
      runOnCreate := _
      moduleUpdate := _
      autoRestart := _
      distributed := _
      cacheCommonEvent := _
      independentUnload := _
      dependSa
      dependTimeout := _
      dumpLevel := _
      bootPhase := _
      startOnDemand
      stopOnDemand }, ⟨rfl, rfl, rfl, rfl⟩,
      List.forall_mem_append.mpr ⟨startGood, stopGood⟩, rfl⟩

/-- An entry by itself: what it throws on, and what it gives. -/
theorem parseSystemAbility_spec (named : Fits process) :
    ((∃ error, parseSystemAbility { process } entry = .error error) ↔ Breaks entry) ∧
      ∀ saProfile, parseSystemAbility { process } entry = .ok (some saProfile) →
        saProfile.WellFormed := by
  by_cases base : BaseInfoGood entry
  · obtain ⟨read, kept, admitted, ext⟩ := @parseSystemAbilityGetSaExtInfo_eq entry
      { process
        saId := entry.valueAt toInt32? "name" 0
        libPath := entry.valueAt toString? "libpath" "" }
      (by simp)
    obtain ⟨process_eq, saId_eq, libPath_eq, extension_eq⟩ := kept
    have whole : parseSystemAbility { process } entry =
        match checkRecycleStrategy (entry.valueAt toString? "recycle-strategy" "") with
        | none => .ok none
        | some recycleStrategy =>
            parseSystemAbilityGetExtension { read with recycleStrategy } entry := by
      rw [parseSystemAbility, parseSystemAbilityGetSaBaseInfo_eq.1 base, Json.ok_bind]
      exact ext
    by_cases recycle : RecycleStrategyGood entry
    · obtain ⟨strategy, checked, known⟩ := checkRecycleStrategy_eq.1 recycle
      rw [whole]
      simp only [checked, parseSystemAbilityGetExtension, arrayFromJson_eq, Json.ok_bind,
        extension_eq]
      have throws := @addExtensions_error_iff [] (entry.valueAt toArray? "extension" []) List.nodup_nil
      rw [reachesNoTextFrom_nil] at throws
      cases added : addExtensions [] (entry.valueAt toArray? "extension" []) with
      | error error =>
          refine ⟨⟨fun _ => ⟨base, recycle, throws.mp ⟨error, added⟩⟩, fun _ => ⟨error, rfl⟩⟩, ?_⟩
          intro saProfile same
          cases same
      | ok taken =>
          refine ⟨⟨?_, fun breaks => ?_⟩, ?_⟩
          · rintro ⟨error, same⟩
            cases same
          · obtain ⟨error, same⟩ := throws.mpr breaks.2.2
            rw [added] at same
            cases same
          · intro saProfile same
            cases taken with
            | none => cases same
            | some taken =>
                cases same
                obtain ⟨few, distinct, short⟩ := addExtensions_good List.nodup_nil
                  (Nat.zero_le _) (by simp) added
                exact
                  { process := process_eq ▸ named
                    saId := ⟨saId_eq ▸ by
                      have := base.1.1
                      simp only [FIRST_SYS_ABILITY_ID]
                      omega, saId_eq ▸ base.1.2⟩
                    libPath := libPath_eq ▸ base.2
                    extensions := few
                    distinct
                    extension := short
                    recycleStrategy := known
                    events := admitted }
    · rw [whole, checkRecycleStrategy_eq.2 recycle]
      refine ⟨⟨?_, fun breaks => absurd breaks.2.1 recycle⟩, ?_⟩
      · rintro ⟨_, same⟩
        cases same
      · intro _ same
        cases same
  · rw [parseSystemAbility, parseSystemAbilityGetSaBaseInfo_eq.2 base, Json.ok_bind]
    refine ⟨⟨?_, fun breaks => absurd breaks.1 base⟩, ?_⟩
    · rintro ⟨_, same⟩
      cases same
    · intro _ same
      cases same

end Entry

/-- The process that a file names. -/
def processOf (profileJson : Json) : String := profileJson.valueAt toString? "process" ""

/-- The abilities of a file that names a process. -/
def entriesOf (profileJson : Json) : List Json :=
  if processOf profileJson ≠ "" ∧ (processOf profileJson).utf8ByteSize ≤ MAX_JSON_STRING_LENGTH then
    profileJson.valueAt toArray? "systemability" []
  else []

/-- What an entry gives if it is read by itself. -/
def parsedAlone (process : String) (entry : Json) : Option ParsedProfile :=
  match parseSystemAbility { process } entry with
  | .error _ => none
  | .ok saProfile => saProfile

/-- The parsing returns, has added what each entry gives by itself, and all of that is well formed. -/
structure ParsesWell (u : ParseUtil) (profileJson : Json) : Prop where
  returns : (u.parseJsonFile profileJson).2 ≠ none
  profiles : (u.parseJsonFile profileJson).1.saProfiles =
    u.saProfiles ++ (entriesOf profileJson).filterMap (parsedAlone (processOf profileJson))
  wellFormed : ∀ saProfile ∈ (entriesOf profileJson).filterMap (parsedAlone (processOf profileJson)),
    saProfile.WellFormed

section File

variable {u : ParseUtil} {entries : List Json} {profileJson : Json}

theorem multiInstanceIds_returns {tmpSaIds : Std.TreeSet Int} :
    Returns (multiInstanceIds tmpSaIds entries) fun _ => True := by
  induction entries generalizing tmpSaIds with
  | nil => exact ⟨_, rfl, trivial⟩
  | cons item items hypothesis =>
      simp only [multiInstanceIds, getBoolFromJson_eq, getInt32FromJson_eq, Json.ok_bind]
      split
      · exact hypothesis
      · exact ⟨_, rfl, trivial⟩

theorem parseMultiInstanceSaIds_returns :
    Returns (u.parseMultiInstanceSaIds profileJson) fun listed =>
      listed.saProfiles = u.saProfiles := by
  refine multiInstanceIds_returns.bind fun ids _ => ?_
  cases ids with
  | none => exact ⟨_, rfl, rfl⟩
  | some tmpSaIds => exact ⟨_, rfl, rfl⟩

theorem parsedAlone_wellFormed {process : String} (named : Fits process) {saProfile : ParsedProfile}
    (member : saProfile ∈ entries.filterMap (parsedAlone process)) : saProfile.WellFormed := by
  obtain ⟨entry, -, same⟩ := List.mem_filterMap.mp member
  refine (@parseSystemAbility_spec entry process named).2 saProfile ?_
  rw [parsedAlone] at same
  split at same
  · cases same
  · rename_i found
    rw [found, same]

/-- The loop over the entries goes through exactly if none of them breaks it. -/
theorem run_parseEntry (named : Fits u.procName) :
    ((Fallible.run parseEntry u entries).2 = true ↔ ∀ entry ∈ entries, ¬ Breaks entry) ∧
      ((Fallible.run parseEntry u entries).2 = true →
        (Fallible.run parseEntry u entries).1.saProfiles =
          u.saProfiles ++ entries.filterMap (parsedAlone u.procName)) := by
  induction entries generalizing u with
  | nil => simp
  | cons entry entries hypothesis =>
      have throws := (@parseSystemAbility_spec entry u.procName named).1
      cases read : parseSystemAbility { process := u.procName } entry with
      | error error =>
          have rejected : (parseEntry u entry).2 = false := by simp [parseEntry, read]
          have breaks := throws.mp ⟨error, read⟩
          rw [Fallible.run_rejected rejected, rejected]
          simp [breaks]
      | ok found =>
          have whole : ¬ Breaks entry := by
            rw [← throws, read]
            rintro ⟨error, same⟩
            cases same
          have taken : (parseEntry u entry).2 = true := by
            cases found <;> simp [parseEntry, read]
          have name : (parseEntry u entry).1.procName = u.procName := by
            cases found <;> simp [parseEntry, read]
          have added : (parseEntry u entry).1.saProfiles = u.saProfiles ++ found.toList := by
            cases found <;> simp [parseEntry, read]
          have alone : parsedAlone u.procName entry = found := by simp only [parsedAlone, read]
          obtain ⟨through, profiles⟩ := hypothesis (u := (parseEntry u entry).1) (name.symm ▸ named)
          rw [Fallible.run_accepted taken, through, List.forall_mem_cons]
          refine ⟨⟨fun rest => ⟨whole, rest⟩, fun both => both.2⟩, fun rest => ?_⟩
          rw [profiles (through.mpr rest), added, name, List.filterMap_cons, alone]
          cases found <;> simp

theorem parseJsonFile_unnamed
    (unnamed : ¬ (processOf profileJson ≠ "" ∧
      (processOf profileJson).utf8ByteSize ≤ MAX_JSON_STRING_LENGTH)) :
    u.parseJsonFile profileJson = (u, some false) := by
  simp only [parseJsonFile, getStringFromJson_eq]
  split
  · rfl
  · rename_i some
    split
    · rfl
    · rename_i short
      exact absurd ⟨some, Nat.not_lt.mp short⟩ unnamed

/-- With a process name the loop over the entries decides. -/
theorem parseJsonFile_named
    (named : processOf profileJson ≠ "" ∧
      (processOf profileJson).utf8ByteSize ≤ MAX_JSON_STRING_LENGTH) :
    let parsed := Fallible.run parseEntry { u with procName := processOf profileJson }
      (entriesOf profileJson)
    ((u.parseJsonFile profileJson).2 ≠ none ↔ parsed.2 = true) ∧
      (u.parseJsonFile profileJson).1.saProfiles = parsed.1.saProfiles := by
  intro parsed
  have entries : entriesOf profileJson = profileJson.valueAt toArray? "systemability" [] := by
    rw [entriesOf, if_pos named]
  have short : ¬ (processOf profileJson).utf8ByteSize > MAX_JSON_STRING_LENGTH :=
    Nat.not_lt.mpr named.2
  have process : getStringFromJson profileJson "process" "" = .ok (processOf profileJson) :=
    getStringFromJson_eq
  cases found : profileJson.find "systemability" with
  | none =>
      have none : entriesOf profileJson = [] := by
        rw [entries, Json.valueAt, found]
        rfl
      have whole : u.parseJsonFile profileJson =
          ({ u with procName := processOf profileJson }, some false) := by
        simp only [parseJsonFile, process, if_neg named.1, if_neg short, found]
      simp [whole, parsed, none]
  | some value =>
      cases value with
      | array items =>
          have all : entriesOf profileJson = items := by
            rw [entries, Json.valueAt, found]
            rfl
          obtain ⟨listed, lists, same⟩ := @parseMultiInstanceSaIds_returns parsed.1 (.array items)
          have whole : u.parseJsonFile profileJson =
              if parsed.2 then (listed, some !listed.saProfiles.isEmpty) else (parsed.1, none) := by
            simp only [parseJsonFile, process, if_neg named.1, if_neg short, found,
              Json.member_of_find found]
            simp only [parsed, all] at lists ⊢
            simp only [Json.isArray, Json.elements, if_true, lists]
          rw [whole]
          split
          · rename_i through
            simp [through, same]
          · rename_i broken
            simp [broken]
      | _ =>
          have none : entriesOf profileJson = [] := by
            rw [entries, Json.valueAt, found]
            rfl
          have whole : u.parseJsonFile profileJson =
              ({ u with procName := processOf profileJson }, some false) := by
            simp only [parseJsonFile, process, if_neg named.1, if_neg short, found,
              Json.member_of_find found, Json.isArray]
            rfl
          simp [whole, parsed, none]

/-- A file is parsed well exactly if no entry with a good id, library and recycle strategy reaches an
extension that is no text. -/
theorem parsesWell_iff :
    ParsesWell u profileJson ↔ ∀ entry ∈ entriesOf profileJson, ¬ Breaks entry := by
  by_cases named : processOf profileJson ≠ "" ∧
      (processOf profileJson).utf8ByteSize ≤ MAX_JSON_STRING_LENGTH
  · have fits : Fits (processOf profileJson) := fits_iff.mpr named
    obtain ⟨returns, profiles⟩ := parseJsonFile_named (u := u) named
    obtain ⟨through, added⟩ := @run_parseEntry { u with procName := processOf profileJson }
      (entriesOf profileJson) fits
    constructor
    · intro well
      exact through.mp (returns.mp well.returns)
    · intro whole
      have ended := through.mpr whole
      exact
        { returns := returns.mpr ended
          profiles := by rw [profiles, added ended]
          wellFormed := fun _ => parsedAlone_wellFormed fits }
  · have none : entriesOf profileJson = [] := if_neg named
    have same := parseJsonFile_unnamed (u := u) named
    refine ⟨fun _ => by simp [none], fun _ => ⟨by simp [same], by simp [same, none], by simp [none]⟩⟩

end File

section Sample

/-- A file with two abilities; an extension of the first is a number. -/
def numberedFile : Json :=
  .object [("process", .string "audio_server"), ("systemability", .array
    [.object [("extension", .array [.string "backup", .integer 1]), ("libpath", .string "liba.z.so"),
        ("name", .integer 3001)],
      .object [("libpath", .string "libb.z.so"), ("name", .integer 3009)]])]

/-- The parsing throws, and the second ability is lost with the first. -/
theorem numbered_file_throws :
    ¬ ParsesWell {} numberedFile ∧ (parseJsonFile {} numberedFile).2 = none ∧
      (parseJsonFile {} numberedFile).1.saProfiles = [] := by
  have thrown : (parseJsonFile {} numberedFile).2 = none := rfl
  exact ⟨fun well => well.returns thrown, thrown, rfl⟩

end Sample

end ParseUtil

end Samgr
