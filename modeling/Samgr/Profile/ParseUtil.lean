import Samgr.Collect.State
import Samgr.Lib.Json

/-! The profiles of a process, read from the JSON value of its file. Each reader looks at the type
of what it reads, except the one of the extensions. -/
namespace Samgr

def MAX_JSON_STRING_LENGTH : Nat := 128
def FIRST_SYS_ABILITY_ID : Int := 0x00000000
def LAST_SYS_ABILITY_ID : Int := 0x00ffffff
def MAX_EXTENSIONO_NUM : Nat := 100
def BOOT_START : Nat := 1
def CORE_START : Nat := 2
def OTHER_START : Nat := 3
def HIGH_PRIORITY : Nat := 1
def MEDIUM_PRIORITY : Nat := 2
def IMMEDIATELY : Int := 0
def LOW_MEMORY : Int := 1

structure StartOnDemand where
  allowUpdate : Bool := false
  onDemandEvents : List PolicyEvent := []

structure StopOnDemand where
  allowUpdate : Bool := false
  unrefUnload : Bool := false
  delayTime : Int := 20000
  unusedTimeout : Int := -1
  onDemandEvents : List PolicyEvent := []

/-- A whole profile; the scheduler and the collectors each have their part of it. -/
structure ParsedProfile where
  process : String
  saId : Int := 0
  libPath : String := ""
  dependSa : List Int := []
  dependTimeout : Int := 0
  runOnCreate : Bool := false
  moduleUpdate : Bool := false
  autoRestart : Bool := false
  distributed : Bool := false
  dumpLevel : Int := 0
  bootPhase : Nat := OTHER_START
  startOnDemand : StartOnDemand := {}
  stopOnDemand : StopOnDemand := {}
  recycleStrategy : Int := IMMEDIATELY
  extension : List String := []
  cacheCommonEvent : Bool := false
  independentUnload : Bool := false

structure ParseUtil where
  saProfiles : List ParsedProfile := []
  procName : String := ""
  multiInstanceSaIds : Std.TreeSet Int := ∅

namespace ParseUtil

open Json (Read)

def getBoolFromJson (obj : Json) (key : String) (out : Bool) : Read Bool :=
  Json.readMember key Json.isBoolean Json.getBoolean obj out

def getStringFromJson (obj : Json) (key : String) (out : String) : Read String :=
  Json.readMember key Json.isString Json.getString obj out

/-- `get_to` with an `int32_t`. -/
def getInt32 (item : Json) : Read Int := do
  let value ← item.getInteger
  .ok (toInt32 value)

def getInt32FromJson (obj : Json) (key : String) (out : Int) : Read Int :=
  Json.readMember key Json.isNumberInteger getInt32 obj out

/-- The items of the array under a key, if there is one. -/
def arrayFromJson (obj : Json) (key : String) : Read (List Json) :=
  Json.readMember key Json.isArray (fun value => .ok value.elements) obj []

def getIntArrayFromJson (obj : Json) (key : String) (out : List Int) : Read (List Int) := do
  let items ← arrayFromJson obj key
  items.foldlM (fun out item =>
    if item.isNumberInteger then do
      let value ← getInt32 item
      .ok (out ++ [value])
    else .ok out) out

def getBootPriorityPara (bootPhase : String) : Nat :=
  if bootPhase = "BootStartPhase" then BOOT_START
  else if bootPhase = "CoreStartPhase" then CORE_START
  else OTHER_START

def getOndemandPriorityPara (loadPriority : String) : Nat :=
  if loadPriority = "HighPriority" then HIGH_PRIORITY
  else if loadPriority = "MediumPriority" then MEDIUM_PRIORITY
  else LOW_PRIORITY

def getOnDemandExtraMessagesFromJson (obj : Json) (key : String) : Read (List (String × String)) := do
  let members ← Json.readMember key Json.isObject (fun value => .ok value.members) obj []
  members.foldlM (fun out it =>
    if it.2.isString then do
      let value ← it.2.getString
      .ok (out ++ [(it.1, value)])
    else .ok out) []

/-- The event id that a condition names. -/
def conditionEventId (type : String) : Option Int :=
  if type = "deviceonline" then some DEVICE_ONLINE
  else if type = "settingswitch" then some SETTING_SWITCH
  else if type = "commonevent" then some COMMON_EVENT
  else if type = "param" then some PARAM
  else if type = "timedevent" then some TIMED_EVENT
  else none

def getOnDemandConditionsFromJson (obj : Json) (key : String) : Read (List OnDemandCondition) := do
  let conditions ← arrayFromJson obj key
  conditions.foldlM (fun out condition => do
    let type ← getStringFromJson condition "eventId" ""
    let name ← getStringFromJson condition "name" ""
    let value ← getStringFromJson condition "value" ""
    match conditionEventId type with
    | none => .ok out
    | some eventId =>
        let extraMessages ← getOnDemandExtraMessagesFromJson condition "extra-messages"
        let conditionEvent : OnDemandCondition := { eventId, name, value, extraMessages }
        .ok (out ++ [conditionEvent])) []

def getOnDemandArrayFromJson (eventId : Int) (obj : Json) (key : String) (out : List PolicyEvent) :
    Read (List PolicyEvent) := do
  let items ← arrayFromJson obj key
  items.foldlM (fun out item => do
    let name ← getStringFromJson item "name" ""
    let value ← getStringFromJson item "value" ""
    let persistence ← getBoolFromJson item "persistence" false
    let conditions ← getOnDemandConditionsFromJson item "conditions"
    let enableOnce ← getBoolFromJson item "enable-once" false
    let priority ← getStringFromJson item "load-priority" ""
    let extraMessages ← getOnDemandExtraMessagesFromJson item "extra-messages"
    if name ≠ "" ∧ name.utf8ByteSize ≤ MAX_JSON_STRING_LENGTH ∧
        value.utf8ByteSize ≤ MAX_JSON_STRING_LENGTH then
      .ok (out ++ [{ eventId
                     name
                     value
                     persistence
                     conditions
                     enableOnce
                     loadPriority := getOndemandPriorityPara priority
                     extraMessages }])
    else .ok out) out

def parseOndemandTag (onDemandJson : Json) (out : List PolicyEvent) : Read (List PolicyEvent) := do
  let out ← getOnDemandArrayFromJson DEVICE_ONLINE onDemandJson "deviceonline" out
  let out ← getOnDemandArrayFromJson SETTING_SWITCH onDemandJson "settingswitch" out
  let out ← getOnDemandArrayFromJson COMMON_EVENT onDemandJson "commonevent" out
  let out ← getOnDemandArrayFromJson PARAM onDemandJson "param" out
  getOnDemandArrayFromJson TIMED_EVENT onDemandJson "timedevent" out

/-- `ParseJsonTag`: the object under the tag. -/
def parseJsonTag (systemAbilityJson : Json) (jsonTag : String) : Read (Option Json) :=
  match systemAbilityJson.find jsonTag with
  | none => .ok none
  | some _ => do
      let onDemandJson ← systemAbilityJson.member jsonTag
      .ok (if onDemandJson.isObject then some onDemandJson else none)

def parseStartOndemandTag (systemAbilityJson : Json) (jsonTag : String)
    (startOnDemand : StartOnDemand) : Read StartOnDemand := do
  match ← parseJsonTag systemAbilityJson jsonTag with
  | none => .ok startOnDemand
  | some onDemandJson =>
      let onDemandEvents ← parseOndemandTag onDemandJson startOnDemand.onDemandEvents
      let allowUpdate ← getBoolFromJson onDemandJson "allow-update" startOnDemand.allowUpdate
      .ok { allowUpdate, onDemandEvents }

def parseStopOndemandTag (systemAbilityJson : Json) (jsonTag : String)
    (stopOnDemand : StopOnDemand) : Read StopOnDemand := do
  match ← parseJsonTag systemAbilityJson jsonTag with
  | none => .ok stopOnDemand
  | some onDemandJson =>
      let onDemandEvents ← parseOndemandTag onDemandJson stopOnDemand.onDemandEvents
      let allowUpdate ← getBoolFromJson onDemandJson "allow-update" stopOnDemand.allowUpdate
      let unrefUnload ← getBoolFromJson onDemandJson "unreferenced-unload" stopOnDemand.unrefUnload
      let delayTime ← getInt32FromJson onDemandJson "recycle-delaytime" stopOnDemand.delayTime
      let unusedTimeout ←
        getInt32FromJson onDemandJson "longtimeunused-unload" stopOnDemand.unusedTimeout
      .ok { allowUpdate, unrefUnload, delayTime, unusedTimeout, onDemandEvents }

def checkRecycleStrategy (recycleStrategyStr : String) : Option Int :=
  if recycleStrategyStr = "" ∨ recycleStrategyStr = "immediately" then some IMMEDIATELY
  else if recycleStrategyStr = "low-memory" then some LOW_MEMORY
  else none

/-- One extension after the other, without a look at the type. -/
def addExtensions (extension : List String) : List Json → Read (Option (List String))
  | [] => .ok (some extension)
  | item :: items => do
      let added ← item.getString
      if added.utf8ByteSize > MAX_JSON_STRING_LENGTH then .ok none
      else if extension.length ≥ MAX_EXTENSIONO_NUM then .ok none
      else addExtensions (if added ∈ extension then extension else extension ++ [added]) items

/-- Here and below `none` stands for a profile that is refused. -/
def parseSystemAbilityGetExtension (saProfile : ParsedProfile) (systemAbilityJson : Json) :
    Read (Option ParsedProfile) := do
  let items ← arrayFromJson systemAbilityJson "extension"
  let added ← addExtensions saProfile.extension items
  .ok (added.map fun extension => { saProfile with extension })

def parseSystemAbilityGetSaBaseInfo (saProfile : ParsedProfile) (systemAbilityJson : Json) :
    Read (Option ParsedProfile) := do
  let saId ← getInt32FromJson systemAbilityJson "name" saProfile.saId
  if saId = 0 then .ok none
  else if saId < FIRST_SYS_ABILITY_ID ∨ saId > LAST_SYS_ABILITY_ID then .ok none
  else
    let libPath ← getStringFromJson systemAbilityJson "libpath" saProfile.libPath
    if libPath = "" then .ok none
    else if libPath.utf8ByteSize > MAX_JSON_STRING_LENGTH then .ok none
    else .ok (some { saProfile with saId, libPath })

def parseSystemAbilityGetSaExtInfo (saProfile : ParsedProfile) (systemAbilityJson : Json) :
    Read (Option ParsedProfile) := do
  let runOnCreate ← getBoolFromJson systemAbilityJson "run-on-create" saProfile.runOnCreate
  let moduleUpdate ← getBoolFromJson systemAbilityJson "module-update" saProfile.moduleUpdate
  let autoRestart ← getBoolFromJson systemAbilityJson "auto-restart" saProfile.autoRestart
  let distributed ← getBoolFromJson systemAbilityJson "distributed" saProfile.distributed
  let cacheCommonEvent ←
    getBoolFromJson systemAbilityJson "cache-common-event" saProfile.cacheCommonEvent
  let independentUnload ←
    getBoolFromJson systemAbilityJson "independent-unload" saProfile.independentUnload
  let dependSa ← getIntArrayFromJson systemAbilityJson "depend" saProfile.dependSa
  let timeout ← getInt32FromJson systemAbilityJson "depend-time-out" saProfile.dependTimeout
  let dependTimeout ←
    if timeout = 0 then getInt32FromJson systemAbilityJson "depend_time_out" timeout
    else .ok timeout
  let dumpLevel ← getInt32FromJson systemAbilityJson "dump-level" saProfile.dumpLevel
  let bootPhase ← getStringFromJson systemAbilityJson "bootphase" ""
  let startOnDemand ←
    parseStartOndemandTag systemAbilityJson "start-on-demand" saProfile.startOnDemand
  let stopOnDemand ←
    parseStopOndemandTag systemAbilityJson "stop-on-demand" saProfile.stopOnDemand
  let recycleStrategy ← getStringFromJson systemAbilityJson "recycle-strategy" ""
  match checkRecycleStrategy recycleStrategy with
  | none => .ok none
  | some recycleStrategy =>
      parseSystemAbilityGetExtension
        { saProfile with
          runOnCreate
          moduleUpdate
          autoRestart
          distributed
          cacheCommonEvent
          independentUnload
          dependSa
          dependTimeout
          dumpLevel
          bootPhase := getBootPriorityPara bootPhase
          startOnDemand
          stopOnDemand
          recycleStrategy } systemAbilityJson

def parseSystemAbility (saProfile : ParsedProfile) (systemAbilityJson : Json) :
    Read (Option ParsedProfile) := do
  match ← parseSystemAbilityGetSaBaseInfo saProfile systemAbilityJson with
  | none => .ok none
  | some saProfile => parseSystemAbilityGetSaExtInfo saProfile systemAbilityJson

/-- The ids of a file are listed only if every ability of it has the tag. -/
def multiInstanceIds (tmpSaIds : Std.TreeSet Int) : List Json → Read (Option (Std.TreeSet Int))
  | [] => .ok (some tmpSaIds)
  | item :: items => do
      let multiInstance ← getBoolFromJson item "multi-instance" false
      if multiInstance then
        let saId ← getInt32FromJson item "name" 0
        multiInstanceIds (tmpSaIds.insert saId) items
      else .ok none

variable (u : ParseUtil)

def parseMultiInstanceSaIds (systemAbilityJson : Json) : Read ParseUtil := do
  match ← multiInstanceIds ∅ systemAbilityJson.elements with
  | none => .ok u
  | some tmpSaIds =>
      .ok { u with
        multiInstanceSaIds := tmpSaIds.toList.foldl (fun saIds saId => saIds.insert saId)
          u.multiInstanceSaIds }

/-- One entry of the file; `false` if it throws. -/
def parseEntry (u : ParseUtil) (systemAbilityJson : Json) : ParseUtil × Bool :=
  match parseSystemAbility { process := u.procName } systemAbilityJson with
  | .error _ => (u, false)
  | .ok none => (u, true)
  | .ok (some saProfile) => ({ u with saProfiles := u.saProfiles ++ [saProfile] }, true)

/-- `ParseJsonFile` with the value of the file; `none` if something in it throws. -/
def parseJsonFile (profileJson : Json) : ParseUtil × Option Bool :=
  match getStringFromJson profileJson "process" "" with
  | .error _ => (u, none)
  | .ok process =>
      if process = "" then (u, some false)
      else if process.utf8ByteSize > MAX_JSON_STRING_LENGTH then (u, some false)
      else
        let named := { u with procName := process }
        match profileJson.find "systemability" with
        | none => (named, some false)
        | some _ =>
            match profileJson.member "systemability" with
            | .error _ => (named, none)
            | .ok systemAbilityJson =>
                if systemAbilityJson.isArray then
                  let parsed := Fallible.run parseEntry named systemAbilityJson.elements
                  if parsed.2 then
                    match parsed.1.parseMultiInstanceSaIds systemAbilityJson with
                    | .error _ => (parsed.1, none)
                    | .ok listed => (listed, some !listed.saProfiles.isEmpty)
                  else (parsed.1, none)
                else (named, some false)

end ParseUtil

end Samgr
