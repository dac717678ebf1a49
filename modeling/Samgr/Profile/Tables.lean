import Samgr.Collect.ParamWatch
import Samgr.Collect.PolicyRoundTrip
import Samgr.Facade.ExtraData
import Samgr.Profile.Files
import Samgr.Schedule.Counters

/-! The profiles of a device as the managers hold them. The base manager keeps those of the base
abilities, the manager of a user those of the multi-instance ones, each in tables of its own for its
scheduler, its collectors and its clients. -/
namespace Samgr

/-- An entry of `saProfileMap_`, with all that the source's `CommonSaProfile` has. -/
structure SaProfileEntry extends CommonSaProfile where
  saId : Int
  moduleUpdate : Bool
  distributed : Bool
  cacheCommonEvent : Bool
  recycleStrategy : Int
  extension : List String

def filterCommonSaProfile (oldProfile : ParsedProfile) : SaProfileEntry where
  process := oldProfile.process
  saId := oldProfile.saId
  moduleUpdate := oldProfile.moduleUpdate
  distributed := oldProfile.distributed
  cacheCommonEvent := oldProfile.cacheCommonEvent
  startAllowUpdate := oldProfile.startOnDemand.allowUpdate
  stopAllowUpdate := oldProfile.stopOnDemand.allowUpdate
  recycleStrategy := oldProfile.recycleStrategy
  extension := oldProfile.extension

/-- The part of a profile that the scheduler and the registry read. -/
def ParsedProfile.toSaProfile (saProfile : ParsedProfile) : SaProfile where
  process := saProfile.process
  saId := saProfile.saId
  autoRestart := saProfile.autoRestart
  independentUnload := saProfile.independentUnload
  delayTime := saProfile.stopOnDemand.delayTime
  distributed := saProfile.distributed
  runOnCreate := saProfile.runOnCreate

/-- The part that the collectors read. -/
def ParsedProfile.toCollMgrSaProfile (saProfile : ParsedProfile) : CollMgrSaProfile where
  saId := saProfile.saId
  startOnDemandEvents := saProfile.startOnDemand.onDemandEvents
  stopOnDemandEvents := saProfile.stopOnDemand.onDemandEvents
  cacheCommonEvent := saProfile.cacheCommonEvent

/-- One profile in `InitLowMemProcessList`. -/
def setLowmem (processLowmemState : Std.TreeMap String Bool) (saProfile : ParsedProfile) :
    Std.TreeMap String Bool :=
  if saProfile.process = "" then processLowmemState
  else if saProfile.recycleStrategy = IMMEDIATELY then
    processLowmemState.insert saProfile.process false
  else processLowmemState.insertIfNew saProfile.process true

def initLowMemProcessList (saProfiles : List ParsedProfile) : List String :=
  ((saProfiles.foldl setLowmem ∅).toList.filter Prod.snd).map Prod.fst

structure ProfileTables where
  saProfileMap : Std.TreeMap Int SaProfileEntry
  onDemandSaIdsSet : Std.TreeSet Int
  abilityStateScheduler : Scheduler
  lowMemoryProcessList : List String
  onDemandSaProfiles : List CollMgrSaProfile

/-- What a manager makes of its profiles; `onDemandSaIds` are on demand without a profile. -/
def ProfileTables.ofProfiles (onDemandSaIds : List Int) (saProfiles : List ParsedProfile) :
    ProfileTables where
  saProfileMap := Table.fill ParsedProfile.saId filterCommonSaProfile ∅ saProfiles
  onDemandSaIdsSet :=
    (onDemandSaIds ++ (saProfiles.filter fun saProfile => !saProfile.runOnCreate).map
      ParsedProfile.saId).foldl (fun saIds saId => saIds.insert saId) ∅
  abilityStateScheduler := Scheduler.init (saProfiles.map ParsedProfile.toSaProfile)
  lowMemoryProcessList := initLowMemProcessList saProfiles
  onDemandSaProfiles :=
    CollectState.filterOnDemandSaProfiles (saProfiles.map ParsedProfile.toCollMgrSaProfile)

/-- The base manager after `InitSaProfile`. -/
structure StartUp where
  allSaProfiles : List ParsedProfile
  multiInstanceSaIds : Std.TreeSet Int
  tables : ProfileTables

/-- `none` if a file throws. -/
def initSaProfile (disk : Disk) : Option StartUp :=
  let parsed := disk.readProfiles
  let multiInstanceSaIds := parsed.1.multiInstanceSaIds
  let saInfos := parsed.1.saProfiles.filter fun saInfo => !multiInstanceSaIds.contains saInfo.saId
  if parsed.2 then
    some
      { allSaProfiles := parsed.1.saProfiles
        multiInstanceSaIds
        tables := .ofProfiles
          [DEVICE_INFO_SERVICE_SA, HIDUMPER_SERVICE_SA, MEDIA_ANALYSIS_SERVICE_SA] saInfos }
  else none

namespace StartUp

variable (s : StartUp)

/-- What the manager of a user makes of the profiles when it is made. -/
def initSaProfiles : ProfileTables :=
  .ofProfiles [] (s.allSaProfiles.filter fun saProfile => s.multiInstanceSaIds.contains saProfile.saId)

def tablesOf (caller : Int) : ProfileTables := if caller = BASE_USER then s.tables else s.initSaProfiles

/-- The manager of a caller in the model of the running service. -/
def hostOf (caller : Int) : Host :=
  let allSaProfiles := s.allSaProfiles.map ParsedProfile.toSaProfile
  if caller = BASE_USER then .base allSaProfiles s.multiInstanceSaIds.toList
  else .ofUser allSaProfiles s.multiInstanceSaIds.toList

/-- The collect manager of a caller's manager after its `Init`. -/
def collectManagerOf (preferencesUtil : PreferencesUtil) (caller : Int) : CollectState :=
  let allSaProfiles := s.allSaProfiles.map ParsedProfile.toCollMgrSaProfile
  if caller = BASE_USER then
    .init preferencesUtil (allSaProfiles.filter fun saInfo => !s.multiInstanceSaIds.contains saInfo.saId)
  else .init preferencesUtil (allSaProfiles.filter fun saProfile => s.multiInstanceSaIds.contains saProfile.saId)

end StartUp

/-- A caller may use the ability, as the requests that name one decide it. -/
def Routed (multiInstanceSaIds : Std.TreeSet Int) (caller saId : Int) : Prop :=
  routeForSa multiInstanceSaIds.toList saId caller = .errOk

instance (multiInstanceSaIds : Std.TreeSet Int) (caller saId : Int) :
    Decidable (Routed multiInstanceSaIds caller saId) :=
  inferInstanceAs (Decidable (_ = _))

/-- The profiles that the files declare of the abilities that the caller may use. -/
def Disk.declaredFor (disk : Disk) (multiInstanceSaIds : Std.TreeSet Int) (caller : Int) : List ParsedProfile :=
  disk.declared.filter fun saProfile => Routed multiInstanceSaIds caller saProfile.saId

/-- The tables hold what the files declare of the abilities that the caller may use. -/
structure ProfileTables.Agree (tables : ProfileTables) (disk : Disk) (multiInstanceSaIds : Std.TreeSet Int)
    (caller : Int) : Prop where
  known : ∀ saId, Routed multiInstanceSaIds caller saId → tables.saProfileMap[saId]? =
    (Table.lastOf ParsedProfile.saId saId disk.declared).map filterCommonSaProfile
  unknown : ∀ saId, ¬ Routed multiInstanceSaIds caller saId → tables.saProfileMap[saId]? = none
  scheduled : ∀ saId, saId ∈ tables.abilityStateScheduler.abilityIds ↔ saId ∈ tables.saProfileMap
  owned : ∀ saId saProfile, tables.saProfileMap[saId]? = some saProfile →
    tables.abilityStateScheduler.ownProcessName saId = saProfile.process
  onDemand : ∀ saId, saId ∈ tables.onDemandSaIdsSet ↔
    caller = BASE_USER ∧ saId ∈ [DEVICE_INFO_SERVICE_SA, HIDUMPER_SERVICE_SA, MEDIA_ANALYSIS_SERVICE_SA] ∨
      Routed multiInstanceSaIds caller saId ∧
        ∃ saProfile ∈ disk.declared, saProfile.saId = saId ∧ saProfile.runOnCreate = false
  policies : tables.onDemandSaProfiles =
    ((disk.declaredFor multiInstanceSaIds caller).map ParsedProfile.toCollMgrSaProfile).filter fun profile =>
      !(profile.startOnDemandEvents.isEmpty && profile.stopOnDemandEvents.isEmpty)
  lowMemory : ∀ processName, processName ∈ tables.lowMemoryProcessList ↔
    (∃ saProfile ∈ disk.declared,
        Routed multiInstanceSaIds caller saProfile.saId ∧ saProfile.process = processName) ∧
      ∀ saProfile ∈ disk.declared, Routed multiInstanceSaIds caller saProfile.saId →
        saProfile.process = processName → saProfile.recycleStrategy = LOW_MEMORY

/-- The tables are those that the running service starts with. -/
structure ProfileTables.Of (tables : ProfileTables) (host : Host) (collectManager : CollectState) : Prop where
  scheduler : host.manager.sched = tables.abilityStateScheduler
  profiles : ∀ saId, ((host.manager.getSaProfile saId).map fun saProfile =>
      (saProfile.process, saProfile.distributed)) =
    tables.saProfileMap[saId]?.map fun saProfile => (saProfile.process, saProfile.distributed)
  onDemand : ∀ saId, saId ∈ host.onDemandSaIdsSet ↔ saId ∈ tables.onDemandSaIdsSet
  policies : collectManager.onDemandSaProfiles = tables.onDemandSaProfiles

namespace Scheduler

/-- The context that a profile gives its ability. -/
def contextOf (saProfile : SaProfile) : SystemAbilityContext where
  ownProcessContext := saProfile.process
  systemAbilityId := saProfile.saId
  isAutoRestart := saProfile.autoRestart
  independentUnload := saProfile.independentUnload
  delayUnloadTime := limitDelayUnloadTime saProfile.delayTime

/-- The scheduler has the contexts of the last profiles. -/
theorem init_contexts {saProfiles : List SaProfile} (named : ∀ saProfile ∈ saProfiles, saProfile.process ≠ "")
    (saId : Int) :
    (saId ∈ (init saProfiles).abilityIds ↔ ∃ saProfile ∈ saProfiles, saProfile.saId = saId) ∧
      ∀ saProfile, Table.lastOf SaProfile.saId saId saProfiles = some saProfile →
        (init saProfiles).ability saId = contextOf saProfile := by
  induction saProfiles using List.reverseRecOn with
  | nil => simp [init]
  | append_singleton saProfiles added hypothesis =>
      obtain ⟨listed, last⟩ := hypothesis fun saProfile member =>
        named saProfile (List.mem_append_left _ member)
      have name : added.process ≠ "" := named added (by simp)
      have grown : init (saProfiles ++ [added]) = (init saProfiles).initStateContext added := by
        rw [init, List.foldl_append]
        rfl
      rw [grown]
      constructor
      · rw [initStateContext_abilityIds name]
        by_cases same : saId = added.saId
        · subst same
          split <;> simp_all
        · split <;> simp [listed, same, eq_comm]
      · intro saProfile found
        rw [Table.lastOf_concat] at found
        rw [initStateContext_ability name]
        by_cases same : added.saId = saId
        · rw [if_pos same] at found
          cases found
          rw [← same, Function.update_self]
          rfl
        · rw [if_neg same] at found
          rw [Function.update_of_ne (Ne.symm same)]
          exact last saProfile found

end Scheduler

section LowMemory

variable {saProfiles : List ParsedProfile} {processName : String}

theorem foldl_setLowmem (named : ∀ saProfile ∈ saProfiles, saProfile.process ≠ "") :
    ((saProfiles.foldl setLowmem ∅)[processName]? = none ↔
        ∀ saProfile ∈ saProfiles, saProfile.process ≠ processName) ∧
      ((saProfiles.foldl setLowmem ∅)[processName]? = some true ↔
        (∃ saProfile ∈ saProfiles, saProfile.process = processName) ∧
          ∀ saProfile ∈ saProfiles, saProfile.process = processName →
            saProfile.recycleStrategy ≠ IMMEDIATELY) := by
  induction saProfiles using List.reverseRecOn with
  | nil => simp
  | append_singleton saProfiles added hypothesis =>
      obtain ⟨absent, low⟩ := hypothesis fun saProfile member =>
        named saProfile (List.mem_append_left _ member)
      have name : added.process ≠ "" := named added (by simp)
      rw [List.foldl_append, List.foldl_cons, List.foldl_nil, setLowmem, if_neg name]
      generalize saProfiles.foldl setLowmem ∅ = processLowmemState at absent low
      have exists_concat : (∃ saProfile ∈ saProfiles ++ [added], saProfile.process = processName) ↔
          (∃ saProfile ∈ saProfiles, saProfile.process = processName) ∨ added.process = processName := by
        simp [or_and_right, exists_or]
      rw [List.forall_mem_append, List.forall_mem_append, List.forall_mem_singleton,
        List.forall_mem_singleton, exists_concat]
      by_cases same : added.process = processName
      · by_cases now : added.recycleStrategy = IMMEDIATELY
        · simp [same, now]
        · rw [if_neg now, Std.TreeMap.getElem?_insertIfNew, same]
          cases before : processLowmemState[processName]? with
          | none =>
              have new : processName ∉ processLowmemState := by
                simp [Std.TreeMap.mem_iff_isSome_getElem?, before]
              have none : ∀ saProfile ∈ saProfiles, saProfile.process ≠ processName := absent.mp before
              have nothing : ∀ saProfile ∈ saProfiles, saProfile.process = processName →
                  saProfile.recycleStrategy ≠ IMMEDIATELY := fun saProfile member named =>
                absurd named (none saProfile member)
              simpa [new, now] using nothing
          | some lowmem =>
              have old : processName ∈ processLowmemState := by
                simp [Std.TreeMap.mem_iff_isSome_getElem?, before]
              have some : ∃ saProfile ∈ saProfiles, saProfile.process = processName := by
                by_contra none
                push Not at none
                rw [absent.mpr none] at before
                cases before
              rw [before] at low
              simp [old, now, low, some]
      · have other : compare added.process processName ≠ .eq := by simpa using same
        split
        · rw [Std.TreeMap.getElem?_insert, if_neg other]
          simp [absent, low, same]
        · rw [Std.TreeMap.getElem?_insertIfNew, if_neg fun both => other both.1]
          simp [absent, low, same]

theorem mem_initLowMemProcessList (named : ∀ saProfile ∈ saProfiles, saProfile.process ≠ "") :
    processName ∈ initLowMemProcessList saProfiles ↔
      (∃ saProfile ∈ saProfiles, saProfile.process = processName) ∧
        ∀ saProfile ∈ saProfiles, saProfile.process = processName →
          saProfile.recycleStrategy ≠ IMMEDIATELY := by
  rw [← (foldl_setLowmem named).2, initLowMemProcessList, List.mem_map]
  constructor
  · rintro ⟨⟨name, lowmem⟩, listed, rfl⟩
    obtain ⟨listed, rfl⟩ := List.mem_filter.mp listed
    exact Std.TreeMap.mem_toList_iff_getElem?_eq_some.mp listed
  · intro found
    exact ⟨(processName, true),
      List.mem_filter.mpr ⟨Std.TreeMap.mem_toList_iff_getElem?_eq_some.mpr found, rfl⟩, rfl⟩

end LowMemory

section Tables

variable {disk : Disk} {multiInstanceSaIds : Std.TreeSet Int} {caller : Int}

theorem routed_iff {saId : Int} :
    Routed multiInstanceSaIds caller saId ↔ (caller = BASE_USER ↔ saId ∉ multiInstanceSaIds) := by
  rw [Routed, routeForSa, ← Std.TreeSet.mem_toList]
  by_cases base : caller = BASE_USER
  · by_cases listed : saId ∈ multiInstanceSaIds.toList <;> simp [base, listed, SA_OPERATION_NOT_ALLOWED]
  · by_cases listed : saId ∈ multiInstanceSaIds.toList <;> simp [base, listed, SA_OPERATION_NOT_ALLOWED]

/-- Tables made of the profiles of the abilities that a caller may use agree with the files. -/
theorem agree_ofProfiles {keep : Int → Bool} {onDemandSaIds : List Int}
    (wellFormed : ∀ saProfile ∈ disk.declared, saProfile.WellFormed)
    (routes : ∀ saId, keep saId = true ↔ Routed multiInstanceSaIds caller saId)
    (fixed : ∀ saId, saId ∈ onDemandSaIds ↔ caller = BASE_USER ∧
      saId ∈ [DEVICE_INFO_SERVICE_SA, HIDUMPER_SERVICE_SA, MEDIA_ANALYSIS_SERVICE_SA]) :
    (ProfileTables.ofProfiles onDemandSaIds
      (disk.declared.filter fun saProfile => keep saProfile.saId)).Agree disk multiInstanceSaIds caller := by
  have known : ∀ saId, (Table.fill ParsedProfile.saId filterCommonSaProfile ∅
      (disk.declared.filter fun saProfile => keep saProfile.saId))[saId]? =
        if keep saId then (Table.lastOf ParsedProfile.saId saId disk.declared).map filterCommonSaProfile
        else none := by
    intro saId
    rw [Table.getElem?_fill_empty, Table.lastOf_filter]
    split <;> rfl
  have chosen : ∀ {saProfile}, saProfile ∈ disk.declared.filter (fun saProfile => keep saProfile.saId) ↔
      saProfile ∈ disk.declared ∧ Routed multiInstanceSaIds caller saProfile.saId := by
    intro saProfile
    rw [List.mem_filter, routes]
  have named : ∀ saProfile ∈ disk.declared.filter (fun saProfile => keep saProfile.saId),
      saProfile.process ≠ "" := fun saProfile member =>
    (fits_iff.mp (wellFormed saProfile (chosen.mp member).1).process).1
  have contexts := @Scheduler.init_contexts
    ((disk.declared.filter fun saProfile => keep saProfile.saId).map ParsedProfile.toSaProfile)
    (List.forall_mem_map.mpr named)
  refine ⟨fun saId routed => ?_, fun saId other => ?_, fun saId => ?_, fun saId common found => ?_,
    fun saId => ?_, ?_, fun processName => ?_⟩
  · rw [ProfileTables.ofProfiles, known, if_pos ((routes saId).mpr routed)]
  · rw [ProfileTables.ofProfiles, known, if_neg fun kept => other ((routes saId).mp kept)]
  · simp only [ProfileTables.ofProfiles]
    rw [(contexts saId).1, Table.mem_fill_empty]
    simp [ParsedProfile.toSaProfile]
  · simp only [ProfileTables.ofProfiles] at found ⊢
    rw [Table.getElem?_fill_empty, Option.map_eq_some_iff] at found
    obtain ⟨saProfile, last, rfl⟩ := found
    have mapped : Table.lastOf SaProfile.saId saId
        ((disk.declared.filter fun saProfile => keep saProfile.saId).map ParsedProfile.toSaProfile) =
          some saProfile.toSaProfile := by
      rw [Table.lastOf_map]
      exact congrArg (Option.map ParsedProfile.toSaProfile) last
    rw [Scheduler.ownProcessName, (contexts saId).2 _ mapped]
    rfl
  · simp only [ProfileTables.ofProfiles]
    rw [ParseUtil.mem_foldl_insert, List.mem_append, fixed]
    simp only [Std.TreeSet.not_mem_emptyc, false_or, List.mem_map, List.mem_filter, Bool.not_eq_true']
    refine or_congr_right ⟨?_, ?_⟩
    · rintro ⟨saProfile, ⟨⟨member, kept⟩, late⟩, rfl⟩
      exact ⟨(routes _).mp kept, saProfile, member, rfl, late⟩
    · rintro ⟨routed, saProfile, member, rfl, late⟩
      exact ⟨saProfile, ⟨⟨member, (routes _).mpr routed⟩, late⟩, rfl⟩
  · have same : disk.declared.filter (fun saProfile => keep saProfile.saId) =
        disk.declaredFor multiInstanceSaIds caller :=
      List.filter_congr fun saProfile _ => (Bool.eq_iff_iff.mpr ((routes _).trans decide_eq_true_iff.symm))
    simp only [ProfileTables.ofProfiles, same]
    rfl
  · simp only [ProfileTables.ofProfiles]
    rw [mem_initLowMemProcessList named]
    refine and_congr ⟨?_, ?_⟩ ⟨?_, ?_⟩
    · rintro ⟨saProfile, member, same⟩
      exact ⟨saProfile, (chosen.mp member).1, (chosen.mp member).2, same⟩
    · rintro ⟨saProfile, member, routed, same⟩
      exact ⟨saProfile, chosen.mpr ⟨member, routed⟩, same⟩
    · intro low saProfile member routed same
      exact (wellFormed saProfile member).recycleStrategy.resolve_left
        (low saProfile (chosen.mpr ⟨member, routed⟩) same)
    · intro low saProfile member same
      rw [low saProfile (chosen.mp member).1 (chosen.mp member).2 same]
      decide

theorem filter_toSaProfile {saProfiles : List ParsedProfile} {keep : Int → Bool} :
    ((saProfiles.map ParsedProfile.toSaProfile).filter fun saProfile => keep saProfile.saId) =
      (saProfiles.filter fun saProfile => keep saProfile.saId).map ParsedProfile.toSaProfile := by
  rw [List.filter_map]
  rfl

theorem filter_toCollMgrSaProfile {saProfiles : List ParsedProfile} {keep : Int → Bool} :
    ((saProfiles.map ParsedProfile.toCollMgrSaProfile).filter fun saProfile => keep saProfile.saId) =
      (saProfiles.filter fun saProfile => keep saProfile.saId).map ParsedProfile.toCollMgrSaProfile := by
  rw [List.filter_map]
  rfl

theorem contains_toList {saId : Int} :
    multiInstanceSaIds.toList.contains saId = multiInstanceSaIds.contains saId :=
  Std.TreeSet.contains_toList

theorem of_ofProfiles {saProfiles : List ParsedProfile} {onDemandSaIds : List Int} {host : Host}
    {collectManager : CollectState} {preferencesUtil : PreferencesUtil}
    (manager : host.manager = Manager.init (saProfiles.map ParsedProfile.toSaProfile))
    (onDemand : host.onDemandSaIdsSet = onDemandSaIds ++
      ((saProfiles.map ParsedProfile.toSaProfile).filter fun saProfile => !saProfile.runOnCreate).map
        SaProfile.saId)
    (collected : collectManager = .init preferencesUtil (saProfiles.map ParsedProfile.toCollMgrSaProfile)) :
    (ProfileTables.ofProfiles onDemandSaIds saProfiles).Of host collectManager := by
  refine ⟨by rw [manager]; rfl, fun saId => ?_, fun saId => ?_, by rw [collected]; rfl⟩
  · have last : host.manager.getSaProfile saId =
        (Table.lastOf ParsedProfile.saId saId saProfiles).map ParsedProfile.toSaProfile := by
      rw [manager]
      exact Table.lastOf_map
    rw [last, ProfileTables.ofProfiles, Table.getElem?_fill_empty, Option.map_map, Option.map_map]
    rfl
  · rw [ProfileTables.ofProfiles, ParseUtil.mem_foldl_insert, onDemand, List.filter_map, List.map_map]
    simp only [Std.TreeSet.not_mem_emptyc, false_or]
    rfl

/-- What the start-up leaves: the profiles of all files and the ids that they tag. -/
theorem initSaProfile_spec {s : StartUp} (started : initSaProfile disk = some s) :
    s.allSaProfiles = disk.declared ∧ (∀ saId, saId ∈ s.multiInstanceSaIds ↔ disk.Instanced saId) ∧
      s.tables = .ofProfiles [DEVICE_INFO_SERVICE_SA, HIDUMPER_SERVICE_SA, MEDIA_ANALYSIS_SERVICE_SA]
        (s.allSaProfiles.filter fun saProfile => !s.multiInstanceSaIds.contains saProfile.saId) := by
  simp only [initSaProfile] at started
  split at started
  · rename_i ends
    cases started
    obtain ⟨profiles, ids⟩ := disk.readProfiles_adds ends
    exact ⟨profiles, ids, rfl⟩
  · cases started

/-- After the start-up every manager knows the abilities that requests name it for and no others, as the
last of their profiles says, and all its tables agree on them; the service that the other modules
follow starts with these tables. -/
theorem abilities_reach_their_managers (disk : Disk) (s : StartUp) (started : initSaProfile disk = some s) :
    (∀ saId, saId ∈ s.multiInstanceSaIds ↔ disk.Instanced saId) ∧
      ∀ caller, (s.tablesOf caller).Agree disk s.multiInstanceSaIds caller ∧
        ∀ preferencesUtil, (s.tablesOf caller).Of (s.hostOf caller) (s.collectManagerOf preferencesUtil caller) := by
  obtain ⟨profiles, ids, tables⟩ := initSaProfile_spec started
  have wellFormed : ∀ saProfile ∈ disk.declared, saProfile.WellFormed := disk.declared_wellFormed
  refine ⟨ids, fun caller => ?_⟩
  by_cases base : caller = BASE_USER
  · rw [StartUp.tablesOf, if_pos base, tables, StartUp.hostOf, if_pos base, profiles]
    constructor
    · refine @agree_ofProfiles disk s.multiInstanceSaIds caller
        (fun saId => !s.multiInstanceSaIds.contains saId) _ wellFormed (fun saId => ?_) fun saId => ?_
      · rw [routed_iff, Std.TreeSet.mem_iff_contains]
        simp only [base, true_iff, Bool.not_eq_true, Bool.not_eq_true']
      · simp [base]
    · intro preferencesUtil
      refine @of_ofProfiles _ _ _ _ preferencesUtil ?_ ?_ ?_
      · simp only [Host.base, contains_toList]
        rw [@filter_toSaProfile _ fun saId => !s.multiInstanceSaIds.contains saId]
      · simp only [Host.base, contains_toList]
        rw [@filter_toSaProfile _ fun saId => !s.multiInstanceSaIds.contains saId]
      · simp only [StartUp.collectManagerOf, if_pos base, profiles]
        rw [@filter_toCollMgrSaProfile _ fun saId => !s.multiInstanceSaIds.contains saId]
  · rw [StartUp.tablesOf, if_neg base, StartUp.initSaProfiles, StartUp.hostOf, if_neg base, profiles]
    constructor
    · refine @agree_ofProfiles disk s.multiInstanceSaIds caller
        (fun saId => s.multiInstanceSaIds.contains saId) _ wellFormed (fun saId => ?_) fun saId => ?_
      · rw [routed_iff, Std.TreeSet.mem_iff_contains]
        simp only [base, false_iff, not_not]
      · simp [base]
    · intro preferencesUtil
      refine @of_ofProfiles _ _ _ _ preferencesUtil ?_ ?_ ?_
      · simp only [Host.ofUser, contains_toList]
        rw [@filter_toSaProfile _ s.multiInstanceSaIds.contains]
      · simp only [Host.ofUser, contains_toList, List.nil_append]
        rw [@filter_toSaProfile _ s.multiInstanceSaIds.contains]
      · simp only [StartUp.collectManagerOf, if_neg base, profiles]
        rw [@filter_toCollMgrSaProfile _ s.multiInstanceSaIds.contains]

end Tables

section Sample

/-- A file with one ability. -/
def wifiFile (process : String) (multiInstance : Bool) : Json :=
  .object [("process", .string process), ("systemability", .array
    [.object [("libpath", .string "libwifi.z.so"), ("multi-instance", .boolean multiInstance),
        ("name", .integer 1120)]])]

/-- The vendor gives every user a manager of the wireless network by a file of the same name. -/
def vendorDisk : Disk where
  getCfgFiles path :=
    if path = PREFIX then [["/system/profile/wifi.json"], ["/vendor/profile/wifi.json"]] else []
  parseJsonObj file :=
    if file = "/vendor/profile/wifi.json" then some (wifiFile "wifi_vendor" true)
    else some (wifiFile "wifi_service" false)

theorem vendorDisk_instanced : vendorDisk.Instanced 1120 := by
  rw [Disk.Instanced]
  decide

/-- The users' managers know the vendor's ability, and the base manager knows none. -/
theorem vendor_file_reaches_users :
    ∃ s, initSaProfile vendorDisk = some s ∧
      (s.tablesOf 100).saProfileMap[(1120 : Int)]?.map (fun saProfile => saProfile.process) = some "wifi_vendor" ∧
      (s.tablesOf BASE_USER).saProfileMap[(1120 : Int)]? = none := by
  obtain ⟨s, started⟩ := Option.isSome_iff_exists.mp (by decide : (initSaProfile vendorDisk).isSome = true)
  obtain ⟨ids, agree⟩ := abilities_reach_their_managers vendorDisk s started
  have instanced : (1120 : Int) ∈ s.multiInstanceSaIds := (ids 1120).mpr vendorDisk_instanced
  refine ⟨s, started, ?_, (agree BASE_USER).1.unknown 1120 ?_⟩
  · rw [(agree 100).1.known 1120 (routed_iff.mpr (by simp [instanced, BASE_USER]))]
    decide
  · simp [routed_iff, instanced]

end Sample

end Samgr
