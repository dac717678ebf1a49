import Samgr.Schedule.Scheduler
import Samgr.Lib.Maxima
import Mathlib.Data.List.Sort

/-! The processes that memory management may reclaim, the one that has been idle for longest first. Each
manager lists its own, and the manager of the base user adds the lists of the active users to its own. -/
namespace Samgr

def TWO_MINUTES_MS : Int := 120 * 1000

structure IdleProcessInfo where
  pid : Int := -1
  processName : String
  lastIdleTime : Int := 0
  deriving DecidableEq, Repr

namespace Scheduler

variable (s : Scheduler) (env : Env)

/-- The clock is read once for each ability; `turn` counts the abilities that were asked before. -/
def getIdleProcessInfo (turn : Nat) (systemAbilityId : Int) : Option IdleProcessInfo :=
  if systemAbilityId ∉ s.abilityIds then none
  else
    let abilityContext := s.ability systemAbilityId
    let ownProcessContext := s.process abilityContext.ownProcessContext
    if abilityContext.state ≠ .unloadable ∨ ownProcessContext.state = .notStarted then none
    else if ownProcessContext.lastStopTime ≠ -1 ∧
        env.getTickCount s.now turn - ownProcessContext.lastStopTime < TWO_MINUTES_MS then none
    else some {
      pid := ownProcessContext.pid
      processName := ownProcessContext.processName
      lastIdleTime := abilityContext.lastIdleTime }

def isSystemProcessCanUnload (processName : String) : Bool :=
  processName ∈ s.processNames && s.canUnloadAllSystemAbilityLocked env processName false

end Scheduler

/-- `std::sort` by the idle time: the order of equal ones is left open. -/
structure IdleSort where
  sort : List IdleProcessInfo → List IdleProcessInfo
  perm : ∀ list, (sort list).Perm list
  ordered : ∀ list, (sort list).Pairwise fun info other => info.lastIdleTime ≤ other.lastIdleTime

/-- A manager as far as it lists its idle processes; `lowMemPrepareList` is that of its collect manager,
and `env` what its scheduler is told. -/
structure IdleManager where
  lowMemPrepareList : Option (List Int)
  abilityStateScheduler : Option Scheduler
  env : Env := {}

namespace IdleManager

variable (m : IdleManager) (std : IdleSort)

/-- An ability of the low memory list is idle, and its process is what `info` tells. -/
def Accepts (info : IdleProcessInfo) : Prop :=
  ∃ saIds scheduler, m.lowMemPrepareList = some saIds ∧ m.abilityStateScheduler = some scheduler ∧
    ∃ turn systemAbilityId, saIds[turn]? = some systemAbilityId ∧
      scheduler.getIdleProcessInfo m.env turn systemAbilityId = some info

/-- All abilities of the process can be unloaded. -/
def Unloads (processName : String) : Prop :=
  ∃ scheduler, m.abilityStateScheduler = some scheduler ∧
    scheduler.isSystemProcessCanUnload m.env processName = true

/-- The entry of an idle process: its ability that has become idle last tells it. -/
structure Lists (info : IdleProcessInfo) : Prop where
  accepted : m.Accepts info
  unloads : m.Unloads info.processName
  latest : ∀ other, m.Accepts other → other.processName = info.processName →
    other.lastIdleTime ≤ info.lastIdleTime

def getLruIdleSystemAbilityProc (processInfos : List IdleProcessInfo) : List IdleProcessInfo × ErrCode :=
  match m.lowMemPrepareList, m.abilityStateScheduler with
  | some saIds, some scheduler =>
      let procInfos : Std.TreeMap String IdleProcessInfo := saIds.zipIdx.foldl
        (fun procInfos asked =>
          match scheduler.getIdleProcessInfo m.env asked.2 asked.1 with
          | none => procInfos
          | some info =>
              Maxima.keep IdleProcessInfo.processName IdleProcessInfo.lastIdleTime procInfos info) ∅
      let unloadable := procInfos.toList.filter fun entry =>
        scheduler.isSystemProcessCanUnload m.env entry.1
      (std.sort (processInfos ++ unloadable.map Prod.snd), .errOk)
  | _, _ => (processInfos, .errInvalidValue)

end IdleManager

/-- The manager of the base user, and what it knows of the active users. -/
structure IdleManagers where
  base : IdleManager
  validUserIds : Std.TreeSet Int := ∅
  getMultiUserManager : Int → Option IdleManager := fun _ => none

namespace IdleManagers

variable (s : IdleManagers) (std : IdleSort)

def getLruIdleSystemAbilityProc (processInfos : List IdleProcessInfo) : List IdleProcessInfo × ErrCode :=
  s.validUserIds.toList.foldl
    (fun listed userId =>
      match s.getMultiUserManager userId with
      | none => listed
      | some mgr =>
          let user := mgr.getLruIdleSystemAbilityProc std []
          if user.2 = .errOk then (listed.1 ++ user.1, listed.2)
          else if listed.2 = .errOk then (listed.1, user.2)
          else listed)
    (s.base.getLruIdleSystemAbilityProc std processInfos)

/-- The base user and the active ones, in the order in which they are asked. -/
def users : List (Option Int) := none :: s.validUserIds.toList.map some

def manager : Option Int → Option IdleManager
  | none => some s.base
  | some userId => s.getMultiUserManager userId

/-- The base user is asked first, and the others follow by their numbers. -/
def Before : Option Int → Option Int → Prop
  | none, some _ => True
  | some userId, some other => userId < other
  | _, none => False

def Serves (user : Option Int) (m : IdleManager) : Prop := user ∈ s.users ∧ s.manager user = some m

/-- The list is in the order of the idle times, and for each user it has the entry of every idle process,
once. -/
structure IsLruList (processInfos : List IdleProcessInfo) : Prop where
  sorted : processInfos.Pairwise fun info other => info.lastIdleTime ≤ other.lastIdleTime
  entries : ∃ listed : List (Option Int × IdleProcessInfo), listed.map Prod.snd = processInfos ∧
    (listed.map fun entry => (entry.1, entry.2.processName)).Nodup ∧
    (∀ entry ∈ listed, ∃ m, s.Serves entry.1 m ∧ m.Lists entry.2) ∧
    ∀ user m info, s.Serves user m → m.Accepts info → m.Unloads info.processName →
      ∃ entry ∈ listed, entry.1 = user ∧ entry.2.processName = info.processName

/-- No process of a user who is asked earlier has become idle after one of a user who is asked later. -/
def OrderedAcross : Prop :=
  ∀ user other m n info next, Before user other → s.Serves user m → s.Serves other n →
    m.Lists info → n.Lists next → info.lastIdleTime ≤ next.lastIdleTime

end IdleManagers

namespace IdleManager

/-- What a manager lists. -/
structure Listed (m : IdleManager) (processInfos : List IdleProcessInfo) : Prop where
  sorted : processInfos.Pairwise fun info other => info.lastIdleTime ≤ other.lastIdleTime
  single : (processInfos.map IdleProcessInfo.processName).Nodup
  lists : ∀ info ∈ processInfos, m.Lists info
  covers : ∀ info, m.Accepts info → m.Unloads info.processName →
    ∃ entry ∈ processInfos, entry.processName = info.processName

variable {m : IdleManager} {std : IdleSort}

theorem nothing_of_missing (missing : m.lowMemPrepareList = none ∨ m.abilityStateScheduler = none)
    (processInfos : List IdleProcessInfo) :
    m.getLruIdleSystemAbilityProc std processInfos = (processInfos, .errInvalidValue) := by
  rw [getLruIdleSystemAbilityProc]
  split
  · rename_i list scheduler
    rcases missing with none_ | none_
    · rw [none_] at list
      cases list
    · rw [none_] at scheduler
      cases scheduler
  · rfl

/-- The idle processes of the abilities that are asked, in their order. -/
def idleProcesses (scheduler : Scheduler) (env : Env) (saIds : List Int) : List IdleProcessInfo :=
  saIds.zipIdx.filterMap fun asked => scheduler.getIdleProcessInfo env asked.2 asked.1

/-- The record of each process. -/
def procInfos (scheduler : Scheduler) (env : Env) (saIds : List Int) :
    Std.TreeMap String IdleProcessInfo :=
  (idleProcesses scheduler env saIds).foldl
    (Maxima.keep IdleProcessInfo.processName IdleProcessInfo.lastIdleTime) ∅

theorem getLruIdleSystemAbilityProc_eq {saIds : List Int} {scheduler : Scheduler}
    (list : m.lowMemPrepareList = some saIds) (there : m.abilityStateScheduler = some scheduler) :
    (m.getLruIdleSystemAbilityProc std []).1 =
      std.sort (Maxima.chosen (procInfos scheduler m.env saIds)
        (scheduler.isSystemProcessCanUnload m.env)) := by
  have loop : procInfos scheduler m.env saIds = saIds.zipIdx.foldl
      (fun procInfos asked =>
        match scheduler.getIdleProcessInfo m.env asked.2 asked.1 with
        | none => procInfos
        | some info =>
            Maxima.keep IdleProcessInfo.processName IdleProcessInfo.lastIdleTime procInfos info) ∅ := by
    rw [procInfos, idleProcesses, List.foldl_filterMap]
    congr 1
    funext kept asked
    cases scheduler.getIdleProcessInfo m.env asked.2 asked.1 <;> rfl
  rw [getLruIdleSystemAbilityProc, list, there, loop]
  rfl

theorem accepts_iff {saIds : List Int} {scheduler : Scheduler} (list : m.lowMemPrepareList = some saIds)
    (there : m.abilityStateScheduler = some scheduler) (info : IdleProcessInfo) :
    m.Accepts info ↔ info ∈ idleProcesses scheduler m.env saIds := by
  simp only [Accepts, list, there, Option.some.injEq, idleProcesses, List.mem_filterMap,
    List.mem_zipIdx_iff_getElem?, Prod.exists]
  constructor
  · rintro ⟨_, _, rfl, rfl, turn, systemAbilityId, inside, accepted⟩
    exact ⟨systemAbilityId, turn, inside, accepted⟩
  · rintro ⟨systemAbilityId, turn, inside, accepted⟩
    exact ⟨saIds, scheduler, rfl, rfl, turn, systemAbilityId, inside, accepted⟩

theorem unloads_iff {scheduler : Scheduler} (there : m.abilityStateScheduler = some scheduler)
    (processName : String) :
    m.Unloads processName ↔ scheduler.isSystemProcessCanUnload m.env processName = true := by
  simp [Unloads, there]

theorem listed (m : IdleManager) (std : IdleSort) :
    m.Listed (m.getLruIdleSystemAbilityProc std []).1 := by
  by_cases missing : m.lowMemPrepareList = none ∨ m.abilityStateScheduler = none
  · rw [nothing_of_missing missing]
    refine ⟨List.Pairwise.nil, List.nodup_nil, ?_, ?_⟩
    · intro info member
      cases member
    · rintro info ⟨saIds, scheduler, list, there, -⟩
      rw [list, there] at missing
      simp at missing
  obtain ⟨saIds, list⟩ := Option.ne_none_iff_exists'.mp (not_or.mp missing).1
  obtain ⟨scheduler, there⟩ := Option.ne_none_iff_exists'.mp (not_or.mp missing).2
  have best : Maxima.Best IdleProcessInfo.processName IdleProcessInfo.lastIdleTime
      (procInfos scheduler m.env saIds) (idleProcesses scheduler m.env saIds) :=
    Maxima.best_foldl _
  rw [getLruIdleSystemAbilityProc_eq list there]
  have same := std.perm (Maxima.chosen (procInfos scheduler m.env saIds)
    (scheduler.isSystemProcessCanUnload m.env))
  constructor
  case sorted => exact std.ordered _
  case single => exact (same.map _).nodup_iff.mpr (best.nodup_chosen _)
  case lists =>
    intro info member
    obtain ⟨present, unloads⟩ := best.mem_chosen.mp (same.mem_iff.mp member)
    refine ⟨(accepts_iff list there info).mpr (best.member _ _ present),
      (unloads_iff there _).mpr unloads, ?_⟩
    intro other accepted sameName
    exact best.most _ _ present other ((accepts_iff list there other).mp accepted) sameName
  case covers =>
    intro info accepted unloads
    have covered := best.covers info ((accepts_iff list there info).mp accepted)
    obtain ⟨entry, present⟩ := Option.isSome_iff_exists.mp
      (Std.TreeMap.mem_iff_isSome_getElem?.mp covered)
    have own := best.own _ _ present
    refine ⟨entry, same.mem_iff.mpr (best.mem_chosen.mpr ?_), own⟩
    rw [own]
    exact ⟨present, (unloads_iff there _).mp unloads⟩

end IdleManager

namespace IdleManagers

variable {s : IdleManagers} {std : IdleSort}

/-- What the manager of a user lists. -/
def listOf (s : IdleManagers) (std : IdleSort) (user : Option Int) : List IdleProcessInfo :=
  ((s.manager user).map fun m => (m.getLruIdleSystemAbilityProc std []).1).getD []

theorem listOf_of_manager {user : Option Int} {m : IdleManager} (found : s.manager user = some m) :
    s.listOf std user = (m.getLruIdleSystemAbilityProc std []).1 := by
  rw [listOf, found]
  rfl

theorem mem_listOf {user : Option Int} {info : IdleProcessInfo} (member : info ∈ s.listOf std user) :
    ∃ m, s.manager user = some m ∧ info ∈ (m.getLruIdleSystemAbilityProc std []).1 := by
  rw [listOf] at member
  cases found : s.manager user with
  | none =>
      rw [found] at member
      cases member
  | some m =>
      rw [found] at member
      exact ⟨m, rfl, member⟩

/-- A manager that fails adds nothing. -/
theorem nothing_of_failed {m : IdleManager}
    (failed : (m.getLruIdleSystemAbilityProc std []).2 ≠ .errOk) :
    (m.getLruIdleSystemAbilityProc std []).1 = [] := by
  rw [IdleManager.getLruIdleSystemAbilityProc] at failed ⊢
  split at failed
  · exact absurd rfl failed
  · rfl

/-- The lists of the users stand one behind another. -/
theorem getLruIdleSystemAbilityProc_eq (s : IdleManagers) (std : IdleSort) :
    (s.getLruIdleSystemAbilityProc std []).1 = s.users.flatMap (s.listOf std) := by
  have adds : ∀ (userIds : List Int) (listed : List IdleProcessInfo × ErrCode),
      (userIds.foldl
        (fun listed userId =>
          match s.getMultiUserManager userId with
          | none => listed
          | some mgr =>
              let user := mgr.getLruIdleSystemAbilityProc std []
              if user.2 = .errOk then (listed.1 ++ user.1, listed.2)
              else if listed.2 = .errOk then (listed.1, user.2)
              else listed) listed).1 =
        listed.1 ++ (userIds.map some).flatMap (s.listOf std) := by
    intro userIds
    induction userIds with
    | nil =>
        intro listed
        rw [List.foldl_nil, List.map_nil, List.flatMap_nil, List.append_nil]
    | cons userId rest hypothesis =>
        intro listed
        rw [List.foldl_cons, hypothesis, List.map_cons, List.flatMap_cons, ← List.append_assoc]
        congr 1
        cases found : s.getMultiUserManager userId with
        | none =>
            rw [listOf, manager, found]
            exact (List.append_nil _).symm
        | some mgr =>
            rw [listOf_of_manager (show s.manager (some userId) = some mgr from found)]
            dsimp only
            by_cases failed : (mgr.getLruIdleSystemAbilityProc std []).2 = .errOk
            · rw [if_pos failed]
            · rw [if_neg failed, nothing_of_failed failed, List.append_nil]
              split <;> rfl
  rw [getLruIdleSystemAbilityProc, adds, users, List.flatMap_cons]
  rfl

theorem users_ordered (s : IdleManagers) : s.users.Pairwise Before := by
  rw [users, List.pairwise_cons]
  constructor
  · intro user member
    obtain ⟨userId, -, rfl⟩ := List.mem_map.mp member
    trivial
  · rw [List.pairwise_map]
    exact Std.TreeSet.ordered_toList.imp fun less => Int.compare_eq_lt.mp less

theorem before_asymm {user other : Option Int} (before : Before user other) : ¬ Before other user := by
  cases user with
  | none =>
      cases other with
      | none => exact fun _ => before
      | some otherId => exact fun after => after
  | some userId =>
      cases other with
      | none => exact absurd before id
      | some otherId => exact lt_asymm before

/-- What holds of every two users in the order of the list holds of any two in their order. -/
theorem of_before {related : Option Int → Option Int → Prop} (all : s.users.Pairwise related)
    {user other : Option Int} (isUser : user ∈ s.users) (isOther : other ∈ s.users)
    (before : Before user other) : related user other := by
  obtain ⟨i, low, rfl⟩ := List.getElem_of_mem isUser
  obtain ⟨j, high, rfl⟩ := List.getElem_of_mem isOther
  have ordered := List.pairwise_iff_getElem.mp s.users_ordered
  rcases lt_trichotomy i j with less | same | greater
  · exact List.pairwise_iff_getElem.mp all i j low high less
  · subst same
    exact absurd before (before_asymm before)
  · exact absurd before (before_asymm (ordered j i high low greater))

theorem users_nodup (s : IdleManagers) : s.users.Nodup := by
  refine s.users_ordered.imp ?_
  rintro user other before rfl
  exact before_asymm before before

/-- For each user every idle process is listed once. -/
theorem lists_every_process (s : IdleManagers) (std : IdleSort) :
    ∃ listed : List (Option Int × IdleProcessInfo),
      listed.map Prod.snd = (s.getLruIdleSystemAbilityProc std []).1 ∧
      (listed.map fun entry => (entry.1, entry.2.processName)).Nodup ∧
      (∀ entry ∈ listed, ∃ m, s.Serves entry.1 m ∧ m.Lists entry.2) ∧
      ∀ user m info, s.Serves user m → m.Accepts info → m.Unloads info.processName →
        ∃ entry ∈ listed, entry.1 = user ∧ entry.2.processName = info.processName := by
  refine ⟨s.users.flatMap fun user => (s.listOf std user).map fun info => (user, info), ?_, ?_, ?_, ?_⟩
  · rw [getLruIdleSystemAbilityProc_eq, List.map_flatMap]
    simp [Function.comp_def]
  · rw [List.map_flatMap, List.Nodup, List.pairwise_flatMap]
    constructor
    · intro user _
      rw [List.map_map]
      cases found : s.manager user with
      | none => simp [listOf, found]
      | some m =>
          have single := (m.listed std).single
          rw [← listOf_of_manager found, List.Nodup, List.pairwise_map] at single
          rw [List.pairwise_map]
          refine single.imp ?_
          intro info other differs same
          exact differs (congrArg Prod.snd same)
    · refine s.users_nodup.imp ?_
      rintro user other differs first inFirst second inSecond rfl
      simp only [List.map_map, List.mem_map, Function.comp_apply] at inFirst inSecond
      obtain ⟨_, _, rfl⟩ := inFirst
      obtain ⟨_, _, same⟩ := inSecond
      exact differs (congrArg Prod.fst same).symm
  · intro entry member
    obtain ⟨user, isUser, inside⟩ := List.mem_flatMap.mp member
    obtain ⟨info, there, rfl⟩ := List.mem_map.mp inside
    obtain ⟨m, found, isListed⟩ := mem_listOf there
    exact ⟨m, ⟨isUser, found⟩, (m.listed std).lists info isListed⟩
  · intro user m info serves accepted unloads
    obtain ⟨entry, isListed, sameName⟩ := (m.listed std).covers info accepted unloads
    refine ⟨(user, entry), List.mem_flatMap.mpr ⟨user, serves.1, List.mem_map.mpr ⟨entry, ?_, rfl⟩⟩,
      rfl, sameName⟩
    rw [listOf_of_manager serves.2]
    exact isListed

/-- The list is complete for every user, and it is in order just when the users' own lists happen to
follow one another in that order. -/
theorem isLruList_iff (s : IdleManagers) (std : IdleSort) :
    s.IsLruList (s.getLruIdleSystemAbilityProc std []).1 ↔ s.OrderedAcross := by
  constructor
  · intro good
    have sorted := good.sorted
    rw [getLruIdleSystemAbilityProc_eq, List.pairwise_flatMap] at sorted
    intro user other m n info next before serves servesNext lists listsNext
    obtain ⟨entry, isListed, sameName⟩ := (m.listed std).covers info lists.accepted lists.unloads
    obtain ⟨nextEntry, nextListed, sameNext⟩ :=
      (n.listed std).covers next listsNext.accepted listsNext.unloads
    have across := of_before sorted.2 serves.1 servesNext.1 before
    rw [listOf_of_manager serves.2, listOf_of_manager servesNext.2] at across
    calc info.lastIdleTime
        ≤ entry.lastIdleTime :=
          ((m.listed std).lists entry isListed).latest info lists.accepted sameName.symm
      _ ≤ nextEntry.lastIdleTime := across entry isListed nextEntry nextListed
      _ ≤ next.lastIdleTime :=
          listsNext.latest nextEntry ((n.listed std).lists nextEntry nextListed).accepted sameNext
  · intro ordered
    refine ⟨?_, s.lists_every_process std⟩
    rw [getLruIdleSystemAbilityProc_eq, List.pairwise_flatMap]
    constructor
    · intro user _
      cases found : s.manager user with
      | none =>
          rw [listOf, found]
          exact List.Pairwise.nil
      | some m =>
          rw [listOf_of_manager found]
          exact (m.listed std).sorted
    · refine s.users_ordered.imp_of_mem ?_
      intro user other isUser isOther before info inside next nextInside
      obtain ⟨m, found, isListed⟩ := mem_listOf inside
      obtain ⟨n, nextFound, nextListed⟩ := mem_listOf nextInside
      exact ordered user other m n info next before ⟨isUser, found⟩ ⟨isOther, nextFound⟩
        ((m.listed std).lists info isListed) ((n.listed std).lists next nextListed)

/-- The sort that keeps the order of equal times. -/
def stableSort : IdleSort where
  sort list := list.insertionSort fun info other => info.lastIdleTime ≤ other.lastIdleTime
  perm list := List.perm_insertionSort _ list
  ordered list := List.pairwise_insertionSort _ list

/-- A process with one ability, which is idle since `lastIdleTime`. -/
def oneIdle (systemAbilityId : Int) (processName : String) (pid lastIdleTime : Int) : IdleManager where
  lowMemPrepareList := some [systemAbilityId]
  abilityStateScheduler := some {
    abilityIds := [systemAbilityId]
    ability := fun _ => {
      ownProcessContext := processName
      systemAbilityId, lastIdleTime
      state := .unloadable }
    processNames := [processName]
    process := fun name => {
      processName := name
      saList := [systemAbilityId]
      abilityStateCountMap := fun state => if state = .unloadable then 1 else 0
      pid
      state := .started } }

/-- The process of the active user has been idle for longer, and is listed behind that of the base user. -/
theorem later_user_is_listed_last : ¬ ∀ (s : IdleManagers) (std : IdleSort),
    s.IsLruList (s.getLruIdleSystemAbilityProc std []).1 := by
  intro always
  have sorted := (always
    { base := oneIdle 1001 "media_service" 10 5000
      validUserIds := (∅ : Std.TreeSet Int).insert 100
      getMultiUserManager := fun _ => some (oneIdle 1002 "input_service" 20 1000) } stableSort).sorted
  revert sorted
  decide +kernel

end IdleManagers

end Samgr
