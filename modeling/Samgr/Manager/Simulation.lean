import Samgr.Manager.Frames
import Samgr.Schedule.Counters

/-! The machine over the scheduler's chart. Every piece is a path of chart changes, apart
from the two that enter LOADING after the manager has answered, which make that one move
whatever the process is doing. So the layout is fixed and the counters are right in every
state of the machine. -/
namespace Samgr

namespace Chart

/-- The entry into LOADING, without regard to the process. -/
inductive LateLoad (sa : Int) (x y : Chart) : Prop
  | same (unchanged : y = x)
  | refused (listed : sa ∈ x.ids) (empty : x.count (x.own sa) (x.state sa) = 0)
      (failed : y = { x with failed := True })
  | moved (listed : sa ∈ x.ids) (before : x.state sa = .notLoaded)
      (positive : x.count (x.own sa) .notLoaded ≠ 0)
      (after : y = { x with
        state := Function.update x.state sa .loading
        count := Function.update x.count (x.own sa)
          (moveCount (x.count (x.own sa)) .notLoaded .loading) })

theorem LateLoad.sameLayout {sa : Int} {x y : Chart} (late : LateLoad sa x y) : SameLayout x y := by
  cases late with
  | same unchanged => subst unchanged; exact ⟨rfl, rfl, rfl, rfl⟩
  | refused listed empty failed => subst failed; exact ⟨rfl, rfl, rfl, rfl⟩
  | moved listed before positive after => subst after; exact ⟨rfl, rfl, rfl, rfl⟩

theorem LateLoad.counted {sa : Int} {x y : Chart} (late : LateLoad sa x y) (good : Counted x) :
    Counted y := by
  cases late with
  | same unchanged => exact unchanged ▸ good
  | refused listed empty failed => exact absurd empty (good.count_ne_zero listed)
  | moved listed before positive after => exact good.moved listed before rfl positive after

end Chart

open Chart

namespace Scheduler

variable {env : Env} {s : Scheduler}

theorem toLoading_late {sa : Int} (listed : sa ∈ s.abilityIds) :
    LateLoad sa s.chart (s.toLoading sa).1.chart := by
  simp only [toLoading, abilityStateTransitionLocked]
  split
  · rename_i same
    exact .same (chart_emit (by rw [same]; rfl))
  · split
    · exact .same (chart_emit (by cases (s.ability sa).state <;> rfl))
    · rename_i different enterable
      have before : (s.ability sa).state = .notLoaded := by
        simpa [SystemAbilityState.canEnter] using enterable
      by_cases empty : (s.ownProcess sa).abilityStateCountMap (s.ability sa).state = 0
      · simp only [updateStateCount, empty, if_true]
        exact .refused listed empty chart_emit_countFail
      · simp only [updateStateCount, empty, if_false, onEnterNothing]
        refine .moved listed before (before ▸ empty) ?_
        rw [before, chart_emit rfl, chart_setState, ownProcess, chart_setCount]
        rfl

theorem finishLoad_late {sa : Int} {result : ErrCode} (listed : sa ∈ s.abilityIds) :
    LateLoad sa s.chart (s.finishLoad sa result).1.chart := by
  simp only [finishLoad]
  split
  · exact toLoading_late listed
  · exact .same rfl

theorem finishCheckStart_late {sa : Int} {result : Bool} (listed : sa ∈ s.abilityIds) :
    LateLoad sa s.chart (s.finishCheckStart sa result).1.chart := by
  simp only [finishCheckStart]
  split
  · exact toLoading_late listed
  · exact .same rfl

theorem enterNotStarted_chart {processName : String} :
    (s.enterNotStarted env processName).chart = s.chart := by
  rw [enterNotStarted, chart_leaveProcess]
  exact chart_setProcess_quiet rfl rfl rfl rfl rfl

/-- The changes of one ability of a stopped process before its pended requests are replayed. -/
def BeginReplayChange (sa : Int) (c : Change) : Prop := LeaveChange sa c ∨ c = .resetLoad sa

theorem beginReplay_path {sa : Int} :
    Path (BeginReplayChange sa) s.chart (s.beginReplay env sa).1.chart := by
  simp only [beginReplay]
  split
  · rfl
  · rename_i listed
    have leaves : Path (BeginReplayChange sa) s.chart (s.toNotLoaded env sa).1.chart :=
      (toNotLoaded_path (by simpa using listed)).mono fun _ => Or.inl
    split
    · rename_i replays
      exact leaves.trans (Path.single (Or.inr rfl) ⟨replays.2, chart_setPendingEvent⟩)
    · exact leaves

end Scheduler

/-- The request a piece of a load works for. -/
def Piece.loading : Piece → Option Loading
  | .lockForLoad load | .beginLoad load | .doLoadSystemAbility load
  | .sendLoadedSystemAbilityMsg load _ | .registerCallback load | .startingSystemProcess load
  | .startOnDemandAbility load | .markStartingProcess load | .startDynamicSystemProcess load
  | .sendCheckLoadedMsg load | .finishLoad load _ => some load
  | _ => none

/-- The abilities a piece works for are known to the scheduler. -/
def Piece.Listed (ids : List Int) : Piece → Prop
  | .checkOnDemand _ sa | .doLoadOnDemandAbility _ sa | .finishCheckStart _ sa _ _ => sa ∈ ids
  | .restartDied _ died => ∀ sa ∈ died, sa ∈ ids
  | piece => ∀ load, piece.loading = some load → load.systemAbilityId ∈ ids

/-- The chart changes of a piece. -/
def Piece.Change (s : Scheduler) : Piece → Change → Prop
  | .sendAbilityStateEvent sa event => Scheduler.OpChange s (.abilityEvent sa event)
  | .beginLoad load => fun c => Scheduler.ActiveChange load.systemAbilityId c ∨
      ∃ request, c = .handle load.systemAbilityId request
  | .processStarted info => Scheduler.OpChange s (.processEvent info .processStartedEvent)
  | .lockForStop processName => fun c => c = .process processName .notStarted
  | .stopAbility _ sa => Scheduler.BeginReplayChange sa
  | .removeRunningProcess processName => fun c => c = .enroll processName
  | .clearPendingLoads sa => fun c => c = .clearPended sa
  | .schedule op => fun c => op.throughManager = false ∧ Scheduler.OpChange s op c
  | _ => fun _ => False

/-- The ability that a piece moves to LOADING. -/
def Piece.entersLoading : Piece → Option Int
  | .finishLoad load _ => some load.systemAbilityId
  | .finishCheckStart _ sa _ _ => some sa
  | _ => none

namespace Manager

variable {env : Env} {m : Manager}

open Scheduler

theorem exec_path {piece : Piece} (listed : piece.Listed m.sched.abilityIds)
    (plain : piece.entersLoading = none) :
    Path (piece.Change m.sched) m.sched.chart (m.exec env piece).1.sched.chart := by
  cases piece with
  | finishLoad load result => cases plain
  | finishCheckStart processName sa result isExist => cases plain
  | updateLimitDelayUnloadTime sa => exact path_of_eq chart_postProcessTask
  | sendAbilityStateEvent sa event => exact sendAbilityStateEvent_path
  | beginLoad load =>
      have known : load.systemAbilityId ∈ m.sched.abilityIds := listed load rfl
      refine (Path.single (Or.inr ⟨load.request, rfl⟩) handle_step).trans ?_
      exact (beginLoad_path known).mono fun _ => Or.inl
  | processStarted info =>
      have started : Path (OpChange m.sched (.processEvent info .processStartedEvent)) m.sched.chart
          (m.sched.sendProcessStateEvent env info .processStartedEvent).1.chart :=
        sendProcessStateEvent_path
      exact started
  | lockForStop processName =>
      simp only [exec]
      split
      · rfl
      · exact processStateTransitionLocked_path rfl (fun stops => by cases stops) fun _ => path_of_eq enterNotStarted_chart
  | getAbnormallyDied processName => exact path_of_eq chart_getAbnormallyDiedAbilityLocked
  | stopAbility processName sa => exact beginReplay_path
  | clearPendingLoads sa => exact clearPendingLoads_path rfl
  | restartDied processName died =>
      simp only [exec]
      split
      · rfl
      · exact path_of_eq chart_canRestartProcessLocked
  | removeRunningProcess processName => exact removeRunningProcessLocked_path rfl
  | schedule op =>
      by_cases recovers : op = .runRecoverTask
      · subst recovers
        simp only [exec]
        split
        · rfl
        · exact runRecoverTask_path.mono fun _ change => ⟨rfl, change⟩
      · rw [exec_schedule recovers]
        split
        · rfl
        · rename_i own
          exact Scheduler.exec_path.mono fun _ change => ⟨by simpa using own, change⟩
  | _ => exact path_of_eq (congrArg chart (exec_keeps _ .sched (by simp [Piece.touches])))

theorem exec_late {piece : Piece} {sa : Int} (listed : piece.Listed m.sched.abilityIds)
    (enters : piece.entersLoading = some sa) :
    LateLoad sa m.sched.chart (m.exec env piece).1.sched.chart := by
  cases piece with
  | finishLoad load result =>
      obtain rfl : load.systemAbilityId = sa := Option.some.inj enters
      have answered : (m.sched.emit (.doLoadSystemAbility load.systemAbilityId load.request
          result)).chart = m.sched.chart := chart_emit rfl
      rw [← answered]
      exact finishLoad_late (listed load rfl)
  | finishCheckStart processName other result isExist =>
      obtain rfl : other = sa := Option.some.inj enters
      have answered : (m.sched.emit (.doLoadOnDemandAbility other result isExist)).chart =
          m.sched.chart := chart_emit rfl
      rw [← answered]
      exact finishCheckStart_late listed
  | _ => cases enters

theorem exec_sameLayout {piece : Piece} (listed : piece.Listed m.sched.abilityIds) :
    SameLayout m.sched.chart (m.exec env piece).1.sched.chart := by
  cases enters : piece.entersLoading with
  | none => exact (exec_path listed enters).sameLayout
  | some sa => exact (exec_late listed enters).sameLayout

theorem exec_counted {piece : Piece} (listed : piece.Listed m.sched.abilityIds)
    (good : m.sched.chart.Counted) : (m.exec env piece).1.sched.chart.Counted := by
  cases enters : piece.entersLoading with
  | none => exact (exec_path listed enters).keeps Counted (fun _ step => step.counted) good
  | some sa => exact (exec_late listed enters).counted good

theorem exec_made_listed {piece made : Piece} (listed : piece.Listed m.sched.abilityIds)
    (member : made ∈ (m.exec env piece).2) : made.Listed m.sched.abilityIds := by
  have follows := exec_follows member
  cases piece with
  | lockForLoad load =>
      have known : load.systemAbilityId ∈ m.sched.abilityIds := listed load rfl
      rcases follows with rfl | rfl <;> simp [Piece.Listed, Piece.loading, known]
  | beginLoad load =>
      have known : load.systemAbilityId ∈ m.sched.abilityIds := listed load rfl
      obtain rfl := follows
      simpa [Piece.Listed, Piece.loading] using known
  | doLoadSystemAbility load =>
      have known : load.systemAbilityId ∈ m.sched.abilityIds := listed load rfl
      rcases follows with ⟨remoteObject, -, rfl | rfl⟩ | ⟨-, rfl⟩ <;>
        simpa [Piece.Listed, Piece.loading] using known
  | registerCallback load =>
      have known : load.systemAbilityId ∈ m.sched.abilityIds := listed load rfl
      rcases follows with ⟨result, rfl⟩ | rfl | ⟨-, rfl | rfl⟩ <;>
        simp [Piece.Listed, Piece.loading, known]
  | startingSystemProcess load =>
      have known : load.systemAbilityId ∈ m.sched.abilityIds := listed load rfl
      rcases follows with rfl | rfl | rfl | ⟨result, rfl⟩ <;>
        simpa [Piece.Listed, Piece.loading] using known
  | markStartingProcess load =>
      have known : load.systemAbilityId ∈ m.sched.abilityIds := listed load rfl
      rcases follows with rfl | rfl | ⟨result, rfl⟩ <;>
        simpa [Piece.Listed, Piece.loading] using known
  | startDynamicSystemProcess load =>
      have known : load.systemAbilityId ∈ m.sched.abilityIds := listed load rfl
      rcases follows with ⟨procName, rfl⟩ | rfl | ⟨result, rfl⟩ <;>
        simp [Piece.Listed, Piece.loading, known]
  | lockForCheckStart processName sa =>
      obtain ⟨goesOn, rfl | rfl⟩ := follows
      · exact (beginCheckStart_none goesOn).1
      · simp [Piece.Listed, Piece.loading]
  | checkOnDemand processName sa => rcases follows with rfl | rfl <;> exact listed
  | doLoadOnDemandAbility processName sa =>
      obtain ⟨result, isExist, rfl⟩ := follows
      exact listed
  | getAbnormallyDied processName =>
      rcases follows with ⟨sa, -, rfl⟩ | ⟨died, known, rfl⟩
      · simp [Piece.Listed, Piece.loading]
      · exact fun sa inside => (known sa inside).2
  | stopAbility processName sa =>
      obtain ⟨known, ⟨load, -, rfl, -, rfl⟩ | rfl⟩ := follows <;>
        simp [Piece.Listed, Piece.loading, known]
  | restartDied processName died =>
      obtain ⟨sa, inside, rfl | ⟨load, -, rfl, -, rfl⟩⟩ := follows
      · simp [Piece.Listed, Piece.loading]
      · simpa [Piece.Listed, Piece.loading] using listed load.systemAbilityId inside
  | insertAbility sa saInfo =>
      rcases follows with rfl | rfl | rfl | rfl <;> simp [Piece.Listed, Piece.loading]
  | checkLoaded sa name srcDeviceId callback =>
      obtain ⟨-, rfl | rfl | rfl⟩ := follows <;> simp [Piece.Listed, Piece.loading]
  | lockForStop processName =>
      rcases follows with rfl | rfl | rfl | rfl <;> simp [Piece.Listed, Piece.loading]
  | _ => grind [Piece.Follows, Piece.Listed, Piece.loading]

end Manager

namespace Machine

open Threads.Config

/-- What holds in every state of the machine, whatever is done: `first` is the scheduler it
started with. -/
structure Sound (first : Scheduler) (m : Manager) (pieces : List Piece) : Prop where
  layout : SameLayout first.chart m.sched.chart
  counted : m.sched.chart.Counted
  listed : ∀ piece ∈ pieces, piece.Listed m.sched.abilityIds

theorem enter_listed {m : Manager} {call : Call} {piece : Piece} (member : piece ∈ m.enter call) :
    piece.Listed m.sched.abilityIds := by
  have begins := enter_begins member
  cases call with
  | load request =>
      obtain ⟨load, rfl, known, -, -⟩ := begins
      simpa [Piece.Listed, Piece.loading] using known
  | _ => grind [Piece.Begins, Piece.Listed, Piece.loading]

theorem task_listed {ids : List Int} {task : WorkTask} {piece : Piece} (member : piece ∈ task.pieces) :
    piece.Listed ids := by
  cases task <;> grind [WorkTask.pieces, Piece.Listed, Piece.loading]

theorem step_sound {first : Scheduler} {x : Machine} (label : MachineLabel)
    (good : Sound first x.shared x.inFlight) :
    Sound first (x.step label).shared (x.step label).inFlight := by
  refine step_keeps (Sound first) ?_ ?_ ?_ ?_ ?_ good
  · intro m pieces others same sound
    exact { sound with listed := fun piece member => sound.listed piece (same.mem_iff.mpr member) }
  · intro call pieces sound
    refine { sound with listed := fun piece member => ?_ }
    rcases List.mem_append.mp member with member | member
    · exact enter_listed member
    · exact sound.listed piece member
  · intro env piece others _ _ _ sound
    have known := sound.listed piece List.mem_cons_self
    have same : SameLayout x.shared.sched.chart (x.shared.exec env piece).1.sched.chart :=
      Manager.exec_sameLayout known
    have ids : (x.shared.exec env piece).1.sched.abilityIds = x.shared.sched.abilityIds := same.ids
    refine ⟨?_, Manager.exec_counted known sound.counted, fun later member => ?_⟩
    · exact sound.layout.trans same
    · rw [ids]
      rcases List.mem_append.mp member with member | member
      · exact Manager.exec_made_listed known member
      · exact sound.listed later (List.mem_cons_of_mem piece member)
  · intro task rest others _ sound
    refine { sound with listed := fun piece member => ?_ }
    rcases List.mem_append.mp member with member | member
    · exact task_listed member
    · exact sound.listed piece member
  · intro handle sound
    exact { sound with }

theorem runFrom_sound (saProfiles : List SaProfile) (labels : List MachineLabel) :
    Sound (Scheduler.init saProfiles) (runFrom saProfiles labels).shared
      (runFrom saProfiles labels).inFlight := by
  refine Runs.run_invariant
    (fun x : Machine => Sound (Scheduler.init saProfiles) x.shared x.inFlight)
    (fun _ label => step_sound label) labels ?_
  exact ⟨⟨rfl, rfl, rfl, rfl⟩, (Scheduler.initial_init saProfiles).counted,
    fun _ member => absurd member List.not_mem_nil⟩

end Machine

/-- The process whose lock is held while the piece runs. -/
def Piece.lockedBy : Piece → Option String
  | .beginLoad load | .doLoadSystemAbility load | .sendLoadedSystemAbilityMsg load _
  | .registerCallback load | .startingSystemProcess load | .startOnDemandAbility load
  | .markStartingProcess load | .startDynamicSystemProcess load | .sendCheckLoadedMsg load
  | .finishLoad load _ => some load.held
  | .checkOnDemand processName _ | .doLoadOnDemandAbility processName _
  | .finishCheckStart processName _ _ _ | .removeOnDemandSaInDiedProc processName
  | .getAbnormallyDied processName | .stopAbility processName _ | .restartDied processName _
  | .removeRunningProcess processName => some processName
  | _ => none

/-- The process whose lock a piece takes and keeps. -/
def Piece.takesLock : Piece → Option String
  | .lockForLoad load => some load.held
  | .lockForCheckStart processName _ | .lockForStop processName => some processName
  | _ => none

namespace Machine

open Threads.Config

variable {x : Machine}

/-- Every piece that runs under the lock of a process is followed by its release. -/
def Locked (processName : String) (x : Machine) : Prop :=
  Bracketed (fun piece => piece.lockedBy = some processName)
    (fun piece => managerProgram.releases piece = some (.process processName)) x

theorem lockedBy_of_follows {m : Manager} {piece made : Piece} {processName : String}
    (follows : made.Follows m piece) (plain : piece.takesLock = none)
    (held : made.lockedBy = some processName) : piece.lockedBy = some processName := by
  cases piece with
  | lockForLoad load => cases plain
  | lockForCheckStart name sa => cases plain
  | lockForStop name => cases plain
  | _ => grind [Piece.Follows, Loading.EndsWith, Piece.lockedBy]

theorem followed_of_takesLock {env : Env} {m : Manager} {piece : Piece} {processName name : String}
    (takes : piece.takesLock = some name) :
    Followed (fun piece => piece.lockedBy = some processName)
      (fun piece => Piece.releases piece = some (.process processName)) (m.exec env piece).2 := by
  cases piece with
  | lockForLoad load => simp [Manager.exec, Followed, Piece.lockedBy, Piece.releases]
  | lockForCheckStart name sa =>
      simp only [Manager.exec]
      split <;> simp [Followed, Piece.lockedBy, Piece.releases]
  | lockForStop name =>
      simp only [Manager.exec]
      split <;> simp [Followed, Piece.lockedBy, Piece.releases]
  | _ => cases takes

theorem followed_of_plain_piece {env : Env} {m : Manager} {piece : Piece} {processName : String}
    (plain : piece.takesLock = none) (outside : piece.lockedBy ≠ some processName) :
    Followed (fun piece => piece.lockedBy = some processName)
      (fun piece => Piece.releases piece = some (.process processName)) (m.exec env piece).2 :=
  followed_of_plain fun _ member held =>
    outside (lockedBy_of_follows (exec_follows member) plain held)

theorem step_locked {processName : String} (label : MachineLabel) (good : x.Locked processName) :
    (x.step label).Locked processName := by
  refine step_bracketed (P := managerProgram) good ?_ ?_ ?_
  · intro call
    refine followed_of_plain fun piece member => ?_
    have begins : piece.Begins x.shared call := enter_begins member
    cases call <;> grind [Piece.Begins, Piece.lockedBy]
  · intro env piece _
    by_cases inside : piece.lockedBy = some processName
    · exact Or.inr inside
    · have fits : Followed (fun piece => piece.lockedBy = some processName)
          (fun piece => Piece.releases piece = some (.process processName))
          (x.shared.exec env piece).2 := by
        cases takes : piece.takesLock with
        | none => exact followed_of_plain_piece takes inside
        | some name => exact followed_of_takesLock takes
      exact Or.inl fits
  · intro pieces shared taken
    obtain ⟨⟨task, rest⟩, -, same⟩ := Option.map_eq_some_iff.mp taken
    simp only [Prod.mk.injEq] at same
    obtain ⟨rfl, -⟩ := same
    refine followed_of_plain fun piece member => ?_
    cases task <;> grind [WorkTask.pieces, Piece.lockedBy]

theorem runFrom_locked (saProfiles : List SaProfile) (labels : List MachineLabel)
    (processName : String) : (runFrom saProfiles labels).Locked processName :=
  Runs.run_invariant (Locked processName) (fun _ label => step_locked label) labels
    ⟨trivial, nofun⟩

/-- While a thread is inside the lock of a process, no piece that needs the lock can run. -/
theorem Locked.excludes {processName : String} (good : x.Locked processName) {piece other : Piece}
    (enabled : x.enabled managerProgram piece = true)
    (needs : x.shared.needs piece = some (.process processName)) (member : other ∈ x.inFlight) :
    other.lockedBy ≠ some processName :=
  Bracketed.excludes good enabled needs member

end Machine

end Samgr
