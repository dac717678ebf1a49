import Samgr.Manager.Simulation

/-! What the pieces do to the state of one ability. An ability is up while it is LOADED,
UNLOADABLE or UNLOADING; it goes down only by an unload success or with its process, and it
enters LOADING only at the end of a load or of a check-and-start. -/
namespace Samgr

open Chart

def SystemAbilityState.isUp : SystemAbilityState → Bool
  | .notLoaded | .loading => false
  | .loaded | .unloadable | .unloading => true

/-- The change takes the ability down, or to LOADING. -/
def Change.Lowers (sa : Int) : Change → Prop
  | .transit id _ toState => id = sa ∧ toState.isUp = false
  | _ => False

namespace Chart

variable {P : Change → Prop} {x y : Chart} {sa : Int}

theorem Step.state_cases {c : Change} (step : Step x y c) (sa : Int) :
    y.state sa = x.state sa ∨ ∃ toState, c = .transit sa (x.state sa) toState ∧ y.state sa = toState := by
  rcases step.frame.1 with same | ⟨id, fromState, toState, rfl⟩
  · exact Or.inl (congrFun same sa)
  · obtain ⟨-, before, -, -, -, rfl⟩ := step
    by_cases own : id = sa
    · subst own
      exact Or.inr ⟨toState, by rw [before], by simp⟩
    · exact Or.inl (by simp [Function.update_of_ne (Ne.symm own)])

/-- A path that cannot take the ability down keeps it up. -/
theorem Path.up (path : Path P x y) (quiet : ∀ c, P c → ¬ c.Lowers sa)
    (up : (x.state sa).isUp = true) : (y.state sa).isUp = true := by
  refine path.keeps (fun z => (z.state sa).isUp = true) ?_ up
  intro z w c allowed step up
  rcases step.state_cases sa with same | ⟨toState, rfl, after⟩
  · rw [same]
    exact up
  · rw [after]
    by_contra down
    exact quiet _ allowed ⟨rfl, by simpa using down⟩

/-- A path that cannot enter LOADING leaves an ability in LOADING only where it was. -/
theorem Path.loading (path : Path P x y) (quiet : ∀ fromState, ¬ P (.transit sa fromState .loading))
    (loading : y.state sa = .loading) : x.state sa = .loading := by
  refine path.keeps (fun z => z.state sa = .loading → x.state sa = .loading) ?_ id loading
  intro z w c allowed step before after
  rcases step.state_cases sa with same | ⟨toState, rfl, entered⟩
  · exact before (same ▸ after)
  · rw [after] at entered
    subst entered
    exact absurd allowed (quiet _)

end Chart

namespace Scheduler

variable {env : Env} {s : Scheduler} {sa : Int}

theorem not_lowers_of_active {id : Int} {c : Change} (change : ActiveChange id c) : ¬ c.Lowers sa := by
  cases c with
  | transit other fromState toState =>
      rintro ⟨-, down⟩
      rw [change.2] at down
      cases down
  | _ => exact not_false

theorem not_lowers_of_unload {id : Int} {c : Change} (change : UnloadChange id c) : ¬ c.Lowers sa := by
  cases c with
  | transit other fromState toState =>
      rintro ⟨-, down⟩
      rcases change.2 with rfl | rfl <;> cases down
  | _ => exact not_false

theorem not_lowers_of_leave {id : Int} {c : Change} (other : id ≠ sa) (change : LeaveChange id c) :
    ¬ c.Lowers sa := by
  cases c with
  | transit moved fromState toState => exact fun lowers => other (change.1.symm.trans lowers.1)
  | _ => exact not_false

theorem not_lowers_of_unloadAll {processName : String} {c : Change}
    (change : UnloadAllChange processName c) : ¬ c.Lowers sa := by
  cases c with
  | transit other fromState toState =>
      rintro ⟨-, down⟩
      rw [change.2] at down
      cases down
  | _ => exact not_false

/-- The scheduler on its own never takes an ability down. -/
theorem not_lowers_of_op {op : Op} {c : Change} (own : op.throughManager = false)
    (change : OpChange s op c) : ¬ c.Lowers sa := by
  cases op with
  | load request => cases own
  | checkStart id => cases own
  | abilityEvent id event => cases own
  | processEvent info event => cases own
  | unload request =>
      cases request with
      | none => exact change.elim
      | some request => exact not_lowers_of_unload change
  | cancelUnload id => exact not_lowers_of_active change
  | unloadProcess processName => exact not_lowers_of_unloadAll change
  | startProcessTask =>
      obtain ⟨task, rest, -, change⟩ := change
      cases task with
      | pendingUnload id => exact not_lowers_of_unload change
      | tryUnloadAllSystemAbility processName => exact not_lowers_of_unloadAll change
      | _ => exact change.elim
  | startUnloadEvent => exact change ▸ not_false
  | stepUnloadEvent =>
      rcases change with rfl | ⟨id, -, change⟩
      · exact not_false
      · exact not_lowers_of_unload change
  | runRecoverTask =>
      obtain ⟨id, rest, -, rfl⟩ := change
      exact not_false
  | _ => exact change.elim

/-- A transition that can be entered is made, since the counters are right, and the entry
into the new state does not move the ability on. -/
theorem abilityStateTransitionLocked_state {onEnter : Scheduler → Int → Scheduler}
    {nextState : SystemAbilityState} (good : s.chart.Counted) (listed : sa ∈ s.abilityIds)
    (enterable : nextState.canEnter (s.ability sa).state = true)
    (stays : ∀ t : Scheduler, (onEnter t sa).chart.state = t.chart.state) :
    ((s.abilityStateTransitionLocked onEnter sa nextState).1.ability sa).state = nextState := by
  have positive : (s.ownProcess sa).abilityStateCountMap (s.ability sa).state ≠ 0 :=
    good.count_ne_zero listed
  simp only [abilityStateTransitionLocked, enterable, updateStateCount, positive]
  split
  · rename_i same
    exact same
  · simp only [Bool.not_true, Bool.false_eq_true, if_false]
    refine (congrFun (stays _) sa).trans ?_
    simp [chart, setAbility, emit]

theorem toLoaded_state (good : s.chart.Counted) (listed : sa ∈ s.abilityIds)
    (enterable : SystemAbilityState.loaded.canEnter (s.ability sa).state = true) :
    ((s.toLoaded env sa).1.ability sa).state = .loaded :=
  abilityStateTransitionLocked_state good listed enterable fun _ =>
    congrArg Chart.state chart_onAbilityLoadedLocked

theorem toNotLoaded_state (good : s.chart.Counted) (listed : sa ∈ s.abilityIds) :
    ((s.toNotLoaded env sa).1.ability sa).state = .notLoaded := by
  by_cases down : (s.ability sa).state = .notLoaded
  · have kept : (s.toNotLoaded env sa).1 =
        s.emit (.transition sa .notLoaded .notLoaded .errOk) := by
      simp [toNotLoaded, abilityStateTransitionLocked, down]
    rw [kept]
    exact down
  · refine abilityStateTransitionLocked_state good listed ?_ fun t => ?_
    · simpa [SystemAbilityState.canEnter] using down
    · have path : Path (fun c => c = .dropTimers ∨ c = .resetUnload sa) t.chart
          (t.onAbilityNotLoadedLocked env sa).chart :=
        onAbilityNotLoadedLocked_path (Or.inl rfl) (Or.inr rfl)
      exact path.state_eq fun _ _ _ impossible => by simp at impossible

/-- After a load success the ability is up, from whatever state. -/
theorem loadSuccess_up (good : s.chart.Counted) (listed : sa ∈ s.abilityIds) :
    ((s.sendAbilityStateEvent env sa .abilityLoadSuccessEvent).1.ability sa).state.isUp = true := by
  simp only [sendAbilityStateEvent, listed, not_true_eq_false, if_false,
    handleAbilityLoadSuccessEventLocked]
  cases state : (s.ability sa).state with
  | notLoaded =>
      rw [toLoaded_state good listed (by rw [state]; rfl)]
      rfl
  | loading =>
      rw [toLoaded_state good listed (by rw [state]; rfl)]
      rfl
  | loaded => simp only [state]; rfl
  | unloadable => simp only [state]; rfl
  | unloading => simp only [state]; rfl

/-- A load failure changes nothing unless the ability is LOADING. -/
theorem loadFailed_of_not_loading (calm : (s.ability sa).state ≠ .loading) :
    (s.sendAbilityStateEvent env sa .abilityLoadFailedEvent).1 = s := by
  simp only [sendAbilityStateEvent, handleAbilityLoadFailedEventLocked]
  split <;> rfl

theorem counted_removePendingUnload (good : s.chart.Counted) :
    (s.removePendingUnloadEventLocked sa).chart.Counted := by
  have path : Path (fun _ => True) s.chart (s.removePendingUnloadEventLocked sa).chart :=
    removePendingUnloadEventLocked_path trivial
  exact path.keeps Counted (fun _ step => step.counted) good

theorem leaveLoading_state (good : s.chart.Counted) (listed : sa ∈ s.abilityIds) :
    (((s.removePendingUnloadEventLocked sa).toNotLoaded env sa).1.ability sa).state = .notLoaded := by
  have path : Path (fun _ => True) s.chart (s.removePendingUnloadEventLocked sa).chart :=
    removePendingUnloadEventLocked_path trivial
  exact toNotLoaded_state (counted_removePendingUnload good) (Path.listed path listed)

theorem loadFailed_leaves (good : s.chart.Counted) (listed : sa ∈ s.abilityIds) :
    ((s.sendAbilityStateEvent env sa .abilityLoadFailedEvent).1.ability sa).state ≠ .loading := by
  by_cases loading : (s.ability sa).state = .loading
  · simp only [sendAbilityStateEvent, listed, not_true_eq_false, if_false,
      handleAbilityLoadFailedEventLocked, loading]
    rw [leaveLoading_state good listed]
    decide
  · rw [loadFailed_of_not_loading loading]
    exact loading

theorem unloadSuccess_leaves (good : s.chart.Counted) (listed : sa ∈ s.abilityIds) :
    ((s.sendAbilityStateEvent env sa .abilityUnloadSuccessEvent).1.ability sa).state ≠ .loading := by
  simp only [sendAbilityStateEvent, listed, not_true_eq_false, if_false,
    handleAbilityUnLoadSuccessEventLocked]
  cases state : (s.ability sa).state with
  | notLoaded =>
      rw [state]
      decide
  | loading =>
      simp only [leaveLoading_state good listed]
      decide
  | loaded =>
      simp only [toNotLoaded_state good listed]
      decide
  | unloadable =>
      simp only [toNotLoaded_state good listed]
      decide
  | unloading =>
      simp only [toNotLoaded_state good listed]
      decide

/-- No event of an ability leaves it in LOADING. -/
theorem abilityEvent_leaves (event : AbilityStateEvent) (good : s.chart.Counted)
    (listed : sa ∈ s.abilityIds) :
    ((s.sendAbilityStateEvent env sa event).1.ability sa).state ≠ .loading := by
  cases event with
  | abilityLoadSuccessEvent =>
      intro loading
      have up : ((s.sendAbilityStateEvent env sa .abilityLoadSuccessEvent).1.ability
          sa).state.isUp = true := loadSuccess_up good listed
      rw [loading] at up
      cases up
  | abilityLoadFailedEvent => exact loadFailed_leaves good listed
  | abilityUnloadSuccessEvent => exact unloadSuccess_leaves good listed

theorem beginReplay_state (good : s.chart.Counted) (listed : sa ∈ s.abilityIds) :
    ((s.beginReplay env sa).1.ability sa).state = .notLoaded := by
  have left : ((s.toNotLoaded env sa).1.ability sa).state = .notLoaded :=
    toNotLoaded_state good listed
  simp only [beginReplay, listed, not_true_eq_false, if_false]
  split
  · simpa [setAbility] using left
  · exact left

end Scheduler

/-- The piece ends a load or a check-and-start of the ability that succeeded. -/
def Piece.Commits (sa : Int) (piece : Piece) : Prop :=
  (∃ load : Loading, load.systemAbilityId = sa ∧ piece = .finishLoad load .errOk) ∨
    ∃ processName isExist, piece = .finishCheckStart processName sa true isExist

namespace Manager

variable {env : Env} {m : Manager} {piece : Piece} {sa : Int}

/-- The state the scheduler keeps for an ability. -/
def stateOf (m : Manager) (sa : Int) : SystemAbilityState := (m.sched.ability sa).state

theorem not_lowers_of_piece {c : Change} (change : piece.Change m.sched c)
    (noFail : piece ≠ .sendAbilityStateEvent sa .abilityLoadFailedEvent)
    (noUnload : piece ≠ .sendAbilityStateEvent sa .abilityUnloadSuccessEvent)
    (noStop : ∀ processName, piece ≠ .stopAbility processName sa) : ¬ c.Lowers sa := by
  cases piece with
  | sendAbilityStateEvent id event =>
      cases event with
      | abilityLoadSuccessEvent => exact Scheduler.not_lowers_of_active change
      | abilityLoadFailedEvent =>
          have other : id ≠ sa := by rintro rfl; exact noFail rfl
          exact Scheduler.not_lowers_of_leave other change
      | abilityUnloadSuccessEvent =>
          have other : id ≠ sa := by rintro rfl; exact noUnload rfl
          exact Scheduler.not_lowers_of_leave other change
  | beginLoad load =>
      rcases change with change | ⟨request, rfl⟩
      · exact Scheduler.not_lowers_of_active change
      · exact not_false
  | processStarted info =>
      rcases change with rfl | rfl <;> exact not_false
  | lockForStop processName =>
      obtain rfl : c = .process processName .notStarted := change
      exact not_false
  | stopAbility processName id =>
      have other : id ≠ sa := by rintro rfl; exact noStop processName rfl
      rcases change with change | rfl
      · exact Scheduler.not_lowers_of_leave other change
      · exact not_false
  | clearPendingLoads id =>
      obtain rfl : c = .clearPended id := change
      exact not_false
  | removeRunningProcess processName =>
      obtain rfl : c = .enroll processName := change
      exact not_false
  | schedule op => exact Scheduler.not_lowers_of_op change.1 change.2
  | _ => exact change.elim

/-- Only an unload success and the stop of its process take an ability down. -/
theorem up_of_exec (listed : piece.Listed m.sched.abilityIds) (up : (m.stateOf sa).isUp = true)
    (noUnload : piece ≠ .sendAbilityStateEvent sa .abilityUnloadSuccessEvent)
    (noStop : ∀ processName, piece ≠ .stopAbility processName sa) :
    ((m.exec env piece).1.stateOf sa).isUp = true := by
  cases enters : piece.entersLoading with
  | some id =>
      have up : (m.sched.chart.state sa).isUp = true := up
      change ((m.exec env piece).1.sched.chart.state sa).isUp = true
      have late : LateLoad id m.sched.chart (m.exec env piece).1.sched.chart :=
        exec_late listed enters
      cases late with
      | same unchanged => rw [unchanged]; exact up
      | refused known empty failed => rw [failed]; exact up
      | moved known before positive after =>
          have other : sa ≠ id := by
            rintro rfl
            rw [before] at up
            cases up
          rw [after]
          simpa [Function.update_of_ne other] using up
  | none =>
      have path : Path (piece.Change m.sched) m.sched.chart (m.exec env piece).1.sched.chart :=
        exec_path listed enters
      by_cases fails : piece = .sendAbilityStateEvent sa .abilityLoadFailedEvent
      · subst fails
        have calm : (m.sched.ability sa).state ≠ .loading := by
          intro loading
          rw [stateOf, loading] at up
          cases up
        change ((m.sched.sendAbilityStateEvent env sa .abilityLoadFailedEvent).1.ability
          sa).state.isUp = true
        rw [Scheduler.loadFailed_of_not_loading calm]
        exact up
      · exact path.up (fun c change => not_lowers_of_piece change fails noUnload noStop) up

/-- No piece but the two ends of a load enters LOADING. -/
theorem not_loading_of_piece {fromState : SystemAbilityState} :
    ¬ piece.Change m.sched (.transit sa fromState .loading) := by
  intro change
  have lowers : Change.Lowers sa (.transit sa fromState .loading) := ⟨rfl, rfl⟩
  cases piece with
  | sendAbilityStateEvent id event =>
      cases event with
      | abilityLoadSuccessEvent =>
          have change : Scheduler.ActiveChange id (.transit sa fromState .loading) := change
          exact Scheduler.not_lowers_of_active change lowers
      | abilityLoadFailedEvent => cases change.2
      | abilityUnloadSuccessEvent => cases change.2
  | beginLoad load =>
      rcases change with change | ⟨request, impossible⟩
      · exact Scheduler.not_lowers_of_active change lowers
      · cases impossible
  | processStarted info => rcases change with impossible | impossible <;> cases impossible
  | lockForStop processName =>
      have impossible : Change.transit sa fromState .loading =
          .process processName .notStarted := change
      cases impossible
  | stopAbility processName id =>
      rcases change with change | impossible
      · cases change.2
      · cases impossible
  | clearPendingLoads id =>
      have impossible : Change.transit sa fromState .loading = .clearPended id := change
      cases impossible
  | removeRunningProcess processName =>
      have impossible : Change.transit sa fromState .loading = .enroll processName := change
      cases impossible
  | schedule op => exact Scheduler.not_lowers_of_op change.1 change.2 lowers
  | _ => exact change

theorem commits_of_moves (enters : piece.entersLoading = some sa)
    (moves : (m.exec env piece).1.stateOf sa ≠ m.stateOf sa) : piece.Commits sa := by
  cases piece with
  | finishLoad load result =>
      obtain rfl : load.systemAbilityId = sa := Option.some.inj enters
      by_cases good : result = .errOk
      · exact Or.inl ⟨load, rfl, by rw [good]⟩
      · refine absurd ?_ moves
        simp [stateOf, exec, Scheduler.finishLoad, good, Scheduler.emit]
  | finishCheckStart processName other result isExist =>
      obtain rfl : other = sa := Option.some.inj enters
      cases result with
      | true => exact Or.inr ⟨processName, isExist, rfl⟩
      | false =>
          refine absurd ?_ moves
          simp [stateOf, exec, Scheduler.finishCheckStart, Scheduler.emit]
  | _ => cases enters

/-- An ability is LOADING after a piece only if it was before, or the piece commits to it. -/
theorem loading_of_exec (listed : piece.Listed m.sched.abilityIds)
    (loading : (m.exec env piece).1.stateOf sa = .loading) :
    m.stateOf sa = .loading ∨ m.stateOf sa = .notLoaded ∧ piece.Commits sa := by
  cases enters : piece.entersLoading with
  | none =>
      have path : Path (piece.Change m.sched) m.sched.chart (m.exec env piece).1.sched.chart :=
        exec_path listed enters
      exact Or.inl (path.loading (fun _ => not_loading_of_piece) loading)
  | some id =>
      have late : LateLoad id m.sched.chart (m.exec env piece).1.sched.chart :=
        exec_late listed enters
      have after : (m.exec env piece).1.sched.chart.state sa = .loading := loading
      cases late with
      | same unchanged => exact Or.inl (by rw [unchanged] at after; exact after)
      | refused known empty failed => exact Or.inl (by rw [failed] at after; exact after)
      | moved known before positive result =>
          by_cases own : sa = id
          · subst own
            refine Or.inr ⟨before, ?_⟩
            have moves : (m.exec env piece).1.stateOf sa ≠ m.stateOf sa := by
              rw [loading]
              exact fun same => by
                have same : m.sched.chart.state sa = .loading := same.symm
                rw [before] at same
                cases same
            exact commits_of_moves enters moves
          · rw [result] at after
            simp only [Function.update_of_ne own] at after
            exact Or.inl after

/-- An ability is NOT_LOADED after a piece only if it was before, or a failure, a removal or
the stop of its process took it there. -/
theorem notLoaded_of_exec (listed : piece.Listed m.sched.abilityIds)
    (down : (m.exec env piece).1.stateOf sa = .notLoaded)
    (noEvent : ∀ event, piece ≠ .sendAbilityStateEvent sa event)
    (noStop : ∀ processName, piece ≠ .stopAbility processName sa) : m.stateOf sa = .notLoaded := by
  have down : (m.exec env piece).1.sched.chart.state sa = .notLoaded := down
  cases enters : piece.entersLoading with
  | some id =>
      have late : LateLoad id m.sched.chart (m.exec env piece).1.sched.chart :=
        exec_late listed enters
      cases late with
      | same unchanged =>
          rw [unchanged] at down
          exact down
      | refused known empty failed =>
          rw [failed] at down
          exact down
      | moved known before positive after =>
          by_cases own : sa = id
          · subst own
            exact before
          · rw [after] at down
            simp only [Function.update_of_ne own] at down
            exact down
  | none =>
      have path : Path (piece.Change m.sched) m.sched.chart (m.exec env piece).1.sched.chart :=
        exec_path listed enters
      refine path.keeps (fun z => z.state sa = .notLoaded → m.stateOf sa = .notLoaded) ?_ id down
      intro z w c allowed step before after
      rcases step.state_cases sa with same | ⟨toState, rfl, entered⟩
      · exact before (same ▸ after)
      · rw [after] at entered
        subst entered
        exact absurd ⟨rfl, rfl⟩ (not_lowers_of_piece allowed (noEvent _) (noEvent _) noStop)

end Manager

end Samgr
