import Samgr.User.Moves

/-! What holds of the users in every run: each of them is absent, active or stopping whenever no
change of its state is under way, the foreground user is active, a user that stops is neither
activated nor switched to, and each stop ends once, in its own context. -/
namespace Samgr

inductive UserLife where
  | absent
  | active
  | stopping
  deriving DecidableEq, Repr

/-- The stop whose end a piece belongs to. -/
def UserPiece.ends : UserPiece → Option (Int × UserStopping)
  | .postUserStopTimeoutTask userId context | .completeUserStopping _ userId context
  | .destroy _ userId context | .eraseStoppingContext _ userId context => some (userId, context)
  | _ => none

namespace UserLifecycleManager

variable (s : UserLifecycleManager)

/-- The entries of a user in the four containers. -/
def Lives (userId : Int) : UserLife → Prop
  | .absent =>
      s.multiUserManagers userId = none ∧ s.validUserIds userId = false ∧ s.userStateMap userId = none ∧
        s.userStoppingContexts userId = none
  | .active =>
      (s.multiUserManagers userId).isSome ∧ s.validUserIds userId = true ∧
        (s.userStateMap userId = some .activating ∨ s.userStateMap userId = some .switching) ∧
        s.userStoppingContexts userId = none
  | .stopping =>
      s.multiUserManagers userId = none ∧ s.validUserIds userId = false ∧
        s.userStateMap userId = some .stopping ∧ (s.userStoppingContexts userId).isSome

variable {s} {userId : Int}

theorem Lives.unique {life other : UserLife} (lives : s.Lives userId life) (too : s.Lives userId other) :
    other = life := by
  cases life <;> cases other <;> simp_all [Lives]

theorem lives_absent (view : s.view userId = .absent) : s.Lives userId .absent := by
  obtain ⟨state, manager, valid, context⟩ := view_eq_iff.mp view
  exact ⟨manager, valid, state, context⟩

theorem lives_active {state : SamgrUserState} {manager : Nat} (running : state ≠ .stopping)
    (view : s.view userId = .active state manager) : s.Lives userId .active := by
  obtain ⟨entry, present, valid, context⟩ := view_eq_iff.mp view
  refine ⟨by rw [present]; rfl, valid, ?_, context⟩
  cases state with
  | activating => exact .inl entry
  | switching => exact .inr entry
  | stopping => exact absurd rfl running

theorem lives_stopping {context : UserStopping} (view : s.view userId = .stopping context) :
    s.Lives userId .stopping := by
  obtain ⟨state, manager, valid, entry⟩ := view_eq_iff.mp view
  exact ⟨manager, valid, state, by rw [entry]; rfl⟩

end UserLifecycleManager

section Stages

variable {userId : Int} {fresh : UserStopping → Prop} {view : UserView} {calls rounds : List UserPiece}
  {tasks : List (Int × UserStopping)} {live : Option Nat}

theorem Stage.settled (stage : Stage userId fresh view [] rounds tasks live) :
    view = .absent ∨ (∃ state manager, state ≠ .stopping ∧ view = .active state manager) ∨
      ∃ context, view = .stopping context := by
  cases stage with
  | absent idle => exact .inl rfl
  | active state manager running idle => exact .inr (.inl ⟨state, manager, running, rfl⟩)
  | waiting context unset idle => exact .inr (.inr ⟨context, rfl⟩)
  | completing context unset idle => exact .inr (.inr ⟨context, rfl⟩)
  | destroying context idle => exact .inr (.inr ⟨context, rfl⟩)
  | erasing context idle => exact .inr (.inr ⟨context, rfl⟩)

theorem Stage.active_of_manager (stage : Stage userId fresh view calls rounds tasks live)
    (present : view.manager.isSome) :
    ∃ state manager, state ≠ .stopping ∧ view = .active state manager := by
  cases stage with
  | active state manager running idle => exact ⟨state, manager, running, rfl⟩
  | _ => cases present

theorem Idle.ends_nil (idle : Idle calls) : calls.filterMap UserPiece.ends = [] := by
  cases idle with
  | none => rfl
  | one piece quiet => cases piece <;> first | rfl | cases quiet

/-- While the end of a stop is to come, the user stops with that context. -/
theorem Stage.stopping_of_due {context : UserStopping}
    (stage : Stage userId fresh view calls rounds tasks live)
    (due : (userId, context) ∈ tasks ++ (calls.filterMap UserPiece.ends ++ rounds.filterMap UserPiece.ends)) :
    view = .stopping context := by
  have known : ∀ {other : UserStopping}, (userId, context) ∈ [(userId, other)] →
      UserView.stopping other = .stopping context := by
    intro other member
    rw [(Prod.mk.inj (List.mem_singleton.mp member)).2]
  cases stage with
  | absent idle =>
      rw [idle.ends_nil] at due
      cases due
  | active state manager running idle =>
      rw [idle.ends_nil] at due
      cases due
  | waiting other unset idle =>
      rw [idle.ends_nil] at due
      exact known due
  | completing other unset idle =>
      rw [idle.ends_nil] at due
      exact known due
  | destroying other idle =>
      rw [idle.ends_nil] at due
      exact known due
  | erasing other idle =>
      rw [idle.ends_nil] at due
      exact known due
  | creating => cases due
  | inserting manager => cases due
  | listing manager => cases due
  | starting manager processNames => cases due
  | posting other unset => exact known due
  | completingInCall other unset => exact known due
  | destroyingInCall other => exact known due
  | erasingInCall other => exact known due

/-- A manager that is in use and has a context waits for the end of its stop. -/
theorem Stage.due_of_live {manager : Nat} (stage : Stage userId fresh view calls rounds tasks (some manager))
    (stops : view.context ≠ none) :
    ∃ context, view = .stopping context ∧ context.manager = manager ∧
      (userId, context) ∈ tasks ++ (calls.filterMap UserPiece.ends ++ rounds.filterMap UserPiece.ends) := by
  cases stage with
  | posting context unset => exact ⟨context, rfl, rfl, List.mem_cons_self⟩
  | completingInCall context unset => exact ⟨context, rfl, rfl, List.mem_cons_self⟩
  | destroyingInCall context => exact ⟨context, rfl, rfl, List.mem_cons_self⟩
  | waiting context unset idle => exact ⟨context, rfl, rfl, List.mem_cons_self⟩
  | completing context unset idle =>
      exact ⟨context, rfl, rfl, List.mem_append_right _ (List.mem_append_right _ List.mem_cons_self)⟩
  | destroying context idle =>
      exact ⟨context, rfl, rfl, List.mem_append_right _ (List.mem_append_right _ List.mem_cons_self)⟩
  | _ => exact absurd rfl stops

end Stages

namespace UserLifecycleManager

variable {s : UserLifecycleManager} {pieces : List UserPiece} {userId : Int}

/-- The ends of the stops of one user, among those of all users. -/
theorem mem_ends_iff {context : UserStopping} :
    (userId, context) ∈ pieces.filterMap UserPiece.ends ↔
      (userId, context) ∈ (calls userId pieces).filterMap UserPiece.ends ++
        (rounds userId pieces).filterMap UserPiece.ends := by
  rw [← List.filterMap_append, List.mem_filterMap, List.mem_filterMap]
  constructor
  · rintro ⟨piece, member, ends⟩
    have own : piece.userOf = some userId := by
      cases piece <;> simp_all [UserPiece.ends, UserPiece.userOf]
    refine ⟨piece, ?_, ends⟩
    cases holds : piece.releases with
    | none =>
        apply List.mem_append_right
        simp [rounds, member, own, holds]
    | some holder =>
        have same : holder = userId := by
          rw [← UserPiece.target_of_releases holds, UserPiece.target_of_userOf own]
        apply List.mem_append_left
        simp [calls, member, holds, same]
  · rintro ⟨piece, member, ends⟩
    rcases List.mem_append.mp member with inCall | inRound
    · exact ⟨piece, List.mem_of_mem_filter inCall, ends⟩
    · exact ⟨piece, List.mem_of_mem_filter inRound, ends⟩

end UserLifecycleManager

namespace UserMachine

open Threads.Config

variable {x : UserMachine}

/-- The stops whose end is still to come: the task waits, or a piece of the end is in flight. -/
def pending (x : UserMachine) : List (Int × UserStopping) :=
  x.shared.stopTasks ++ x.inFlight.filterMap UserPiece.ends

theorem mem_pending_iff {userId : Int} {context : UserStopping} :
    (userId, context) ∈ x.pending ↔
      (userId, context) ∈ x.shared.tasks userId ++
        ((UserLifecycleManager.calls userId x.inFlight).filterMap UserPiece.ends ++
          (UserLifecycleManager.rounds userId x.inFlight).filterMap UserPiece.ends) := by
  rw [pending, List.mem_append, List.mem_append, UserLifecycleManager.mem_ends_iff]
  simp [UserLifecycleManager.tasks]

def Good (x : UserMachine) : Prop := x.shared.Good x.inFlight

theorem good_init (allSaProfiles : Bool) : (init allSaProfiles).Good := by
  refine ⟨?_, ?_, .inl rfl⟩
  · intro userId
    refine ⟨none, .absent .none, nofun, ?_, nofun⟩
    intro manager owned
    simp [init] at owned
  · exact ⟨nofun, nofun, nofun, nofun, nofun⟩

theorem Good.step (good : x.Good) (label : UserLabel) : (x.step label).Good := by
  apply step_keeps (P := userProgram) UserLifecycleManager.Good
  · intro s l l' same before
    exact before.perm same
  · intro call l before
    refine ⟨?_, before.bounded, before.foreground⟩
    intro userId
    obtain ⟨live, stands, accounted⟩ := before.users userId
    refine ⟨live, ?_, accounted⟩
    cases call with
    | onUserStateChanged user state => exact (UserLifecycleManager.at_cons_of_plain rfl rfl).mpr stands
    | timeoutTask user context => exact (UserLifecycleManager.at_cons_of_plain rfl rfl).mpr stands
    | lookup user => exact (UserLifecycleManager.at_cons_of_plain rfl rfl).mpr stands
  · intro input piece others next enabled opened before
    apply before.turn
    intro userId needs other member
    exact free_of_enabled enabled needs other (opened.mem_iff.mpr (List.mem_cons_of_mem piece member))
  · intro pieces shared l taken
    cases taken
  · intro action
    cases action
  · exact good

theorem good_run (allSaProfiles : Bool) (labels : List UserLabel) :
    (Runs.run step (init allSaProfiles) labels).Good := by
  apply Runs.run_invariant Good
  · intro y label good
    exact good.step label
  · exact good_init allSaProfiles

/-- A user that no change of its state is under way for. -/
theorem Good.lives (good : x.Good) {userId : Int} (outside : x.held userProgram userId = false) :
    ∃! life, x.shared.Lives userId life := by
  obtain ⟨live, stands, -⟩ := good.users userId
  have none : UserLifecycleManager.calls userId x.inFlight = [] := by
    apply List.filter_eq_nil_iff.mpr
    intro piece member releases
    have holds : userProgram.releases piece = some userId := beq_iff_eq.mp releases
    have held : x.held userProgram userId = true := held_iff.mpr ⟨piece, member, holds⟩
    rw [held] at outside
    cases outside
  rw [UserLifecycleManager.At, none] at stands
  rcases stands.settled with view | ⟨state, manager, running, view⟩ | ⟨context, view⟩
  · exact ⟨.absent, UserLifecycleManager.lives_absent view,
      fun other too => (UserLifecycleManager.lives_absent view).unique too⟩
  · exact ⟨.active, UserLifecycleManager.lives_active running view,
      fun other too => (UserLifecycleManager.lives_active running view).unique too⟩
  · exact ⟨.stopping, UserLifecycleManager.lives_stopping view,
      fun other too => (UserLifecycleManager.lives_stopping view).unique too⟩

theorem Good.foreground_active (good : x.Good) :
    x.shared.foregroundUserId = SAMGR_INVALID_USER_ID ∨
      x.shared.Lives x.shared.foregroundUserId .active := by
  rcases good.foreground with invalid | present
  · exact .inl invalid
  · obtain ⟨live, stands, -⟩ := good.users x.shared.foregroundUserId
    obtain ⟨state, manager, running, view⟩ := Stage.active_of_manager stands present
    exact .inr (UserLifecycleManager.lives_active running view)

/-- What is still to be ended is the stop that the user is in. -/
theorem Good.stopping_of_pending (good : x.Good) {userId : Int} {context : UserStopping}
    (due : (userId, context) ∈ x.pending) :
    x.shared.Lives userId .stopping ∧ x.shared.userStoppingContexts userId = some context := by
  obtain ⟨live, stands, -⟩ := good.users userId
  have view := Stage.stopping_of_due stands (mem_pending_iff.mp due)
  exact ⟨UserLifecycleManager.lives_stopping view, (UserLifecycleManager.view_eq_iff.mp view).2.2.2⟩

/-- A manager that was stopped has been destroyed once, or its end is to come. -/
theorem Good.destroyed_once (good : x.Good) {context : UserStopping} (stopped : context ∈ x.shared.contexts) :
    x.shared.destroyed.count context.manager = 1 ∨
      x.shared.destroyed.count context.manager = 0 ∧ ∃ userId, (userId, context) ∈ x.pending := by
  have known := (good.bounded.contexts context stopped).2
  obtain ⟨owner, owned⟩ : ∃ owner, x.shared.managers[context.manager]? = some owner :=
    ⟨_, List.getElem?_eq_getElem known⟩
  obtain ⟨live, stands, accounted⟩ := good.users owner
  have count := accounted.count context.manager owned
  by_cases own : live = some context.manager
  · right
    rw [if_pos own] at count
    subst own
    refine ⟨count, owner, ?_⟩
    obtain ⟨other, view, same, due⟩ := Stage.due_of_live stands fun unset =>
      accounted.unstopped unset context stopped rfl
    have entry := (UserLifecycleManager.view_eq_iff.mp view).2.2.2
    have stored := good.bounded.stored _ other entry
    rw [good.bounded.single context stopped other stored same.symm]
    exact mem_pending_iff.mpr due
  · left
    rwa [if_neg own] at count

/-- A call that finds its user stopping returns an error, and nothing else happens. -/
theorem step_of_stopping {n : Nat} {input : UserInput} {userId : Int} (stops : x.shared.Lives userId .stopping)
    (call : x.thread (some n) = [.handleUserActivating userId] ∨
      x.thread (some n) = [.handleUserSwitching userId]) :
    ∃ error, error ≠ .errOk ∧
      x.step (.run (some n) input) = { x with clients := x.clients.set n [.returned userId error] } := by
  obtain ⟨-, -, state, -⟩ := stops
  rcases call with activating | switching
  · refine ⟨ERR_INVALID_OPERATION, by decide, ?_⟩
    simp [step, Threads.Config.step, activating, enabled, userProgram, UserPiece.needs,
      UserLifecycleManager.exec, UserLifecycleManager.handleUserActivating, state, setThread]
  · refine ⟨.errInvalidValue, by decide, ?_⟩
    simp [step, Threads.Config.step, switching, enabled, userProgram, UserPiece.needs,
      UserLifecycleManager.exec, UserLifecycleManager.handleUserSwitching, state, setThread]

/-- The life cycle of the users, in every run of any calls and tasks. -/
theorem user_lifecycle_invariant (allSaProfiles : Bool) (labels : List UserLabel) :
    let x := Runs.run step (init allSaProfiles) labels
    (∀ userId, x.held userProgram userId = false → ∃! life, x.shared.Lives userId life) ∧
    (x.shared.foregroundUserId = SAMGR_INVALID_USER_ID ∨
      x.shared.Lives x.shared.foregroundUserId .active) ∧
    (∀ n input userId, x.shared.Lives userId .stopping →
      (x.thread (some n) = [.handleUserActivating userId] ∨
        x.thread (some n) = [.handleUserSwitching userId]) →
      ∃ error, error ≠ .errOk ∧
        x.step (.run (some n) input) = { x with clients := x.clients.set n [.returned userId error] }) ∧
    (∀ context ∈ x.shared.contexts,
      x.shared.destroyed.count context.manager = 1 ∨
        x.shared.destroyed.count context.manager = 0 ∧ ∃ userId, (userId, context) ∈ x.pending) ∧
    (∀ userId context, (userId, context) ∈ x.pending →
      x.shared.Lives userId .stopping ∧ x.shared.userStoppingContexts userId = some context) := by
  intro x
  have good : x.Good := good_run allSaProfiles labels
  refine ⟨?_, good.foreground_active, ?_, ?_, ?_⟩
  · intro userId outside
    exact good.lives outside
  · intro n input userId stops call
    exact step_of_stopping stops call
  · intro context stopped
    exact good.destroyed_once stopped
  · intro userId context due
    exact good.stopping_of_pending due

end UserMachine

end Samgr
