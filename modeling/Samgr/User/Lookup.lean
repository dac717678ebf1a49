import Samgr.User.Outcome

/-! A lookup of a user's manager asks twice: whether the user stops, and then the map that the
answer names. The manager goes from one map to the other in two sections of the stop, so both
questions can miss it. -/
namespace Samgr

namespace UserLifecycleManager

/-- What a run only adds to. -/
structure Grows (s s' : UserLifecycleManager) : Prop where
  managers : s.managers <+: s'.managers
  contexts : s.contexts <+: s'.contexts
  destroyed : s.destroyed <+: s'.destroyed

variable {s s' s'' : UserLifecycleManager}

theorem Grows.self : Grows s s := ⟨List.prefix_rfl, List.prefix_rfl, List.prefix_rfl⟩

theorem Grows.trans (first : Grows s s') (second : Grows s' s'') : Grows s s'' :=
  ⟨first.managers.trans second.managers, first.contexts.trans second.contexts,
    first.destroyed.trans second.destroyed⟩

theorem Grows.made {manager : Nat} {userId : Int} (grown : Grows s s')
    (made : s.managers[manager]? = some userId) : s'.managers[manager]? = some userId := by
  obtain ⟨rest, same⟩ := grown.managers
  rw [← same, List.getElem?_append_left (lt_of_owned made)]
  exact made

theorem Grows.exec (input : UserInput) (piece : UserPiece) : Grows s (s.exec input piece).1 := by
  cases piece with
  | initManager userId =>
      simp only [UserLifecycleManager.exec, initManager]
      split
      · exact Grows.self
      · split <;> constructor <;> simp
  | insertManager userId manager =>
      simp only [UserLifecycleManager.exec, insertManager]
      split <;> constructor <;> simp
  | handleUserSwitching userId =>
      simp only [UserLifecycleManager.exec, handleUserSwitching]
      split
      · exact Grows.self
      · split
        · exact Grows.self
        · split <;> constructor <;> simp
  | handleUserStopping userId =>
      simp only [UserLifecycleManager.exec, handleUserStopping]
      split
      · exact Grows.self
      · split <;> constructor <;> simp
  | startUserStopping userId manager processNames =>
      simp only [UserLifecycleManager.exec, startUserStopping]
      constructor <;> simp
  | postUserStopTimeoutTask userId context =>
      simp only [UserLifecycleManager.exec, postUserStopTimeoutTask]
      split <;> constructor <;> simp
  | completeUserStopping inCall userId context =>
      simp only [UserLifecycleManager.exec]
      split <;> constructor <;> simp
  | destroy inCall userId context =>
      simp only [UserLifecycleManager.exec]
      constructor <;> simp
  | eraseStoppingContext inCall userId context =>
      simp only [UserLifecycleManager.exec, eraseStoppingContext]
      split <;> constructor <;> simp
  | timeoutTask userId context =>
      simp only [UserLifecycleManager.exec]
      split <;> constructor <;> simp
  | _ => exact Grows.self

end UserLifecycleManager

namespace UserMachine

open Threads.Config UserLifecycleManager

variable {x y : UserMachine} {userId : Int} {manager : Nat}

theorem grows_step (x : UserMachine) (label : UserLabel) : Grows x.shared (x.step label).shared := by
  apply step_keeps (P := userProgram) (fun s _ => Grows x.shared s)
  · intro _ _ _ _ grown
    exact grown
  · intro _ _ grown
    exact grown
  · intro input piece others _ _ _ grown
    exact grown.trans (Grows.exec input piece)
  · intro pieces shared l taken
    cases taken
  · intro action
    cases action
  · exact Grows.self

theorem grows_run (x : UserMachine) (labels : List UserLabel) :
    Grows x.shared (Runs.run step x labels).shared := by
  induction labels generalizing x with
  | nil => exact Grows.self
  | cons label labels hypothesis => exact (grows_step x label).trans (hypothesis (x.step label))

/-- The manager was made for the user and has been entered, and it is not destroyed. -/
structure Usable (x : UserMachine) (userId : Int) (manager : Nat) : Prop where
  made : x.shared.managers[manager]? = some userId
  entered : .insertManager userId manager ∉ x.inFlight
  alive : manager ∉ x.shared.destroyed

/-- A manager that is not destroyed is the one in use. -/
theorem Good.live_of_alive (good : x.Good) (made : x.shared.managers[manager]? = some userId)
    (alive : manager ∉ x.shared.destroyed) :
    x.shared.At x.inFlight userId (some manager) ∧ x.shared.Accounted userId (some manager) := by
  obtain ⟨live, stands, accounted⟩ := good.users userId
  have count := accounted.count manager made
  rw [List.count_eq_zero.mpr alive] at count
  have own : live = some manager := by
    by_contra other
    rw [if_neg other] at count
    cases count
  exact own ▸ ⟨stands, accounted⟩

/-- The context of a user belongs to its manager as long as this is not destroyed. -/
theorem Good.manager_of_context (good : x.Good) (made : x.shared.managers[manager]? = some userId)
    (alive : manager ∉ x.shared.destroyed) (stops : x.shared.userStoppingContexts userId ≠ none) :
    ∃ context, x.shared.userStoppingContexts userId = some context ∧ context.manager = manager := by
  obtain ⟨stands, -⟩ := good.live_of_alive made alive
  obtain ⟨context, view, own, -⟩ := Stage.due_of_live stands stops
  exact ⟨context, (view_eq_iff.mp view).2.2.2, own⟩

/-- A stop that has been given a context keeps it until the manager is destroyed. -/
theorem Good.context_kept (good : x.Good) (later : y.Good) (grown : Grows x.shared y.shared)
    (made : x.shared.managers[manager]? = some userId) (alive : manager ∉ y.shared.destroyed)
    (stops : x.shared.userStoppingContexts userId ≠ none) :
    y.shared.userStoppingContexts userId ≠ none := by
  have aliveBefore : manager ∉ x.shared.destroyed := fun listed => alive (grown.destroyed.subset listed)
  obtain ⟨context, entry, own⟩ := good.manager_of_context made aliveBefore stops
  have madeLater := grown.made made
  obtain ⟨-, accounted⟩ := later.live_of_alive madeLater alive
  intro gone
  have listed := grown.contexts.subset (good.bounded.stored userId context entry)
  exact accounted.unstopped gone context listed (congrArg some own.symm)

/-- A thread that stands before one piece goes on with what follows from it. -/
theorem thread_after {n : Nat} {input : UserInput} {piece : UserPiece}
    (stands : x.thread (some n) = [piece]) (free : piece.needs = none) :
    (x.step (.run (some n) input)).thread (some n) = (x.shared.exec input piece).2 := by
  have inside : n < x.clients.length := by
    by_contra outside
    simp [thread, List.getElem?_eq_none (Nat.le_of_not_lt outside)] at stands
  have runs : x.enabled userProgram piece = true := by simp [enabled, userProgram, free]
  have done : x.step (.run (some n) input) =
      { x.setThread (some n) ((x.shared.exec input piece).2 ++ []) with
        shared := (x.shared.exec input piece).1 } := by
    simp only [step, Threads.Config.step, stands, runs, if_true]
    rfl
  rw [done]
  simp [setThread, thread, inside]

/-- A lookup by thread `n` asks its first question in `x`, and has not moved on in `y`; the manager
can be used from the one to the other. -/
structure Asked (x y : UserMachine) (n : Nat) (input : UserInput) (userId : Int) (manager : Nat) : Prop where
  first : x.thread (some n) = [.isUserStopping userId]
  usable : x.Usable userId manager
  second : y.thread (some n) = (x.step (.run (some n) input)).thread (some n)
  alive : manager ∉ y.shared.destroyed

/-- A lookup finds the manager exactly when the user's stop had its context at the first question,
or the manager is still entered at the second. -/
theorem lookup_finds_iff (allSaProfiles : Bool) (before during : List UserLabel) (n : Nat)
    (input : UserInput) (userId : Int) (manager : Nat) :
    let x := Runs.run step (init allSaProfiles) before
    let y := Runs.run step (x.step (.run (some n) input)) during
    x.Asked y n input userId manager →
      ((y.step (.run (some n) input)).thread (some n) = [.found userId (some manager)] ↔
        (x.shared.userStoppingContexts userId).isSome ∨
          y.shared.multiUserManagers userId = some manager) := by
  intro x y asked
  have good : x.Good := good_run allSaProfiles before
  have later : y.Good := by
    have whole := good_run allSaProfiles (before ++ .run (some n) input :: during)
    rwa [Runs.run_append, Runs.run_cons] at whole
  have grown : Grows x.shared y.shared :=
    (grows_step x (.run (some n) input)).trans (grows_run (x.step (.run (some n) input)) during)
  have second := asked.second
  rw [thread_after asked.first rfl] at second
  cases stops : x.shared.userStoppingContexts userId with
  | some context =>
      simp only [exec, stops, Option.isSome_some, if_true] at second
      have kept := good.context_kept later grown asked.usable.made asked.alive (by rw [stops]; exact Option.some_ne_none _)
      obtain ⟨other, entry, own⟩ :=
        later.manager_of_context (grown.made asked.usable.made) asked.alive kept
      rw [thread_after second rfl]
      simp [exec, entry, own]
  | none =>
      simp only [exec, stops, Option.isSome_none, Bool.false_eq_true, if_false] at second
      rw [thread_after second rfl]
      simp [exec]

/-- User 100 is activated, by the first thread, and looked up by the second. -/
def lookupOfActive : List UserLabel :=
  [.call (.onUserStateChanged 100 (some .activating)), .run (some 0) {}, .run (some 0) {},
    .run (some 0) {}, .run (some 0) {}, .call (.lookup 100)]

theorem active_user_is_found :
    (((Runs.run step (init true) lookupOfActive).step (.run (some 1) {})).step
      (.run (some 1) {})).thread (some 1) = [.found 100 (some 0)] := by
  apply (lookup_finds_iff true lookupOfActive [] 1 {} 100 0 _).mpr
  · exact .inr rfl
  · exact ⟨rfl, ⟨rfl, by decide, by decide⟩, rfl, by decide⟩

/-- The user is stopped by the second thread, up to the section that takes its manager out of the
map, and looked up by the third. -/
def lookupOfLeaving : List UserLabel :=
  [.call (.onUserStateChanged 100 (some .activating)), .run (some 0) {}, .run (some 0) {},
    .run (some 0) {}, .run (some 0) {}, .run (some 0) {},
    .call (.onUserStateChanged 100 (some .stopping)), .run (some 1) {}, .run (some 1) {},
    .call (.lookup 100)]

theorem leaving_user_is_missed :
    let x := Runs.run step (init true) lookupOfLeaving
    let y := x.step (.run (some 2) {})
    x.Asked y 2 {} 100 0 ∧
      (y.step (.run (some 2) {})).thread (some 2) ≠ [.found 100 (some 0)] :=
  ⟨⟨rfl, ⟨rfl, by decide, by decide⟩, rfl, by decide⟩, by decide⟩

end UserMachine

end Samgr
