import Samgr.User.Lifecycle

/-! Where a user stands. The lock of the user and the one task of a stop leave few combinations of
its entries with the pieces that are in flight for it; each of them is a stage, and a piece takes
its user from one stage to another and leaves the other users where they are. -/
namespace Samgr

/-- The entries of one user. -/
structure UserView where
  state : Option SamgrUserState
  manager : Option Nat
  valid : Bool
  context : Option UserStopping

namespace UserPiece

/-- The user of a piece that has a part in the life cycle. -/
def userOf : UserPiece → Option Int
  | .handleUserActivating userId | .initManager userId | .insertManager userId _
  | .handleUserSwitching userId | .handleUserStopping userId | .getSystemProcessNames userId _
  | .startUserStopping userId _ _ | .postUserStopTimeoutTask userId _
  | .completeUserStopping _ userId _ | .destroy _ userId _ | .eraseStoppingContext _ userId _
  | .returned userId _ => some userId
  | _ => none

/-- The user of any piece. -/
def target : UserPiece → Int
  | .onUserStateChanged userId _ | .handleUserActivating userId | .initManager userId
  | .insertManager userId _ | .handleUserSwitching userId | .handleUserStopping userId
  | .getSystemProcessNames userId _ | .startUserStopping userId _ _ | .postUserStopTimeoutTask userId _
  | .completeUserStopping _ userId _ | .destroy _ userId _ | .eraseStoppingContext _ userId _
  | .returned userId _ | .timeoutTask userId _ | .isUserStopping userId
  | .getStoppingMultiUserManager userId | .getMultiUserManager userId | .found userId _ => userId

theorem target_of_releases {piece : UserPiece} {userId : Int} (releases : piece.releases = some userId) :
    piece.target = userId := by
  unfold UserPiece.releases at releases
  grind [target]

theorem target_of_userOf {piece : UserPiece} {userId : Int} (own : piece.userOf = some userId) :
    piece.target = userId := by
  cases piece <;> grind [userOf, target]

/-- The pieces of a call that find any entries. -/
def quiet : UserPiece → Bool
  | .handleUserActivating _ | .handleUserSwitching _ | .handleUserStopping _ | .returned _ _ => true
  | _ => false

end UserPiece

namespace UserLifecycleManager

def view (s : UserLifecycleManager) (userId : Int) : UserView :=
  { state := s.userStateMap userId
    manager := s.multiUserManagers userId
    valid := s.validUserIds userId
    context := s.userStoppingContexts userId }

/-- The pieces that hold the lock of the user. -/
def calls (userId : Int) (pieces : List UserPiece) : List UserPiece :=
  pieces.filter fun piece => piece.releases == some userId

/-- The pieces of a stop of the user that a task runs. -/
def rounds (userId : Int) (pieces : List UserPiece) : List UserPiece :=
  pieces.filter fun piece => piece.userOf == some userId && piece.releases == none

def tasks (s : UserLifecycleManager) (userId : Int) : List (Int × UserStopping) :=
  s.stopTasks.filter fun task => task.1 == userId

end UserLifecycleManager

def UserView.absent : UserView := ⟨none, none, false, none⟩
def UserView.active (state : SamgrUserState) (manager : Nat) : UserView := ⟨some state, some manager, true, none⟩
def UserView.leaving : UserView := ⟨some .stopping, none, false, none⟩
def UserView.stopping (context : UserStopping) : UserView := ⟨some .stopping, none, false, some context⟩

/-- No call of the user is in flight, or one that may find any entries. -/
inductive Idle : List UserPiece → Prop
  | none : Idle []
  | one (piece : UserPiece) (quiet : piece.quiet = true) : Idle [piece]

/-- The stages of a user: its entries, the pieces of its call, those of its task, the waiting task,
and the manager that is in use. `fresh` says of a context that its flag is not set. -/
inductive Stage (userId : Int) (fresh : UserStopping → Prop) :
    UserView → List UserPiece → List UserPiece → List (Int × UserStopping) → Option Nat → Prop
  | absent {calls} (idle : Idle calls) : Stage userId fresh .absent calls [] [] none
  | creating : Stage userId fresh .absent [.initManager userId] [] [] none
  | inserting (manager : Nat) :
      Stage userId fresh .absent [.insertManager userId manager] [] [] (some manager)
  | active {calls} (state : SamgrUserState) (manager : Nat) (running : state ≠ .stopping) (idle : Idle calls) :
      Stage userId fresh (.active state manager) calls [] [] (some manager)
  | listing (manager : Nat) :
      Stage userId fresh .leaving [.getSystemProcessNames userId manager] [] [] (some manager)
  | starting (manager : Nat) (processNames : List String) :
      Stage userId fresh .leaving [.startUserStopping userId manager processNames] [] [] (some manager)
  | posting (context : UserStopping) (unset : fresh context) :
      Stage userId fresh (.stopping context) [.postUserStopTimeoutTask userId context] [] []
        (some context.manager)
  | completingInCall (context : UserStopping) (unset : fresh context) :
      Stage userId fresh (.stopping context) [.completeUserStopping true userId context] [] []
        (some context.manager)
  | destroyingInCall (context : UserStopping) :
      Stage userId fresh (.stopping context) [.destroy true userId context] [] [] (some context.manager)
  | erasingInCall (context : UserStopping) :
      Stage userId fresh (.stopping context) [.eraseStoppingContext true userId context] [] [] none
  | waiting {calls} (context : UserStopping) (unset : fresh context) (idle : Idle calls) :
      Stage userId fresh (.stopping context) calls [] [(userId, context)] (some context.manager)
  | completing {calls} (context : UserStopping) (unset : fresh context) (idle : Idle calls) :
      Stage userId fresh (.stopping context) calls [.completeUserStopping false userId context] []
        (some context.manager)
  | destroying {calls} (context : UserStopping) (idle : Idle calls) :
      Stage userId fresh (.stopping context) calls [.destroy false userId context] []
        (some context.manager)
  | erasing {calls} (context : UserStopping) (idle : Idle calls) :
      Stage userId fresh (.stopping context) calls [.eraseStoppingContext false userId context] [] none

namespace UserLifecycleManager

/-- The managers of a user: the one in use is not destroyed, and each other one is, once. A manager
that has been given a context is in use only while the user has that context. -/
structure Accounted (s : UserLifecycleManager) (userId : Int) (live : Option Nat) : Prop where
  own : ∀ manager, live = some manager → s.managers[manager]? = some userId
  count : ∀ manager, s.managers[manager]? = some userId →
    s.destroyed.count manager = if live = some manager then 0 else 1
  unstopped : s.userStoppingContexts userId = none → ∀ context ∈ s.contexts, live ≠ some context.manager

/-- The numbers in use are those that have been given out. -/
structure Bounded (s : UserLifecycleManager) : Prop where
  destroyed : ∀ manager ∈ s.destroyed, manager < s.managers.length
  contexts : ∀ context ∈ s.contexts, context.id < s.contexts.length ∧ context.manager < s.managers.length
  single : ∀ context ∈ s.contexts, ∀ other ∈ s.contexts, context.manager = other.manager → context = other
  finalizing : ∀ context ∈ s.finalizing, context ∈ s.contexts
  stored : ∀ userId context, s.userStoppingContexts userId = some context → context ∈ s.contexts

/-- The foreground user has a manager. -/
def Foreground (s : UserLifecycleManager) : Prop :=
  s.foregroundUserId = SAMGR_INVALID_USER_ID ∨ (s.multiUserManagers s.foregroundUserId).isSome

def At (s : UserLifecycleManager) (pieces : List UserPiece) (userId : Int) (live : Option Nat) : Prop :=
  Stage userId (fun context => context ∉ s.finalizing) (s.view userId) (calls userId pieces)
    (rounds userId pieces) (s.tasks userId) live

structure Good (s : UserLifecycleManager) (pieces : List UserPiece) : Prop where
  users : ∀ userId, ∃ live, s.At pieces userId live ∧ s.Accounted userId live
  bounded : s.Bounded
  foreground : s.Foreground

end UserLifecycleManager

section Inversion

variable {userId : Int} {fresh : UserStopping → Prop} {view : UserView} {calls rounds : List UserPiece}
  {tasks : List (Int × UserStopping)} {live : Option Nat}

/-- A stage depends only on the flag of the context of the manager in use. -/
theorem Stage.mono {other : UserStopping → Prop} (stage : Stage userId fresh view calls rounds tasks live)
    (kept : ∀ context, live = some context.manager → fresh context → other context) :
    Stage userId other view calls rounds tasks live := by
  cases stage with
  | absent idle => exact .absent idle
  | creating => exact .creating
  | inserting manager => exact .inserting manager
  | active state manager running idle => exact .active state manager running idle
  | listing manager => exact .listing manager
  | starting manager processNames => exact .starting manager processNames
  | posting context unset => exact .posting context (kept context rfl unset)
  | completingInCall context unset => exact .completingInCall context (kept context rfl unset)
  | destroyingInCall context => exact .destroyingInCall context
  | erasingInCall context => exact .erasingInCall context
  | waiting context unset idle => exact .waiting context (kept context rfl unset) idle
  | completing context unset idle => exact .completing context (kept context rfl unset) idle
  | destroying context idle => exact .destroying context idle
  | erasing context idle => exact .erasing context idle

/-- At most one piece holds the lock of a user, so their order does not matter; nor does that of
the pieces of its task. -/
theorem Stage.perm {calls' rounds' : List UserPiece} (stage : Stage userId fresh view calls rounds tasks live)
    (sameCalls : calls.Perm calls') (sameRounds : rounds.Perm rounds') :
    Stage userId fresh view calls' rounds' tasks live := by
  have short : ∀ {front back : List UserPiece}, front.length ≤ 1 → front.Perm back → back = front := by
    intro front back bound same
    match front, bound with
    | [], _ => exact same.symm.eq_nil
    | [piece], _ => exact List.perm_singleton.mp same.symm
  have fewCalls : calls.length ≤ 1 := by grind [cases Stage, cases Idle]
  have fewRounds : rounds.length ≤ 1 := by grind [cases Stage]
  rw [short fewCalls sameCalls, short fewRounds sameRounds]
  exact stage

theorem Stage.of_initManager (stage : Stage userId fresh view (.initManager userId :: calls) rounds tasks live) :
    view = .absent ∧ calls = [] ∧ rounds = [] ∧ tasks = [] ∧ live = none := by
  grind [cases Stage, cases Idle, UserPiece.quiet]

theorem Stage.of_insertManager {manager : Nat}
    (stage : Stage userId fresh view (.insertManager userId manager :: calls) rounds tasks live) :
    view = .absent ∧ calls = [] ∧ rounds = [] ∧ tasks = [] ∧ live = some manager := by
  grind [cases Stage, cases Idle, UserPiece.quiet]

theorem Stage.of_getSystemProcessNames {manager : Nat}
    (stage : Stage userId fresh view (.getSystemProcessNames userId manager :: calls) rounds tasks live) :
    view = .leaving ∧ calls = [] ∧ rounds = [] ∧ tasks = [] ∧ live = some manager := by
  grind [cases Stage, cases Idle, UserPiece.quiet]

theorem Stage.of_startUserStopping {manager : Nat} {processNames : List String}
    (stage : Stage userId fresh view (.startUserStopping userId manager processNames :: calls) rounds tasks
      live) :
    view = .leaving ∧ calls = [] ∧ rounds = [] ∧ tasks = [] ∧ live = some manager := by
  grind [cases Stage, cases Idle, UserPiece.quiet]

theorem Stage.of_postUserStopTimeoutTask {context : UserStopping}
    (stage : Stage userId fresh view (.postUserStopTimeoutTask userId context :: calls) rounds tasks live) :
    view = .stopping context ∧ calls = [] ∧ rounds = [] ∧ tasks = [] ∧ live = some context.manager ∧
      fresh context := by
  grind [cases Stage, cases Idle, UserPiece.quiet]

/-- A call that may find any entries can be replaced by another one. -/
theorem Stage.of_quiet {piece : UserPiece} (quiet : piece.quiet = true)
    (stage : Stage userId fresh view (piece :: calls) rounds tasks live) :
    calls = [] ∧ ∀ others, Idle others → Stage userId fresh view others rounds tasks live := by
  have single : ∀ {front rest}, Idle (front :: rest) → rest = [] := by
    intro front rest idle
    cases idle
    rfl
  cases stage with
  | absent idle => exact ⟨single idle, fun _ other => .absent other⟩
  | active state manager running idle =>
      exact ⟨single idle, fun _ other => .active state manager running other⟩
  | waiting context unset idle => exact ⟨single idle, fun _ other => .waiting context unset other⟩
  | completing context unset idle => exact ⟨single idle, fun _ other => .completing context unset other⟩
  | destroying context idle => exact ⟨single idle, fun _ other => .destroying context other⟩
  | erasing context idle => exact ⟨single idle, fun _ other => .erasing context other⟩
  | _ => cases quiet

/-- A user that has no manager and does not stop is absent. -/
theorem Stage.absent_of_missing {piece : UserPiece} (quiet : piece.quiet = true)
    (stage : Stage userId fresh view (piece :: calls) rounds tasks live)
    (running : view.state ≠ some .stopping) (missing : view.manager = none) :
    view = .absent ∧ calls = [] ∧ rounds = [] ∧ tasks = [] ∧ live = none := by
  obtain ⟨single, -⟩ := stage.of_quiet quiet
  cases stage with
  | absent idle => exact ⟨rfl, single, rfl, rfl, rfl⟩
  | active state manager running idle => cases missing
  | creating => cases quiet
  | inserting manager => cases quiet
  | _ => exact absurd rfl running

/-- A user with neither a manager nor a context is absent when its call begins. -/
theorem Stage.absent_of_nothing {piece : UserPiece} (quiet : piece.quiet = true)
    (stage : Stage userId fresh view (piece :: calls) rounds tasks live)
    (missing : view.manager = none) (unstopped : view.context = none) :
    view = .absent ∧ calls = [] ∧ rounds = [] ∧ tasks = [] ∧ live = none := by
  apply stage.absent_of_missing quiet _ missing
  cases stage with
  | absent idle => nofun
  | creating => cases quiet
  | inserting manager => cases quiet
  | active state manager running idle => cases missing
  | listing manager => cases quiet
  | starting manager processNames => cases quiet
  | _ => cases unstopped

/-- A user with a manager is active. -/
theorem Stage.active_of_entry {piece : UserPiece} {manager : Nat} (quiet : piece.quiet = true)
    (stage : Stage userId fresh view (piece :: calls) rounds tasks live)
    (entry : view.manager = some manager) :
    (∃ state, state ≠ .stopping ∧ view = .active state manager) ∧ calls = [] ∧ rounds = [] ∧ tasks = [] ∧
      live = some manager := by
  obtain ⟨single, -⟩ := stage.of_quiet quiet
  cases stage with
  | active state own running idle =>
      obtain rfl : own = manager := by simpa [UserView.active] using entry
      exact ⟨⟨state, running, rfl⟩, single, rfl, rfl, rfl⟩
  | _ => cases entry

/-- A call can begin when none is in flight. -/
theorem Stage.begin {piece : UserPiece} (quiet : piece.quiet = true)
    (stage : Stage userId fresh view [] rounds tasks live) :
    Stage userId fresh view [piece] rounds tasks live := by
  cases stage with
  | absent idle => exact .absent (.one piece quiet)
  | active state manager running idle => exact .active state manager running (.one piece quiet)
  | waiting context unset idle => exact .waiting context unset (.one piece quiet)
  | completing context unset idle => exact .completing context unset (.one piece quiet)
  | destroying context idle => exact .destroying context (.one piece quiet)
  | erasing context idle => exact .erasing context (.one piece quiet)

theorem Stage.of_completeInCall {context : UserStopping}
    (stage : Stage userId fresh view (.completeUserStopping true userId context :: calls) rounds tasks live) :
    view = .stopping context ∧ calls = [] ∧ rounds = [] ∧ tasks = [] ∧ live = some context.manager ∧
      fresh context := by
  grind [cases Stage, cases Idle, UserPiece.quiet]

theorem Stage.of_complete {context : UserStopping}
    (stage : Stage userId fresh view calls (.completeUserStopping false userId context :: rounds) tasks live) :
    view = .stopping context ∧ Idle calls ∧ rounds = [] ∧ tasks = [] ∧ live = some context.manager ∧
      fresh context := by
  grind [cases Stage]

theorem Stage.of_destroyInCall {context : UserStopping}
    (stage : Stage userId fresh view (.destroy true userId context :: calls) rounds tasks live) :
    view = .stopping context ∧ calls = [] ∧ rounds = [] ∧ tasks = [] ∧ live = some context.manager := by
  grind [cases Stage, cases Idle, UserPiece.quiet]

theorem Stage.of_destroy {context : UserStopping}
    (stage : Stage userId fresh view calls (.destroy false userId context :: rounds) tasks live) :
    view = .stopping context ∧ Idle calls ∧ rounds = [] ∧ tasks = [] ∧ live = some context.manager := by
  grind [cases Stage]

theorem Stage.of_eraseInCall {context : UserStopping}
    (stage : Stage userId fresh view (.eraseStoppingContext true userId context :: calls) rounds tasks live) :
    view = .stopping context ∧ calls = [] ∧ rounds = [] ∧ tasks = [] ∧ live = none := by
  grind [cases Stage, cases Idle, UserPiece.quiet]

theorem Stage.of_erase {context : UserStopping}
    (stage : Stage userId fresh view calls (.eraseStoppingContext false userId context :: rounds) tasks live) :
    view = .stopping context ∧ Idle calls ∧ rounds = [] ∧ tasks = [] ∧ live = none := by
  grind [cases Stage]

theorem Stage.of_task {context : UserStopping}
    (stage : Stage userId fresh view calls rounds tasks live) (waits : (userId, context) ∈ tasks) :
    view = .stopping context ∧ Idle calls ∧ rounds = [] ∧ tasks = [(userId, context)] ∧
      live = some context.manager ∧ fresh context := by
  cases stage with
  | waiting other unset idle =>
      obtain rfl : context = other := by simpa using waits
      exact ⟨rfl, idle, rfl, rfl, rfl, unset⟩
  | _ => cases waits

end Inversion

namespace UserLifecycleManager

variable {s s' : UserLifecycleManager} {pieces pieces' others : List UserPiece} {userId : Int}
  {live : Option Nat}

theorem calls_append (userId : Int) (left right : List UserPiece) :
    calls userId (left ++ right) = calls userId left ++ calls userId right := List.filter_append left right

theorem rounds_append (userId : Int) (left right : List UserPiece) :
    rounds userId (left ++ right) = rounds userId left ++ rounds userId right :=
  List.filter_append left right

/-- What a piece of another user leaves as it is. -/
structure SameFor (userId : Int) (s s' : UserLifecycleManager) : Prop where
  view : s'.view userId = s.view userId
  tasks : s'.tasks userId = s.tasks userId
  managers : ∀ manager : Nat, s'.managers[manager]? = some userId ↔ s.managers[manager]? = some userId
  destroyed : ∀ manager : Nat, s.managers[manager]? = some userId →
    s'.destroyed.count manager = s.destroyed.count manager
  finalizing : ∀ context, s.managers[context.manager]? = some userId →
    context ∉ s.finalizing → context ∉ s'.finalizing
  contexts : ∀ context ∈ s'.contexts, s.managers[context.manager]? = some userId → context ∈ s.contexts

theorem Accounted.of_same (accounted : s.Accounted userId live) (same : SameFor userId s s') :
    s'.Accounted userId live := by
  refine ⟨fun manager own => (same.managers manager).mpr (accounted.own manager own), ?_, ?_⟩
  · intro manager known
    have before := (same.managers manager).mp known
    rw [same.destroyed manager before]
    exact accounted.count manager before
  · intro unset context listed own
    have before : s.userStoppingContexts userId = none := by
      rw [← unset]
      exact (congrArg UserView.context same.view).symm
    exact accounted.unstopped before context (same.contexts context listed (accounted.own _ own)) own

theorem At.of_same (stands : s.At pieces userId live) (accounted : s.Accounted userId live)
    (same : SameFor userId s s') (sameCalls : calls userId pieces' = calls userId pieces)
    (sameRounds : rounds userId pieces' = rounds userId pieces) : s'.At pieces' userId live := by
  rw [At, same.view, same.tasks, sameCalls, sameRounds]
  apply Stage.mono stands
  intro context own unset
  exact same.finalizing context (accounted.own _ own) unset

/-- One user moves on, and the others stay. -/
theorem Good.update (good : s.Good pieces)
    (own : ∃ live, s'.At pieces' userId live ∧ s'.Accounted userId live)
    (elsewhere : ∀ other, other ≠ userId → SameFor other s s')
    (sameCalls : ∀ other, other ≠ userId → calls other pieces' = calls other pieces)
    (sameRounds : ∀ other, other ≠ userId → rounds other pieces' = rounds other pieces)
    (bounded : s'.Bounded) (foreground : s'.Foreground) : s'.Good pieces' := by
  refine ⟨?_, bounded, foreground⟩
  intro other
  by_cases same : other = userId
  · rw [same]
    exact own
  · obtain ⟨live, stands, accounted⟩ := good.users other
    have kept := elsewhere other same
    exact ⟨live, stands.of_same accounted kept (sameCalls other same) (sameRounds other same),
      accounted.of_same kept⟩

theorem calls_of_target {other : Int} (own : ∀ piece ∈ pieces, piece.target = userId)
    (different : other ≠ userId) : calls other pieces = [] := by
  apply List.filter_eq_nil_iff.mpr
  intro piece member releases
  exact different ((UserPiece.target_of_releases (by simpa using releases)).symm.trans (own piece member))

theorem rounds_of_target {other : Int} (own : ∀ piece ∈ pieces, piece.target = userId)
    (different : other ≠ userId) : rounds other pieces = [] := by
  apply List.filter_eq_nil_iff.mpr
  intro piece member runs
  simp only [Bool.and_eq_true, beq_iff_eq] at runs
  exact different ((UserPiece.target_of_userOf runs.1).symm.trans (own piece member))

/-- A piece is followed by pieces of the same user. -/
theorem exec_target {input : UserInput} {piece new : UserPiece} (member : new ∈ (s.exec input piece).2) :
    new.target = piece.target := by
  cases piece with
  | onUserStateChanged userId userState =>
      simp only [exec] at member
      split at member <;> simp at member <;> subst member <;> rfl
  | handleUserActivating userId =>
      simp only [exec, handleUserActivating] at member
      grind [UserPiece.target]
  | initManager userId =>
      simp only [exec, initManager] at member
      grind [UserPiece.target]
  | handleUserStopping userId =>
      simp only [exec, handleUserStopping] at member
      grind [UserPiece.target]
  | postUserStopTimeoutTask userId context =>
      simp only [exec, postUserStopTimeoutTask] at member
      grind [UserPiece.target]
  | _ =>
      simp only [exec, UserPiece.afterStop] at member
      grind [UserPiece.target]

/-- A piece moves its own user. -/
theorem Good.advance {input : UserInput} {piece : UserPiece} {new : List UserPiece}
    (good : s.Good (piece :: others)) (userId : Int) (target : piece.target = userId)
    (done : s.exec input piece = (s', new))
    (own : ∃ live, s'.At (new ++ others) userId live ∧ s'.Accounted userId live)
    (elsewhere : ∀ other, other ≠ userId → SameFor other s s')
    (bounded : s'.Bounded) (foreground : s'.Foreground) :
    (s.exec input piece).1.Good ((s.exec input piece).2 ++ others) := by
  have alone : ∀ one ∈ [piece], one.target = userId := by
    intro one member
    rw [List.mem_singleton.mp member, target]
  have made : ∀ next ∈ new, next.target = userId := by
    intro next member
    have follows : next ∈ (s.exec input piece).2 := by rwa [done]
    rw [exec_target follows, target]
  rw [done]
  refine good.update own elsewhere ?_ ?_ bounded foreground
  · intro other different
    rw [calls_append, calls_of_target made different, ← List.singleton_append, calls_append,
      calls_of_target alone different]
  · intro other different
    rw [rounds_append, rounds_of_target made different, ← List.singleton_append, rounds_append,
      rounds_of_target alone different]

theorem SameFor.self : SameFor userId s s :=
  ⟨Eq.refl _, Eq.refl _, fun _ => Iff.rfl, fun _ _ => Eq.refl _, fun _ _ unset => unset,
    fun _ listed _ => listed⟩

/-- A piece that only goes on. -/
theorem Good.go {input : UserInput} {piece : UserPiece} {new : List UserPiece}
    (good : s.Good (piece :: others)) (userId : Int) (target : piece.target = userId)
    (same : s.exec input piece = (s, new))
    (own : ∀ live, s.At (piece :: others) userId live → s.At (new ++ others) userId live) :
    (s.exec input piece).1.Good ((s.exec input piece).2 ++ others) := by
  obtain ⟨live, stands, accounted⟩ := good.users userId
  refine good.advance userId target same ⟨live, own live stands, accounted⟩ ?_ good.bounded good.foreground
  intro other _
  exact SameFor.self

variable {piece : UserPiece}

/-- A piece that holds the lock of the user stands first in its call. -/
theorem at_cons_of_holds (holds : piece.releases = some userId) :
    s.At (piece :: others) userId live ↔
      Stage userId (fun context => context ∉ s.finalizing) (s.view userId) (piece :: calls userId others)
        (rounds userId others) (s.tasks userId) live := by
  have front : calls userId (piece :: others) = piece :: calls userId others := by
    simp [calls, holds]
  have back : rounds userId (piece :: others) = rounds userId others := by
    simp [rounds, holds]
  rw [At, front, back]

/-- The same for a piece of the user's task. -/
theorem at_cons_of_round (own : piece.userOf = some userId) (free : piece.releases = none) :
    s.At (piece :: others) userId live ↔
      Stage userId (fun context => context ∉ s.finalizing) (s.view userId) (calls userId others)
        (piece :: rounds userId others) (s.tasks userId) live := by
  have front : calls userId (piece :: others) = calls userId others := by
    simp [calls, free]
  have back : rounds userId (piece :: others) = piece :: rounds userId others := by
    simp [rounds, own, free]
  rw [At, front, back]

/-- A piece that has no part in the life cycle. -/
theorem at_cons_of_plain (plain : piece.userOf = none) (free : piece.releases = none) :
    s.At (piece :: others) userId live ↔ s.At others userId live := by
  have front : calls userId (piece :: others) = calls userId others := by
    simp [calls, free]
  have back : rounds userId (piece :: others) = rounds userId others := by
    simp [rounds, plain]
  rw [At, front, back, At]

/-- A quiet call returns, or is replaced by a quiet one. -/
theorem At.replace {new : UserPiece} (stands : s.At (piece :: others) userId live)
    (quiet : piece.quiet = true) (holds : piece.releases = some userId) (quietNew : new.quiet = true)
    (holdsNew : new.releases = some userId) : s.At (new :: others) userId live := by
  rw [at_cons_of_holds holds] at stands
  obtain ⟨single, replaced⟩ := stands.of_quiet quiet
  rw [at_cons_of_holds holdsNew, single]
  exact replaced _ (.one new quietNew)

theorem At.leave (stands : s.At (piece :: others) userId live) (quiet : piece.quiet = true)
    (holds : piece.releases = some userId) : s.At others userId live := by
  rw [at_cons_of_holds holds] at stands
  obtain ⟨single, replaced⟩ := stands.of_quiet quiet
  rw [At, single]
  exact replaced _ .none

end UserLifecycleManager

end Samgr
