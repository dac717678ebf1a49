import Samgr.Lib.Decimal
import Samgr.Lib.Threads
import Samgr.Schedule.Context

/-! Loads of abilities of other devices. A request lists its callback and starts a thread of its
own, which makes the remote binder, calls the callback and takes it off the list again. A request
that finds its callback listed leaves the work to the thread that listed it. -/
namespace Samgr

structure RemoteRequest where
  systemAbilityId : Int
  deviceId : String
  callback : RemoteInterface
  deriving DecidableEq, Repr

namespace RemoteRequest

def key (r : RemoteRequest) : String := toString r.systemAbilityId ++ "_" ++ r.deviceId

/-- What a completion is for: the ability, the device and the object that is called. -/
def target (r : RemoteRequest) : Int × String × Nat :=
  (r.systemAbilityId, r.deviceId, r.callback.object)

theorem key_toList (r : RemoteRequest) :
    r.key.toList = Decimal.chars r.systemAbilityId ++ '_' :: r.deviceId.toList := by
  simp [key, Decimal.chars, String.toList_append]

/-- An id has no underscore, so the key tells both of its parts. -/
theorem key_injective {r q : RemoteRequest} (same : r.key = q.key) :
    r.systemAbilityId = q.systemAbilityId ∧ r.deviceId = q.deviceId := by
  have texts : r.key.toList = q.key.toList := by rw [same]
  rw [key_toList, key_toList] at texts
  obtain ⟨id, rest⟩ := Decimal.split_at_mark (by decide) (by decide) texts
  exact ⟨id, String.toList_inj.mp rest⟩

end RemoteRequest

/-- A request that was answered with ERR_OK, and a call of OnLoadSACompleteForRemote. -/
inductive RemoteEvent where
  | accepted (r : RemoteRequest)
  | completed (r : RemoteRequest)
  deriving DecidableEq, Repr

/-- `dead` are the objects of the callbacks that have died, and `log` what was answered and called,
the newest first; neither is data of the source. -/
structure RemoteLoads where
  remoteCallbacks : Std.TreeMap String (List RemoteInterface) := ∅
  remoteCallbackDeath : DeathRecipients := fun _ => 0
  dead : List Nat := []
  log : List RemoteEvent := []

inductive RemotePiece where
  -- LoadSystemAbility under loadRemoteLock_
  | request (r : RemoteRequest)
  -- DoLoadRemoteSystemAbility: the call of the callback, and its last section
  | complete (r : RemoteRequest)
  | unlist (r : RemoteRequest)
  -- OnRemoteCallbackDied
  | callbackDied (remoteObject : Nat)
  deriving DecidableEq, Repr

inductive RemoteCall where
  | loadSystemAbility (systemAbilityId : Int) (deviceId : String) (callback : RemoteInterface)
  | onRemoteCallbackDied (remoteObject : Nat)

/-- The process of a callback dies. -/
inductive RemoteAction where
  | die (remoteObject : Nat)

namespace RemoteLoads

variable (s : RemoteLoads)

def callbacks (key : String) : List RemoteInterface := (s.remoteCallbacks[key]?).getD []

def emit (event : RemoteEvent) : RemoteLoads := { s with log := event :: s.log }

/-- The list of a key; a key whose list is empty leaves the map. -/
def setCallbacks (key : String) (callbacks : List RemoteInterface) : RemoteLoads :=
  { s with
    remoteCallbacks :=
      if callbacks.isEmpty then s.remoteCallbacks.erase key
      else s.remoteCallbacks.insert key callbacks }

def listed (r : RemoteRequest) : Bool :=
  (s.callbacks r.key).any fun itemCallback => itemCallback.object == r.callback.object

/-- `LoadSystemAbility` under `loadRemoteLock_`, up to its answer. -/
def loadSystemAbility (r : RemoteRequest) : RemoteLoads :=
  if s.listed r then s.emit (.accepted r)
  else
    { s.setCallbacks r.key (s.callbacks r.key ++ [r.callback]) with
      remoteCallbackDeath := s.remoteCallbackDeath.add r.callback.object
      log := .accepted r :: s.log }

/-- The last section of `DoLoadRemoteSystemAbility`: `list::remove` takes out every entry with the
same pointer. -/
def unlist (r : RemoteRequest) : RemoteLoads :=
  { s.setCallbacks r.key ((s.callbacks r.key).filter fun other => other ≠ r.callback) with
    remoteCallbackDeath := s.remoteCallbackDeath.remove r.callback.object }

/-- `RemoveRemoteCallbackLocked` on one list. -/
def removeRemoteCallback (remoteObject : Nat) (callbacks : List RemoteInterface) :
    List RemoteInterface :=
  match callbacks.find? fun callback => callback.object == remoteObject with
  | none => callbacks
  | some found => callbacks.filter fun other => other ≠ found

/-- `OnRemoteCallbackDied`; each list that held the object takes one registration back. -/
def onRemoteCallbackDied (remoteObject : Nat) : RemoteLoads :=
  { s with
    remoteCallbacks := s.remoteCallbacks.filterMap fun _ callbacks =>
      let left := removeRemoteCallback remoteObject callbacks
      if left.isEmpty then none else some left
    remoteCallbackDeath := s.remoteCallbacks.toList.foldl
      (fun deaths entry =>
        if entry.2.any fun callback => callback.object == remoteObject then
          deaths.remove remoteObject
        else deaths) s.remoteCallbackDeath }

/-- The death of an object is reported only when it has died. -/
def enter : RemoteCall → List RemotePiece
  | .loadSystemAbility systemAbilityId deviceId callback =>
      [.request { systemAbilityId, deviceId, callback }]
  | .onRemoteCallbackDied remoteObject =>
      if remoteObject ∈ s.dead then [.callbackDied remoteObject] else []

def exec (s : RemoteLoads) : RemotePiece → RemoteLoads × List RemotePiece
  | .request r => (s.loadSystemAbility r, if s.listed r then [] else [.complete r])
  | .complete r => (s.emit (.completed r), [.unlist r])
  | .unlist r => (s.unlist r, [])
  | .callbackDied remoteObject => (s.onRemoteCallbackDied remoteObject, [])

end RemoteLoads

/-- Each piece is one section, so no piece waits for a lock. -/
def remoteProgram : Threads.Program RemoteLoads RemoteCall RemotePiece Unit RemoteAction Unit where
  enter := RemoteLoads.enter
  exec _ := RemoteLoads.exec
  take _ := none
  act
    | s, .die remoteObject => { s with dead := remoteObject :: s.dead }
  needs _ _ := none
  releases _ := none

abbrev RemoteMachine : Type := Threads.Config RemoteLoads RemotePiece

abbrev RemoteLabel : Type := Threads.Label RemoteCall Unit RemoteAction

namespace RemoteLoads

variable {s : RemoteLoads} {r q : RemoteRequest} {key : String} {callback : RemoteInterface}

theorem callbacks_setCallbacks (list : List RemoteInterface) (other : String) :
    (s.setCallbacks key list).callbacks other = if key = other then list else s.callbacks other := by
  simp only [callbacks, setCallbacks]
  split
  · rename_i empty
    rw [Std.TreeMap.getElem?_erase]
    by_cases same : key = other
    · simp [same, List.isEmpty_iff.mp empty]
    · simp [same]
  · rw [Std.TreeMap.getElem?_insert]
    by_cases same : key = other <;> simp [same]

theorem log_loadSystemAbility : (s.loadSystemAbility r).log = .accepted r :: s.log := by
  simp only [loadSystemAbility]
  split <;> rfl

theorem dead_loadSystemAbility : (s.loadSystemAbility r).dead = s.dead := by
  simp only [loadSystemAbility]
  split <;> rfl

theorem mem_loadSystemAbility (member : callback ∈ (s.loadSystemAbility r).callbacks key) :
    callback ∈ s.callbacks key ∨ s.listed r = false ∧ r.key = key ∧ r.callback = callback := by
  simp only [loadSystemAbility] at member
  split at member
  · exact Or.inl member
  · rename_i unlisted
    change callback ∈ (s.setCallbacks r.key (s.callbacks r.key ++ [r.callback])).callbacks key at member
    rw [callbacks_setCallbacks] at member
    split at member
    · rename_i same
      rcases List.mem_append.mp member with member | member
      · exact Or.inl (same ▸ member)
      · exact Or.inr ⟨by simpa using unlisted, same, (List.mem_singleton.mp member).symm⟩
    · exact Or.inl member

theorem mem_unlist (member : callback ∈ (s.unlist r).callbacks key) :
    callback ∈ s.callbacks key ∧ (r.key = key → callback ≠ r.callback) := by
  change callback ∈ (s.setCallbacks r.key
    ((s.callbacks r.key).filter fun other => other ≠ r.callback)).callbacks key at member
  rw [callbacks_setCallbacks] at member
  split at member
  · rename_i same
    have both := List.mem_filter.mp member
    exact ⟨same ▸ both.1, fun _ => by simpa using both.2⟩
  · rename_i other
    exact ⟨member, fun same => absurd same other⟩

theorem mem_onRemoteCallbackDied {remoteObject : Nat}
    (member : callback ∈ (s.onRemoteCallbackDied remoteObject).callbacks key) :
    callback ∈ s.callbacks key := by
  simp only [callbacks, onRemoteCallbackDied, Std.TreeMap.getElem?_filterMap] at member ⊢
  cases found : s.remoteCallbacks[key]? with
  | none => simp [found] at member
  | some list =>
      simp only [found, Option.pbind_some, Option.getD_some] at member ⊢
      split at member
      · simp at member
      · simp only [Option.getD_some, removeRemoteCallback] at member
        split at member
        · exact member
        · exact List.mem_of_mem_filter member

/-- The thread that listed a callback has not taken it off the list yet. -/
def Attended (s : RemoteLoads) (pieces : List RemotePiece) : Prop :=
  ∀ key callback, callback ∈ s.callbacks key → ∃ r : RemoteRequest, r.key = key ∧
    r.callback = callback ∧ (.complete r ∈ pieces ∨ .unlist r ∈ pieces)

/-- Every accepted request whose callback is alive has been completed since, or a thread is about
to complete it. -/
def Answered (s : RemoteLoads) (pieces : List RemotePiece) : Prop :=
  ∀ newer r older, s.log = newer ++ .accepted r :: older → r.callback.object ∉ s.dead →
    ∃ q : RemoteRequest, q.target = r.target ∧ (.completed q ∈ newer ∨ .complete q ∈ pieces)

section Pieces

variable {pieces others : List RemotePiece}

theorem Attended.mono (good : s.Attended pieces) (more : ∀ piece ∈ pieces, piece ∈ others) :
    s.Attended others := by
  intro key callback member
  obtain ⟨r, same, own, flying⟩ := good key callback member
  exact ⟨r, same, own, flying.imp (more _) (more _)⟩

theorem Answered.mono (good : s.Answered pieces) (more : ∀ piece ∈ pieces, piece ∈ others) :
    s.Answered others := by
  intro newer r older split alive
  obtain ⟨q, same, done⟩ := good newer r older split alive
  exact ⟨q, same, done.imp_right (more _)⟩

/-- Only a piece that completes is waited for. -/
theorem Answered.tail {piece : RemotePiece} (good : s.Answered (piece :: others))
    (plain : ∀ q, piece ≠ .complete q) : s.Answered others := by
  intro newer r older split alive
  obtain ⟨q, own, done⟩ := good newer r older split alive
  refine ⟨q, own, done.imp_right fun member => ?_⟩
  exact (List.mem_cons.mp member).resolve_left fun same => plain q same.symm

/-- What was answered before an event is answered after it. -/
theorem Answered.later {t : RemoteLoads} {event : RemoteEvent} (good : s.Answered pieces)
    (log : t.log = event :: s.log) (dead : t.dead = s.dead)
    (flying : ∀ q, .complete q ∈ pieces → event = .completed q ∨ .complete q ∈ others)
    (fresh : ∀ r, event = .accepted r → r.callback.object ∉ s.dead →
      ∃ q : RemoteRequest, q.target = r.target ∧ .complete q ∈ others) : t.Answered others := by
  intro newer r older split alive
  rw [log] at split
  rw [dead] at alive
  cases newer with
  | nil =>
      obtain ⟨same, -⟩ := List.cons_eq_cons.mp split
      obtain ⟨q, own, member⟩ := fresh r same alive
      exact ⟨q, own, Or.inr member⟩
  | cons first newer =>
      obtain ⟨rfl, rest⟩ := List.cons_eq_cons.mp split
      obtain ⟨q, own, done | member⟩ := good newer r older rest alive
      · exact ⟨q, own, Or.inl (List.mem_cons_of_mem _ done)⟩
      · rcases flying q member with rfl | member
        · exact ⟨q, own, Or.inl List.mem_cons_self⟩
        · exact ⟨q, own, Or.inr member⟩

theorem Answered.exec {piece : RemotePiece} (good : s.Answered (piece :: others))
    (pending : ∀ r, piece = .request r → s.listed r = true → r.callback.object ∉ s.dead →
      ∃ q : RemoteRequest, q.target = r.target ∧ .complete q ∈ others) :
    (s.exec piece).1.Answered ((s.exec piece).2 ++ others) := by
  cases piece with
  | request r =>
      refine good.later log_loadSystemAbility dead_loadSystemAbility (fun q member => ?_) ?_
      · exact Or.inr (List.mem_append_right _ (by simpa using member))
      · rintro own ⟨⟩ alive
        by_cases listed : s.listed r = true
        · obtain ⟨q, same, member⟩ := pending r rfl listed alive
          exact ⟨q, same, List.mem_append_right _ member⟩
        · exact ⟨r, rfl, by simp [RemoteLoads.exec, listed]⟩
  | complete r =>
      have log : (s.emit (.completed r)).log = .completed r :: s.log := rfl
      refine good.later log rfl (fun q member => ?_) nofun
      rcases List.mem_cons.mp member with same | member
      · exact Or.inl (congrArg RemoteEvent.completed (RemotePiece.complete.inj same).symm)
      · exact Or.inr (List.mem_append_right _ member)
  | unlist r =>
      have same : s.Answered others := good.tail nofun
      exact same
  | callbackDied remoteObject =>
      have same : s.Answered others := good.tail nofun
      exact same

theorem Attended.exec {piece : RemotePiece} (good : s.Attended (piece :: others)) :
    (s.exec piece).1.Attended ((s.exec piece).2 ++ others) := by
  cases piece with
  | request r =>
      intro key callback member
      rcases mem_loadSystemAbility member with before | ⟨unlisted, same, own⟩
      · obtain ⟨q, same, own, flying⟩ := good key callback before
        refine ⟨q, same, own, ?_⟩
        simp only [List.mem_cons, reduceCtorEq, false_or] at flying
        exact flying.imp (List.mem_append_right _) (List.mem_append_right _)
      · exact ⟨r, same, own, Or.inl (by simp [RemoteLoads.exec, unlisted])⟩
  | complete r =>
      intro key callback member
      obtain ⟨q, same, own, flying⟩ := good key callback member
      refine ⟨q, same, own, ?_⟩
      simp only [List.mem_cons, reduceCtorEq, false_or, RemotePiece.complete.injEq] at flying
      rcases flying with (rfl | flying) | flying
      · exact Or.inr (by simp [RemoteLoads.exec])
      · exact Or.inl (List.mem_append_right _ flying)
      · exact Or.inr (List.mem_append_right _ flying)
  | unlist r =>
      intro key callback member
      obtain ⟨before, kept⟩ := mem_unlist member
      obtain ⟨q, same, own, flying⟩ := good key callback before
      refine ⟨q, same, own, ?_⟩
      simp only [List.mem_cons, reduceCtorEq, false_or, RemotePiece.unlist.injEq] at flying
      rcases flying with flying | rfl | flying
      · exact Or.inl flying
      · exact absurd own.symm (kept same)
      · exact Or.inr flying
  | callbackDied remoteObject =>
      intro key callback member
      obtain ⟨q, same, own, flying⟩ := good key callback (mem_onRemoteCallbackDied member)
      refine ⟨q, same, own, ?_⟩
      simpa [RemoteLoads.exec] using flying

end Pieces

end RemoteLoads

namespace RemoteMachine

def init : RemoteMachine := { shared := {} }

def step (x : RemoteMachine) (label : RemoteLabel) : RemoteMachine :=
  Threads.Config.step remoteProgram x label

def next (x : RemoteMachine) (label : RemoteLabel) : Option RemotePiece :=
  Threads.Config.next remoteProgram x label

def runFrom (labels : List RemoteLabel) : RemoteMachine := Runs.run step init labels

open Threads.Config

variable {x : RemoteMachine} {label : RemoteLabel}

/-- A request that finds its living callback listed finds a thread that has yet to call it. -/
def joinsPending (x : RemoteMachine) (label : RemoteLabel) : Bool :=
  match x.next label with
  | some (.request r) =>
      !x.shared.listed r || decide (r.callback.object ∈ x.shared.dead) ||
        x.inFlight.any fun piece =>
          match piece with
          | .complete q => q.target == r.target
          | _ => false
  | _ => true

/-- Every accepted load is completed, and a callback is listed only while its thread is at work. -/
def Served (s : RemoteLoads) (pieces : List RemotePiece) : Prop :=
  s.Answered pieces ∧ s.Attended pieces

theorem pending_of_joins {r : RemoteRequest} (joins : x.joinsPending label = true)
    (next : x.next label = some (.request r)) (listed : x.shared.listed r = true)
    (alive : r.callback.object ∉ x.shared.dead) :
    ∃ q : RemoteRequest, q.target = r.target ∧ .complete q ∈ x.inFlight := by
  have found : x.inFlight.any (fun piece =>
      match piece with
      | .complete q => q.target == r.target
      | _ => false) = true := by
    simpa [joinsPending, next, listed, alive] using joins
  obtain ⟨piece, member, same⟩ := List.any_eq_true.mp found
  split at same
  · rename_i q
    exact ⟨q, by simpa using same, member⟩
  · cases same

theorem step_served (joins : x.joinsPending label = true) (good : Served x.shared x.inFlight) :
    Served (x.step label).shared (x.step label).inFlight := by
  refine step_keeps (P := remoteProgram) Served ?_ ?_ ?_ ?_ ?_ good
  · exact fun same held => ⟨held.1.mono fun _ => same.mem_iff.mp, held.2.mono fun _ => same.mem_iff.mp⟩
  · exact fun call pieces held => ⟨held.1.mono fun _ => List.mem_append_right _,
      held.2.mono fun _ => List.mem_append_right _⟩
  · intro _ piece others next _ opened held
    refine ⟨held.1.exec ?_, held.2.exec⟩
    rintro r rfl listed alive
    obtain ⟨q, same, member⟩ := pending_of_joins joins next listed alive
    exact ⟨q, same, by simpa using opened.mem_iff.mp member⟩
  · intro _ _ _ taken
    cases taken
  · intro action _ held
    cases action with
    | die remoteObject =>
        refine ⟨fun newer r older split alive => held.1 newer r older split fun dead => ?_, held.2⟩
        exact alive (List.mem_cons_of_mem _ dead)

/-- The request that joins nobody is answered and never called back. -/
theorem unserved_of_late (late : x.joinsPending label = false) :
    ¬ Served (x.step label).shared (x.step label).inFlight := by
  rintro ⟨answered, -⟩
  simp only [joinsPending] at late
  split at late
  · rename_i r next
    simp only [Bool.or_eq_false_iff, Bool.not_eq_false', decide_eq_false_iff_not] at late
    obtain ⟨⟨listed, alive⟩, nobody⟩ := late
    obtain ⟨_, others, -, moved⟩ := step_of_next (P := remoteProgram) next
    have shared : (x.step label).shared = x.shared.loadSystemAbility r := moved
    have accepted : (x.step label).shared.log = [] ++ .accepted r :: x.shared.log := by
      rw [shared]
      exact RemoteLoads.log_loadSystemAbility
    have living : r.callback.object ∉ (x.step label).shared.dead := by
      rw [shared, RemoteLoads.dead_loadSystemAbility]
      exact alive
    obtain ⟨q, same, done | member⟩ := answered [] r x.shared.log accepted living
    · cases done
    · have before : RemotePiece.complete q ∈ x.inFlight := by
        rcases mem_inFlight_step (P := remoteProgram) member with old | ⟨call, rfl, -⟩ |
          ⟨_, running, ran, -, made⟩ | ⟨_, _, taken, -⟩
        · exact old
        · cases next
        · obtain rfl : running = .request r := Option.some.inj (ran.symm.trans next)
          simp [remoteProgram, RemoteLoads.exec, listed] at made
        · cases taken
      have joined := List.any_eq_false.mp nobody _ before
      simp [same] at joined
  · cases late

/-- Along a run every accepted load of a living callback has been completed since or has a thread
about to complete it, and a callback is listed only while its thread is at work, exactly when no
request finds its callback still listed by a thread that has already called it. -/
theorem remote_loads_completed_iff_join_pending (labels : List RemoteLabel) :
    (∀ before, before <+: labels →
      Served (runFrom before).shared (runFrom before).inFlight) ↔
    Runs.Guarded step (fun x label => x.joinsPending label = true) init labels := by
  refine Runs.forall_prefix_iff_guarded (fun x : RemoteMachine => Served x.shared x.inFlight)
    (fun x label => step_served) (fun _ good => good) (fun x label _ unjoined => ?_) ⟨?_, ?_⟩
  · exact unserved_of_late (by simpa using unjoined)
  · intro newer r older split
    simp [init] at split
  · intro key callback member
    simp [init, RemoteLoads.callbacks] at member

/-- The client runs the next piece of its thread. -/
def turn (client : Nat) : RemoteLabel := .run (some client) ()

/-- The second request is made on receiving the completion of the first. -/
def askTwice : List RemoteLabel :=
  [.call (.loadSystemAbility 1 "dev" ⟨70, 70⟩), turn 0, turn 0,
    .call (.loadSystemAbility 1 "dev" ⟨70, 70⟩), turn 1, turn 0]

theorem second_request_is_never_completed :
    ¬ ∀ (labels : List RemoteLabel) (newer older : List RemoteEvent) (r : RemoteRequest),
      (runFrom labels).inFlight = [] →
      (runFrom labels).shared.log = newer ++ .accepted r :: older →
      r.callback.object ∉ (runFrom labels).shared.dead →
      ∃ q : RemoteRequest, q.target = r.target ∧ .completed q ∈ newer := by
  intro always
  obtain ⟨q, -, member⟩ := always askTwice []
    [.completed ⟨1, "dev", ⟨70, 70⟩⟩, .accepted ⟨1, "dev", ⟨70, 70⟩⟩] ⟨1, "dev", ⟨70, 70⟩⟩
    (by decide +kernel) (by decide +kernel) (by decide +kernel)
  cases member

end RemoteMachine

end Samgr
