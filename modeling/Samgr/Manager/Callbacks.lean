import Samgr.Manager.Freshness
import Samgr.Manager.Ownership
import Samgr.Manager.Tickets
import Samgr.Manager.CallbackQuota

/-! No load callback is lost and none is reported twice. An entry waits for its own
check-loaded task or for an added message of its ability, and whatever takes one of these away
leaves another behind: a registration that cancels the tasks has its message still to post,
and a load that registers its callback late holds the lock for which the registration waits. -/
namespace Samgr

/-- The call does not bring about the end of a process. -/
def Call.keepsProcesses : Call → Bool
  | .removeSystemProcess _ | .schedule .runRecoverTask => false
  | _ => true

/-- The step is no call that brings about the end of a process. -/
def MachineLabel.keepsProcesses : MachineLabel → Bool
  | .call call => call.keepsProcesses
  | _ => true

/-- The piece works towards the end of a process. -/
def Piece.endsProcess : Piece → Bool
  | .eraseProcess _ | .lockForStop _ | .removeStuckProcess _ | .schedule .runRecoverTask => true
  | _ => false

/-- The load that has still to post the check-loaded task of its callback. -/
def Piece.owesCheck : Piece → Option Loading
  | .startingSystemProcess load | .markStartingProcess load | .startDynamicSystemProcess load
  | .sendCheckLoadedMsg load => some load
  | _ => none

/-- What is left to report the callback of an entry: its check-loaded task, waiting or running;
an added message of the ability, waiting or running; or a call that has still to post one. -/
inductive Covered (m : Manager) (pieces : List Piece) (sa : Int) (callback : RemoteInterface) : Prop
  | check (handle : Nat) (name : String)
      (waits : (handle, .checkLoaded sa name LOCAL_DEVICE callback) ∈ m.workHandler.waiting)
  | checking (name : String) (runs : .checkLoaded sa name LOCAL_DEVICE callback ∈ pieces)
  | cleaning (runs : .cleanCallback sa LOCAL_DEVICE callback ∈ pieces)
  | message (handle remoteObject : Nat)
      (waits : (handle, .notifyAdded sa remoteObject) ∈ m.workHandler.waiting)
  | notifying (remoteObject : Nat) (runs : .notifySystemAbilityLoaded sa remoteObject ∈ pieces)
  | adding (remoteObject : Nat) (runs : .sendSystemAbilityAddedMsg sa remoteObject ∈ pieces)
  | loading (load : Loading) (piece : Piece) (runs : piece ∈ pieces)
      (owes : piece.owesCheck = some load) (own : load.systemAbilityId = sa)
      (isLocal : load.isLocal = true) (same : load.callback = callback)

/-- The callback stays covered when no waiting task and no piece is lost. -/
theorem Covered.mono {m n : Manager} {pieces others : List Piece} {sa : Int}
    {callback : RemoteInterface} (good : Covered m pieces sa callback)
    (tasks : ∀ entry ∈ m.workHandler.waiting, entry ∈ n.workHandler.waiting)
    (more : ∀ piece ∈ pieces, piece ∈ others) : Covered n others sa callback := by
  cases good with
  | check handle name waits => exact .check handle name (tasks _ waits)
  | checking name runs => exact .checking name (more _ runs)
  | cleaning runs => exact .cleaning (more _ runs)
  | message handle remoteObject waits => exact .message handle remoteObject (tasks _ waits)
  | notifying remoteObject runs => exact .notifying remoteObject (more _ runs)
  | adding remoteObject runs => exact .adding remoteObject (more _ runs)
  | loading load piece runs owes own isLocal same =>
      exact .loading load piece (more _ runs) owes own isLocal same

/-- The piece reports whatever entries the ability has. -/
def Piece.clears (sa : Int) (piece : Piece) : Prop :=
  (∃ remoteObject, piece = .notifySystemAbilityLoaded sa remoteObject) ∨
    ∃ errCode process, piece = .onStartSystemAbilityFail sa errCode process

namespace Manager

variable {env : Env} {m n : Manager} {piece : Piece} {pieces others : List Piece} {sa : Int}
  {callback : RemoteInterface}

theorem covered_of_announced {remoteObject : Nat} (announced : remoteObject ∈ m.announced pieces sa) :
    Covered m pieces sa callback := by
  rcases mem_announced.mp announced with ⟨handle, waits⟩ | runs | runs
  · exact .message handle remoteObject waits
  · exact .adding remoteObject runs
  · exact .notifying remoteObject runs

theorem callbacksOf_of_absent (absent : m.startingAbilityMap[sa]? = none) (deviceId : String) :
    m.callbacksOf sa deviceId = [] := by
  simp [callbacksOf, itemAt, absent, AbilityItem.listOf]

/-- After a piece that reports the entries of the ability there is none. -/
theorem callbacksOf_of_clears (clears : piece.clears sa) (deviceId : String) :
    (m.exec env piece).1.callbacksOf sa deviceId = [] := by
  rcases clears with ⟨remoteObject, rfl⟩ | ⟨errCode, process, rfl⟩
  · simp only [exec, notifySystemAbilityLoaded]
    split
    · rename_i absent
      exact callbacksOf_of_absent absent deviceId
    · rw [callbacksOf_erase (m := m) rfl, if_pos rfl]
  · simp only [exec, onStartSystemAbilityFail]
    split
    · rename_i absent
      exact callbacksOf_of_absent absent deviceId
    · rename_i item found
      rw [callbacksOf_erase rfl, if_pos rfl]

/-- After the timeout of a callback the ability has no local entry for it. -/
theorem ne_of_cleaned (good : m.Labelled) {entry : CallbackItem}
    (inside : entry ∈ (m.exec env (.cleanCallback sa LOCAL_DEVICE callback)).1.callbacksOf sa
      LOCAL_DEVICE) : entry.callback ≠ callback := by
  rintro rfl
  cases found : m.startingAbilityMap[sa]? with
  | none =>
      simp only [exec, cleanCallbackForLoadFailed, found] at inside
      rw [callbacksOf_of_absent found] at inside
      cases inside
  | some item =>
      have own : m.callbacksOf sa LOCAL_DEVICE = item.listOf LOCAL_DEVICE := by
        rw [callbacksOf, itemAt_of_found found]
      have after := cleanCallback_callbacks LOCAL_DEVICE entry.callback found sa LOCAL_DEVICE
      rw [if_pos rfl, listOf_withoutCallback, if_pos rfl] at after
      simp only [exec, after] at inside
      obtain ⟨listed, left⟩ := List.mem_filter.mp inside
      cases failing : failingCallback LOCAL_DEVICE entry.callback item with
      | none => simpa using List.find?_eq_none.mp failing entry listed
      | some first =>
          have known : first ∈ item.listOf LOCAL_DEVICE := List.mem_of_find?_eq_some failing
          have object : first.callback.object = entry.callback.object := by
            simpa using List.find?_some failing
          have single := good.single sa
          rw [own] at single
          have same : first = entry := List.inj_on_of_nodup_map single known listed object
          rw [failing, same] at left
          simp at left

/-- A message that is on its way stays so, unless it is the one that the piece delivers. -/
theorem announced_turn (named : m.Named) (other : ¬ piece.clears sa) {remoteObject : Nat}
    (announced : remoteObject ∈ m.announced (piece :: others) sa) :
    remoteObject ∈ (m.exec env piece).1.announced ((m.exec env piece).2 ++ others) sa := by
  rw [mem_announced] at announced ⊢
  rcases announced with ⟨handle, waits⟩ | runs | runs
  · have kept : _ ∈ (m.exec env piece).1.workHandler.waiting ∨ _ := exec_keepsTask named waits
    rcases kept with still | ⟨id, -, checks⟩
    · exact Or.inl ⟨handle, still⟩
    · obtain ⟨name, srcDeviceId, callback, impossible⟩ := checks
      cases impossible
  · rcases List.mem_cons.mp runs with rfl | runs
    · exact Or.inl ⟨m.workHandler.next, mem_waiting_postTask.mpr (Or.inl rfl)⟩
    · exact Or.inr (Or.inl (List.mem_append_right _ runs))
  · rcases List.mem_cons.mp runs with rfl | runs
    · exact absurd (Or.inl ⟨remoteObject, rfl⟩) other
    · exact Or.inr (Or.inr (List.mem_append_right _ runs))

/-- A load that owes its check-loaded task has posted it, or owes it still. -/
theorem owes_turn {load : Loading} (owes : piece.owesCheck = some load) (isLocal : load.isLocal = true) :
    Covered (m.exec env piece).1 ((m.exec env piece).2 ++ others) load.systemAbilityId
      load.callback := by
  have device : load.request.deviceId = LOCAL_DEVICE := by simpa [Loading.isLocal] using isLocal
  have later : ∀ next : Piece, next ∈ (m.exec env piece).2 → next.owesCheck = some load →
      Covered (m.exec env piece).1 ((m.exec env piece).2 ++ others) load.systemAbilityId
        load.callback := by
    intro next made owes
    exact .loading load next (List.mem_append_left _ made) owes rfl isLocal rfl
  cases piece with
  | startingSystemProcess other =>
      obtain rfl : other = load := Option.some.inj owes
      by_cases running : m.sched.ownProcessName other.systemAbilityId ∈ m.systemProcessMap
      · exact later (.sendCheckLoadedMsg other)
          (by simp [exec, running, Loading.afterStart, isLocal]) rfl
      · exact later (.markStartingProcess other) (by simp [exec, running]) rfl
  | markStartingProcess other =>
      obtain rfl : other = load := Option.some.inj owes
      cases marked : m.markStartingProcess (m.sched.ownProcessName other.systemAbilityId)
          other.systemAbilityId with
      | none =>
          exact later (.sendCheckLoadedMsg other)
            (by simp [exec, marked, Loading.afterStart, isLocal]) rfl
      | some started =>
          exact later (.startDynamicSystemProcess other) (by simp [exec, marked]) rfl
  | startDynamicSystemProcess other =>
      obtain rfl : other = load := Option.some.inj owes
      refine later (.sendCheckLoadedMsg other) ?_ rfl
      simp only [exec]
      split <;> simp [Loading.afterStart, isLocal]
  | sendCheckLoadedMsg other =>
      obtain rfl : other = load := Option.some.inj owes
      refine .check m.workHandler.next (m.sched.ownProcessName other.systemAbilityId) ?_
      refine TaskQueue.mem_waiting_postNamed.mpr (Or.inl ?_)
      rw [device]
  | _ => cases owes

theorem check_iff : m.checkSystemAbility sa ≠ none ↔
    checkInputSysAbilityId sa = true ∧ sa ∈ m.abilityMap := by
  simp only [checkSystemAbility]
  split
  · rename_i valid
    rw [Std.TreeMap.mem_iff_isSome_getElem?, Option.isSome_iff_ne_none]
    simp [valid]
  · rename_i invalid
    simp [invalid]

/-- A registered ability was so before the piece, or the piece registered it and has its load
success still to deliver and its added message still to post. -/
theorem check_turn (registered : (m.exec env piece).1.checkSystemAbility sa ≠ none) :
    m.checkSystemAbility sa ≠ none ∨
      .sendAbilityStateEvent sa .abilityLoadSuccessEvent ∈ (m.exec env piece).2 ∧
        ∃ remoteObject, .sendSystemAbilityAddedMsg sa remoteObject ∈ (m.exec env piece).2 := by
  obtain ⟨valid, inside⟩ := check_iff.mp registered
  rcases (exec_registry piece).registered inside with before | made
  · exact Or.inl (check_iff.mpr ⟨valid, before⟩)
  · refine Or.inr ⟨made, ?_⟩
    obtain ⟨saInfo, rfl⟩ := Machine.insert_of_made made (Or.inr rfl)
    simp only [exec] at made ⊢
    split at made
    · cases made
    · exact ⟨saInfo.remoteObj, by simp⟩

end Manager

namespace Machine

open Threads.Config

/-- The entries of the ability are covered. A registered ability has an added message on its
way for them, and for a load that is about to register its callback the registration has not
even delivered its load success. -/
structure Attended (sa : Int) (m : Manager) (pieces : List Piece) : Prop where
  covered : ∀ entry ∈ m.callbacksOf sa LOCAL_DEVICE, Covered m pieces sa entry.callback
  announced : m.checkSystemAbility sa ≠ none → m.callbacksOf sa LOCAL_DEVICE ≠ [] →
    ∃ remoteObject, remoteObject ∈ m.announced pieces sa
  registering : m.checkSystemAbility sa ≠ none →
    ∀ load, .registerCallback load ∈ pieces → load.systemAbilityId = sa →
      .sendAbilityStateEvent sa .abilityLoadSuccessEvent ∈ pieces

variable {first : Scheduler} {sa : Int} {x : Machine} {label : MachineLabel} {env : Env} {piece : Piece}
  {others : List Piece}

theorem Announcing.message (good : x.Announcing sa) (opened : x.inFlight.Perm (piece :: others))
    {opening : Piece} (member : opening ∈ piece :: others)
    (opens : opening = .removeCheckLoadedMsg sa ∨
      opening = .sendAbilityStateEvent sa .abilityLoadSuccessEvent)
    (other : ∀ remoteObject, piece ≠ .sendSystemAbilityAddedMsg sa remoteObject) :
    ∃ remoteObject, .sendSystemAbilityAddedMsg sa remoteObject ∈ others := by
  obtain ⟨later, found, remoteObject, rfl⟩ := good.later (opened.mem_iff.mpr member) opens
  rcases List.mem_cons.mp (opened.mem_iff.mp found) with same | found
  · exact absurd same.symm (other remoteObject)
  · exact ⟨remoteObject, found⟩

/-- An entry after a piece is an old one, or the one that the piece has registered. -/
theorem entry_cases {m : Manager} {entry : CallbackItem}
    (inside : entry ∈ (m.exec env piece).1.callbacksOf sa LOCAL_DEVICE) :
    entry ∈ m.callbacksOf sa LOCAL_DEVICE ∨
      ∃ load, piece = .registerCallback load ∧ load.systemAbilityId = sa ∧ load.isLocal = true ∧
        load.callback = entry.callback ∧ .startingSystemProcess load ∈ (m.exec env piece).2 := by
  have move : EntryMove m piece (m.exec env piece).1 (m.exec env piece).2 := Manager.exec_entries
  cases move with
  | same kept ids queue =>
      rw [kept] at inside
      exact Or.inl inside
  | added load added source callback id since remote fresh after ids next =>
      rw [after] at inside
      split at inside
      · rename_i own
        rcases List.mem_append.mp inside with inside | inside
        · exact Or.inl inside
        · obtain rfl := List.mem_singleton.mp inside
          refine Or.inr ⟨load, source, own.1.symm, ?_, callback.symm, next⟩
          simp [Loading.isLocal, ← own.2]
      · exact Or.inl inside
  | cleared id source after ids =>
      rw [after] at inside
      split at inside
      · cases inside
      · exact Or.inl inside
  | died remoteObject source after ids =>
      rw [after] at inside
      exact Or.inl (List.mem_of_mem_eraseP inside)
  | failed id srcDeviceId callback found source failing posted after ids =>
      rw [after] at inside
      split at inside
      · exact Or.inl (List.mem_of_mem_filter inside)
      · exact Or.inl inside

/-- What the piece leaves to an entry that it does not take out. -/
theorem covered_turn (named : x.shared.Named) (announcing : x.Announcing sa)
    (opened : x.inFlight.Perm (piece :: others)) (good : Attended sa x.shared (piece :: others))
    (other : ¬ piece.clears sa) {entry : CallbackItem}
    (before : entry ∈ x.shared.callbacksOf sa LOCAL_DEVICE)
    (kept : piece ≠ .cleanCallback sa LOCAL_DEVICE entry.callback) :
    Covered (x.shared.exec env piece).1 ((x.shared.exec env piece).2 ++ others) sa entry.callback := by
  have behind : ∀ {runs : Piece}, runs ∈ others → runs ∈ (x.shared.exec env piece).2 ++ others :=
    fun member => List.mem_append_right _ member
  cases good.covered entry before with
  | check handle name waits =>
      have turned : _ ∈ (x.shared.exec env piece).1.workHandler.waiting ∨ _ :=
        Manager.exec_keepsTask named waits
      rcases turned with still | ⟨id, cancels, name, srcDeviceId, callback, same⟩
      · exact .check handle _ still
      · cases same
        -- the piece is the cancellation of a registration, whose message is still to come
        cases piece <;> cases cancels
        · obtain ⟨remoteObject, runs⟩ :=
            announcing.message opened List.mem_cons_self (Or.inl rfl) (by simp)
          exact .adding remoteObject (behind runs)
        · exact absurd (Or.inr ⟨_, _, rfl⟩) other
  | checking name runs =>
      rcases List.mem_cons.mp runs with rfl | runs
      · by_cases absent : x.shared.checkSystemAbility sa = none
        · exact .cleaning (List.mem_append_left _ (by simp [Manager.exec, absent]))
        · obtain ⟨remoteObject, announced⟩ := good.announced absent (List.ne_nil_of_mem before)
          exact Manager.covered_of_announced (Manager.announced_turn named other announced)
      · exact .checking name (behind runs)
  | cleaning runs =>
      rcases List.mem_cons.mp runs with rfl | runs
      · exact absurd rfl kept
      · exact .cleaning (behind runs)
  | message handle remoteObject waits =>
      exact Manager.covered_of_announced (Manager.announced_turn named other
        (Manager.mem_announced.mpr (Or.inl ⟨handle, waits⟩)))
  | notifying remoteObject runs =>
      exact Manager.covered_of_announced (Manager.announced_turn named other
        (Manager.mem_announced.mpr (Or.inr (Or.inr runs))))
  | adding remoteObject runs =>
      exact Manager.covered_of_announced (Manager.announced_turn named other
        (Manager.mem_announced.mpr (Or.inr (Or.inl runs))))
  | loading load owing runs owes own isLocal same =>
      rcases List.mem_cons.mp runs with rfl | runs
      · subst own
        rw [← same]
        exact Manager.owes_turn owes isLocal
      · exact .loading load owing (behind runs) owes own isLocal same

theorem attended_turn (named : x.shared.Named) (labelled : x.shared.Labelled)
    (announcing : x.Announcing sa) (opened : x.inFlight.Perm (piece :: others))
    (excluded : piece = .sendAbilityStateEvent sa .abilityLoadSuccessEvent →
      ∀ load, .registerCallback load ∈ x.inFlight → load.systemAbilityId ≠ sa)
    (good : Attended sa x.shared (piece :: others)) :
    Attended sa (x.shared.exec env piece).1 ((x.shared.exec env piece).2 ++ others) := by
  refine ⟨fun entry inside => ?_, fun registered some => ?_, fun registered load member own => ?_⟩
  · by_cases other : piece.clears sa
    · rw [Manager.callbacksOf_of_clears other] at inside
      cases inside
    · rcases entry_cases inside with before | ⟨load, rfl, own, isLocal, callback, next⟩
      · refine covered_turn named announcing opened good other before ?_
        rintro rfl
        exact Manager.ne_of_cleaned labelled inside rfl
      · exact .loading load _ (List.mem_append_left _ next) rfl own isLocal callback
  · by_cases other : piece.clears sa
    · exact absurd (Manager.callbacksOf_of_clears other LOCAL_DEVICE) some
    · rcases Manager.check_turn registered with stood | ⟨-, remoteObject, made⟩
      · obtain ⟨entry, inside⟩ := List.exists_mem_of_ne_nil _ some
        rcases entry_cases inside with before | ⟨load, rfl, own, -, -, -⟩
        · obtain ⟨remoteObject, announced⟩ := good.announced stood (List.ne_nil_of_mem before)
          exact ⟨remoteObject, Manager.announced_turn named other announced⟩
        · -- the registration that came after the check of the load is still behind its lock
          have event := good.registering stood load List.mem_cons_self own
          obtain ⟨remoteObject, runs⟩ := announcing.message opened event (Or.inr rfl) (by simp)
          exact ⟨remoteObject,
            Manager.mem_announced.mpr (Or.inr (Or.inl (List.mem_append_right _ runs)))⟩
      · exact ⟨remoteObject,
          Manager.mem_announced.mpr (Or.inr (Or.inl (List.mem_append_left _ made)))⟩
  · rcases Manager.check_turn registered with before | ⟨made, -⟩
    · rcases List.mem_append.mp member with member | member
      · obtain ⟨rfl, absent⟩ := registering_of_follows (exec_follows member)
        exact absurd (own ▸ absent) before
      · have event := good.registering before load (List.mem_cons_of_mem _ member) own
        rcases List.mem_cons.mp event with same | event
        · exact absurd own
            (excluded same.symm load (opened.mem_iff.mpr (List.mem_cons_of_mem _ member)))
        · exact List.mem_append_right _ event
    · exact List.mem_append_left _ made

/-- Pieces that neither announce nor register anything may be added. -/
theorem Attended.append {m : Manager} {pieces made : List Piece} (good : Attended sa m pieces)
    (quiet : ∀ load, .registerCallback load ∉ made) : Attended sa m (made ++ pieces) := by
  refine ⟨fun entry inside => ?_, fun registered some => ?_, fun registered load member own => ?_⟩
  · exact (good.covered entry inside).mono (fun _ waits => waits)
      fun _ member => List.mem_append_right made member
  · obtain ⟨remoteObject, announced⟩ := good.announced registered some
    refine ⟨remoteObject, ?_⟩
    rw [Manager.mem_announced] at announced ⊢
    refine announced.imp_right (Or.imp ?_ ?_)
    · exact fun runs => List.mem_append_right made runs
    · exact fun runs => List.mem_append_right made runs
  · rcases List.mem_append.mp member with member | member
    · exact absurd member (quiet load)
    · exact List.mem_append_right made (good.registering registered load member own)

theorem Attended.dispatch {m : Manager} {task : WorkTask} {rest : TaskQueue Int WorkTask}
    {pieces : List Piece} (popped : m.workHandler.pop = some (task, rest))
    (good : Attended sa m pieces) :
    Attended sa { m with workHandler := rest } (task.pieces ++ pieces) := by
  have behind : ∀ {piece : Piece}, piece ∈ pieces → piece ∈ task.pieces ++ pieces :=
    fun member => List.mem_append_right _ member
  refine ⟨fun entry inside => ?_, fun registered some => ?_, fun registered load member own => ?_⟩
  · cases good.covered entry inside with
    | check handle name waits =>
        rcases TaskQueue.waiting_cases_pop popped waits with same | waits
        · obtain rfl := same
          exact .checking name (List.mem_append_left _ (by simp [WorkTask.pieces]))
        · exact .check handle name waits
    | checking name runs => exact .checking name (behind runs)
    | cleaning runs => exact .cleaning (behind runs)
    | message handle remoteObject waits =>
        rcases TaskQueue.waiting_cases_pop popped waits with same | waits
        · obtain rfl := same
          exact .notifying remoteObject (List.mem_append_left _ (by simp [WorkTask.pieces]))
        · exact .message handle remoteObject waits
    | notifying remoteObject runs => exact .notifying remoteObject (behind runs)
    | adding remoteObject runs => exact .adding remoteObject (behind runs)
    | loading load piece runs owes own isLocal same =>
        exact .loading load piece (behind runs) owes own isLocal same
  · obtain ⟨remoteObject, announced⟩ := good.announced registered some
    refine ⟨remoteObject, ?_⟩
    rw [Manager.mem_announced] at announced ⊢
    rcases announced with ⟨handle, waits⟩ | runs | runs
    · rcases TaskQueue.waiting_cases_pop popped waits with same | waits
      · obtain rfl := same
        exact Or.inr (Or.inr (List.mem_append_left _ (by simp [WorkTask.pieces])))
      · exact Or.inl ⟨handle, waits⟩
    · exact Or.inr (Or.inl (behind runs))
    · exact Or.inr (Or.inr (behind runs))
  · rcases List.mem_append.mp member with member | member
    · cases task <;> simp [WorkTask.pieces] at member
    · exact behind (good.registering registered load member own)

theorem Attended.expire {m : Manager} {pieces : List Piece} (handle : Nat)
    (good : Attended sa m pieces) :
    Attended sa { m with workHandler := m.workHandler.expire handle } pieces := by
  refine ⟨fun entry inside => ?_, fun registered some => ?_, good.registering⟩
  · exact (good.covered entry inside).mono (fun _ waits => TaskQueue.mem_waiting_expire.mpr waits)
      fun _ runs => runs
  · obtain ⟨remoteObject, announced⟩ := good.announced registered some
    refine ⟨remoteObject, ?_⟩
    rw [Manager.mem_announced] at announced ⊢
    refine announced.imp_left ?_
    rintro ⟨other, waits⟩
    exact ⟨other, TaskQueue.mem_waiting_expire.mpr waits⟩

/-- While a load is about to register its callback, no registration of the ability delivers
its load success. -/
theorem Housed.waits (sound : Sound first x.shared x.inFlight) (housed : Housed first sa x.inFlight)
    (locked : x.Locked (first.ownProcessName sa)) (known : sa ∈ first.abilityIds)
    (enabled : x.enabled managerProgram piece = true)
    (event : piece = .sendAbilityStateEvent sa .abilityLoadSuccessEvent) (load : Loading)
    (member : .registerCallback load ∈ x.inFlight) : load.systemAbilityId ≠ sa := by
  intro own
  subst event
  have impossible := housed.excludes sound locked known enabled own member rfl
  cases impossible

theorem step_attended (sound : Sound first x.shared x.inFlight) (housed : Housed first sa x.inFlight)
    (locked : x.Locked (first.ownProcessName sa)) (known : sa ∈ first.abilityIds)
    (named : x.shared.Named) (labelled : x.shared.Labelled) (announcing : x.Announcing sa)
    (good : Attended sa x.shared x.inFlight) :
    Attended sa (x.step label).shared (x.step label).inFlight := by
  refine step_keeps (Attended sa) ?_ ?_ ?_ ?_ ?_ good
  · intro m pieces others same attended
    refine ⟨fun entry inside => ?_, fun registered some => ?_, fun registered load member own => ?_⟩
    · exact (attended.covered entry inside).mono (fun _ waits => waits) fun _ => same.mem_iff.mp
    · obtain ⟨remoteObject, announced⟩ := attended.announced registered some
      exact ⟨remoteObject, (Manager.announced_perm same).mp announced⟩
    · exact same.mem_iff.mp
        (attended.registering registered load (same.mem_iff.mpr member) own)
  · intro call pieces attended
    refine attended.append fun load member => ?_
    have begins : Piece.Begins (.registerCallback load) x.shared call := enter_begins member
    cases call <;> simp [Piece.Begins] at begins
  · intro env piece others _ enabled opened attended
    exact attended_turn named labelled announcing opened
      (housed.waits sound locked known enabled) attended
  · exact fun task rest pieces popped attended => attended.dispatch popped
  · exact fun handle attended => attended.expire handle

theorem step_labelled (good : x.shared.Labelled) : (x.step label).shared.Labelled := by
  refine step_keeps (fun m _ => m.Labelled) (fun _ labelled => labelled)
    (fun _ _ labelled => labelled) ?_ ?_ ?_ good
  · exact fun env piece others _ _ _ labelled => Manager.exec_labelled labelled
  · exact fun task rest pieces _ labelled => ⟨labelled.single, labelled.remote⟩
  · exact fun handle labelled => ⟨labelled.single, labelled.remote⟩

/-- All that is known of the machine in a run in which the ability's processes stop at home. -/
structure Tended (first : Scheduler) (sa : Int) (x : Machine) : Prop where
  sound : Sound first x.shared x.inFlight
  housed : Housed first sa x.inFlight
  locked : x.Locked (first.ownProcessName sa)
  named : x.shared.Named
  labelled : x.shared.Labelled
  announcing : x.Announcing sa
  attended : Attended sa x.shared x.inFlight

theorem step_tended (known : sa ∈ first.abilityIds) (stops : x.stopsAtHome sa label = true)
    (good : Tended first sa x) : Tended first sa (x.step label) where
  sound := step_sound label good.sound
  housed := step_housed good.sound stops good.housed
  locked := step_locked label good.locked
  named := step_named good.named
  labelled := step_labelled good.labelled
  announcing := step_announcing good.announcing
  attended := step_attended good.sound good.housed good.locked known good.named good.labelled
    good.announcing good.attended

theorem callbacksOf_init (saProfiles : List SaProfile) (sa : Int) (deviceId : String) :
    (init saProfiles).shared.callbacksOf sa deviceId = [] := by
  simp [init, Manager.init, Manager.callbacksOf, Manager.itemAt, AbilityItem.listOf]

theorem tended_init (saProfiles : List SaProfile) (sa : Int) :
    Tended (Scheduler.init saProfiles) sa (init saProfiles) where
  sound := runFrom_sound saProfiles []
  housed := fun _ member => absurd member List.not_mem_nil
  locked := runFrom_locked saProfiles [] _
  named := ⟨fun _ waits => absurd waits List.not_mem_nil, fun _ _ recorded =>
    absurd recorded List.not_mem_nil⟩
  labelled := (Manager.callbacksCounted_init saProfiles).labelled
  announcing := ⟨trivial, nofun⟩
  attended := by
    refine ⟨fun entry inside => ?_, fun _ some => ?_, fun _ load member => ?_⟩
    · rw [callbacksOf_init] at inside
      cases inside
    · exact absurd (callbacksOf_init saProfiles sa LOCAL_DEVICE) some
    · exact absurd member List.not_mem_nil

/-- Where no call ends a process, no piece does. -/
theorem step_calm (keeps : label.keepsProcesses = true)
    (calm : ∀ piece ∈ x.inFlight, piece.endsProcess = false) :
    ∀ piece ∈ (x.step label).inFlight, piece.endsProcess = false := by
  intro piece member
  rcases mem_inFlight_step (P := managerProgram) member with
    before | ⟨call, rfl, enters⟩ | ⟨env, running, -, runs, made⟩ | ⟨pieces, shared, taken, inside⟩
  · exact calm piece before
  · have begins : piece.Begins x.shared call := enter_begins enters
    cases call <;> grind [Piece.Begins, Piece.endsProcess, MachineLabel.keepsProcesses,
      Call.keepsProcesses]
  · have quiet := calm running runs
    have follows : piece.Follows x.shared running := exec_follows made
    cases running <;> grind [Piece.Follows, Loading.EndsWith, Piece.endsProcess]
  · obtain ⟨⟨task, rest⟩, -, same⟩ := Option.map_eq_some_iff.mp taken
    simp only [Prod.mk.injEq] at same
    obtain ⟨rfl, -⟩ := same
    cases task <;> grind [WorkTask.pieces, Piece.endsProcess]

/-- A run that ends no process has every process stop at home. -/
theorem guarded_stopsAtHome {saProfiles : List SaProfile} {labels : List MachineLabel}
    (keeps : ∀ label ∈ labels, label.keepsProcesses = true) (sa : Int) :
    Runs.Guarded step (fun x label => x.stopsAtHome sa label = true) (init saProfiles) labels := by
  refine Runs.Guarded.along (fun x : Machine => ∀ piece ∈ x.inFlight, piece.endsProcess = false)
    (fun x label kept calm => step_calm kept calm) ?_ (Runs.guarded_of_forall keeps _)
    fun _ member => absurd member List.not_mem_nil
  intro x label _ calm
  simp only [stopsAtHome]
  split
  · rename_i processName next
    obtain ⟨-, others, opened, -⟩ := Threads.Config.step_of_next next
    cases calm _ (opened.mem_iff.mpr List.mem_cons_self)
  · rfl

/-- In a run in which the ability's processes stop at home, its entries are covered. -/
theorem run_tended {saProfiles : List SaProfile} {labels : List MachineLabel}
    (known : sa ∈ (Scheduler.init saProfiles).abilityIds)
    (guarded : Runs.Guarded step (fun x label => x.stopsAtHome sa label = true) (init saProfiles)
      labels) : Tended (Scheduler.init saProfiles) sa (runFrom saProfiles labels) :=
  Runs.guarded_invariant (Tended (Scheduler.init saProfiles) sa)
    (fun _ _ stops good => step_tended known stops good) guarded (tended_init saProfiles sa)

theorem run_numbered (saProfiles : List SaProfile) (labels : List MachineLabel) :
    Manager.Numbered (runFrom saProfiles labels).shared (runFrom saProfiles labels).inFlight :=
  Runs.run_invariant (fun x : Machine => Manager.Numbered x.shared x.inFlight)
    (fun _ _ => step_numbered) labels (numbered_init saProfiles)

/-- In a run without the end of a process, no entry is reported twice, and every local entry
that still waits has its check-loaded task, an added message, or a call that owes one. -/
theorem load_callback_not_lost_not_doubled (saProfiles : List SaProfile) (labels : List MachineLabel)
    (keeps : ∀ label ∈ labels, label.keepsProcesses = true) :
    ((runFrom saProfiles labels).shared.reports.filterMap Report.entry).Nodup ∧
      ∀ sa ∈ (Scheduler.init saProfiles).abilityIds,
        ∀ entry ∈ (runFrom saProfiles labels).shared.callbacksOf sa LOCAL_DEVICE,
          Covered (runFrom saProfiles labels).shared (runFrom saProfiles labels).inFlight sa
            entry.callback := by
  refine ⟨?_, fun sa known => ?_⟩
  · have once := (run_numbered saProfiles labels).once
    exact (List.nodup_append.mp (List.nodup_append.mp once).2.1).2.1
  · exact (run_tended known (guarded_stopsAtHome keeps sa)).attended.covered

/-- Ability 1 is registered between the check of a load and the registration of its callback:
the check-loaded tasks are cancelled first, and the entry comes after. -/
def lateEntry : List MachineLabel :=
  [.call (.addSystemProcess ⟨"host", 100, 1000⟩ 3)] ++ runs 0 3 ++
    [.call (.load (Scheduler.localLoad 1 7 70))] ++ runs 1 3 ++
    [.call (.addSystemAbility 1 5 false)] ++ runs 2 5 ++ runs 1 1

theorem lateEntry_is_covered :
    (runFrom hostOfOne lateEntry).shared.callbacksOf 1 LOCAL_DEVICE ≠ [] ∧
      ∀ entry ∈ (runFrom hostOfOne lateEntry).shared.callbacksOf 1 LOCAL_DEVICE,
        Covered (runFrom hostOfOne lateEntry).shared (runFrom hostOfOne lateEntry).inFlight 1
          entry.callback :=
  ⟨by decide +kernel,
    (load_callback_not_lost_not_doubled hostOfOne lateEntry (by decide +kernel)).2 1
      (by decide +kernel)⟩

end Machine

end Samgr
