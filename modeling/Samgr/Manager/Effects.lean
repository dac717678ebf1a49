import Samgr.Manager.Frames

/-! What the pieces do to each part of the manager: which of them change the registry and
how, which tasks they post and cancel, and which callback entries they add and take out. -/
namespace Samgr

/-- What a piece does to the registry, with the pieces that follow from it. -/
inductive RegistryMove (m : Manager) (piece : Piece) (n : Manager) (made : List Piece) : Prop
  | same (kept : n.abilityMap = m.abilityMap) (past : n.history = m.history)
  | inserted (sa : Int) (saInfo : SAInfo) (source : piece = .insertAbility sa saInfo)
      (after : n.abilityMap = m.abilityMap.insert sa saInfo)
      (past : n.history = n.abilityMap :: m.history)
      (next : made = [.removeCheckLoadedMsg sa, .updateLimitDelayUnloadTime sa,
        .sendAbilityStateEvent sa .abilityLoadSuccessEvent,
        .sendSystemAbilityAddedMsg sa saInfo.remoteObj])
  | erased (sa : Int) (before : sa ∈ m.abilityMap) (after : n.abilityMap = m.abilityMap.erase sa)
      (past : n.history = n.abilityMap :: m.history)
      (source : piece = .eraseAbility sa ∨ piece = .eraseDiedAbility sa ∨
        ∃ ability, piece = .eraseObject ability)
      (next : sa ≠ 0 ∨ (∀ ability, piece ≠ .eraseObject ability) →
        .sendSystemAbilityRemovedMsg sa ∈ made)

namespace Manager

theorem mem_of_findObject {m : Manager} {ability : Nat} {sa : Int}
    (found : m.findObject ability = some sa) : sa ∈ m.abilityMap := by
  obtain ⟨⟨id, saInfo⟩, first, same⟩ := Option.map_eq_some_iff.mp found
  obtain rfl : id = sa := same
  have listed := List.mem_of_find?_eq_some first
  exact Std.TreeMap.mem_iff_isSome_getElem?.mpr
    (by rw [Std.TreeMap.mem_toList_iff_getElem?_eq_some.mp listed]; rfl)

theorem exec_registry {env : Env} {m : Manager} (piece : Piece) :
    RegistryMove m piece (m.exec env piece).1 (m.exec env piece).2 := by
  by_cases touched : Part.registry ∈ piece.touches
  case neg =>
    have kept : Part.registry.Same m (m.exec env piece).1 := exec_keeps piece .registry touched
    exact .same kept.1 kept.2
  cases piece with
  | insertAbility sa saInfo =>
      simp only [exec, insertAbility]
      split
      · exact .same rfl rfl
      · rename_i inserted result
        split at result
        · cases result
        · cases result
          refine .inserted sa saInfo rfl rfl ?_ rfl
          simp only [setRegistry]
          split <;> rfl
  | eraseAbility sa =>
      simp only [exec, eraseAbility]
      split
      · exact .same rfl rfl
      · rename_i erased result
        split at result
        · rename_i before
          cases result
          exact .erased sa before rfl rfl (Or.inl rfl) fun _ => by simp
        · cases result
  | eraseDiedAbility sa =>
      simp only [exec, eraseAbility]
      split
      · exact .same rfl rfl
      · rename_i erased result
        split at result
        · rename_i before
          cases result
          exact .erased sa before rfl rfl (Or.inr (Or.inl rfl)) fun _ => by simp
        · cases result
  | eraseObject ability =>
      simp only [exec]
      split
      · exact .same rfl rfl
      · rename_i sa found
        refine .erased sa (mem_of_findObject found) rfl rfl (Or.inr (Or.inr ⟨ability, rfl⟩)) ?_
        rintro (nonzero | other)
        · simp [nonzero]
        · exact absurd rfl (other ability)
  | _ => simp [Piece.touches] at touched

end Manager

/-- An ability that is registered after a piece was so before, or the piece registered it and
its load success is still to be delivered. -/
theorem RegistryMove.registered {m n : Manager} {piece : Piece} {made : List Piece} {sa : Int}
    (move : RegistryMove m piece n made) (after : sa ∈ n.abilityMap) :
    sa ∈ m.abilityMap ∨ .sendAbilityStateEvent sa .abilityLoadSuccessEvent ∈ made := by
  cases move with
  | same kept past => exact Or.inl (kept ▸ after)
  | inserted id saInfo source result past next =>
      by_cases own : id = sa
      · subst own
        exact Or.inr (by simp [next])
      · rw [result, Std.TreeMap.mem_insert] at after
        rcases after with same | before
        · exact absurd (Std.LawfulEqCmp.eq_of_compare same) own
        · exact Or.inl before
  | erased id before result past source next =>
      rw [result, Std.TreeMap.mem_erase] at after
      exact Or.inl after.2

/-- The task is posted by the piece. -/
def WorkTask.PostedBy (m : Manager) (task : WorkTask) : Piece → Prop
  | .insertAbility sa _ => task = .notifyRemoved sa ∧ sa ∈ m.abilityMap
  | .sendSystemAbilityAddedMsg sa remoteObject => task = .notifyAdded sa remoteObject
  | .sendSystemAbilityRemovedMsg sa => task = .notifyRemoved sa
  | .sendLoadedSystemAbilityMsg load remoteObject =>
      task = .notifyLoaded load.systemAbilityId remoteObject load.callback load.since
  | .sendCheckLoadedMsg load =>
      task = .checkLoaded load.systemAbilityId (m.sched.ownProcessName load.systemAbilityId)
        load.request.deviceId load.callback
  | .addOnDemandSystemAbilityInfo sa procName => task = .startOnDemand procName sa
  | .cleanCallback sa srcDeviceId callback =>
      ∃ item found, m.startingAbilityMap[sa]? = some item ∧
        Manager.failingCallback srcDeviceId callback item = some found ∧
        task = .notifyLoadFail sa found
  | .checkListenerNotify sa listener => task = .listenerNotify sa listener
  | _ => False

/-- The ability whose check-loaded tasks the piece cancels. -/
def Piece.cancels : Piece → Option Int
  | .removeCheckLoadedMsg sa | .onStartSystemAbilityFail sa _ _ => some sa
  | _ => none

/-- The task is a check-loaded task of the ability. -/
def WorkTask.Checks (sa : Int) (task : WorkTask) : Prop :=
  ∃ name srcDeviceId callback, task = .checkLoaded sa name srcDeviceId callback

/-- What a piece does to the queue of the work handler: only check-loaded tasks are delayed,
and they alone are recorded under a name. -/
inductive WorkMove (m : Manager) (piece : Piece) (queue : TaskQueue Int WorkTask) : Prop
  | same (kept : queue = m.workHandler)
  | posted (task : WorkTask) (source : task.PostedBy m piece) (after : queue = m.workHandler.post task)
  | delayed (sa : Int) (task : WorkTask) (source : task.PostedBy m piece) (checks : task.Checks sa)
      (after : queue = m.workHandler.postNamed sa task)
  | removed (sa : Int) (cancels : piece.cancels = some sa) (after : queue = m.workHandler.removeTask sa)
  | forgot (sa : Int) (after : queue = m.workHandler.delTask sa)

namespace Manager

variable {env : Env} {m : Manager} {piece : Piece} {entry : Nat × WorkTask}

theorem mem_waiting_postTask {task : WorkTask} :
    entry ∈ (m.postTask task).workHandler.waiting ↔
      entry = (m.workHandler.next, task) ∨ entry ∈ m.workHandler.waiting :=
  TaskQueue.mem_waiting_post

theorem waiting_startFail {sa errCode : Int} {process : String} :
    (m.onStartSystemAbilityFail sa errCode process).workHandler = m.workHandler ∨
      (m.onStartSystemAbilityFail sa errCode process).workHandler = m.workHandler.removeTask sa := by
  simp only [onStartSystemAbilityFail]
  split
  · split <;> exact Or.inl rfl
  · split <;> exact Or.inr rfl

theorem cleanCallback_work {sa : Int} {srcDeviceId : String} {callback : RemoteInterface} :
    WorkMove m (.cleanCallback sa srcDeviceId callback)
      (m.cleanCallbackForLoadFailed sa srcDeviceId callback).workHandler := by
  cases found : m.startingAbilityMap[sa]? with
  | none => exact .same (by simp only [cleanCallbackForLoadFailed, found])
  | some item =>
      have queue : (m.cleanCallbackForLoadFailed sa srcDeviceId callback).workHandler =
          (m.failCallback sa (failingCallback srcDeviceId callback item)).workHandler := by
        simp only [cleanCallbackForLoadFailed, found]
        split <;> rfl
      rw [queue]
      cases failing : failingCallback srcDeviceId callback item with
      | none => exact .same rfl
      | some failed => exact .posted _ ⟨item, failed, found, failing, rfl⟩ rfl

theorem exec_work : WorkMove m piece (m.exec env piece).1.workHandler := by
  by_cases touched : Part.work ∈ piece.touches
  case neg => exact .same (exec_keeps piece .work touched)
  cases piece with
  | insertAbility sa saInfo =>
      simp only [exec, insertAbility]
      split
      · exact .same rfl
      · rename_i inserted result
        split at result
        · cases result
        · cases result
          simp only [setRegistry]
          split
          · exact .posted _ ⟨rfl, by assumption⟩ rfl
          · exact .same rfl
  | removeCheckLoadedMsg sa => exact .removed sa rfl rfl
  | delTask sa => exact .forgot sa rfl
  | sendSystemAbilityAddedMsg sa remoteObject => exact .posted _ rfl rfl
  | sendSystemAbilityRemovedMsg sa => exact .posted _ rfl rfl
  | sendLoadedSystemAbilityMsg load remoteObject => exact .posted _ rfl rfl
  | sendCheckLoadedMsg load => exact .delayed _ _ rfl ⟨_, _, _, rfl⟩ rfl
  | addOnDemandSystemAbilityInfo sa procName =>
      simp only [exec, addOnDemandSystemAbilityInfo]
      split
      · exact .same rfl
      · split
        · exact .posted _ rfl rfl
        · exact .same rfl
  | onStartSystemAbilityFail sa errCode process =>
      rcases waiting_startFail (m := m) with same | removed
      · exact .same same
      · exact .removed sa rfl removed
  | cleanCallback sa srcDeviceId callback => exact cleanCallback_work
  | checkListenerNotify sa listener =>
      simp only [exec, checkListenerNotify]
      split
      · exact .posted _ rfl rfl
      · exact .same rfl
  | _ => simp [Piece.touches] at touched

/-- A task that waits after a piece waited before, or the piece posted it. -/
theorem exec_posts (waits : entry ∈ (m.exec env piece).1.workHandler.waiting) :
    entry ∈ m.workHandler.waiting ∨ entry.2.PostedBy m piece := by
  have move : WorkMove m piece (m.exec env piece).1.workHandler := exec_work
  cases move with
  | same kept => exact Or.inl (kept ▸ waits)
  | posted task source after =>
      rw [after, TaskQueue.mem_waiting_post] at waits
      rcases waits with rfl | waits
      · exact Or.inr source
      · exact Or.inl waits
  | delayed sa task source checks after =>
      rw [after, TaskQueue.mem_waiting_postNamed] at waits
      rcases waits with rfl | waits
      · exact Or.inr source
      · exact Or.inl waits
  | removed sa cancels after =>
      rw [after, TaskQueue.mem_waiting_removeTask] at waits
      exact Or.inl waits.1
  | forgot sa after =>
      rw [after] at waits
      exact Or.inl waits

/-- A waiting task keeps waiting, unless the piece cancels it by its handle. -/
theorem exec_keepsWaiting (waits : entry ∈ m.workHandler.waiting) :
    entry ∈ (m.exec env piece).1.workHandler.waiting ∨
      ∃ sa, piece.cancels = some sa ∧ entry.1 ∈ m.workHandler.handles sa := by
  have move : WorkMove m piece (m.exec env piece).1.workHandler := exec_work
  cases move with
  | same kept =>
      rw [kept]
      exact Or.inl waits
  | posted task source after =>
      rw [after]
      exact Or.inl (TaskQueue.mem_waiting_post.mpr (Or.inr waits))
  | delayed sa task source checks after =>
      rw [after]
      exact Or.inl (TaskQueue.mem_waiting_postNamed.mpr (Or.inr waits))
  | removed sa cancels after =>
      by_cases named : entry.1 ∈ m.workHandler.handles sa
      · exact Or.inr ⟨sa, cancels, named⟩
      · rw [after]
        exact Or.inl (TaskQueue.mem_waiting_removeTask.mpr ⟨waits, named⟩)
  | forgot sa after =>
      rw [after]
      exact Or.inl waits

/-- Only check-loaded tasks of an ability are recorded under its id. -/
def Named (m : Manager) : Prop := TaskQueue.Named WorkTask.Checks m.workHandler

theorem exec_named (good : m.Named) : (m.exec env piece).1.Named := by
  have move : WorkMove m piece (m.exec env piece).1.workHandler := exec_work
  unfold Named
  cases move with
  | same kept =>
      rw [kept]
      exact good
  | posted task source after =>
      rw [after]
      exact TaskQueue.Named.post good task
  | delayed sa task source checks after =>
      rw [after]
      exact TaskQueue.Named.postNamed good checks
  | removed sa cancels after =>
      rw [after]
      exact TaskQueue.Named.removeTask good sa
  | forgot sa after =>
      rw [after]
      exact TaskQueue.Named.delTask good sa

/-- A waiting task keeps waiting, unless it checks an ability whose checks the piece cancels. -/
theorem exec_keepsTask (good : m.Named) {entry : Nat × WorkTask} (waits : entry ∈ m.workHandler.waiting) :
    entry ∈ (m.exec env piece).1.workHandler.waiting ∨
      ∃ sa, piece.cancels = some sa ∧ entry.2.Checks sa := by
  rcases exec_keepsWaiting waits with still | ⟨sa, cancels, recorded⟩
  · exact Or.inl still
  · exact Or.inr ⟨sa, cancels, (TaskQueue.Named.named good sa entry.1 recorded).2 entry.2 waits⟩

end Manager

/-- The report is made by the piece. -/
def Report.MadeBy (m : Manager) (report : Report) : Piece → Prop
  | .notifySystemAbilityLoaded sa remoteObject =>
      ∃ item entry, m.startingAbilityMap[sa]? = some item ∧ entry ∈ item.callbacks ∧
        report = .onLoadSystemAbilitySuccess sa remoteObject entry.callback entry.since (some entry.id)
  | .onStartSystemAbilityFail sa errCode _ =>
      ∃ item entry, m.startingAbilityMap[sa]? = some item ∧ entry ∈ item.callbacks ∧
        report = .onLoadSystemAbilityFail sa errCode entry.callback entry.id
  | .notifyLoaded sa remoteObject callback since =>
      report = .onLoadSystemAbilitySuccess sa remoteObject callback since none
  | .notifyLoadFail sa callbackItem =>
      report = .onLoadSystemAbilityFail sa LOAD_SA_TIMEOUT callbackItem.callback callbackItem.id
  | .listenerNotify sa listener => report = .onAddSystemAbility sa listener
  | .findSystemAbilityNotify sa added =>
      ∃ listener, report = if added then .onAddSystemAbility sa listener
        else .onRemoveSystemAbility sa listener
  | .startOnDemandAbility _ | .doLoadOnDemandAbility _ _ | .startNamedAbility _ _ =>
      ∃ procName sa event, report = .startAbility procName sa event
  | _ => False

namespace Manager

variable {env : Env} {m : Manager} {piece : Piece}

/-- New reports come in front of the old ones. -/
def Reported (made : Report → Prop) (m n : Manager) : Prop :=
  ∃ new, n.reports = new ++ m.reports ∧ ∀ report ∈ new, made report

theorem Reported.none {made : Report → Prop} {n : Manager} (same : n.reports = m.reports) :
    Reported made m n :=
  ⟨[], same, fun _ member => absurd member List.not_mem_nil⟩

theorem Reported.one {made : Report → Prop} {report : Report} {n : Manager}
    (after : n.reports = report :: m.reports) (by_piece : made report) : Reported made m n :=
  ⟨[report], after, fun _ member => List.mem_singleton.mp member ▸ by_piece⟩

theorem startOnDemandAbilityInner_reports {procName : String} {sa : Int} {item : AbilityItem} :
    Reported (fun report => ∃ procName sa event, report = .startAbility procName sa event) m
      (m.startOnDemandAbilityInner procName sa item).1 := by
  simp only [startOnDemandAbilityInner]
  split
  · exact .none rfl
  · exact .one rfl ⟨_, _, _, rfl⟩

theorem startOnDemandAbilityLocked_reports {sa : Int} :
    Reported (fun report => ∃ procName sa event, report = .startAbility procName sa event) m
      (m.startOnDemandAbilityLocked sa).1 := by
  simp only [startOnDemandAbilityLocked]
  split
  · exact .none rfl
  · exact startOnDemandAbilityInner_reports

/-- What a piece reports. -/
theorem exec_reports (env : Env) (m : Manager) (piece : Piece) :
    Reported (fun report => report.MadeBy m piece) m (m.exec env piece).1 := by
  by_cases touched : Part.reports ∈ piece.touches
  case neg => exact .none (exec_keeps piece .reports touched)
  cases piece with
  | notifySystemAbilityLoaded sa remoteObject =>
      cases found : m.startingAbilityMap[sa]? with
      | none => exact .none (by simp [exec, notifySystemAbilityLoaded, found])
      | some item =>
          refine ⟨_, by simp only [exec, notifySystemAbilityLoaded, found, reportItem]; rfl, ?_⟩
          intro report member
          obtain ⟨entry, inside, rfl⟩ := List.mem_map.mp (List.mem_reverse.mp member)
          exact ⟨item, entry, found, inside, rfl⟩
  | onStartSystemAbilityFail sa errCode process =>
      have known : (if sa ∈ m.onDemandAbilityMap then m
          else { m with onDemandAbilityMap := m.onDemandAbilityMap.insert sa process }).startingAbilityMap =
          m.startingAbilityMap := by
        split <;> rfl
      have past : (if sa ∈ m.onDemandAbilityMap then m
          else { m with onDemandAbilityMap := m.onDemandAbilityMap.insert sa process }).reports =
          m.reports := by
        split <;> rfl
      simp only [exec, onStartSystemAbilityFail]
      split
      · exact .none past
      · rename_i item found
        rw [known] at found
        refine ⟨_, congrArg (_ ++ ·) past, ?_⟩
        intro report member
        obtain ⟨entry, inside, rfl⟩ := List.mem_map.mp (List.mem_reverse.mp member)
        exact ⟨item, entry, found, inside, rfl⟩
  | notifyLoaded sa remoteObject callback since => exact .one rfl rfl
  | notifyLoadFail sa callbackItem => exact .one rfl rfl
  | listenerNotify sa listener => exact .one rfl rfl
  | findSystemAbilityNotify sa added =>
      simp only [exec]
      split
      · exact .none rfl
      · split
        · rename_i isAdded
          refine ⟨_, rfl, fun report member => ?_⟩
          obtain ⟨item, -, rfl⟩ := List.mem_map.mp (List.mem_reverse.mp member)
          exact ⟨item.listener, by rw [if_pos isAdded]⟩
        · rename_i isRemoved
          refine ⟨_, rfl, fun report member => ?_⟩
          obtain ⟨item, -, rfl⟩ := List.mem_map.mp (List.mem_reverse.mp member)
          exact ⟨item.listener, by rw [if_neg isRemoved]⟩
  | startOnDemandAbility load => exact startOnDemandAbilityLocked_reports
  | doLoadOnDemandAbility processName sa =>
      simp only [exec, doLoadOnDemandAbility]
      split
      · exact .none rfl
      · split
        · exact .none rfl
        · obtain ⟨new, after, made⟩ := startOnDemandAbilityLocked_reports (m := m.setItem sa _)
          exact ⟨new, after, made⟩
  | startNamedAbility procName sa =>
      simp only [exec, startNamedAbilityLocked]
      split
      · exact .none rfl
      · exact startOnDemandAbilityInner_reports
  | _ => simp [Piece.touches] at touched

end Manager

namespace Machine

variable {x : Machine} {label : MachineLabel}

theorem step_named (good : x.shared.Named) : (x.step label).shared.Named := by
  refine step_keeps (fun m _ => m.Named) (fun _ named => named) (fun _ _ named => named) ?_ ?_ ?_ good
  · exact fun env piece others _ _ _ named => Manager.exec_named named
  · exact fun task rest pieces popped named => TaskQueue.Named.pop named popped
  · exact fun handle named => TaskQueue.Named.expire named handle

end Machine

end Samgr
