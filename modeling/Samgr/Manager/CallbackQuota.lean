import Samgr.Manager.Entries

/-! The quota of load callbacks. Every entry of a local request is charged to the pid that made
it; entries of remote requests carry the pid 0 and are charged to nobody. An ability has one
local entry for an object at most, so an entry that goes is uncounted once. -/
namespace Samgr

/-- The pids of the entries of an item, each as often as it has entries. -/
def AbilityItem.callers (item : AbilityItem) : List Int :=
  Quota.all item.callbackMap fun callbacks => callbacks.map CallbackItem.callingPid

theorem AbilityItem.callers_eq (item : AbilityItem) :
    item.callbacks.map CallbackItem.callingPid = item.callers := by
  simp only [AbilityItem.callbacks, AbilityItem.callers, Quota.all, List.map_flatMap]

theorem AbilityItem.listAt_callers {item : AbilityItem} {deviceId : String} :
    Quota.listAt item.callbackMap (fun callbacks => callbacks.map CallbackItem.callingPid) deviceId =
      (item.listOf deviceId).map CallbackItem.callingPid := by
  unfold Quota.listAt AbilityItem.listOf
  cases item.callbackMap[deviceId]? <;> rfl

/-- Items whose entries differ for one device only. -/
theorem AbilityItem.callers_add {item changed : AbilityItem} {deviceId : String}
    (agree : ∀ other, other ≠ deviceId → changed.callbackMap[other]? = item.callbackMap[other]?)
    (pid : Int) :
    changed.callers.count pid + ((item.listOf deviceId).map CallbackItem.callingPid).count pid =
      item.callers.count pid + ((changed.listOf deviceId).map CallbackItem.callingPid).count pid := by
  rw [← AbilityItem.listAt_callers, ← AbilityItem.listAt_callers]
  exact Quota.count_all_add agree pid

namespace Manager

variable {env : Env} {m n : Manager} {piece : Piece}

/-- The pids of all entries, each as often as it has entries. -/
def callers (m : Manager) : List Int := Quota.all m.startingAbilityMap AbilityItem.callers

theorem listAt_itemAt {sa : Int} :
    Quota.listAt m.startingAbilityMap AbilityItem.callers sa = (m.itemAt sa).callers := by
  unfold Quota.listAt itemAt
  cases m.startingAbilityMap[sa]? with
  | none => simp [AbilityItem.callers, Quota.all]
  | some item => rfl

theorem callers_add {sa : Int}
    (agree : ∀ id, id ≠ sa → n.startingAbilityMap[id]? = m.startingAbilityMap[id]?) (pid : Int) :
    n.callers.count pid + (m.itemAt sa).callers.count pid =
      m.callers.count pid + (n.itemAt sa).callers.count pid := by
  rw [← listAt_itemAt, ← listAt_itemAt]
  exact Quota.count_all_add agree pid

/-- What a piece does to the callers of the entries and to their counts, for one pid. -/
inductive CallerMove (m n : Manager) (pid : Int) : Prop
  | same (callers : n.callers.count pid = m.callers.count pid)
      (counts : n.callbackCountMap = m.callbackCountMap)
  | added (caller : Int) (room : Quota.count m.callbackCountMap caller < Scheduler.MAX_SUBSCRIBE_COUNT)
      (callers : n.callers.count pid = m.callers.count pid + [caller].count pid)
      (counts : n.callbackCountMap = Quota.charge m.callbackCountMap caller)
  | gone (left : List CallbackItem)
      (callers : n.callers.count pid + (left.map CallbackItem.callingPid).count pid =
        m.callers.count pid)
      (counts : n.callbackCountMap = uncount m.callbackCountMap left)

theorem callers_setItem {sa : Int} {item : AbilityItem} (pid : Int) :
    (m.setItem sa item).callers.count pid + (m.itemAt sa).callers.count pid =
      m.callers.count pid + item.callers.count pid := by
  have counted := callers_add (n := m.setItem sa item) (m := m)
    (fun id apart => Quota.getElem?_insert_of_ne apart) pid
  rw [itemAt_setItem, if_pos rfl] at counted
  exact counted

theorem callers_erase {sa : Int} (erased : n.startingAbilityMap = m.startingAbilityMap.erase sa)
    (pid : Int) : n.callers.count pid + (m.itemAt sa).callers.count pid = m.callers.count pid := by
  have counted := callers_add (n := n) (m := m)
    (fun id apart => by rw [erased]; exact Quota.getElem?_erase_of_ne apart) pid
  have bare : AbilityItem.callers {} = [] := by simp [AbilityItem.callers, Quota.all]
  rw [itemAt_erase erased, if_pos rfl, bare] at counted
  exact counted

/-- No caller comes or goes. -/
def SameCallers (m n : Manager) : Prop :=
  (∀ pid, n.callers.count pid = m.callers.count pid) ∧ n.callbackCountMap = m.callbackCountMap

theorem sameCallers_setItem {sa : Int} {item : AbilityItem}
    (same : ∀ pid, item.callers.count pid = (m.itemAt sa).callers.count pid) :
    SameCallers m (m.setItem sa item) := by
  refine ⟨fun pid => ?_, rfl⟩
  have counted : (m.setItem sa item).callers.count pid + (m.itemAt sa).callers.count pid =
      m.callers.count pid + item.callers.count pid := callers_setItem pid
  rw [same] at counted
  omega

theorem startOnDemandAbilityInner_callers {procName : String} {sa : Int} {item : AbilityItem}
    (own : item.callers = (m.itemAt sa).callers) :
    SameCallers m (m.startOnDemandAbilityInner procName sa item).1 := by
  simp only [startOnDemandAbilityInner]
  split
  · exact ⟨fun _ => rfl, rfl⟩
  · exact sameCallers_setItem fun pid => congrArg (List.count pid) own

theorem startOnDemandAbilityLocked_callers {sa : Int} :
    SameCallers m (m.startOnDemandAbilityLocked sa).1 := by
  simp only [startOnDemandAbilityLocked]
  split
  · exact ⟨fun _ => rfl, rfl⟩
  · rename_i procName _
    have opened : SameCallers m (m.setItem sa (m.itemAt sa)) := sameCallers_setItem fun _ => rfl
    have started : SameCallers (m.setItem sa (m.itemAt sa))
        ((m.setItem sa (m.itemAt sa)).startOnDemandAbilityInner procName sa (m.itemAt sa)).1 := by
      refine startOnDemandAbilityInner_callers ?_
      rw [itemAt_setItem, if_pos rfl]
    exact ⟨fun pid => (started.1 pid).trans (opened.1 pid), started.2.trans opened.2⟩

theorem doLoadOnDemandAbility_callers {sa : Int} : SameCallers m (m.doLoadOnDemandAbility sa).1 := by
  simp only [doLoadOnDemandAbility]
  split
  · exact ⟨fun _ => rfl, rfl⟩
  · split
    · exact ⟨fun _ => rfl, rfl⟩
    · have asked : SameCallers m (m.setItem sa
          { m.itemAt sa with event := { eventId := INTERFACE_CALL, name := "get" } }) :=
        sameCallers_setItem fun _ => rfl
      have started : SameCallers (m.setItem sa
          { m.itemAt sa with event := { eventId := INTERFACE_CALL, name := "get" } })
          ((m.setItem sa { m.itemAt sa with
            event := { eventId := INTERFACE_CALL, name := "get" } }).startOnDemandAbilityLocked sa).1 :=
        startOnDemandAbilityLocked_callers
      exact ⟨fun pid => (started.1 pid).trans (asked.1 pid), started.2.trans asked.2⟩

theorem startNamedAbilityLocked_callers {procName : String} {sa : Int} :
    SameCallers m (m.startNamedAbilityLocked procName sa) := by
  simp only [startNamedAbilityLocked]
  split
  · exact ⟨fun _ => rfl, rfl⟩
  · rename_i item found
    refine startOnDemandAbilityInner_callers ?_
    rw [itemAt_of_found found]

/-- An item that differs from the one it replaces for one device. -/
theorem callers_put {sa : Int} {changed : AbilityItem} {deviceId : String}
    (agree : ∀ other, other ≠ deviceId →
      changed.callbackMap[other]? = (m.itemAt sa).callbackMap[other]?) (pid : Int) :
    (m.setItem sa changed).callers.count pid +
        (((m.itemAt sa).listOf deviceId).map CallbackItem.callingPid).count pid =
      m.callers.count pid + ((changed.listOf deviceId).map CallbackItem.callingPid).count pid := by
  have whole : (m.setItem sa changed).callers.count pid + (m.itemAt sa).callers.count pid =
      m.callers.count pid + changed.callers.count pid := callers_setItem pid
  have part : changed.callers.count pid +
        (((m.itemAt sa).listOf deviceId).map CallbackItem.callingPid).count pid =
      (m.itemAt sa).callers.count pid +
        ((changed.listOf deviceId).map CallbackItem.callingPid).count pid :=
    AbilityItem.callers_add agree pid
  omega

theorem callers_append {sa : Int} {state : AbilityState} {event : OnDemandEvent} {deviceId : String}
    {entry : CallbackItem} (pid : Int) :
    (m.setItem sa
        { state, event
          callbackMap := (m.itemAt sa).callbackMap.insert deviceId
            ((m.itemAt sa).listOf deviceId ++ [entry]) }).callers.count pid =
      m.callers.count pid + [entry.callingPid].count pid := by
  let changed : AbilityItem :=
    { state, event
      callbackMap := (m.itemAt sa).callbackMap.insert deviceId
        ((m.itemAt sa).listOf deviceId ++ [entry]) }
  have own : changed.listOf deviceId = (m.itemAt sa).listOf deviceId ++ [entry] := by
    rw [AbilityItem.listOf_insert, if_pos rfl]
  have put : (m.setItem sa changed).callers.count pid +
        (((m.itemAt sa).listOf deviceId).map CallbackItem.callingPid).count pid =
      m.callers.count pid + ((changed.listOf deviceId).map CallbackItem.callingPid).count pid :=
    callers_put (fun other apart => Quota.getElem?_insert_of_ne apart) pid
  rw [own, List.map_append, List.count_append] at put
  exact Nat.add_right_cancel (put.trans (by
    rw [Nat.add_comm _ (List.count pid (List.map _ [entry])), ← Nat.add_assoc]
    rfl))

theorem registerCallback_callers {sa : Int} {callback : RemoteInterface} {callingPid : Int}
    {event : OnDemandEvent} {since : Nat} (pid : Int) :
    CallerMove m (m.registerCallback sa callback callingPid event since).1 pid := by
  have opened : CallerMove m (m.setItem sa
      { m.itemAt sa with
        callbackMap := (m.itemAt sa).callbackMap.insert LOCAL_DEVICE
          ((m.itemAt sa).listOf LOCAL_DEVICE) }) pid := by
    refine .same ((sameCallers_setItem fun pid => ?_).1 pid) rfl
    refine Quota.count_all_of_same (fun other apart => Quota.getElem?_insert_of_ne apart) ?_ pid
    simp only [Quota.listAt, Std.TreeMap.getElem?_insert_self, AbilityItem.listOf]
    cases (m.itemAt sa).callbackMap[LOCAL_DEVICE]? <;> rfl
  simp only [registerCallback]
  split
  · exact opened
  · split
    · exact opened
    · rename_i room
      exact .added callingPid (by omega) (callers_append pid) rfl

/-- The entry of a remote request is charged to nobody. -/
theorem registerRpcCallback_callers {sa : Int} {srcDeviceId : String} {callback : RemoteInterface}
    {since : Nat} {pid : Int} (counted : pid ≠ 0) :
    CallerMove m (m.registerRpcCallback sa srcDeviceId callback since) pid := by
  refine .same ?_ rfl
  refine (callers_append pid).trans ?_
  simp [Ne.symm counted]

theorem reportItem_callers {known : Manager} {sa : Int} {item : AbilityItem}
    {report : CallbackItem → Report} (items : known.startingAbilityMap = m.startingAbilityMap)
    (counts : known.callbackCountMap = m.callbackCountMap)
    (found : m.startingAbilityMap[sa]? = some item) (pid : Int) :
    CallerMove m (known.reportItem sa item report) pid := by
  refine .gone item.callbacks ?_ (congrArg (uncount · item.callbacks) counts)
  rw [AbilityItem.callers_eq, ← itemAt_of_found found]
  exact callers_erase (congrArg (·.erase sa) items) pid

/-- The callbacks of a device after the death of an object, and those that went with it. -/
theorem left_callers {remoteObject : Nat} (pid : Int) (callbacks : List CallbackItem) :
    ((((if (callbacks.eraseP fun other => other.callback.object == remoteObject).isEmpty then none
        else some (callbacks.eraseP fun other => other.callback.object == remoteObject)).map
          fun left : List CallbackItem => left.map CallbackItem.callingPid).getD []).count pid) +
      (((callbacks.find? fun other => other.callback.object == remoteObject).toList.map
        CallbackItem.callingPid).count pid) = (callbacks.map CallbackItem.callingPid).count pid := by
  rw [← Quota.count_eraseP_add (fun other => other.callback.object == remoteObject)
    CallbackItem.callingPid callbacks pid]
  congr 1
  · split
    · rename_i empty
      rw [List.isEmpty_iff.mp empty]
      rfl
    · rfl
  · cases callbacks.find? fun other => other.callback.object == remoteObject <;> rfl

theorem dropCallback_callers {remoteObject : Nat} (pid : Int) (item : AbilityItem) :
    (dropCallback remoteObject item).callers.count pid +
        ((droppedCallbacks remoteObject item).map CallbackItem.callingPid).count pid =
      item.callers.count pid := by
  simp only [AbilityItem.callers, dropCallback, droppedCallbacks, List.map_flatMap]
  exact Quota.count_filterMap_add (left_callers pid)

theorem callers_of_isEmpty {item : AbilityItem} (empty : item.callbackMap.isEmpty) : item.callers = [] := by
  have none : item.callbackMap.toList = [] := by
    rw [← List.isEmpty_iff, Std.TreeMap.isEmpty_toList]
    exact empty
  rw [AbilityItem.callers, Quota.all, none]
  rfl

theorem onAbilityCallbackDied_callers_add {remoteObject : Nat} (pid : Int) :
    (m.onAbilityCallbackDied remoteObject).callers.count pid +
        ((m.startingAbilityMap.toList.flatMap fun pair => droppedCallbacks remoteObject pair.2).map
          CallbackItem.callingPid).count pid = m.callers.count pid := by
  have split : ∀ item : AbilityItem,
      (((if (dropCallback remoteObject item).callbackMap.isEmpty then none
        else some (dropCallback remoteObject item)).map AbilityItem.callers).getD []).count pid +
        ((droppedCallbacks remoteObject item).map CallbackItem.callingPid).count pid =
      item.callers.count pid := by
    intro item
    rw [← dropCallback_callers pid item]
    congr 1
    split
    · rename_i empty
      rw [callers_of_isEmpty empty]
      rfl
    · rfl
  simp only [callers, onAbilityCallbackDied, List.map_flatMap]
  exact Quota.count_filterMap_add split

theorem onAbilityCallbackDied_callers {remoteObject : Nat} (pid : Int) :
    CallerMove m (m.onAbilityCallbackDied remoteObject) pid := by
  have counts : (m.onAbilityCallbackDied remoteObject).callbackCountMap = uncount m.callbackCountMap
      (m.startingAbilityMap.toList.flatMap fun pair => droppedCallbacks remoteObject pair.2) := by
    rw [onAbilityCallbackDied]
  exact .gone _ (onAbilityCallbackDied_callers_add pid) counts

theorem filter_found {callbacks : List CallbackItem} {found : CallbackItem}
    (single : (callbacks.map fun entry => entry.callback.object).Nodup) (inside : found ∈ callbacks)
    (pid : Int) :
    ((callbacks.filter fun other => other.callback ≠ found.callback ∨
        other.callingPid ≠ found.callingPid).map CallbackItem.callingPid).count pid +
      [found.callingPid].count pid = (callbacks.map CallbackItem.callingPid).count pid := by
  have only : (callbacks.filter fun other => other.callback ≠ found.callback ∨
      other.callingPid ≠ found.callingPid) = callbacks.erase found := by
    rw [(List.Nodup.of_map _ single).erase_eq_filter]
    refine List.filter_congr fun other member => ?_
    by_cases same : other.callback = found.callback
    · have equal : other = found :=
        List.inj_on_of_nodup_map single member inside (congrArg RemoteInterface.object same)
      simp [equal]
    · have differs : other ≠ found := fun equal => same (congrArg CallbackItem.callback equal)
      simp [same, differs]
  rw [only, ((List.perm_cons_erase inside).map CallbackItem.callingPid).count_eq pid, List.map_cons,
    List.count_cons, List.count_cons, List.count_nil, Nat.zero_add]

/-- What the timeout of a callback leaves of the callers of an item. -/
theorem withoutCallback_callers {srcDeviceId : String} {failing : Option CallbackItem} {item : AbilityItem}
    (pid : Int) :
    (withoutCallback srcDeviceId failing item).callers.count pid +
        ((item.listOf srcDeviceId).map CallbackItem.callingPid).count pid =
      item.callers.count pid + (((item.listOf srcDeviceId).filter fun other => failing.all fun found =>
        other.callback ≠ found.callback ∨ other.callingPid ≠ found.callingPid).map
          CallbackItem.callingPid).count pid := by
  have own : (withoutCallback srcDeviceId failing item).listOf srcDeviceId =
      (item.listOf srcDeviceId).filter fun other => failing.all fun found =>
        other.callback ≠ found.callback ∨ other.callingPid ≠ found.callingPid := by
    rw [listOf_withoutCallback, if_pos rfl]
  rw [← own]
  refine AbilityItem.callers_add (fun other apart => ?_) pid
  simp only [withoutCallback]
  split
  · exact Quota.getElem?_erase_of_ne apart
  · exact Quota.getElem?_insert_of_ne apart

theorem cleanCallback_callers_add {sa : Int} {srcDeviceId : String} {callback : RemoteInterface}
    {item : AbilityItem} (found : m.startingAbilityMap[sa]? = some item) (pid : Int) :
    (m.cleanCallbackForLoadFailed sa srcDeviceId callback).callers.count pid + item.callers.count pid =
      m.callers.count pid + (withoutCallback srcDeviceId (failingCallback srcDeviceId callback item)
        item).callers.count pid := by
  obtain rfl : m.itemAt sa = item := itemAt_of_found found
  have posted : (m.failCallback sa (failingCallback srcDeviceId callback
      (m.itemAt sa))).startingAbilityMap = m.startingAbilityMap := by
    cases failingCallback srcDeviceId callback (m.itemAt sa) <;> rfl
  simp only [cleanCallbackForLoadFailed, found]
  split
  · rename_i empty
    rw [callers_of_isEmpty empty, List.count_nil, Nat.add_zero]
    exact callers_erase rfl pid
  · have counted : ∀ failed : Manager, failed.startingAbilityMap = m.startingAbilityMap →
        ∀ left, (failed.setItem sa left).callers.count pid + (m.itemAt sa).callers.count pid =
          m.callers.count pid + left.callers.count pid := by
      intro failed kept left
      have put : (failed.setItem sa left).callers.count pid + (failed.itemAt sa).callers.count pid =
          failed.callers.count pid + left.callers.count pid := callers_setItem pid
      simpa only [itemAt, callers, kept] using put
    exact counted _ posted _

theorem cleanCallback_counts {sa : Int} {srcDeviceId : String} {callback : RemoteInterface}
    {item : AbilityItem} (found : m.startingAbilityMap[sa]? = some item) :
    (m.cleanCallbackForLoadFailed sa srcDeviceId callback).callbackCountMap =
      uncount m.callbackCountMap (failingCallback srcDeviceId callback item).toList := by
  simp only [cleanCallbackForLoadFailed, found]
  cases failingCallback srcDeviceId callback item <;> split <;> rfl

/-- An ability has one local entry for an object at most, and the entries of remote requests
carry the pid 0. -/
structure Labelled (m : Manager) : Prop where
  single : ∀ sa, ((m.callbacksOf sa LOCAL_DEVICE).map fun entry => entry.callback.object).Nodup
  remote : ∀ sa deviceId, deviceId ≠ LOCAL_DEVICE → ∀ entry ∈ m.callbacksOf sa deviceId,
    entry.callingPid = 0

/-- The timeout takes out the reported entry only, as far as entries are counted. -/
theorem Labelled.filter (good : m.Labelled) {sa : Int} {srcDeviceId : String} {found : CallbackItem}
    (inside : found ∈ m.callbacksOf sa srcDeviceId) {pid : Int} (counted : pid ≠ 0) :
    (((m.callbacksOf sa srcDeviceId).filter fun other => other.callback ≠ found.callback ∨
        other.callingPid ≠ found.callingPid).map CallbackItem.callingPid).count pid +
      [found.callingPid].count pid =
      ((m.callbacksOf sa srcDeviceId).map CallbackItem.callingPid).count pid := by
  by_cases isLocal : srcDeviceId = LOCAL_DEVICE
  · subst isLocal
    exact filter_found (good.single sa) inside pid
  · have none : ∀ entry ∈ m.callbacksOf sa srcDeviceId, entry.callingPid ≠ pid := by
      intro entry member same
      rw [good.remote sa srcDeviceId isLocal entry member] at same
      exact counted same.symm
    have zero : ∀ entries : List CallbackItem, (∀ entry ∈ entries, entry.callingPid ≠ pid) →
        (entries.map CallbackItem.callingPid).count pid = 0 := by
      intro entries apart
      refine List.count_eq_zero.mpr fun member => ?_
      obtain ⟨entry, inside, same⟩ := List.mem_map.mp member
      exact apart entry inside same
    rw [zero _ none, zero _ fun entry member => none entry (List.mem_of_mem_filter member)]
    simp [none found inside]

theorem cleanCallback_callers (good : m.Labelled) {sa : Int} {srcDeviceId : String}
    {callback : RemoteInterface} {pid : Int} (counted : pid ≠ 0) :
    CallerMove m (m.cleanCallbackForLoadFailed sa srcDeviceId callback) pid := by
  cases found : m.startingAbilityMap[sa]? with
  | none =>
      simp only [cleanCallbackForLoadFailed, found]
      exact .same rfl rfl
  | some item =>
      refine .gone (failingCallback srcDeviceId callback item).toList ?_ (cleanCallback_counts found)
      obtain rfl : m.itemAt sa = item := itemAt_of_found found
      have split : (((m.callbacksOf sa srcDeviceId).filter fun other =>
            (failingCallback srcDeviceId callback (m.itemAt sa)).all fun found =>
              other.callback ≠ found.callback ∨ other.callingPid ≠ found.callingPid).map
                CallbackItem.callingPid).count pid +
          ((failingCallback srcDeviceId callback (m.itemAt sa)).toList.map
            CallbackItem.callingPid).count pid =
          ((m.callbacksOf sa srcDeviceId).map CallbackItem.callingPid).count pid := by
        cases failing : failingCallback srcDeviceId callback (m.itemAt sa) with
        | none => simp
        | some failed => exact good.filter (List.mem_of_find?_eq_some failing) counted
      have part : (withoutCallback srcDeviceId (failingCallback srcDeviceId callback (m.itemAt sa))
            (m.itemAt sa)).callers.count pid +
          ((m.callbacksOf sa srcDeviceId).map CallbackItem.callingPid).count pid = _ :=
        withoutCallback_callers pid
      have whole : (m.cleanCallbackForLoadFailed sa srcDeviceId callback).callers.count pid +
          (m.itemAt sa).callers.count pid = _ := cleanCallback_callers_add found pid
      simp only [callbacksOf] at split part
      omega

theorem onStartSystemAbilityFail_callers {sa errCode : Int} {process : String} (pid : Int) :
    CallerMove m (m.onStartSystemAbilityFail sa errCode process) pid := by
  have items : (if sa ∈ m.onDemandAbilityMap then m
      else { m with onDemandAbilityMap := m.onDemandAbilityMap.insert sa process }).startingAbilityMap =
      m.startingAbilityMap := by
    split <;> rfl
  have counts : (if sa ∈ m.onDemandAbilityMap then m
      else { m with onDemandAbilityMap := m.onDemandAbilityMap.insert sa process }).callbackCountMap =
      m.callbackCountMap := by
    split <;> rfl
  simp only [onStartSystemAbilityFail]
  split
  · exact .same (by rw [callers, callers, items]) counts
  · rename_i item found
    rw [items] at found
    refine reportItem_callers ?_ ?_ found pid
    · exact items
    · exact counts

theorem exec_callers (good : m.Labelled) {pid : Int} (counted : pid ≠ 0) :
    CallerMove m (m.exec env piece).1 pid := by
  have same : ∀ {n : Manager}, SameCallers m n → CallerMove m n pid :=
    fun kept => .same (kept.1 pid) kept.2
  by_cases touched : Part.starting ∈ piece.touches
  case neg =>
    have kept : Part.starting.Same m (m.exec env piece).1 := exec_keeps piece .starting touched
    exact .same (by rw [callers, callers, kept.1]) kept.2.2
  cases piece with
  | registerCallback load =>
      simp only [exec]
      split
      · exact registerCallback_callers pid
      · exact registerRpcCallback_callers counted
  | onAbilityCallbackDied remoteObject => exact onAbilityCallbackDied_callers pid
  | startOnDemandAbility load => exact same startOnDemandAbilityLocked_callers
  | doLoadOnDemandAbility processName sa => exact same doLoadOnDemandAbility_callers
  | startNamedAbility procName sa => exact same startNamedAbilityLocked_callers
  | notifySystemAbilityLoaded sa remoteObject =>
      simp only [exec, notifySystemAbilityLoaded]
      split
      · exact .same rfl rfl
      · rename_i item found
        exact reportItem_callers rfl rfl found pid
  | onStartSystemAbilityFail sa errCode process => exact onStartSystemAbilityFail_callers pid
  | cleanCallback sa srcDeviceId callback => exact cleanCallback_callers good counted
  | _ => simp [Piece.touches] at touched

theorem exec_labelled (good : m.Labelled) : (m.exec env piece).1.Labelled := by
  have move : EntryMove m piece (m.exec env piece).1 (m.exec env piece).2 := exec_entries
  cases move with
  | same kept ids queue =>
      refine ⟨fun sa => ?_, fun sa deviceId apart => ?_⟩
      · rw [kept]
        exact good.single sa
      · rw [kept]
        exact good.remote sa deviceId apart
  | added load entry source callback id since remote fresh after ids next =>
      refine ⟨fun sa => ?_, fun sa deviceId apart other member => ?_⟩
      · rw [after]
        split
        · rename_i own
          obtain ⟨rfl, device⟩ := own
          rw [List.map_append]
          refine List.nodup_append.mpr ⟨good.single _, List.nodup_singleton _, ?_⟩
          intro object known last member
          obtain ⟨other, inside, rfl⟩ := List.mem_map.mp known
          obtain rfl : last = load.callback.object := by
            rw [← callback]
            exact List.mem_singleton.mp member
          exact fresh (by simp [Loading.isLocal, ← device]) other inside
        · exact good.single sa
      · rw [after] at member
        split at member
        · rename_i own
          rcases List.mem_append.mp member with before | last
          · exact good.remote sa deviceId apart other before
          · rw [List.mem_singleton.mp last]
            refine remote ?_
            simpa [Loading.isLocal, ← own.2] using apart
        · exact good.remote sa deviceId apart other member
  | cleared sa source after ids =>
      refine ⟨fun id => ?_, fun id deviceId apart other member => ?_⟩
      · rw [after]
        split
        · exact List.nodup_nil
        · exact good.single id
      · rw [after] at member
        split at member
        · cases member
        · exact good.remote id deviceId apart other member
  | died remoteObject source after ids =>
      refine ⟨fun id => ?_, fun id deviceId apart other member => ?_⟩
      · rw [after]
        exact (good.single id).sublist (List.eraseP_sublist.map _)
      · rw [after] at member
        exact good.remote id deviceId apart other (List.mem_of_mem_eraseP member)
  | failed sa srcDeviceId callback found source failing posted after ids =>
      refine ⟨fun id => ?_, fun id deviceId apart other member => ?_⟩
      · rw [after]
        split
        · exact (good.single id).sublist (List.filter_sublist.map _)
        · exact good.single id
      · rw [after] at member
        split at member
        · exact good.remote id deviceId apart other (List.mem_of_mem_filter member)
        · exact good.remote id deviceId apart other member

/-- The counts are those of the entries, and no pid has more than its quota. The pid 0 stands
for the entries of remote requests. -/
structure CallbacksCounted (m : Manager) : Prop where
  labelled : m.Labelled
  counted : ∀ pid, pid ≠ 0 → Quota.Holds m.callbackCountMap pid (m.callers.count pid)
  bounded : ∀ pid, pid ≠ 0 → m.callers.count pid ≤ Scheduler.MAX_SUBSCRIBE_COUNT

theorem exec_callbacksCounted (good : m.CallbacksCounted) : (m.exec env piece).1.CallbacksCounted := by
  have moves : ∀ {pid : Int}, pid ≠ 0 → CallerMove m (m.exec env piece).1 pid :=
    exec_callers good.labelled
  refine ⟨exec_labelled good.labelled, fun pid apart => ?_, fun pid apart => ?_⟩
  · have before := good.counted pid apart
    cases moves apart with
    | same callers counts =>
        rw [callers, counts]
        exact before
    | added caller room callers counts =>
        rw [callers, counts]
        exact Quota.Holds.charge_count before
    | gone left callers counts =>
        rw [counts]
        refine Quota.Holds.releaseAll Quota.settles_eq_zero ?_
        rw [callers]
        exact before
  · have before := good.bounded pid apart
    cases moves apart with
    | same callers counts => omega
    | added caller room callers counts =>
        by_cases own : caller = pid
        · subst own
          rw [(good.counted caller apart).count_eq] at room
          rw [callers, List.count_singleton_self]
          omega
        · rw [callers, List.count_singleton, if_neg (by simpa using own)]
          exact before
    | gone left callers counts => omega

theorem callbacksCounted_init (saProfiles : List SaProfile) : (init saProfiles).CallbacksCounted := by
  refine ⟨⟨fun sa => ?_, fun sa deviceId _ => ?_⟩, fun pid _ => Quota.holds_empty, fun pid _ => Nat.zero_le _⟩
  · simp [init, callbacksOf, itemAt, AbilityItem.listOf]
  · simp [init, callbacksOf, itemAt, AbilityItem.listOf]

end Manager

namespace Machine

theorem step_callbacksCounted {x : Machine} {label : MachineLabel} (good : x.shared.CallbacksCounted) :
    (x.step label).shared.CallbacksCounted :=
  step_shared (fun good => ⟨⟨good.labelled.single, good.labelled.remote⟩, good.counted, good.bounded⟩)
    Manager.exec_callbacksCounted good

theorem runFrom_callbacksCounted (saProfiles : List SaProfile) (labels : List MachineLabel) :
    (runFrom saProfiles labels).shared.CallbacksCounted :=
  Runs.run_invariant (fun x : Machine => x.shared.CallbacksCounted) (fun _ _ => step_callbacksCounted)
    labels (Manager.callbacksCounted_init saProfiles)

/-- In every reachable state the count of a pid other than 0 is the number of the entries it
has made and at most 256, and an ability has one local entry for an object at most. -/
theorem callbacks_are_counted (saProfiles : List SaProfile) (labels : List MachineLabel) :
    let m := (runFrom saProfiles labels).shared
    (∀ pid, pid ≠ 0 → Quota.count m.callbackCountMap pid = m.callers.count pid) ∧
    (∀ pid, pid ≠ 0 → 0 ≤ Quota.count m.callbackCountMap pid ∧
      Quota.count m.callbackCountMap pid ≤ 256) ∧
    ∀ sa, ((m.callbacksOf sa LOCAL_DEVICE).map fun entry => entry.callback.object).Nodup := by
  intro m
  have good : m.CallbacksCounted := runFrom_callbacksCounted saProfiles labels
  refine ⟨fun pid apart => (good.counted pid apart).count_eq, fun pid apart => ?_,
    good.labelled.single⟩
  have bounded : m.callers.count pid ≤ 256 := good.bounded pid apart
  rw [(good.counted pid apart).count_eq]
  omega

end Machine

end Samgr
