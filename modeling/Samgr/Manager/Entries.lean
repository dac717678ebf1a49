import Samgr.Manager.Effects

/-! The callback entries of the abilities that are being started. An entry is put in by the
load that registers it; it goes when its item is reported, when its callback dies, or when
its check-loaded task finds the ability still missing. -/
namespace Samgr

/-- The callbacks that wait for the item on behalf of a device. -/
def AbilityItem.listOf (item : AbilityItem) (deviceId : String) : List CallbackItem :=
  (item.callbackMap[deviceId]?).getD []

theorem AbilityItem.mem_callbacks {item : AbilityItem} {entry : CallbackItem} :
    entry ∈ item.callbacks ↔ ∃ deviceId, entry ∈ item.listOf deviceId := by
  simp only [AbilityItem.callbacks, AbilityItem.listOf, List.mem_flatMap, Prod.exists,
    Std.TreeMap.mem_toList_iff_getElem?_eq_some]
  constructor
  · rintro ⟨deviceId, callbacks, found, inside⟩
    exact ⟨deviceId, by rw [found]; exact inside⟩
  · rintro ⟨deviceId, inside⟩
    cases found : item.callbackMap[deviceId]? with
    | none => simp [found] at inside
    | some callbacks => exact ⟨deviceId, callbacks, found, by simpa [found] using inside⟩

theorem AbilityItem.listOf_insert {item : AbilityItem} {deviceId other : String}
    {callbacks : List CallbackItem} {state : AbilityState} {event : OnDemandEvent} :
    AbilityItem.listOf
        { state, event, callbackMap := item.callbackMap.insert deviceId callbacks } other =
      if other = deviceId then callbacks else item.listOf other := by
  by_cases same : other = deviceId
  · subst same
    simp [AbilityItem.listOf]
  · have apart : ¬ compare deviceId other = .eq := by
      rw [Std.LawfulEqCmp.compare_eq_iff_eq]
      exact Ne.symm same
    simp [AbilityItem.listOf, Std.TreeMap.getElem?_insert, apart, same]

theorem AbilityItem.listOf_erase {item : AbilityItem} {deviceId other : String}
    {state : AbilityState} {event : OnDemandEvent} :
    AbilityItem.listOf { state, event, callbackMap := item.callbackMap.erase deviceId } other =
      if other = deviceId then [] else item.listOf other := by
  by_cases same : other = deviceId
  · subst same
    simp [AbilityItem.listOf]
  · have apart : ¬ compare deviceId other = .eq := by
      rw [Std.LawfulEqCmp.compare_eq_iff_eq]
      exact Ne.symm same
    simp [AbilityItem.listOf, Std.TreeMap.getElem?_erase, apart, same]

namespace Manager

variable {m n : Manager}

/-- The entries that wait for an ability on behalf of a device. -/
def callbacksOf (m : Manager) (sa : Int) (deviceId : String) : List CallbackItem :=
  (m.itemAt sa).listOf deviceId

theorem callbacksOf_congr (same : n.startingAbilityMap = m.startingAbilityMap) :
    n.callbacksOf = m.callbacksOf := by
  funext sa deviceId
  simp only [callbacksOf, itemAt, same]

theorem itemAt_setItem {sa id : Int} {item : AbilityItem} :
    (m.setItem sa item).itemAt id = if id = sa then item else m.itemAt id := by
  by_cases same : id = sa
  · subst same
    simp [itemAt, setItem]
  · have apart : ¬ compare sa id = .eq := by
      rw [Std.LawfulEqCmp.compare_eq_iff_eq]
      exact Ne.symm same
    simp [itemAt, setItem, Std.TreeMap.getElem?_insert, apart, same]

theorem itemAt_erase {sa id : Int}
    (erased : n.startingAbilityMap = m.startingAbilityMap.erase sa) :
    n.itemAt id = if id = sa then {} else m.itemAt id := by
  by_cases same : id = sa
  · subst same
    simp [itemAt, erased]
  · have apart : ¬ compare sa id = .eq := by
      rw [Std.LawfulEqCmp.compare_eq_iff_eq]
      exact Ne.symm same
    simp [itemAt, erased, Std.TreeMap.getElem?_erase, apart, same]

theorem itemAt_of_found {sa : Int} {item : AbilityItem} (found : m.startingAbilityMap[sa]? = some item) :
    m.itemAt sa = item := by
  simp [itemAt, found]

theorem listOf_empty {deviceId : String} : AbilityItem.listOf {} deviceId = [] := by
  simp [AbilityItem.listOf]

/-- An item that is replaced by one with the same callbacks changes no entry. -/
theorem callbacksOf_setItem {sa : Int} {item : AbilityItem}
    (same : ∀ deviceId, item.listOf deviceId = (m.itemAt sa).listOf deviceId) :
    (m.setItem sa item).callbacksOf = m.callbacksOf := by
  funext id deviceId
  simp only [callbacksOf, itemAt_setItem]
  split
  · rename_i own
    rw [same, own]
  · rfl

theorem callbacksOf_erase {sa : Int}
    (erased : n.startingAbilityMap = m.startingAbilityMap.erase sa) (id : Int) (deviceId : String) :
    n.callbacksOf id deviceId = if id = sa then [] else m.callbacksOf id deviceId := by
  simp only [callbacksOf, itemAt_erase erased]
  split
  · exact listOf_empty
  · rfl

end Manager

/-- What a piece does to the entries, with the pieces that follow from it. -/
inductive EntryMove (m : Manager) (piece : Piece) (n : Manager) (made : List Piece) : Prop
  | same (kept : n.callbacksOf = m.callbacksOf) (ids : n.nextEntry = m.nextEntry)
      (queue : ∀ sa srcDeviceId callback, piece = .cleanCallback sa srcDeviceId callback →
        n.workHandler = m.workHandler)
  | added (load : Loading) (entry : CallbackItem) (source : piece = .registerCallback load)
      (callback : entry.callback = load.callback) (id : entry.id = m.nextEntry)
      (since : entry.since = load.since) (remote : load.isLocal = false → entry.callingPid = 0)
      (fresh : load.isLocal = true → ∀ other ∈ m.callbacksOf load.systemAbilityId LOCAL_DEVICE,
        other.callback.object ≠ load.callback.object)
      (after : ∀ sa deviceId, n.callbacksOf sa deviceId =
        if sa = load.systemAbilityId ∧ deviceId = load.request.deviceId
        then m.callbacksOf sa deviceId ++ [entry] else m.callbacksOf sa deviceId)
      (ids : n.nextEntry = m.nextEntry + 1) (next : .startingSystemProcess load ∈ made)
  | cleared (sa : Int)
      (source : (∃ remoteObject, piece = .notifySystemAbilityLoaded sa remoteObject) ∨
        ∃ errCode process, piece = .onStartSystemAbilityFail sa errCode process)
      (after : ∀ id deviceId, n.callbacksOf id deviceId =
        if id = sa then [] else m.callbacksOf id deviceId)
      (ids : n.nextEntry = m.nextEntry)
  | died (remoteObject : Nat) (source : piece = .onAbilityCallbackDied remoteObject)
      (after : ∀ sa deviceId, n.callbacksOf sa deviceId =
        (m.callbacksOf sa deviceId).eraseP fun other => other.callback.object == remoteObject)
      (ids : n.nextEntry = m.nextEntry)
  | failed (sa : Int) (srcDeviceId : String) (callback : RemoteInterface) (found : CallbackItem)
      (source : piece = .cleanCallback sa srcDeviceId callback)
      (failing : (m.callbacksOf sa srcDeviceId).find? (fun other =>
        other.callback.object == callback.object) = some found)
      (posted : n.workHandler = m.workHandler.post (.notifyLoadFail sa found))
      (after : ∀ id deviceId, n.callbacksOf id deviceId =
        if id = sa ∧ deviceId = srcDeviceId then (m.callbacksOf id deviceId).filter fun other =>
          other.callback ≠ found.callback ∨ other.callingPid ≠ found.callingPid
        else m.callbacksOf id deviceId)
      (ids : n.nextEntry = m.nextEntry)

theorem EntryMove.idle {m n : Manager} {piece : Piece} {made : List Piece}
    (kept : n.callbacksOf = m.callbacksOf) (ids : n.nextEntry = m.nextEntry)
    (other : ∀ sa srcDeviceId callback, piece ≠ .cleanCallback sa srcDeviceId callback) :
    EntryMove m piece n made :=
  .same kept ids fun sa srcDeviceId callback source => absurd source (other sa srcDeviceId callback)

namespace Manager

variable {env : Env} {m : Manager}

/-- No entry is added or taken out. -/
def SameEntries (m n : Manager) : Prop :=
  n.callbacksOf = m.callbacksOf ∧ n.nextEntry = m.nextEntry

theorem startOnDemandAbilityInner_entries {procName : String} {sa : Int} {item : AbilityItem}
    (own : ∀ deviceId, item.listOf deviceId = (m.itemAt sa).listOf deviceId) :
    SameEntries m (m.startOnDemandAbilityInner procName sa item).1 := by
  simp only [startOnDemandAbilityInner]
  split
  · exact ⟨rfl, rfl⟩
  · exact ⟨callbacksOf_setItem own, rfl⟩

theorem startOnDemandAbilityLocked_entries {sa : Int} :
    SameEntries m (m.startOnDemandAbilityLocked sa).1 := by
  simp only [startOnDemandAbilityLocked]
  split
  · exact ⟨rfl, rfl⟩
  · rename_i procName _
    have opened : (m.setItem sa (m.itemAt sa)).callbacksOf = m.callbacksOf :=
      callbacksOf_setItem fun _ => rfl
    have started : SameEntries (m.setItem sa (m.itemAt sa))
        ((m.setItem sa (m.itemAt sa)).startOnDemandAbilityInner procName sa (m.itemAt sa)).1 :=
      startOnDemandAbilityInner_entries fun deviceId => by simp [itemAt_setItem]
    exact ⟨started.1.trans opened, started.2⟩

theorem startNamedAbilityLocked_entries {procName : String} {sa : Int} :
    SameEntries m (m.startNamedAbilityLocked procName sa) := by
  simp only [startNamedAbilityLocked]
  split
  · exact ⟨rfl, rfl⟩
  · rename_i item found
    exact startOnDemandAbilityInner_entries fun deviceId => by rw [itemAt_of_found found]

theorem doLoadOnDemandAbility_entries {sa : Int} : SameEntries m (m.doLoadOnDemandAbility sa).1 := by
  simp only [doLoadOnDemandAbility]
  split
  · exact ⟨rfl, rfl⟩
  · split
    · exact ⟨rfl, rfl⟩
    · let asked := m.setItem sa
        { m.itemAt sa with event := { eventId := INTERFACE_CALL, name := "get" } }
      have started : SameEntries asked (asked.startOnDemandAbilityLocked sa).1 :=
        startOnDemandAbilityLocked_entries
      exact ⟨started.1.trans (callbacksOf_setItem fun _ => rfl), started.2⟩

/-- What a registered callback leaves of the entries. -/
theorem callbacksOf_added {sa : Int} {deviceId : String} {callbacks : List CallbackItem}
    {entry : CallbackItem} {state : AbilityState} {event : OnDemandEvent}
    (before : (m.itemAt sa).listOf deviceId = callbacks) (id : Int) (other : String) :
    (m.setItem sa
      { state
        event
        callbackMap := (m.itemAt sa).callbackMap.insert deviceId (callbacks ++ [entry]) }).callbacksOf
        id other =
      if id = sa ∧ other = deviceId then m.callbacksOf id other ++ [entry]
      else m.callbacksOf id other := by
  subst before
  simp only [callbacksOf, itemAt_setItem]
  by_cases own : id = sa
  · subst own
    simp only [if_true, AbilityItem.listOf_insert, true_and]
    split
    · rename_i same
      subst same
      rfl
    · rfl
  · simp [own]

theorem registerCallback_move {load : Loading} (isLocal : load.isLocal = true) :
    EntryMove m (.registerCallback load) (m.exec env (.registerCallback load)).1
      (m.exec env (.registerCallback load)).2 := by
  have device : load.request.deviceId = LOCAL_DEVICE := by simpa [Loading.isLocal] using isLocal
  have opened : (m.setItem load.systemAbilityId
      { m.itemAt load.systemAbilityId with
        callbackMap := (m.itemAt load.systemAbilityId).callbackMap.insert LOCAL_DEVICE
          (((m.itemAt load.systemAbilityId).callbackMap[LOCAL_DEVICE]?).getD []) }).callbacksOf =
      m.callbacksOf := by
    refine callbacksOf_setItem fun deviceId => ?_
    rw [AbilityItem.listOf_insert]
    split
    · rename_i same
      rw [same]
      rfl
    · rfl
  simp only [exec, isLocal, if_true, registerCallback]
  split
  · exact .idle opened rfl (by simp)
  · rename_i absent
    split
    · exact .idle opened rfl (by simp)
    · refine .added load
        { callback := load.callback
          callingPid := load.request.callingPid
          id := m.nextEntry
          since := load.since }
        rfl rfl rfl rfl (fun remote => by rw [isLocal] at remote; cases remote)
        (fun _ other inside same => ?_) ?_ rfl List.mem_cons_self
      · exact absent (List.any_eq_true.mpr ⟨other, inside, by simpa using same⟩)
      · intro sa deviceId
        rw [device]
        exact callbacksOf_added rfl sa deviceId

theorem registerRpcCallback_move {load : Loading} (remote : load.isLocal = false) :
    EntryMove m (.registerCallback load) (m.exec env (.registerCallback load)).1
      (m.exec env (.registerCallback load)).2 := by
  simp only [exec, remote, Bool.false_eq_true, if_false, registerRpcCallback]
  refine .added load
    { callback := load.callback
      callingPid := 0
      id := m.nextEntry
      since := load.since }
    rfl rfl rfl rfl (fun _ => rfl) (fun isLocal => ?_) ?_ rfl List.mem_cons_self
  · rw [remote] at isLocal
    cases isLocal
  · exact fun sa deviceId => callbacksOf_added rfl sa deviceId

theorem notifySystemAbilityLoaded_move {sa : Int} {remoteObject : Nat} {made : List Piece} :
    EntryMove m (.notifySystemAbilityLoaded sa remoteObject)
      (m.notifySystemAbilityLoaded sa remoteObject) made := by
  simp only [notifySystemAbilityLoaded]
  split
  · exact .idle rfl rfl (by simp)
  · exact .cleared sa (Or.inl ⟨remoteObject, rfl⟩) (callbacksOf_erase rfl) rfl

theorem onStartSystemAbilityFail_move {sa errCode : Int} {process : String} {made : List Piece} :
    EntryMove m (.onStartSystemAbilityFail sa errCode process)
      (m.onStartSystemAbilityFail sa errCode process) made := by
  have known : (if sa ∈ m.onDemandAbilityMap then m
      else { m with onDemandAbilityMap := m.onDemandAbilityMap.insert sa process }).startingAbilityMap =
      m.startingAbilityMap := by
    split <;> rfl
  have ids : (if sa ∈ m.onDemandAbilityMap then m
      else { m with onDemandAbilityMap := m.onDemandAbilityMap.insert sa process }).nextEntry =
      m.nextEntry := by
    split <;> rfl
  simp only [onStartSystemAbilityFail]
  split
  · exact .idle (callbacksOf_congr known) ids (by simp)
  · exact .cleared sa (Or.inr ⟨errCode, process, rfl⟩)
      (callbacksOf_erase (congrArg (·.erase sa) known)) ids

theorem listOf_dropCallback {remoteObject : Nat} {item : AbilityItem} {deviceId : String} :
    (dropCallback remoteObject item).listOf deviceId =
      (item.listOf deviceId).eraseP fun other => other.callback.object == remoteObject := by
  simp only [dropCallback, AbilityItem.listOf, Std.TreeMap.getElem?_filterMap']
  cases item.callbackMap[deviceId]? with
  | none => rfl
  | some callbacks =>
      simp only [Option.bind_some, Option.getD_some]
      split
      · rename_i empty
        rw [List.isEmpty_iff.mp empty]
        rfl
      · rfl

/-- The death of an object takes the first of its entries out of each list. -/
theorem callbacksOf_onAbilityCallbackDied {remoteObject : Nat} (sa : Int) (deviceId : String) :
    (m.onAbilityCallbackDied remoteObject).callbacksOf sa deviceId =
      (m.callbacksOf sa deviceId).eraseP fun other => other.callback.object == remoteObject := by
  simp only [callbacksOf, itemAt, onAbilityCallbackDied, Std.TreeMap.getElem?_filterMap']
  cases m.startingAbilityMap[sa]? with
  | none => simp [AbilityItem.listOf]
  | some item =>
      simp only [Option.bind_some, Option.getD_some]
      rw [← listOf_dropCallback]
      split
      · rename_i empty
        simp [AbilityItem.listOf, Std.TreeMap.getElem?_of_isEmpty empty]
      · rfl

theorem onAbilityCallbackDied_move {remoteObject : Nat} {made : List Piece} :
    EntryMove m (.onAbilityCallbackDied remoteObject) (m.onAbilityCallbackDied remoteObject) made :=
  .died remoteObject rfl callbacksOf_onAbilityCallbackDied rfl

theorem listOf_withoutCallback {srcDeviceId deviceId : String} {failing : Option CallbackItem}
    {item : AbilityItem} :
    (withoutCallback srcDeviceId failing item).listOf deviceId =
      if deviceId = srcDeviceId then (item.listOf srcDeviceId).filter fun other =>
        failing.all fun found =>
          other.callback ≠ found.callback ∨ other.callingPid ≠ found.callingPid
      else item.listOf deviceId := by
  simp only [withoutCallback]
  split
  · rename_i empty
    rw [AbilityItem.listOf_erase]
    split
    · exact (List.isEmpty_iff.mp empty).symm
    · rfl
  · exact AbilityItem.listOf_insert

/-- The item that a timeout leaves is the one without the callback, or none if that is empty. -/
theorem cleanCallback_callbacks {sa : Int} (srcDeviceId : String) (callback : RemoteInterface)
    {item : AbilityItem} (found : m.startingAbilityMap[sa]? = some item) (id : Int) (deviceId : String) :
    (m.cleanCallbackForLoadFailed sa srcDeviceId callback).callbacksOf id deviceId =
      if id = sa then (withoutCallback srcDeviceId (failingCallback srcDeviceId callback item)
        item).listOf deviceId
      else m.callbacksOf id deviceId := by
  have posted : (m.failCallback sa (failingCallback srcDeviceId callback item)).startingAbilityMap =
      m.startingAbilityMap := by
    cases failingCallback srcDeviceId callback item <;> rfl
  simp only [cleanCallbackForLoadFailed, found]
  split
  · rename_i empty
    refine (callbacksOf_erase (m := m) rfl id deviceId).trans ?_
    split
    · simp [AbilityItem.listOf, Std.TreeMap.getElem?_of_isEmpty empty]
    · rfl
  · simp only [callbacksOf, itemAt_setItem]
    split
    · rfl
    · simp only [itemAt, posted]

theorem cleanCallback_move {sa : Int} {srcDeviceId : String} {callback : RemoteInterface}
    {made : List Piece} :
    EntryMove m (.cleanCallback sa srcDeviceId callback)
      (m.cleanCallbackForLoadFailed sa srcDeviceId callback) made := by
  cases found : m.startingAbilityMap[sa]? with
  | none =>
      simp only [cleanCallbackForLoadFailed, found]
      exact .same rfl rfl fun _ _ _ _ => rfl
  | some item =>
      have after := cleanCallback_callbacks srcDeviceId callback found
      have ids : (m.cleanCallbackForLoadFailed sa srcDeviceId callback).nextEntry = m.nextEntry := by
        simp only [cleanCallbackForLoadFailed, found]
        cases failingCallback srcDeviceId callback item <;> split <;> rfl
      have own : ∀ deviceId, m.callbacksOf sa deviceId = item.listOf deviceId := by
        intro deviceId
        rw [callbacksOf, itemAt_of_found found]
      cases failing : failingCallback srcDeviceId callback item with
      | none =>
          have queue : (m.cleanCallbackForLoadFailed sa srcDeviceId callback).workHandler =
              m.workHandler := by
            simp only [cleanCallbackForLoadFailed, found, failing]
            split <;> rfl
          refine .same ?_ ids fun _ _ _ _ => queue
          funext id deviceId
          rw [after, failing, listOf_withoutCallback]
          split
          · rename_i same
            rw [same, own]
            split
            · rename_i device
              rw [device]
              simp
            · rfl
          · rfl
      | some failed =>
          refine .failed sa srcDeviceId callback failed rfl (by rw [own]; exact failing) ?_ ?_ ids
          · simp only [cleanCallbackForLoadFailed, found, failing]
            split <;> rfl
          · intro id deviceId
            rw [after, failing, listOf_withoutCallback]
            by_cases same : id = sa
            · subst same
              simp only [if_true, true_and, Option.all_some, own]
              split
              · rename_i device
                rw [device]
              · rfl
            · simp [same]

/-- The entries change with the piece as the source of an `EntryMove` says, and not otherwise. -/
theorem exec_entries {piece : Piece} :
    EntryMove m piece (m.exec env piece).1 (m.exec env piece).2 := by
  by_cases touched : Part.starting ∈ piece.touches
  case neg =>
    have kept : Part.starting.Same m (m.exec env piece).1 := exec_keeps piece .starting touched
    refine .idle (callbacksOf_congr kept.1) kept.2.1 ?_
    rintro sa srcDeviceId callback rfl
    simp [Piece.touches] at touched
  cases piece with
  | registerCallback load =>
      cases isLocal : load.isLocal with
      | true => exact registerCallback_move isLocal
      | false => exact registerRpcCallback_move isLocal
  | onAbilityCallbackDied remoteObject => exact onAbilityCallbackDied_move
  | startOnDemandAbility load =>
      exact .idle startOnDemandAbilityLocked_entries.1 startOnDemandAbilityLocked_entries.2 (by simp)
  | doLoadOnDemandAbility processName sa =>
      exact .idle doLoadOnDemandAbility_entries.1 doLoadOnDemandAbility_entries.2 (by simp)
  | startNamedAbility procName sa =>
      exact .idle startNamedAbilityLocked_entries.1 startNamedAbilityLocked_entries.2 (by simp)
  | notifySystemAbilityLoaded sa remoteObject => exact notifySystemAbilityLoaded_move
  | onStartSystemAbilityFail sa errCode process => exact onStartSystemAbilityFail_move
  | cleanCallback sa srcDeviceId callback => exact cleanCallback_move
  | _ => simp [Piece.touches] at touched

end Manager

end Samgr
