import Samgr.Manager.CallbackQuota

/-! The death of a client's callback object. The sweep takes the first entry of the object out of each
list and every item that is left without a callback out of the map, so it keeps to the dead object only
where each item waits for somebody and no list holds the object twice. -/
namespace Samgr

theorem AbilityItem.callbacks_eq_nil {item : AbilityItem} :
    item.callbacks = [] ↔ ∀ deviceId, item.listOf deviceId = [] := by
  simp only [List.eq_nil_iff_forall_not_mem, AbilityItem.mem_callbacks, not_exists]
  exact forall_comm

theorem AbilityItem.isEmpty_iff {item : AbilityItem}
    (listed : ∀ deviceId : String, item.callbackMap[deviceId]? ≠ some []) :
    item.callbackMap.isEmpty = true ↔ ∀ deviceId, item.listOf deviceId = [] := by
  constructor
  · intro empty deviceId
    rw [AbilityItem.listOf, Std.TreeMap.getElem?_of_isEmpty empty]
    rfl
  · intro none
    rw [← Std.TreeMap.isEmpty_toList, List.isEmpty_iff]
    refine List.eq_nil_iff_forall_not_mem.mpr ?_
    rintro ⟨deviceId, callbacks⟩ inside
    have found : item.callbackMap[deviceId]? = some callbacks :=
      Std.TreeMap.mem_toList_iff_getElem?_eq_some.mp inside
    have bare := none deviceId
    rw [AbilityItem.listOf, found, Option.getD_some] at bare
    exact listed deviceId (by rw [found, bare])

namespace Manager

/-- The entries of the object, in every ability and for every device. -/
def entriesFor (m : Manager) (remoteObject : Nat) : List CallbackItem :=
  m.startingAbilityMap.toList.flatMap fun pair =>
    pair.2.callbacks.filter fun entry => entry.callback.object == remoteObject

/-- From one state to the other the object loses its entries, and nobody else loses anything. -/
structure LosesOnly (remoteObject : Nat) (m n : Manager) : Prop where
  entries : ∀ sa deviceId, n.callbacksOf sa deviceId =
    (m.callbacksOf sa deviceId).filter fun entry => !(entry.callback.object == remoteObject)
  counts : n.callbackCountMap = uncount m.callbackCountMap (m.entriesFor remoteObject)
  counted : ∀ pid, pid ≠ 0 → Quota.count n.callbackCountMap pid = Quota.count m.callbackCountMap pid -
    ((m.entriesFor remoteObject).map CallbackItem.callingPid).count pid
  erased : ∀ (sa : Int) item, m.startingAbilityMap[sa]? = some item → n.startingAbilityMap[sa]? = none →
    (∃ entry ∈ item.callbacks, entry.callback.object = remoteObject) ∧
      ∀ entry ∈ item.callbacks, entry.callback.object = remoteObject
  kept : ∀ (sa : Int) left, n.startingAbilityMap[sa]? = some left →
    ∃ item, m.startingAbilityMap[sa]? = some item ∧ left.state = item.state ∧ left.event = item.event

/-- Each item has a callback that waits for it, and no list holds two entries of the object. -/
structure DiesCleanly (m : Manager) (remoteObject : Nat) : Prop where
  waited : ∀ (sa : Int) item, m.startingAbilityMap[sa]? = some item → item.callbacks ≠ []
  single : ∀ sa deviceId, (m.callbacksOf sa deviceId).countP
    (fun entry => entry.callback.object == remoteObject) ≤ 1

variable {m : Manager} {remoteObject : Nat}

theorem dropCallback_isEmpty_iff {item : AbilityItem} :
    (dropCallback remoteObject item).callbackMap.isEmpty = true ↔
      ∀ deviceId, (item.listOf deviceId).eraseP (fun entry => entry.callback.object == remoteObject) = [] := by
  have lists : ∀ deviceId : String, (dropCallback remoteObject item).callbackMap[deviceId]? ≠ some [] := by
    intro deviceId found
    simp only [dropCallback, Std.TreeMap.getElem?_filterMap'] at found
    cases own : item.callbackMap[deviceId]? with
    | none => simp [own] at found
    | some callbacks =>
        simp only [own, Option.bind_some] at found
        split at found
        · cases found
        · rename_i left
          rw [Option.some.inj found] at left
          exact left rfl
  rw [AbilityItem.isEmpty_iff lists]
  exact forall_congr' fun deviceId => by rw [listOf_dropCallback]

theorem onAbilityCallbackDied_getElem? (sa : Int) :
    (m.onAbilityCallbackDied remoteObject).startingAbilityMap[sa]? =
      (m.startingAbilityMap[sa]?).bind fun item =>
        if (dropCallback remoteObject item).callbackMap.isEmpty then none
        else some (dropCallback remoteObject item) := by
  simp [onAbilityCallbackDied]

/-- What the sweep takes out, where no list holds two entries of the object. -/
theorem dropped_eq_entriesFor (single : ∀ sa deviceId, (m.callbacksOf sa deviceId).countP
    (fun entry => entry.callback.object == remoteObject) ≤ 1) :
    (m.startingAbilityMap.toList.flatMap fun pair => droppedCallbacks remoteObject pair.2) =
      m.entriesFor remoteObject := by
  refine List.flatMap_congr ?_
  rintro ⟨sa, item⟩ inside
  have found : m.startingAbilityMap[sa]? = some item := Std.TreeMap.mem_toList_iff_getElem?_eq_some.mp inside
  rw [droppedCallbacks, AbilityItem.callbacks, List.filter_flatMap]
  refine List.flatMap_congr ?_
  rintro ⟨deviceId, callbacks⟩ listed
  have own : item.callbackMap[deviceId]? = some callbacks :=
    Std.TreeMap.mem_toList_iff_getElem?_eq_some.mp listed
  have few := single sa deviceId
  rw [callbacksOf, itemAt_of_found found, AbilityItem.listOf, own] at few
  exact Quota.toList_find?_eq_filter few

/-- The item that is gone held nothing but entries of the object. -/
theorem object_of_erased {sa : Int} {item : AbilityItem} (found : m.startingAbilityMap[sa]? = some item)
    (single : ∀ deviceId, (m.callbacksOf sa deviceId).countP
      (fun entry => entry.callback.object == remoteObject) ≤ 1)
    (gone : (m.onAbilityCallbackDied remoteObject).startingAbilityMap[sa]? = none) :
    ∀ entry ∈ item.callbacks, entry.callback.object = remoteObject := by
  intro entry inside
  obtain ⟨deviceId, listed⟩ := AbilityItem.mem_callbacks.mp inside
  have empty : (dropCallback remoteObject item).callbackMap.isEmpty = true := by
    rw [onAbilityCallbackDied_getElem?, found, Option.bind_some] at gone
    by_contra left
    rw [if_neg left] at gone
    cases gone
  have few := single deviceId
  rw [callbacksOf, itemAt_of_found found, ← Quota.eraseP_eq_filter_iff,
    dropCallback_isEmpty_iff.mp empty deviceId] at few
  have out := List.filter_eq_nil_iff.mp few.symm entry listed
  simpa using out

theorem losesOnly_of_diesCleanly (counted : m.CallbacksCounted) (clean : m.DiesCleanly remoteObject) :
    LosesOnly remoteObject m (m.onAbilityCallbackDied remoteObject) := by
  have dropped := dropped_eq_entriesFor clean.single
  constructor
  · intro sa deviceId
    rw [callbacksOf_onAbilityCallbackDied]
    exact Quota.eraseP_eq_filter_iff.mpr (clean.single sa deviceId)
  · rw [← dropped]
    rfl
  · intro pid apart
    have split := @onAbilityCallbackDied_callers_add m remoteObject pid
    rw [dropped] at split
    have before := counted.counted pid apart
    rw [← split] at before
    have after := Quota.Holds.releaseAll Quota.settles_eq_zero before
    have left := after.count_eq
    rw [before.count_eq]
    refine Eq.trans (congrArg (Quota.count · pid) ?_) (left.trans ?_)
    · rw [← dropped]
      rfl
    · omega
  · intro sa item found gone
    have all := object_of_erased found (clean.single sa) gone
    obtain ⟨entry, inside⟩ := List.exists_mem_of_ne_nil _ (clean.waited sa item found)
    exact ⟨⟨entry, inside, all entry inside⟩, all⟩
  · intro sa left found
    rw [onAbilityCallbackDied_getElem?] at found
    obtain ⟨item, own, kept⟩ := Option.bind_eq_some_iff.mp found
    split at kept
    · cases kept
    · obtain rfl := Option.some.inj kept
      exact ⟨item, own, rfl, rfl⟩

theorem diesCleanly_of_losesOnly (loses : LosesOnly remoteObject m (m.onAbilityCallbackDied remoteObject)) :
    m.DiesCleanly remoteObject := by
  constructor
  · intro sa item found none
    have empty : (dropCallback remoteObject item).callbackMap.isEmpty = true := by
      refine dropCallback_isEmpty_iff.mpr fun deviceId => ?_
      rw [AbilityItem.callbacks_eq_nil.mp none deviceId, List.eraseP_nil]
    have gone : (m.onAbilityCallbackDied remoteObject).startingAbilityMap[sa]? = Option.none := by
      rw [onAbilityCallbackDied_getElem?, found, Option.bind_some, if_pos empty]
    obtain ⟨⟨entry, inside, -⟩, -⟩ := loses.erased sa item found gone
    rw [none] at inside
    cases inside
  · intro sa deviceId
    rw [← Quota.eraseP_eq_filter_iff, ← callbacksOf_onAbilityCallbackDied]
    exact loses.entries sa deviceId

theorem losesOnly_iff_diesCleanly (counted : m.CallbacksCounted) :
    LosesOnly remoteObject m (m.onAbilityCallbackDied remoteObject) ↔ m.DiesCleanly remoteObject :=
  ⟨diesCleanly_of_losesOnly, losesOnly_of_diesCleanly counted⟩

end Manager

namespace Machine

/-- The object whose death the label tells the manager. -/
def deathOf (x : Machine) (label : MachineLabel) : Option Nat :=
  match x.next label with
  | some (.onAbilityCallbackDied remoteObject) => some remoteObject
  | _ => none

/-- The death of an object takes from it alone. -/
def DiesAlone (x : Machine) (label : MachineLabel) : Prop :=
  ∀ remoteObject, x.deathOf label = some remoteObject →
    Manager.LosesOnly remoteObject x.shared (x.step label).shared

/-- An object dies while each item waits for somebody and no list holds the object twice. -/
def DiesInOrder (x : Machine) (label : MachineLabel) : Prop :=
  ∀ remoteObject, x.deathOf label = some remoteObject → x.shared.DiesCleanly remoteObject

theorem step_of_death {x : Machine} {label : MachineLabel} {remoteObject : Nat}
    (died : x.deathOf label = some remoteObject) :
    (x.step label).shared = x.shared.onAbilityCallbackDied remoteObject := by
  simp only [deathOf] at died
  split at died
  · rename_i other next
    obtain rfl : other = remoteObject := Option.some.inj died
    obtain ⟨env, same⟩ := step_shared_of_next next
    exact same
  · cases died

/-- In every reachable state the death of an object takes from it alone exactly when each item has a
callback and no list holds the object twice; and in every run all deaths do so exactly when each of
them comes in such a state. -/
theorem callback_death_takes_its_own_iff (saProfiles : List SaProfile) (labels : List MachineLabel) :
    (∀ remoteObject,
      let m := (runFrom saProfiles labels).shared
      Manager.LosesOnly remoteObject m (m.onAbilityCallbackDied remoteObject) ↔
        m.DiesCleanly remoteObject) ∧
    (Runs.Guarded step DiesAlone (init saProfiles) labels ↔
      Runs.Guarded step DiesInOrder (init saProfiles) labels) := by
  constructor
  · intro remoteObject
    exact Manager.losesOnly_iff_diesCleanly (runFrom_callbacksCounted saProfiles labels)
  · apply Runs.guarded_iff_guarded (fun x : Machine => x.shared.CallbacksCounted) _
      (fun x label good _ => step_callbacksCounted good) labels (Manager.callbacksCounted_init saProfiles)
    intro x label good
    refine forall_congr' fun remoteObject => imp_congr_right fun died => ?_
    rw [step_of_death died]
    exact Manager.losesOnly_iff_diesCleanly good

/-- Ability 1 is asked for by `CheckSystemAbility`, which leaves no callback. -/
def checkOne : List MachineLabel :=
  [.call (.addSystemProcess ⟨"host", 100, 1000⟩ 3)] ++ runs 0 3 ++
    [.call (.addOnDemandSystemAbilityInfo 1 "host")] ++ runs 1 1 ++
    [.call (.checkSystemAbility 1)] ++ runs 2 6

/-- The death of an object that waits for nothing ends the start of ability 1. -/
theorem foreign_death_erases_item :
    ¬ ∀ (saProfiles : List SaProfile) (labels : List MachineLabel) (remoteObject : Nat),
      Manager.LosesOnly remoteObject (runFrom saProfiles labels).shared
        ((runFrom saProfiles labels).shared.onAbilityCallbackDied remoteObject) := by
  intro always
  have loses := always hostOfOne checkOne 9
  have starting : ((runFrom hostOfOne checkOne).shared.startingAbilityMap[(1 : Int)]?).map
      (fun item => (item.state, item.callbacks)) = some (.starting, []) := by
    decide +kernel
  obtain ⟨item, found, same⟩ := Option.map_eq_some_iff.mp starting
  have gone : ((runFrom hostOfOne checkOne).shared.onAbilityCallbackDied 9).startingAbilityMap[(1 : Int)]? =
      none := by
    rw [← Option.isNone_iff_eq_none]
    decide +kernel
  obtain ⟨⟨entry, inside, -⟩, -⟩ := loses.erased 1 item found gone
  rw [(Prod.mk.inj same).2] at inside
  cases inside

end Machine

end Samgr
