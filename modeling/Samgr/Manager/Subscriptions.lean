import Samgr.Manager.Frames

/-! The listeners of abilities. Every entry is charged to the pid that subscribed it, and an
ability has one entry for an object at most; the registrations for the death of a listener
follow the entries as long as nobody unsubscribes what is not there. -/
namespace Samgr

namespace Manager

/-- The entries of an ability. -/
def listeners (m : Manager) (sa : Int) : List SAListener := (m.listenerMap[sa]?).getD []

/-- The pids of all entries, each as often as it has entries. -/
def subscribers (m : Manager) : List Int :=
  Quota.all m.listenerMap fun items => items.map SAListener.callingPid

/-- The objects of all entries. -/
def listenerObjects (m : Manager) : List Nat :=
  Quota.all m.listenerMap fun items => items.map fun item => item.listener.object

end Manager

/-- What an entry is charged to and what it stands for. -/
def SAListener.key (item : SAListener) : Nat × Int := (item.listener.object, item.callingPid)

/-- What a piece does to the entries of one ability, to the counts and to the registrations. -/
inductive ListenerMove (m : Manager) (piece : Piece) (n : Manager) : Prop
  | same (sa : Int) (agree : ∀ id, id ≠ sa → n.listenerMap[id]? = m.listenerMap[id]?)
      (entries : (n.listeners sa).map SAListener.key = (m.listeners sa).map SAListener.key)
      (counts : n.subscribeCountMap = m.subscribeCountMap ∨
        ∃ item ∈ m.listeners sa, n.subscribeCountMap = m.subscribeCountMap.insertIfNew item.callingPid 0)
      (deaths : n.abilityStatusDeath = m.abilityStatusDeath)
  | added (sa : Int) (listener : RemoteInterface) (callingPid : Int)
      (source : piece = .subscribe sa listener callingPid)
      (fresh : ∀ item ∈ m.listeners sa, item.listener.object ≠ listener.object)
      (room : Quota.count m.subscribeCountMap callingPid < Scheduler.MAX_SUBSCRIBE_COUNT)
      (agree : ∀ id, id ≠ sa → n.listenerMap[id]? = m.listenerMap[id]?)
      (after : n.listeners sa = m.listeners sa ++ [⟨listener, callingPid, .init⟩])
      (counts : n.subscribeCountMap = Quota.charge m.subscribeCountMap callingPid)
      (deaths : n.abilityStatusDeath = m.abilityStatusDeath.add listener.object)
  | dropped (sa : Int) (listener : RemoteInterface) (source : piece = .unSubscribe sa listener)
      (agree : ∀ id, id ≠ sa → n.listenerMap[id]? = m.listenerMap[id]?)
      (after : n.listeners sa = Manager.dropListener listener.object (m.listeners sa))
      (counts : n.subscribeCountMap = Quota.releaseAll (· == 0) m.subscribeCountMap
        (Manager.droppedPids listener.object (m.listeners sa)))
      (deaths : n.abilityStatusDeath = m.abilityStatusDeath.remove listener.object)
  | swept (remoteObject : Nat) (source : piece = .unSubscribeDied remoteObject)
      (after : n.listenerMap = m.listenerMap.map fun _ items => Manager.dropListener remoteObject items)
      (counts : n.subscribeCountMap = Quota.releaseAll (· == 0) m.subscribeCountMap
        (m.listenerMap.toList.flatMap fun pair => Manager.droppedPids remoteObject pair.2))
      (deaths : n.abilityStatusDeath = m.abilityStatusDeath.remove remoteObject)

namespace Manager

variable {env : Env} {m n : Manager} {piece : Piece}

/-- The entries of an ability with other states. -/
theorem move_of_modify {sa : Int} {state : ListenerState}
    (after : n.listenerMap = m.listenerMap.modify sa fun items =>
      items.map fun item => { item with state })
    (counts : n.subscribeCountMap = m.subscribeCountMap)
    (deaths : n.abilityStatusDeath = m.abilityStatusDeath) : ListenerMove m piece n := by
  refine .same sa (fun id apart => ?_) ?_ (Or.inl counts) deaths
  · rw [after]
    exact Quota.getElem?_modify_of_ne apart
  · simp only [listeners, after, Std.TreeMap.getElem?_modify_self]
    cases m.listenerMap[sa]? with
    | none => rfl
    | some items => simp [SAListener.key]

theorem subscribe_move {sa : Int} {listener : RemoteInterface} {callingPid : Int} :
    ListenerMove m (.subscribe sa listener callingPid)
      (m.subscribeSystemAbility sa listener callingPid).1 := by
  have opened : ListenerMove m (.subscribe sa listener callingPid)
      { m with listenerMap := m.listenerMap.insert sa ((m.listenerMap[sa]?).getD []) } := by
    refine .same sa (fun id apart => Quota.getElem?_insert_of_ne apart) ?_ (Or.inl rfl) rfl
    simp [listeners]
  simp only [subscribeSystemAbility]
  split
  · exact opened
  · rename_i absent
    split
    · exact opened
    · rename_i room
      refine .added sa listener callingPid rfl ?_ (by omega) ?_ ?_ rfl rfl
      · intro item member same
        refine absent (List.any_eq_true.mpr ⟨item, member, ?_⟩)
        simpa using same
      · exact fun id apart => Quota.getElem?_insert_of_ne apart
      · simp [listeners]

theorem key_replaceF {items : List SAListener} {object : Nat} :
    (items.replaceF fun item => if item.listener.object == object then
        some { item with state := .notified } else none).map SAListener.key =
      items.map SAListener.key := by
  induction items with
  | nil => rfl
  | cons item items hypothesis =>
      by_cases same : item.listener.object = object
      · simp [same, SAListener.key]
      · simpa [same] using hypothesis

theorem checkListenerNotify_move {sa : Int} {listener : RemoteInterface} :
    ListenerMove m (.checkListenerNotify sa listener) (m.checkListenerNotify sa listener) := by
  simp only [checkListenerNotify]
  split
  · rename_i item callingPid found
    refine .same sa (fun id apart => Quota.getElem?_insert_of_ne apart) ?_ (Or.inr ?_) rfl
    · simp only [listeners, Std.TreeMap.getElem?_insert_self, Option.getD_some]
      exact key_replaceF
    · exact ⟨_, List.mem_of_find?_eq_some found, rfl⟩
  · refine .same sa (fun id apart => Quota.getElem?_insert_of_ne apart) ?_ (Or.inl rfl) rfl
    simp [listeners]

theorem exec_listeners : ListenerMove m piece (m.exec env piece).1 := by
  by_cases touched : Part.listeners ∈ piece.touches
  case neg =>
    have kept : Part.listeners.Same m (m.exec env piece).1 := exec_keeps piece .listeners touched
    refine .same 0 (fun id _ => ?_) ?_ (Or.inl kept.2.1) kept.2.2
    · rw [kept.1]
    · rw [listeners, listeners, kept.1]
  cases piece with
  | refreshListenerState sa saInfo => exact move_of_modify rfl rfl rfl
  | subscribe sa listener callingPid => exact subscribe_move
  | unSubscribe sa listener =>
      refine .dropped sa listener rfl (fun id apart => Quota.getElem?_insert_of_ne apart) ?_ rfl rfl
      simp [exec, unSubscribeSystemAbility, listeners]
  | unSubscribeDied remoteObject => exact .swept remoteObject rfl rfl rfl rfl
  | findSystemAbilityNotify sa added =>
      simp only [exec]
      split
      · exact .same 0 (fun _ _ => rfl) rfl (Or.inl rfl) rfl
      · split
        · exact move_of_modify rfl rfl rfl
        · exact move_of_modify rfl rfl rfl
  | checkListenerNotify sa listener => exact checkListenerNotify_move
  | _ => simp [Piece.touches] at touched

/-- The counts are those of the entries, no pid has more than its quota, and no ability has
two entries for one object. -/
structure Subscribed (m : Manager) : Prop where
  counted : ∀ pid, Quota.Holds m.subscribeCountMap pid (m.subscribers.count pid)
  bounded : ∀ pid, m.subscribers.count pid ≤ Scheduler.MAX_SUBSCRIBE_COUNT
  single : ∀ sa, ((m.listeners sa).map fun item => item.listener.object).Nodup

theorem listAt_listeners {Owner : Type} {f : SAListener → Owner} {sa : Int} :
    Quota.listAt m.listenerMap (fun items => items.map f) sa = (m.listeners sa).map f := by
  unfold Quota.listAt listeners
  cases m.listenerMap[sa]? <;> rfl

theorem count_subscribers_add {Owner : Type} [DecidableEq Owner] (f : SAListener → Owner) {sa : Int}
    (agree : ∀ id, id ≠ sa → n.listenerMap[id]? = m.listenerMap[id]?) (owner : Owner) :
    (Quota.all n.listenerMap fun items => items.map f).count owner +
        ((m.listeners sa).map f).count owner =
      (Quota.all m.listenerMap fun items => items.map f).count owner +
        ((n.listeners sa).map f).count owner := by
  rw [← listAt_listeners, ← listAt_listeners]
  exact Quota.count_all_add agree owner

theorem listeners_of_agree {sa id : Int} (agree : ∀ id, id ≠ sa → n.listenerMap[id]? = m.listenerMap[id]?)
    (apart : id ≠ sa) : n.listeners id = m.listeners id := by
  rw [listeners, listeners, agree id apart]

theorem Subscribed.present (good : m.Subscribed) {sa : Int} {item : SAListener}
    (member : item ∈ m.listeners sa) : item.callingPid ∈ m.subscribeCountMap := by
  have inside : item.callingPid ∈ (m.listeners sa).map SAListener.callingPid :=
    List.mem_map_of_mem member
  rw [← listAt_listeners] at inside
  have charged : 0 < m.subscribers.count item.callingPid :=
    Nat.lt_of_lt_of_le (List.count_pos_iff.mpr inside) (Quota.count_listAt_le _)
  have counted := good.counted item.callingPid
  rw [Quota.Holds, if_neg (by omega)] at counted
  exact Std.TreeMap.mem_iff_isSome_getElem?.mpr (by rw [counted]; rfl)

theorem objects_of_keys {first second : List SAListener}
    (entries : first.map SAListener.key = second.map SAListener.key) :
    (first.map fun item => item.listener.object) = second.map fun item => item.listener.object := by
  have keys := congrArg (List.map Prod.fst) entries
  rw [List.map_map, List.map_map] at keys
  exact keys

theorem Subscribed.same (good : m.Subscribed) {sa : Int}
    (agree : ∀ id, id ≠ sa → n.listenerMap[id]? = m.listenerMap[id]?)
    (entries : (n.listeners sa).map SAListener.key = (m.listeners sa).map SAListener.key)
    (counts : n.subscribeCountMap = m.subscribeCountMap ∨
      ∃ item ∈ m.listeners sa, n.subscribeCountMap = m.subscribeCountMap.insertIfNew item.callingPid 0) :
    n.Subscribed := by
  have pids : (n.listeners sa).map SAListener.callingPid = (m.listeners sa).map SAListener.callingPid := by
    have second := congrArg (List.map Prod.snd) entries
    rw [List.map_map, List.map_map] at second
    exact second
  have objects : (n.listeners sa).map (fun item => item.listener.object) =
      (m.listeners sa).map fun item => item.listener.object := objects_of_keys entries
  have total : ∀ pid, n.subscribers.count pid = m.subscribers.count pid := by
    refine fun pid => Quota.count_all_of_same agree ?_ pid
    rw [listAt_listeners, listAt_listeners, pids]
  have kept : ∀ pid : Int, n.subscribeCountMap[pid]? = m.subscribeCountMap[pid]? := by
    intro pid
    rcases counts with same | ⟨item, member, read⟩
    · rw [same]
    · rw [read, Std.TreeMap.getElem?_insertIfNew, if_neg]
      exact fun ⟨_, absent⟩ => absent (good.present member)
  refine ⟨fun pid => ?_, fun pid => ?_, fun id => ?_⟩
  · rw [Quota.Holds, kept, total]
    exact good.counted pid
  · rw [total]
    exact good.bounded pid
  · by_cases own : id = sa
    · subst own
      rw [objects]
      exact good.single id
    · rw [listeners_of_agree agree own]
      exact good.single id

theorem Subscribed.added (good : m.Subscribed) {sa : Int} {listener : RemoteInterface} {callingPid : Int}
    (fresh : ∀ item ∈ m.listeners sa, item.listener.object ≠ listener.object)
    (room : Quota.count m.subscribeCountMap callingPid < Scheduler.MAX_SUBSCRIBE_COUNT)
    (agree : ∀ id, id ≠ sa → n.listenerMap[id]? = m.listenerMap[id]?)
    (after : n.listeners sa = m.listeners sa ++ [⟨listener, callingPid, .init⟩])
    (counts : n.subscribeCountMap = Quota.charge m.subscribeCountMap callingPid) : n.Subscribed := by
  have total : ∀ pid, n.subscribers.count pid = m.subscribers.count pid + [callingPid].count pid := by
    refine fun pid => Quota.count_all_of_append agree ?_ pid
    rw [listAt_listeners, listAt_listeners, after, List.map_append]
    rfl
  refine ⟨fun pid => ?_, fun pid => ?_, fun id => ?_⟩
  · rw [counts, total]
    exact (good.counted pid).charge_count
  · rw [total]
    by_cases own : callingPid = pid
    · subst own
      rw [(good.counted callingPid).count_eq] at room
      rw [List.count_singleton_self]
      omega
    · rw [List.count_singleton, if_neg (by simpa using own)]
      exact good.bounded pid
  · by_cases own : id = sa
    · subst own
      rw [after, List.map_append]
      refine List.nodup_append.mpr ⟨good.single id, List.nodup_singleton _, ?_⟩
      intro object inside other last
      obtain ⟨item, member, rfl⟩ := List.mem_map.mp inside
      rw [List.mem_singleton.mp last]
      exact fresh item member
    · rw [listeners_of_agree agree own]
      exact good.single id

/-- Entries go, and their pids are uncounted. -/
theorem Subscribed.fewer (good : m.Subscribed) {gone : List Int}
    (total : ∀ pid, n.subscribers.count pid + gone.count pid = m.subscribers.count pid)
    (counts : n.subscribeCountMap = Quota.releaseAll (· == 0) m.subscribeCountMap gone)
    (lists : ∀ sa, (n.listeners sa).Sublist (m.listeners sa)) : n.Subscribed := by
  refine ⟨fun pid => ?_, fun pid => ?_, fun sa => (good.single sa).sublist ((lists sa).map _)⟩
  · rw [counts]
    refine Quota.Holds.releaseAll Quota.settles_eq_zero ?_
    rw [total]
    exact good.counted pid
  · have before := good.bounded pid
    have split := total pid
    omega

theorem droppedPids_eq {object : Nat} {items : List SAListener} {pid : Int} :
    ((dropListener object items).map SAListener.callingPid).count pid +
      (droppedPids object items).count pid = (items.map SAListener.callingPid).count pid :=
  Quota.count_eraseP_add _ _ _ _

theorem exec_subscribed (good : m.Subscribed) : (m.exec env piece).1.Subscribed := by
  have move : ListenerMove m piece (m.exec env piece).1 := exec_listeners
  cases move with
  | same sa agree entries counts deaths => exact good.same agree entries counts
  | added sa listener callingPid source fresh room agree after counts deaths =>
      exact good.added fresh room agree after counts
  | dropped sa listener source agree after counts deaths =>
      refine good.fewer (fun pid => ?_) counts fun id => ?_
      · have split : ((dropListener listener.object (m.listeners sa)).map SAListener.callingPid).count pid +
            (droppedPids listener.object (m.listeners sa)).count pid =
            ((m.listeners sa).map SAListener.callingPid).count pid := droppedPids_eq
        have whole := count_subscribers_add SAListener.callingPid agree pid
        rw [after] at whole
        simp only [subscribers]
        omega
      · by_cases own : id = sa
        · subst own
          rw [after]
          exact List.eraseP_sublist
        · rw [listeners_of_agree agree own]
  | swept remoteObject source after counts deaths =>
      refine good.fewer (fun pid => ?_) counts fun id => ?_
      · rw [subscribers, subscribers, Quota.all, Quota.all, after, Std.TreeMap.toList_map, List.flatMap_map]
        exact Quota.count_flatMap_add _ fun pair _ => droppedPids_eq
      · rw [listeners, listeners, after, Std.TreeMap.getElem?_map]
        cases m.listenerMap[id]? with
        | none => exact List.Sublist.refl _
        | some items => exact List.eraseP_sublist

theorem subscribed_init (saProfiles : List SaProfile) : (init saProfiles).Subscribed := by
  refine ⟨fun pid => Quota.holds_empty, fun pid => Nat.zero_le _, fun sa => ?_⟩
  simp [init, listeners]

/-- A sweep takes out the only entry each ability has for the object. -/
theorem swept_clean (good : m.Subscribed) {remoteObject : Nat} (sa : Int) :
    ∀ item ∈ (m.unSubscribeDiedObject remoteObject).listeners sa, item.listener.object ≠ remoteObject := by
  have after : (m.unSubscribeDiedObject remoteObject).listeners sa =
      dropListener remoteObject (m.listeners sa) := by
    simp only [listeners, unSubscribeDiedObject, Std.TreeMap.getElem?_map]
    cases m.listenerMap[sa]? <;> rfl
  rw [after]
  exact Quota.ne_of_mem_eraseP (good.single sa)

end Manager

namespace Machine

theorem run_subscribed (saProfiles : List SaProfile) (labels : List MachineLabel) :
    (runFrom saProfiles labels).shared.Subscribed :=
  run_shared labels (fun good => ⟨good.counted, good.bounded, good.single⟩) Manager.exec_subscribed
    (Manager.subscribed_init saProfiles)

/-- In every reachable state the count of a pid is the number of entries it has subscribed and
at most 256, an ability has one entry for an object at most, and the sweep for a dead object
leaves no entry of it. -/
theorem subscriptions_are_counted (saProfiles : List SaProfile) (labels : List MachineLabel) :
    let m := (runFrom saProfiles labels).shared
    (∀ pid, Quota.count m.subscribeCountMap pid = m.subscribers.count pid) ∧
    (∀ pid, Quota.count m.subscribeCountMap pid ≤ 256) ∧
    (∀ sa, ((m.listeners sa).map fun item => item.listener.object).Nodup) ∧
    ∀ env remoteObject sa, ∀ item ∈ (m.exec env (.unSubscribeDied remoteObject)).1.listeners sa,
      item.listener.object ≠ remoteObject := by
  intro m
  have good : m.Subscribed := run_subscribed saProfiles labels
  refine ⟨fun pid => (good.counted pid).count_eq, fun pid => ?_, good.single, ?_⟩
  · have bounded : m.subscribers.count pid ≤ 256 := good.bounded pid
    rw [(good.counted pid).count_eq]
    omega
  · exact fun env remoteObject sa => Manager.swept_clean good sa

end Machine

namespace Manager

variable {env : Env} {m n : Manager} {piece : Piece} {object : Nat}

/-- The object carries one registration of `abilityStatusDeath_` for each entry. -/
def DeathCovered (m : Manager) (object : Nat) : Prop :=
  m.abilityStatusDeath object = m.listenerObjects.count object

instance : Decidable (m.DeathCovered object) := inferInstanceAs (Decidable (_ = _))

theorem count_found {items : List SAListener} :
    (((items.find? fun item => item.listener.object == object).map fun item =>
        item.listener.object).toList).count object =
      if items.any fun item => item.listener.object == object then 1 else 0 := by
  cases found : items.find? fun item => item.listener.object == object with
  | none =>
      have absent : (items.any fun item => item.listener.object == object) = false := by
        simpa [List.find?_eq_none] using found
      simp [absent]
  | some item =>
      have same : item.listener.object = object := by simpa using List.find?_some found
      have present : (items.any fun item => item.listener.object == object) = true :=
        List.any_eq_true.mpr ⟨item, List.mem_of_find?_eq_some found, by simpa using same⟩
      simp [present, same]

theorem count_found_of_ne {items : List SAListener} {other : Nat} (apart : other ≠ object) :
    (((items.find? fun item => item.listener.object == other).map fun item =>
      item.listener.object).toList).count object = 0 := by
  cases found : items.find? fun item => item.listener.object == other with
  | none => rfl
  | some item =>
      have same : item.listener.object = other := by simpa using List.find?_some found
      simp [same, apart]

theorem count_dropped {sa : Int} {listener : RemoteInterface} (own : listener.object = object)
    (agree : ∀ id, id ≠ sa → n.listenerMap[id]? = m.listenerMap[id]?)
    (after : n.listeners sa = dropListener listener.object (m.listeners sa)) :
    n.listenerObjects.count object +
        (if (m.listeners sa).any fun item => item.listener.object == object then 1 else 0) =
      m.listenerObjects.count object := by
  subst own
  have whole := count_subscribers_add (fun item => item.listener.object) agree listener.object
  have split := Quota.count_eraseP_add (fun item : SAListener => item.listener.object == listener.object)
    (fun item => item.listener.object) (m.listeners sa) listener.object
  rw [after, dropListener] at whole
  rw [count_found] at split
  simp only [listenerObjects]
  omega

/-- As long as the object lives, only its own unsubscription can part the two numbers. -/
theorem exec_covered (alive : piece ≠ .unSubscribeDied object)
    (other : ∀ sa listener, piece = .unSubscribe sa listener → listener.object ≠ object)
    (good : m.DeathCovered object) : (m.exec env piece).1.DeathCovered object := by
  have move : ListenerMove m piece (m.exec env piece).1 := exec_listeners
  unfold DeathCovered at good ⊢
  cases move with
  | same sa agree entries counts deaths =>
      have whole := count_subscribers_add (fun item => item.listener.object) agree object
      rw [objects_of_keys entries] at whole
      rw [deaths, good]
      simp only [listenerObjects]
      omega
  | added sa listener callingPid source fresh room agree after counts deaths =>
      have whole := count_subscribers_add (fun item => item.listener.object) agree object
      rw [after, List.map_append, List.count_append] at whole
      rw [deaths]
      simp only [listenerObjects] at good ⊢
      by_cases own : listener.object = object
      · simp only [own, List.map_cons, List.map_nil, List.count_singleton_self] at whole
        simp only [DeathRecipients.add, own, Function.update_self]
        omega
      · simp only [List.map_cons, List.map_nil, List.count_singleton, beq_iff_eq, own, if_false] at whole
        rw [DeathRecipients.add, Function.update_of_ne (Ne.symm own)]
        omega
  | dropped sa listener source agree after counts deaths =>
      have own : listener.object ≠ object := other sa listener source
      have whole := count_subscribers_add (fun item => item.listener.object) agree object
      have split := Quota.count_eraseP_add
        (fun item : SAListener => item.listener.object == listener.object)
        (fun item => item.listener.object) (m.listeners sa) object
      rw [count_found_of_ne own] at split
      rw [after, dropListener] at whole
      rw [deaths, DeathRecipients.remove, Function.update_of_ne (Ne.symm own), good]
      simp only [listenerObjects]
      omega
  | swept remoteObject source after counts deaths =>
      have own : remoteObject ≠ object := fun same => alive (by rw [source, same])
      have split : (m.exec env piece).1.listenerObjects.count object + 0 =
          m.listenerObjects.count object := by
        rw [listenerObjects, listenerObjects, Quota.all, Quota.all, after, Std.TreeMap.toList_map,
          List.flatMap_map]
        have none : (m.listenerMap.toList.flatMap fun _ => ([] : List Nat)).count object = 0 :=
          List.count_eq_zero.mpr (by simp)
        rw [← none]
        refine Quota.count_flatMap_add _ fun pair _ => ?_
        have gone := Quota.count_eraseP_add (fun item : SAListener => item.listener.object == remoteObject)
          (fun item => item.listener.object) pair.2 object
        rw [count_found_of_ne own] at gone
        exact gone
      rw [deaths, DeathRecipients.remove, Function.update_of_ne (Ne.symm own), good]
      omega

/-- An unsubscription keeps the two numbers equal exactly if it finds an entry, or if the
object has none at all. -/
theorem unSubscribe_covered {sa : Int} {listener : RemoteInterface} (own : listener.object = object)
    (good : m.DeathCovered object) :
    (m.unSubscribeSystemAbility sa listener).DeathCovered object ↔
      (m.listeners sa).any (fun item => item.listener.object == object) = true ∨
        object ∉ m.listenerObjects := by
  have split := count_dropped (n := m.unSubscribeSystemAbility sa listener) own
    (fun id apart => Quota.getElem?_insert_of_ne apart)
    (by simp [unSubscribeSystemAbility, listeners])
  have deaths : (m.unSubscribeSystemAbility sa listener).abilityStatusDeath object =
      m.listenerObjects.count object - 1 := by
    rw [← good, ← own]
    simp [unSubscribeSystemAbility, DeathRecipients.remove]
  rw [DeathCovered, deaths, ← List.count_eq_zero]
  split at split
  · rename_i present
    simp only [present, true_or, iff_true]
    omega
  · rename_i absent
    rw [Bool.not_eq_true] at absent
    simp only [absent, Bool.false_eq_true, false_or]
    omega

end Manager

namespace Machine

/-- The step does not handle the death of the object. -/
def listenerLives (object : Nat) (x : Machine) (label : MachineLabel) : Bool :=
  match x.next label with
  | some (.unSubscribeDied remoteObject) => remoteObject != object
  | _ => true

/-- The listener is unsubscribed from an ability for which it has an entry, or it has no entry
for any ability. -/
def unSubscribesOwn (object : Nat) (x : Machine) (label : MachineLabel) : Bool :=
  match x.next label with
  | some (.unSubscribe sa listener) =>
      listener.object != object ||
        (x.shared.listeners sa).any (fun item => item.listener.object == object) ||
        !x.shared.listenerObjects.contains object
  | _ => true

variable {x : Machine} {label : MachineLabel} {object : Nat}

theorem step_covered (lives : x.listenerLives object label = true)
    (good : x.shared.DeathCovered object) :
    (x.step label).shared.DeathCovered object ↔ x.unSubscribesOwn object label = true := by
  cases next : x.next label with
  | none =>
      obtain ⟨workHandler, same⟩ := step_shared_of_none next
      simp only [unSubscribesOwn, next, iff_true]
      rw [same]
      exact good
  | some piece =>
      obtain ⟨env, same⟩ := step_shared_of_next next
      rw [same]
      have alive : piece ≠ .unSubscribeDied object := by
        rintro rfl
        simp [listenerLives, next] at lives
      by_cases unsubscribes : ∃ sa listener, piece = .unSubscribe sa listener ∧ listener.object = object
      · obtain ⟨sa, listener, rfl, own⟩ := unsubscribes
        refine (Manager.unSubscribe_covered own good).trans ?_
        simp [unSubscribesOwn, next, own]
      · have other : ∀ sa listener, piece = .unSubscribe sa listener → listener.object ≠ object :=
          fun sa listener source own => unsubscribes ⟨sa, listener, source, own⟩
        have quiet : x.unSubscribesOwn object label = true := by
          simp only [unSubscribesOwn, next]
          split
          · rename_i sa listener source
            simp [other sa listener (Option.some.inj source)]
          · rfl
        simp only [quiet, iff_true]
        exact Manager.exec_covered alive other good

/-- As long as its death is not handled, a listener object carries one death registration for
each of its entries all along a run exactly when every unsubscription of the run finds an
entry of the listener, or comes while it has none. -/
theorem death_registrations_follow_entries (saProfiles : List SaProfile) (labels : List MachineLabel)
    (object : Nat)
    (lives : Runs.Guarded step (fun x label => x.listenerLives object label = true)
      (init saProfiles) labels) :
    (∀ before, before <+: labels → (runFrom saProfiles before).shared.DeathCovered object) ↔
      Runs.Guarded step (fun x label => x.unSubscribesOwn object label = true)
        (init saProfiles) labels := by
  refine Runs.forall_prefix_iff_guarded_of (fun x : Machine => x.shared.DeathCovered object)
    ?_ (fun _ => id) ?_ lives ?_
  · exact fun x label alive own good => (step_covered alive good).mpr own
  · exact fun x label alive good stray covered => stray ((step_covered alive good).mp covered)
  · rfl

/-- A listener subscribes to ability 1 and unsubscribes from it. -/
def subscribeOne : List MachineLabel :=
  [.call (.subscribeSystemAbility 1 ⟨7, 7⟩ 50)] ++ runs 0 2 ++
    [.call (.unSubscribeSystemAbility 1 ⟨7, 7⟩)] ++ runs 1 1

theorem subscribeOne_covered : (runFrom hostOfOne subscribeOne).shared.DeathCovered 7 := by
  have covered := (death_registrations_follow_entries hostOfOne subscribeOne 7
    (by decide +kernel)).mpr (by decide +kernel)
  exact covered subscribeOne (List.prefix_refl _)

/-- A listener of ability 1 unsubscribes from ability 2. -/
def unSubscribeOther : List MachineLabel :=
  [.call (.subscribeSystemAbility 1 ⟨7, 7⟩ 50)] ++ runs 0 2 ++
    [.call (.unSubscribeSystemAbility 2 ⟨7, 7⟩)] ++ runs 1 1

theorem stray_unsubscription_uncovers_listener :
    ¬ ∀ (saProfiles : List SaProfile) (labels : List MachineLabel) (object : Nat),
      Runs.Guarded step (fun x label => x.listenerLives object label = true) (init saProfiles) labels →
      (runFrom saProfiles labels).shared.DeathCovered object := by
  intro always
  have covered := always hostOfOne unSubscribeOther 7 (by decide +kernel)
  revert covered
  decide +kernel

end Machine

end Samgr
