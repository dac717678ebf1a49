import Samgr.Manager.Callbacks
import Samgr.Manager.Exclusion
import Samgr.Manager.Lifecycle
import Samgr.Manager.Processes

/-! LOADING and what moves an ability out of it. The scheduler enters LOADING at the end of a
load or of a check-and-start; the manager keeps an item and check-loaded tasks for it, and an
event of the ability or the stop of its process ends it. Whatever takes the item or the tasks
away without an event may leave the ability in LOADING for good. -/
namespace Samgr

/-- The load or check-and-start has registered its item, or has found the ability registered:
it ends in LOADING if the ability is NOT_LOADED then. -/
def Piece.bound (sa : Int) : Piece → Bool
  | .registerCallback _ | .doLoadOnDemandAbility _ _ => false
  | piece => piece.headed sa

/-- The load has still to post a check-loaded task for the ability. -/
def Piece.owes (sa : Int) : Piece → Bool
  | .startingSystemProcess load | .markStartingProcess load | .startDynamicSystemProcess load =>
      load.systemAbilityId == sa && load.isLocal
  | .sendCheckLoadedMsg load => load.systemAbilityId == sa
  | _ => false

/-- The piece is the running check-loaded task of the ability. -/
def Piece.checks (sa : Int) : Piece → Bool
  | .checkLoaded id _ _ _ => id == sa
  | _ => false

def WorkTask.checks (sa : Int) : WorkTask → Bool
  | .checkLoaded id _ _ _ => id == sa
  | _ => false

theorem WorkTask.checks_iff {sa : Int} {task : WorkTask} :
    task.checks sa = true ↔ task.Checks sa := by
  cases task <;> simp [WorkTask.checks, WorkTask.Checks]

/-- The piece delivers an event of the ability, or the stop of a process that lists it. A stop
is refused for an unknown process and in NOT_STARTED. -/
def Piece.leaves (m : Manager) (sa : Int) : Piece → Bool
  | .sendAbilityStateEvent id _ | .stopAbility _ id => id == sa
  | .lockForStop processName =>
      (m.sched.process processName).saList.contains sa &&
        (m.sched.processNames.contains processName &&
          (m.sched.process processName).state != .notStarted)
  | .getAbnormallyDied processName => (m.sched.process processName).saList.contains sa
  | _ => false

/-- The piece is about to move the ability out of LOADING. -/
def Piece.settles (sa : Int) : Piece → Bool
  | .sendAbilityStateEvent id _ | .stopAbility _ id => id == sa
  | _ => false

namespace Manager

variable (m : Manager) (pieces : List Piece) (sa : Int)

/-- An event of the ability or the stop of its process is in flight. -/
def Leaving : Prop := ∃ piece ∈ pieces, piece.leaves m sa = true

/-- A check-loaded task of the ability is waiting or running. -/
def Checking : Prop :=
  (∃ entry ∈ m.workHandler.waiting, entry.2.checks sa = true) ∨
    ∃ piece ∈ pieces, piece.checks sa = true

/-- Something is left that can move the ability out of LOADING. -/
def Movable : Prop := sa ∈ m.startingAbilityMap ∨ m.Checking pieces sa ∨ m.Leaving pieces sa

/-- The death of the callback's object takes the item of the ability. -/
def dropsItem (remoteObject : Nat) : Bool :=
  (m.startingAbilityMap[sa]?).any fun item => (dropCallback remoteObject item).callbackMap.isEmpty

instance : Decidable (m.Leaving pieces sa) := inferInstanceAs (Decidable (∃ _ ∈ _, _))

instance : Decidable (m.Checking pieces sa) := inferInstanceAs (Decidable (_ ∨ _))

instance : Decidable (m.Movable pieces sa) := inferInstanceAs (Decidable (_ ∨ _))

variable {m pieces sa} {env : Env} {piece : Piece} {others : List Piece}

theorem Leaving.subset (good : m.Leaving pieces sa) (more : ∀ piece ∈ pieces, piece ∈ others) :
    m.Leaving others sa := by
  obtain ⟨piece, member, leaves⟩ := good
  exact ⟨piece, more piece member, leaves⟩

theorem Checking.subset (good : m.Checking pieces sa) (more : ∀ piece ∈ pieces, piece ∈ others) :
    m.Checking others sa := by
  refine good.imp_right ?_
  rintro ⟨piece, member, checks⟩
  exact ⟨piece, more piece member, checks⟩

theorem Movable.subset (good : m.Movable pieces sa) (more : ∀ piece ∈ pieces, piece ∈ others) :
    m.Movable others sa :=
  good.imp_right (Or.imp (·.subset more) (·.subset more))

theorem mem_setItem {id : Int} {item : AbilityItem} :
    id ∈ (m.setItem sa item).startingAbilityMap ↔ id = sa ∨ id ∈ m.startingAbilityMap := by
  rw [setItem, Std.TreeMap.mem_insert, Std.LawfulEqCmp.compare_eq_iff_eq]
  exact or_congr_left eq_comm

/-- Every ability that had an item has one still. -/
def KeepsItems (m n : Manager) : Prop :=
  ∀ id, id ∈ m.startingAbilityMap → id ∈ n.startingAbilityMap

theorem setItem_keepsItems {item : AbilityItem} : KeepsItems m (m.setItem sa item) :=
  fun _ inside => mem_setItem.mpr (Or.inr inside)

theorem registerCallback_item {callback : RemoteInterface} {callingPid : Int} {event : OnDemandEvent}
    {since : Nat} :
    sa ∈ (m.registerCallback sa callback callingPid event since).1.startingAbilityMap ∧
      KeepsItems m (m.registerCallback sa callback callingPid event since).1 := by
  simp only [registerCallback]
  split
  · exact ⟨mem_setItem.mpr (Or.inl rfl), setItem_keepsItems⟩
  · split
    · exact ⟨mem_setItem.mpr (Or.inl rfl), setItem_keepsItems⟩
    · exact ⟨mem_setItem.mpr (Or.inl rfl), setItem_keepsItems⟩

theorem startOnDemandAbilityInner_keepsItems {procName : String} {item : AbilityItem} :
    KeepsItems m (m.startOnDemandAbilityInner procName sa item).1 := by
  simp only [startOnDemandAbilityInner]
  split
  · exact fun _ inside => inside
  · exact setItem_keepsItems

theorem startOnDemandAbilityLocked_keepsItems :
    KeepsItems m (m.startOnDemandAbilityLocked sa).1 := by
  simp only [startOnDemandAbilityLocked]
  split
  · exact fun _ inside => inside
  · exact fun id inside => startOnDemandAbilityInner_keepsItems id (setItem_keepsItems id inside)

theorem doLoadOnDemandAbility_keepsItems : KeepsItems m (m.doLoadOnDemandAbility sa).1 := by
  simp only [doLoadOnDemandAbility]
  split
  · exact fun _ inside => inside
  · split
    · exact fun _ inside => inside
    · exact fun id inside => startOnDemandAbilityLocked_keepsItems id (setItem_keepsItems id inside)

/-- A check-and-start that succeeds leaves an item. -/
theorem doLoadOnDemandAbility_item (started : (m.doLoadOnDemandAbility sa).2.1 = true) :
    sa ∈ (m.doLoadOnDemandAbility sa).1.startingAbilityMap := by
  simp only [doLoadOnDemandAbility] at started ⊢
  split
  · rename_i starting
    obtain ⟨item, found, -⟩ := (Option.any_eq_true ..).mp starting
    exact Std.TreeMap.mem_iff_isSome_getElem?.mpr (by rw [found]; rfl)
  · rename_i idle
    rw [if_neg idle] at started
    split
    · rename_i unknown
      rw [if_pos unknown] at started
      cases started
    · exact startOnDemandAbilityLocked_keepsItems sa (mem_setItem.mpr (Or.inl rfl))

theorem mem_erase_of_ne {id : Int} (other : id ≠ sa) (inside : id ∈ m.startingAbilityMap) :
    id ∈ m.startingAbilityMap.erase sa := by
  refine Std.TreeMap.mem_erase.mpr ⟨fun same => other ?_, inside⟩
  exact (Std.LawfulEqCmp.eq_of_compare same).symm

/-- The ability keeps its item, unless the piece reports it, drops it or times out for it. -/
theorem item_turn (inside : sa ∈ m.startingAbilityMap) :
    sa ∈ (m.exec env piece).1.startingAbilityMap ∨ piece.clears sa ∨
      (∃ remoteObject, piece = .onAbilityCallbackDied remoteObject ∧
        m.dropsItem sa remoteObject = true) ∨
      ∃ srcDeviceId callback, piece = .cleanCallback sa srcDeviceId callback := by
  by_cases touched : Part.starting ∈ piece.touches
  case neg =>
    have kept : Part.starting.Same m (m.exec env piece).1 := exec_keeps piece .starting touched
    rw [kept.1]
    exact Or.inl inside
  cases piece with
  | registerCallback load =>
      simp only [exec]
      split
      · exact Or.inl (registerCallback_item.2 sa inside)
      · exact Or.inl (setItem_keepsItems sa inside)
  | startOnDemandAbility load => exact Or.inl (startOnDemandAbilityLocked_keepsItems sa inside)
  | doLoadOnDemandAbility processName id => exact Or.inl (doLoadOnDemandAbility_keepsItems sa inside)
  | startNamedAbility procName id =>
      simp only [exec, startNamedAbilityLocked]
      split
      · exact Or.inl inside
      · exact Or.inl (startOnDemandAbilityInner_keepsItems sa inside)
  | notifySystemAbilityLoaded id remoteObject =>
      by_cases own : sa = id
      · subst own
        exact Or.inr (Or.inl (Or.inl ⟨remoteObject, rfl⟩))
      · simp only [exec, notifySystemAbilityLoaded]
        split
        · exact Or.inl inside
        · exact Or.inl (mem_erase_of_ne own inside)
  | onStartSystemAbilityFail id errCode process =>
      by_cases own : sa = id
      · subst own
        exact Or.inr (Or.inl (Or.inr ⟨errCode, process, rfl⟩))
      · simp only [exec, onStartSystemAbilityFail]
        split <;> split <;>
          first | exact Or.inl inside | exact Or.inl (mem_erase_of_ne own inside)
  | cleanCallback id srcDeviceId callback =>
      by_cases own : sa = id
      · subst own
        exact Or.inr (Or.inr (Or.inr ⟨srcDeviceId, callback, rfl⟩))
      · simp only [exec, cleanCallbackForLoadFailed]
        split
        · exact Or.inl inside
        · rename_i item found
          have posted : sa ∈ (m.failCallback id
              (failingCallback srcDeviceId callback item)).startingAbilityMap := by
            cases failingCallback srcDeviceId callback item <;> exact inside
          split
          · exact Or.inl (mem_erase_of_ne own inside)
          · exact Or.inl (setItem_keepsItems sa posted)
  | onAbilityCallbackDied remoteObject =>
      obtain ⟨item, found⟩ : ∃ item, m.startingAbilityMap[sa]? = some item :=
        Option.isSome_iff_exists.mp (Std.TreeMap.mem_iff_isSome_getElem?.mp inside)
      by_cases drops : (dropCallback remoteObject item).callbackMap.isEmpty = true
      · exact Or.inr (Or.inr (Or.inl ⟨remoteObject, rfl, by simp [dropsItem, found, drops]⟩))
      · refine Or.inl (Std.TreeMap.mem_iff_isSome_getElem?.mpr ?_)
        simp [exec, onAbilityCallbackDied, found, drops]
  | _ => simp [Piece.touches] at touched

theorem getAbnormallyDied_of_stop {processName : String}
    (leaves : Piece.leaves m sa (.lockForStop processName) = true) :
    .getAbnormallyDied processName ∈ (m.exec env (.lockForStop processName)).2 := by
  simp only [Piece.leaves, Bool.and_eq_true, bne_iff_ne, ne_eq, List.contains_iff_mem] at leaves
  simp [exec, leaves.2.1, leaves.2.2]

/-- What is about to move the ability out of LOADING stays so, unless it does. -/
theorem leaving_turn (listed : piece.Listed m.sched.abilityIds) (calm : piece.settles sa = false)
    (leaving : m.Leaving (piece :: others) sa) :
    (m.exec env piece).1.Leaving ((m.exec env piece).2 ++ others) sa := by
  have layout : Chart.SameLayout m.sched.chart (m.exec env piece).1.sched.chart := exec_sameLayout listed
  have lists : ∀ processName, ((m.exec env piece).1.sched.process processName).saList =
      (m.sched.process processName).saList := fun processName => congrFun layout.saList processName
  have names : (m.exec env piece).1.sched.processNames = m.sched.processNames := layout.names
  obtain ⟨leaver, member, leaves⟩ := leaving
  rcases List.mem_cons.mp member with rfl | member
  · cases leaver with
    | lockForStop processName =>
        refine ⟨_, List.mem_append_left _ (getAbnormallyDied_of_stop leaves), ?_⟩
        simp only [Piece.leaves, Bool.and_eq_true] at leaves
        simpa only [Piece.leaves, lists] using leaves.1
    | getAbnormallyDied processName =>
        refine ⟨.stopAbility processName sa, List.mem_append_left _ ?_, by simp [Piece.leaves]⟩
        have inside : sa ∈ (m.sched.process processName).saList := by
          simpa [Piece.leaves] using leaves
        simp [exec, inside]
    | sendAbilityStateEvent id event =>
        simp only [Piece.settles] at calm
        simp [Piece.leaves, calm] at leaves
    | stopAbility processName id =>
        simp only [Piece.settles] at calm
        simp [Piece.leaves, calm] at leaves
    | _ => cases leaves
  · cases leaver with
    | lockForStop processName =>
        by_cases same : piece = .lockForStop processName
        · subst same
          refine ⟨_, List.mem_append_left _ (getAbnormallyDied_of_stop leaves), ?_⟩
          simp only [Piece.leaves, Bool.and_eq_true] at leaves
          simpa only [Piece.leaves, lists] using leaves.1
        · refine ⟨.lockForStop processName, List.mem_append_right _ member, ?_⟩
          simp only [Piece.leaves, Bool.and_eq_true, bne_iff_ne] at leaves ⊢
          rw [lists, names]
          exact ⟨leaves.1, leaves.2.1, running_of_exec listed same leaves.2.2⟩
    | getAbnormallyDied processName =>
        refine ⟨.getAbnormallyDied processName, List.mem_append_right _ member, ?_⟩
        simpa only [Piece.leaves, lists] using leaves
    | sendAbilityStateEvent id event =>
        exact ⟨.sendAbilityStateEvent id event, List.mem_append_right _ member, leaves⟩
    | stopAbility processName id =>
        exact ⟨.stopAbility processName id, List.mem_append_right _ member, leaves⟩
    | _ => cases leaves

theorem startFail_absent {errCode : Int} {process : String} (absent : sa ∉ m.startingAbilityMap) :
    (m.onStartSystemAbilityFail sa errCode process).workHandler = m.workHandler := by
  have none : m.startingAbilityMap[sa]? = none := Std.TreeMap.getElem?_eq_none absent
  simp only [onStartSystemAbilityFail]
  split
  · split <;> rfl
  · rename_i item found
    have kept : (if sa ∈ m.onDemandAbilityMap then m else { m with
        onDemandAbilityMap := m.onDemandAbilityMap.insert sa process }).startingAbilityMap[sa]? =
        m.startingAbilityMap[sa]? := by
      split <;> rfl
    rw [kept, none] at found
    cases found

/-- A check-loaded task of the ability goes on, unless it is cancelled or looks at the registry. -/
theorem checking_turn (named : m.Named) (checking : m.Checking (piece :: others) sa) :
    (m.exec env piece).1.Checking ((m.exec env piece).2 ++ others) sa ∨
      piece = .removeCheckLoadedMsg sa ∨
      (∃ errCode process, piece = .onStartSystemAbilityFail sa errCode process ∧
        sa ∈ m.startingAbilityMap) ∨
      ∃ name srcDeviceId callback, piece = .checkLoaded sa name srcDeviceId callback := by
  rcases checking with ⟨entry, waits, task⟩ | ⟨runner, member, checks⟩
  · have turned : _ ∈ (m.exec env piece).1.workHandler.waiting ∨ _ := exec_keepsTask named waits
    rcases turned with still | ⟨id, cancels, same⟩
    · exact Or.inl (Or.inl ⟨entry, still, task⟩)
    · obtain ⟨name, srcDeviceId, callback, shape⟩ := WorkTask.checks_iff.mp task
      obtain ⟨_, _, _, other⟩ := same
      rw [shape] at other
      cases other
      cases piece <;> cases cancels
      · exact Or.inr (Or.inl rfl)
      · rename_i errCode process
        by_cases inside : sa ∈ m.startingAbilityMap
        · exact Or.inr (Or.inr (Or.inl ⟨errCode, process, rfl, inside⟩))
        · refine Or.inl (Or.inl ⟨entry, ?_, task⟩)
          change entry ∈ (m.onStartSystemAbilityFail sa errCode process).workHandler.waiting
          rw [startFail_absent inside]
          exact waits
  · rcases List.mem_cons.mp member with rfl | member
    · cases runner with
      | checkLoaded id name srcDeviceId callback =>
          obtain rfl : id = sa := by simpa [Piece.checks] using checks
          exact Or.inr (Or.inr (Or.inr ⟨name, srcDeviceId, callback, rfl⟩))
      | _ => cases checks
    · exact Or.inl (Or.inr ⟨runner, List.mem_append_right _ member, checks⟩)

/-- A load that owes a check-loaded task has posted it, or owes it still. -/
theorem owed_turn (owed : ∃ owing ∈ piece :: others, owing.owes sa = true) :
    (m.exec env piece).1.Checking ((m.exec env piece).2 ++ others) sa ∨
      ∃ owing ∈ (m.exec env piece).2 ++ others, owing.owes sa = true := by
  obtain ⟨owing, member, owes⟩ := owed
  rcases List.mem_cons.mp member with rfl | member
  · cases owing with
    | startingSystemProcess load =>
        have own : load.systemAbilityId = sa ∧ load.isLocal = true := by
          simpa [Piece.owes] using owes
        refine Or.inr ?_
        simp only [exec, Loading.afterStart, own.2, if_true]
        split
        · exact ⟨.sendCheckLoadedMsg load, by simp, by simp [Piece.owes, own.1]⟩
        · exact ⟨.markStartingProcess load, by simp, owes⟩
    | markStartingProcess load =>
        have own : load.systemAbilityId = sa ∧ load.isLocal = true := by
          simpa [Piece.owes] using owes
        refine Or.inr ?_
        simp only [exec, Loading.afterStart, own.2, if_true]
        split
        · exact ⟨.sendCheckLoadedMsg load, by simp, by simp [Piece.owes, own.1]⟩
        · exact ⟨.startDynamicSystemProcess load, by simp, owes⟩
    | startDynamicSystemProcess load =>
        have own : load.systemAbilityId = sa ∧ load.isLocal = true := by
          simpa [Piece.owes] using owes
        refine Or.inr ⟨.sendCheckLoadedMsg load, List.mem_append_left _ ?_, by simp [Piece.owes, own.1]⟩
        simp only [exec, Loading.afterStart, own.2, if_true]
        split <;> simp
    | sendCheckLoadedMsg load =>
        have own : load.systemAbilityId = sa := by simpa [Piece.owes] using owes
        refine Or.inl (Or.inl ⟨_, TaskQueue.mem_waiting_postNamed.mpr (Or.inl rfl), ?_⟩)
        simp [WorkTask.checks, own]
    | _ => cases owes
  · exact Or.inr ⟨owing, List.mem_append_right _ member, owes⟩

end Manager

namespace Machine

open Threads.Config

/-- The ability is LOADING, or NOT_LOADED with a load on its way there. -/
def Awaited (sa : Int) (m : Manager) (pieces : List Piece) : Prop :=
  m.stateOf sa = .loading ∨ m.stateOf sa = .notLoaded ∧ ∃ piece ∈ pieces, piece.bound sa = true

/-- Without the item something else is left: an event, a check-loaded task that the step does
not cancel, or, before LOADING is entered, a load that owes such a task. -/
def Survives (sa : Int) (cancels : Bool) (m : Manager) (pieces : List Piece) : Prop :=
  m.Leaving pieces sa ∨ (cancels = false ∧ m.Checking pieces sa) ∨
    m.stateOf sa = .notLoaded ∧ ∃ piece ∈ pieces, piece.owes sa = true

instance (sa : Int) (m : Manager) (pieces : List Piece) : Decidable (Awaited sa m pieces) :=
  inferInstanceAs (Decidable (_ ∨ _))

instance (sa : Int) (cancels : Bool) (m : Manager) (pieces : List Piece) :
    Decidable (Survives sa cancels m pieces) :=
  inferInstanceAs (Decidable (_ ∨ _))

/-- The ability is LOADING only with something left that can move it on; so is a load that ends
in LOADING. A registered ability that is LOADING, or will be, has an event on its way. -/
structure Driven (sa : Int) (m : Manager) (pieces : List Piece) : Prop where
  loading : m.stateOf sa = .loading → m.Movable pieces sa
  bound : m.stateOf sa = .notLoaded → (∃ piece ∈ pieces, piece.bound sa = true) →
    m.Movable pieces sa ∨ ∃ piece ∈ pieces, piece.owes sa = true
  registered : m.checkSystemAbility sa ≠ none →
    (m.stateOf sa = .loading ∨
      m.stateOf sa = .notLoaded ∧ ∃ piece ∈ pieces, piece.headed sa = true) → m.Leaving pieces sa

/-- The steps that may strand an ability: one that takes its item does so only while it is not
awaited, or something else survives; and a load or check-and-start that finds it registered
and NOT_LOADED does so only while an event of it is in flight. -/
def strandsNone (sa : Int) (x : Machine) (label : MachineLabel) : Bool :=
  match x.next label with
  | some (.onStartSystemAbilityFail id _ _) =>
      decide (id = sa → sa ∈ x.shared.startingAbilityMap → Awaited sa x.shared x.inFlight →
        Survives sa true x.shared x.inFlight)
  | some (.notifySystemAbilityLoaded id _) =>
      decide (id = sa → sa ∈ x.shared.startingAbilityMap → Awaited sa x.shared x.inFlight →
        Survives sa false x.shared x.inFlight)
  | some (.onAbilityCallbackDied remoteObject) =>
      decide (x.shared.dropsItem sa remoteObject = true → Awaited sa x.shared x.inFlight →
        Survives sa false x.shared x.inFlight)
  | some (.doLoadSystemAbility load) =>
      decide (load.systemAbilityId = sa → x.shared.checkSystemAbility sa ≠ none →
        x.shared.stateOf sa = .notLoaded → x.shared.Leaving x.inFlight sa)
  | some (.checkOnDemand _ id) =>
      decide (id = sa → x.shared.checkSystemAbility sa ≠ none →
        x.shared.stateOf sa = .notLoaded → x.shared.Leaving x.inFlight sa)
  | _ => true

variable {first : Scheduler} {sa : Int} {x : Machine} {label : MachineLabel} {env : Env} {piece : Piece}
  {others : List Piece}

theorem headed_of_bound (bound : piece.bound sa = true) : piece.headed sa = true := by
  cases piece <;> first | exact bound | cases bound

theorem bound_of_owes (owes : piece.owes sa = true) : piece.bound sa = true := by
  cases piece <;> simp_all [Piece.owes, Piece.bound, Piece.headed]

theorem bound_of_commits (commits : piece.Commits sa) : piece.bound sa = true := by
  rcases commits with ⟨load, rfl, rfl⟩ | ⟨processName, isExist, rfl⟩ <;>
    simp [Piece.bound, Piece.headed]

/-- A new bound piece comes from a bound one, from the registration of an item, or from a check
that found the ability registered. -/
theorem bound_cases {m : Manager} {made : Piece} (member : made ∈ (m.exec env piece).2)
    (bound : made.bound sa = true) :
    piece.bound sa = true ∨ sa ∈ (m.exec env piece).1.startingAbilityMap ∨
      (m.checkSystemAbility sa ≠ none ∧
        ((∃ load : Loading, piece = .doLoadSystemAbility load ∧ load.systemAbilityId = sa) ∨
          ∃ processName, piece = .checkOnDemand processName sa)) := by
  have follows := exec_follows member
  cases piece with
  | registerCallback load =>
      have own : load.systemAbilityId = sa := by
        rcases follows with ⟨result, rfl⟩ | rfl | ⟨-, rfl | rfl⟩ <;>
          simp_all [Piece.bound, Piece.headed]
      subst own
      refine Or.inr (Or.inl ?_)
      simp only [Manager.exec]
      split
      · exact Manager.registerCallback_item.1
      · exact Manager.mem_setItem.mpr (Or.inl rfl)
  | doLoadOnDemandAbility processName id =>
      simp only [Manager.exec, List.mem_singleton] at member
      subst member
      have own : id = sa ∧ (m.doLoadOnDemandAbility id).2.1 = true := by
        simpa [Piece.bound, Piece.headed] using bound
      obtain ⟨rfl, started⟩ := own
      exact Or.inr (Or.inl (Manager.doLoadOnDemandAbility_item started))
  | doLoadSystemAbility load =>
      rcases follows with ⟨remoteObject, found, ends⟩ | ⟨-, rfl⟩
      · have own : load.systemAbilityId = sa := by
          rcases ends with rfl | rfl <;> simpa [Piece.bound, Piece.headed] using bound
        subst own
        exact Or.inr (Or.inr ⟨by rw [found]; exact Option.some_ne_none _, Or.inl ⟨load, rfl, rfl⟩⟩)
      · cases bound
  | checkOnDemand processName id =>
      simp only [Manager.exec] at member
      split at member
      · rw [List.mem_singleton.mp member] at bound
        cases bound
      · rename_i found
        rw [List.mem_singleton.mp member] at bound
        obtain rfl : id = sa := by simpa [Piece.bound, Piece.headed] using bound
        exact Or.inr (Or.inr ⟨found, Or.inr ⟨processName, rfl⟩⟩)
  | startingSystemProcess load =>
      left
      rcases follows with rfl | rfl | rfl | ⟨result, rfl⟩ <;>
        simp_all [Piece.bound, Piece.headed]
  | markStartingProcess load =>
      left
      rcases follows with rfl | rfl | ⟨result, rfl⟩ <;> simp_all [Piece.bound, Piece.headed]
  | startDynamicSystemProcess load =>
      left
      rcases follows with ⟨procName, rfl⟩ | rfl | ⟨result, rfl⟩ <;>
        simp_all [Piece.bound, Piece.headed]
  | _ => grind [Piece.Follows, Piece.bound, Piece.headed]

/-- A new headed piece comes from a headed one, from a check that found the ability registered,
or from one that did not. -/
theorem headed_cases {m : Manager} {made : Piece} (member : made ∈ (m.exec env piece).2)
    (headed : made.headed sa = true) :
    piece.headed sa = true ∨ (m.exec env piece).1.checkSystemAbility sa = none ∨
      (m.checkSystemAbility sa ≠ none ∧
        ((∃ load : Loading, piece = .doLoadSystemAbility load ∧ load.systemAbilityId = sa) ∨
          ∃ processName, piece = .checkOnDemand processName sa)) := by
  have follows := exec_follows member
  cases piece with
  | doLoadSystemAbility load =>
      rcases follows with ⟨remoteObject, found, ends⟩ | ⟨absent, rfl⟩
      · have own : load.systemAbilityId = sa := by
          rcases ends with rfl | rfl <;> simpa [Piece.headed] using headed
        subst own
        exact Or.inr (Or.inr ⟨by rw [found]; exact Option.some_ne_none _, Or.inl ⟨load, rfl, rfl⟩⟩)
      · obtain rfl : load.systemAbilityId = sa := by simpa [Piece.headed] using headed
        exact Or.inr (Or.inl absent)
  | checkOnDemand processName id =>
      simp only [Manager.exec] at member
      split at member
      · rename_i absent
        rw [List.mem_singleton.mp member] at headed
        obtain rfl : id = sa := by simpa [Piece.headed] using headed
        exact Or.inr (Or.inl absent)
      · rename_i found
        rw [List.mem_singleton.mp member] at headed
        obtain rfl : id = sa := by simpa [Piece.headed] using headed
        exact Or.inr (Or.inr ⟨found, Or.inr ⟨processName, rfl⟩⟩)
  | registerCallback load =>
      left
      rcases follows with ⟨result, rfl⟩ | rfl | ⟨-, rfl | rfl⟩ <;> simp_all [Piece.headed]
  | doLoadOnDemandAbility processName id =>
      left
      obtain ⟨result, isExist, rfl⟩ := follows
      simp_all [Piece.headed]
  | startingSystemProcess load =>
      left
      rcases follows with rfl | rfl | rfl | ⟨result, rfl⟩ <;> simp_all [Piece.headed]
  | markStartingProcess load =>
      left
      rcases follows with rfl | rfl | ⟨result, rfl⟩ <;> simp_all [Piece.headed]
  | startDynamicSystemProcess load =>
      left
      rcases follows with ⟨procName, rfl⟩ | rfl | ⟨result, rfl⟩ <;> simp_all [Piece.headed]
  | _ => grind [Piece.Follows, Piece.headed]

/-- A piece that settles the ability leaves it outside LOADING, and no load of it is past its
check of the registry then. -/
theorem settled_turn (sound : Sound first x.shared x.inFlight) (known : sa ∈ first.abilityIds)
    (housed : Housed first sa x.inFlight) (locked : x.Locked (first.ownProcessName sa))
    (single : x.OneHolder (first.ownProcessName sa)) (inTurn : x.InTurn sa)
    (next : x.next label = some piece) (enabled : x.enabled managerProgram piece = true)
    (opened : x.inFlight.Perm (piece :: others)) (settles : piece.settles sa = true) :
    (x.shared.exec env piece).1.stateOf sa ≠ .loading ∧
      ∀ other ∈ (x.shared.exec env piece).2 ++ others, other.headed sa = false := by
  have listed : sa ∈ x.shared.sched.abilityIds := by
    have ids : x.shared.sched.abilityIds = first.abilityIds := sound.layout.ids
    rw [ids]
    exact known
  have flying : ∀ {other : Piece}, other ∈ others → other ∈ x.inFlight :=
    fun member => opened.mem_iff.mpr (List.mem_cons_of_mem _ member)
  cases piece with
  | sendAbilityStateEvent id event =>
      obtain rfl : id = sa := by simpa [Piece.settles] using settles
      refine ⟨Scheduler.abilityEvent_leaves event sound.counted listed, fun other member => ?_⟩
      have member : other ∈ others := by simpa [Manager.exec] using member
      exact housed.not_headed sound locked known enabled (flying member)
  | stopAbility processName id =>
      obtain rfl : id = sa := by simpa [Piece.settles] using settles
      have home : processName = first.ownProcessName id :=
        housed _ (opened.mem_iff.mpr List.mem_cons_self) rfl
      subst home
      have stopped : (x.shared.exec env (.stopAbility (first.ownProcessName id) id)).1.stateOf id =
          .notLoaded := Scheduler.beginReplay_state sound.counted listed
      refine ⟨by rw [stopped]; decide, fun other member => ?_⟩
      rcases List.mem_append.mp member with made | member
      · obtain ⟨-, ⟨load, -, -, -, rfl⟩ | rfl⟩ := exec_follows made <;> rfl
      · by_contra headed
        have headed : other.headed id = true := by simpa using headed
        have same := housed.headed_alone locked single inTurn next rfl rfl (flying member) headed
        rw [same] at headed
        cases headed
  | _ => cases settles

/-- What survives a step that takes the item is still there after it. -/
theorem survives_turn {cancels : Bool} (listed : piece.Listed x.shared.sched.abilityIds)
    (calm : piece.settles sa = false) (opened : x.inFlight.Perm (piece :: others))
    (keepsChecks : cancels = false → x.shared.Checking (piece :: others) sa →
      (x.shared.exec env piece).1.Checking ((x.shared.exec env piece).2 ++ others) sa)
    (survives : Survives sa cancels x.shared x.inFlight) :
    (x.shared.exec env piece).1.Movable ((x.shared.exec env piece).2 ++ others) sa ∨
      x.shared.stateOf sa = .notLoaded ∧ ∃ owing ∈ piece :: others, owing.owes sa = true := by
  rcases survives with leaving | ⟨keeps, checking⟩ | ⟨down, owing, member, owes⟩
  · have leaving := leaving.subset fun _ => opened.mem_iff.mp
    exact Or.inl (Or.inr (Or.inr (Manager.leaving_turn listed calm leaving)))
  · exact Or.inl (Or.inr (Or.inl (keepsChecks keeps (checking.subset fun _ => opened.mem_iff.mp))))
  · exact Or.inr ⟨down, owing, opened.mem_iff.mp member, owes⟩

/-- What is known of the machine while the ability's processes stop at home. -/
structure Guided (first : Scheduler) (sa : Int) (x : Machine) : Prop where
  sound : Sound first x.shared x.inFlight
  housed : Housed first sa x.inFlight
  locked : x.Locked (first.ownProcessName sa)
  single : x.OneHolder (first.ownProcessName sa)
  inTurn : x.InTurn sa
  named : x.shared.Named
  delivering : x.Delivering sa
  failing : x.Failing sa

theorem step_guided (stops : x.stopsAtHome sa label = true) (good : Guided first sa x) :
    Guided first sa (x.step label) where
  sound := step_sound label good.sound
  housed := step_housed good.sound stops good.housed
  locked := step_locked label good.locked
  single := step_oneHolder good.single
  inTurn := step_inTurn good.inTurn
  named := step_named good.named
  delivering := step_delivering good.delivering
  failing := step_failing good.failing

theorem guided_init (saProfiles : List SaProfile) (sa : Int) :
    Guided (Scheduler.init saProfiles) sa (init saProfiles) where
  sound := runFrom_sound saProfiles []
  housed := fun _ member => absurd member List.not_mem_nil
  locked := runFrom_locked saProfiles [] _
  single := Nat.zero_le 1
  inTurn := ⟨List.Pairwise.nil, nofun⟩
  named := (tended_init saProfiles sa).named
  delivering := ⟨trivial, nofun⟩
  failing := ⟨trivial, nofun⟩

section Turn

variable (guided : Guided first sa x) (next : x.next label = some piece)
  (opened : x.inFlight.Perm (piece :: others)) (kept : x.strandsNone sa label = true)

include guided opened

theorem Guided.listed : piece.Listed x.shared.sched.abilityIds :=
  guided.sound.listed piece (opened.mem_iff.mpr List.mem_cons_self)

/-- The event that closes a bracket of the piece stays in flight. -/
theorem Guided.event {opens : Piece → Prop} {event : AbilityStateEvent}
    (brackets : Bracketed opens (fun later => later = .sendAbilityStateEvent sa event) x)
    (inside : opens piece) (calm : piece.settles sa = false) :
    (x.shared.exec env piece).1.Leaving ((x.shared.exec env piece).2 ++ others) sa := by
  obtain ⟨later, found, rfl⟩ := brackets.later (opened.mem_iff.mpr List.mem_cons_self) inside
  refine Manager.leaving_turn (guided.listed opened) calm ?_
  exact ⟨_, opened.mem_iff.mp found, by simp [Piece.leaves]⟩

include next kept

/-- A step that strands none leaves an awaited ability movable, or a load that owes it a task. -/
theorem Guided.movable_turn (calm : piece.settles sa = false)
    (good : Driven sa x.shared (piece :: others)) (awaited : Awaited sa x.shared (piece :: others))
    (movable : x.shared.Movable (piece :: others) sa) :
    (x.shared.exec env piece).1.Movable ((x.shared.exec env piece).2 ++ others) sa ∨
      x.shared.stateOf sa = .notLoaded ∧ ∃ owing ∈ piece :: others, owing.owes sa = true := by
  have listed := guided.listed opened
  have awaits : Awaited sa x.shared x.inFlight := by
    refine awaited.imp_right (And.imp_right ?_)
    rintro ⟨other, member, bound⟩
    exact ⟨other, opened.mem_iff.mpr member, bound⟩
  rcases movable with item | checking | leaving
  · have turned : sa ∈ (x.shared.exec env piece).1.startingAbilityMap ∨ _ := Manager.item_turn item
    rcases turned with
      still | (⟨remoteObject, rfl⟩ | ⟨errCode, process, rfl⟩) | ⟨remoteObject, rfl, drops⟩ |
      ⟨srcDeviceId, callback, rfl⟩
    · exact Or.inl (Or.inl still)
    · have survives : Survives sa false x.shared x.inFlight := by
        simp only [strandsNone, next, decide_eq_true_eq] at kept
        exact kept trivial item awaits
      refine survives_turn listed calm opened (fun _ checking => ?_) survives
      simpa using Manager.checking_turn guided.named checking
    · have survives : Survives sa true x.shared x.inFlight := by
        simp only [strandsNone, next, decide_eq_true_eq] at kept
        exact kept trivial item awaits
      exact survives_turn listed calm opened (fun keeps : true = false => by cases keeps) survives
    · have survives : Survives sa false x.shared x.inFlight := by
        simp only [strandsNone, next, decide_eq_true_eq] at kept
        exact kept drops awaits
      refine survives_turn listed calm opened (fun _ checking => ?_) survives
      simpa using Manager.checking_turn guided.named checking
    · exact Or.inl (Or.inr (Or.inr
        (guided.event opened guided.failing ⟨srcDeviceId, callback, rfl⟩ calm)))
  · have turned : (x.shared.exec env piece).1.Checking ((x.shared.exec env piece).2 ++ others) sa ∨ _ :=
      Manager.checking_turn guided.named checking
    rcases turned with
      still | rfl | ⟨errCode, process, rfl, item⟩ | ⟨name, srcDeviceId, callback, rfl⟩
    · exact Or.inl (Or.inr (Or.inl still))
    · exact Or.inl (Or.inr (Or.inr (guided.event opened guided.delivering rfl calm)))
    · have survives : Survives sa true x.shared x.inFlight := by
        simp only [strandsNone, next, decide_eq_true_eq] at kept
        exact kept trivial item awaits
      exact survives_turn listed calm opened (fun keeps : true = false => by cases keeps) survives
    · refine Or.inl (Or.inr (Or.inr ?_))
      by_cases absent : x.shared.checkSystemAbility sa = none
      · refine ⟨.sendAbilityStateEvent sa .abilityLoadFailedEvent, List.mem_append_left _ ?_, ?_⟩
        · simp [Manager.exec, absent]
        · simp [Piece.leaves]
      · -- the task finds the ability registered and sends nothing: the registration has to
        refine Manager.leaving_turn listed calm (good.registered absent ?_)
        refine awaited.imp_right (And.imp_right ?_)
        rintro ⟨other, member, bound⟩
        exact ⟨other, member, headed_of_bound bound⟩
  · exact Or.inl (Or.inr (Or.inr (Manager.leaving_turn listed calm leaving)))

omit guided opened in
/-- A check that found the ability registered did so with an event of it in flight. -/
theorem leaving_of_found (found : x.shared.checkSystemAbility sa ≠ none)
    (checks : (∃ load : Loading, piece = .doLoadSystemAbility load ∧ load.systemAbilityId = sa) ∨
      ∃ processName, piece = .checkOnDemand processName sa)
    (down : x.shared.stateOf sa = .notLoaded) : x.shared.Leaving x.inFlight sa := by
  rcases checks with ⟨load, rfl, own⟩ | ⟨processName, rfl⟩
  · simp only [strandsNone, next, decide_eq_true_eq] at kept
    exact kept own found down
  · simp only [strandsNone, next, decide_eq_true_eq] at kept
    exact kept trivial found down

omit kept in
/-- When a load ends in LOADING, no load owes the ability a task any more. -/
theorem Guided.not_owed (commits : piece.Commits sa)
    (owed : ∃ owing ∈ piece :: others, owing.owes sa = true) : False := by
  obtain ⟨owing, member, owes⟩ := owed
  have member := opened.mem_iff.mpr member
  have headed := headed_of_bound (bound_of_commits commits)
  have inside := guided.housed.lockedBy (opened.mem_iff.mpr List.mem_cons_self) headed
  have last : piece.lasting = false := by
    rcases commits with ⟨load, -, rfl⟩ | ⟨processName, isExist, rfl⟩ <;> rfl
  have same := guided.housed.headed_alone guided.locked guided.single guided.inTurn next inside last
    member (headed_of_bound (bound_of_owes owes))
  subst same
  rcases commits with ⟨load, -, rfl⟩ | ⟨processName, isExist, rfl⟩ <;> cases owes

theorem Guided.loading_turn (calm : piece.settles sa = false)
    (good : Driven sa x.shared (piece :: others))
    (loading : (x.shared.exec env piece).1.stateOf sa = .loading) :
    (x.shared.exec env piece).1.Movable ((x.shared.exec env piece).2 ++ others) sa := by
  rcases Manager.loading_of_exec (guided.listed opened) loading with before | ⟨before, commits⟩
  · rcases guided.movable_turn next opened kept calm good (Or.inl before) (good.loading before) with
      movable | ⟨down, -⟩
    · exact movable
    · rw [before] at down
      cases down
  · have bound : ∃ other ∈ piece :: others, other.bound sa = true :=
      ⟨piece, List.mem_cons_self, bound_of_commits commits⟩
    rcases good.bound before bound with movable | owed
    · rcases guided.movable_turn next opened kept calm good (Or.inr ⟨before, bound⟩) movable with
        movable | ⟨-, owed⟩
      · exact movable
      · exact (guided.not_owed next opened commits owed).elim
    · exact (guided.not_owed next opened commits owed).elim

theorem Guided.bound_turn (calm : piece.settles sa = false)
    (good : Driven sa x.shared (piece :: others)) (before : x.shared.stateOf sa = .notLoaded)
    (bound : ∃ other ∈ (x.shared.exec env piece).2 ++ others, other.bound sa = true) :
    (x.shared.exec env piece).1.Movable ((x.shared.exec env piece).2 ++ others) sa ∨
      ∃ owing ∈ (x.shared.exec env piece).2 ++ others, owing.owes sa = true := by
  have goesOn : (∃ other ∈ piece :: others, other.bound sa = true) →
      (x.shared.exec env piece).1.Movable ((x.shared.exec env piece).2 ++ others) sa ∨
        ∃ owing ∈ (x.shared.exec env piece).2 ++ others, owing.owes sa = true := by
    intro bound
    have owed : (x.shared.exec env piece).1.Movable ((x.shared.exec env piece).2 ++ others) sa ∨
        ∃ owing ∈ piece :: others, owing.owes sa = true := by
      rcases good.bound before bound with movable | owed
      · exact (guided.movable_turn next opened kept calm good (Or.inr ⟨before, bound⟩)
          movable).imp_right And.right
      · exact Or.inr owed
    rcases owed with movable | owed
    · exact Or.inl movable
    · exact (Manager.owed_turn owed).imp_left fun checking => Or.inr (Or.inl checking)
  obtain ⟨other, member, bound⟩ := bound
  rcases List.mem_append.mp member with made | member
  · rcases bound_cases made bound with bound | item | ⟨found, checks⟩
    · exact goesOn ⟨piece, List.mem_cons_self, bound⟩
    · exact Or.inl (Or.inl item)
    · have leaving := (leaving_of_found next kept found checks before).subset fun _ =>
        opened.mem_iff.mp
      exact Or.inl (Or.inr (Or.inr (Manager.leaving_turn (guided.listed opened) calm leaving)))
  · exact goesOn ⟨other, List.mem_cons_of_mem _ member, bound⟩

theorem Guided.registered_turn (calm : piece.settles sa = false)
    (good : Driven sa x.shared (piece :: others))
    (stays : (x.shared.exec env piece).1.stateOf sa = .notLoaded → x.shared.stateOf sa = .notLoaded)
    (registered : (x.shared.exec env piece).1.checkSystemAbility sa ≠ none)
    (headed : (x.shared.exec env piece).1.stateOf sa = .loading ∨
      (x.shared.exec env piece).1.stateOf sa = .notLoaded ∧
        ∃ other ∈ (x.shared.exec env piece).2 ++ others, other.headed sa = true) :
    (x.shared.exec env piece).1.Leaving ((x.shared.exec env piece).2 ++ others) sa := by
  have listed := guided.listed opened
  rcases Manager.check_turn registered with stood | ⟨made, -⟩
  case inr => exact ⟨_, List.mem_append_left _ made, by simp [Piece.leaves]⟩
  refine Manager.leaving_turn listed calm ?_
  rcases headed with loading | ⟨down, other, member, headed⟩
  · refine good.registered stood ((Manager.loading_of_exec listed loading).imp_right ?_)
    rintro ⟨before, commits⟩
    exact ⟨before, piece, List.mem_cons_self, headed_of_bound (bound_of_commits commits)⟩
  · rcases List.mem_append.mp member with made | member
    · rcases headed_cases made headed with headed | absent | ⟨found, checks⟩
      · exact good.registered stood (Or.inr ⟨stays down, piece, List.mem_cons_self, headed⟩)
      · exact absurd absent registered
      · exact (leaving_of_found next kept found checks (stays down)).subset fun _ =>
          opened.mem_iff.mp
    · exact good.registered stood
        (Or.inr ⟨stays down, other, List.mem_cons_of_mem _ member, headed⟩)

theorem Guided.driven_turn (known : sa ∈ first.abilityIds)
    (enabled : x.enabled managerProgram piece = true) (good : Driven sa x.shared (piece :: others)) :
    Driven sa (x.shared.exec env piece).1 ((x.shared.exec env piece).2 ++ others) := by
  cases calm : piece.settles sa with
  | true =>
      obtain ⟨left, none⟩ := settled_turn guided.sound known guided.housed guided.locked
        guided.single guided.inTurn next enabled opened calm
      refine ⟨fun loading => absurd loading left, fun _ ⟨other, member, bound⟩ => ?_, ?_⟩
      · exact absurd (headed_of_bound bound) (by simp [none other member])
      · rintro - (loading | ⟨-, other, member, headed⟩)
        · exact absurd loading left
        · exact absurd headed (by simp [none other member])
  | false =>
      have stays : (x.shared.exec env piece).1.stateOf sa = .notLoaded →
          x.shared.stateOf sa = .notLoaded := by
        intro down
        refine Manager.notLoaded_of_exec (guided.listed opened) down ?_ ?_
        · rintro event rfl
          simp [Piece.settles] at calm
        · rintro processName rfl
          simp [Piece.settles] at calm
      refine ⟨fun loading => ?_, fun down bound => ?_, fun registered headed => ?_⟩
      · exact guided.loading_turn next opened kept calm good loading
      · exact guided.bound_turn next opened kept calm good (stays down) bound
      · exact guided.registered_turn next opened kept calm good stays registered headed

end Turn

/-- Pieces that are of no load may be added. -/
theorem Driven.append {m : Manager} {pieces made : List Piece} (good : Driven sa m pieces)
    (plain : ∀ piece ∈ made, piece.headed sa = false) : Driven sa m (made ++ pieces) := by
  have more : ∀ piece ∈ pieces, piece ∈ made ++ pieces :=
    fun piece member => List.mem_append_right made member
  have old : ∀ piece ∈ made ++ pieces, piece.headed sa = true → piece ∈ pieces := by
    intro piece member headed
    rcases List.mem_append.mp member with member | member
    · exact absurd headed (by simp [plain piece member])
    · exact member
  refine ⟨fun loading => (good.loading loading).subset more, fun down => ?_, fun registered => ?_⟩
  · rintro ⟨piece, member, bound⟩
    have member := old piece member (headed_of_bound bound)
    refine (good.bound down ⟨piece, member, bound⟩).imp (·.subset more) ?_
    rintro ⟨owing, member, owes⟩
    exact ⟨owing, more owing member, owes⟩
  · rintro (loading | ⟨down, piece, member, headed⟩)
    · exact (good.registered registered (Or.inl loading)).subset more
    · exact (good.registered registered
        (Or.inr ⟨down, piece, old piece member headed, headed⟩)).subset more

/-- The queue may change as long as the check-loaded tasks of the ability go on. -/
theorem Driven.queue {m : Manager} {pieces : List Piece} {workHandler : TaskQueue Int WorkTask}
    (good : Driven sa m pieces)
    (checks : m.Checking pieces sa → Manager.Checking { m with workHandler } pieces sa) :
    Driven sa { m with workHandler } pieces := by
  have movable : m.Movable pieces sa → Manager.Movable { m with workHandler } pieces sa := by
    rintro (item | checking | leaving)
    · exact Or.inl item
    · exact Or.inr (Or.inl (checks checking))
    · exact Or.inr (Or.inr leaving)
  refine ⟨fun loading => movable (good.loading loading), fun down bound => ?_, good.registered⟩
  exact (good.bound down bound).imp_left movable

theorem Driven.dispatch {m : Manager} {task : WorkTask} {rest : TaskQueue Int WorkTask}
    {pieces : List Piece} (popped : m.workHandler.pop = some (task, rest))
    (good : Driven sa m pieces) : Driven sa { m with workHandler := rest } (task.pieces ++ pieces) := by
  have plain : ∀ piece ∈ task.pieces, piece.headed sa = false := by
    intro piece member
    cases task <;> grind [WorkTask.pieces, Piece.headed]
  refine (good.append plain).queue ?_
  rintro (⟨entry, waits, checks⟩ | runs)
  · rcases TaskQueue.waiting_cases_pop popped waits with same | waits
    · rw [same] at checks
      refine Or.inr ?_
      cases task with
      | checkLoaded id name srcDeviceId callback =>
          exact ⟨.checkLoaded id name srcDeviceId callback, by simp [WorkTask.pieces], checks⟩
      | _ => cases checks
    · exact Or.inl ⟨entry, waits, checks⟩
  · exact Or.inr runs

theorem Guided.step_driven (guided : Guided first sa x) (known : sa ∈ first.abilityIds)
    (kept : x.strandsNone sa label = true) (good : Driven sa x.shared x.inFlight) :
    Driven sa (x.step label).shared (x.step label).inFlight := by
  refine step_keeps (Driven sa) ?_ ?_ ?_ ?_ ?_ good
  · intro m pieces others same driven
    refine ⟨fun loading => ?_, fun down => ?_, fun registered => ?_⟩
    · exact (driven.loading loading).subset fun _ => same.mem_iff.mp
    · rintro ⟨piece, member, bound⟩
      refine (driven.bound down ⟨piece, same.mem_iff.mpr member, bound⟩).imp
        (·.subset fun _ => same.mem_iff.mp) ?_
      rintro ⟨owing, member, owes⟩
      exact ⟨owing, same.mem_iff.mp member, owes⟩
    · intro headed
      refine (driven.registered registered ?_).subset fun _ => same.mem_iff.mp
      refine headed.imp_right (And.imp_right ?_)
      rintro ⟨piece, member, headed⟩
      exact ⟨piece, same.mem_iff.mpr member, headed⟩
  · intro call pieces driven
    refine driven.append fun piece member => ?_
    have begins : piece.Begins x.shared call := enter_begins member
    cases call <;> grind [Piece.Begins, Piece.headed]
  · exact fun env piece others next enabled opened driven =>
      guided.driven_turn next opened kept known enabled driven
  · exact fun task rest pieces popped driven => driven.dispatch popped
  · intro handle driven
    refine driven.queue (Or.imp_left ?_)
    rintro ⟨entry, waits, checks⟩
    exact ⟨entry, TaskQueue.mem_waiting_expire.mpr waits, checks⟩

theorem driven_init (saProfiles : List SaProfile) (sa : Int) :
    Driven sa (init saProfiles).shared (init saProfiles).inFlight := by
  have down : (init saProfiles).shared.stateOf sa = .notLoaded :=
    (Scheduler.initial_init saProfiles).fresh sa
  refine ⟨fun loading => ?_, fun _ ⟨piece, member, _⟩ => ?_, ?_⟩
  · rw [down] at loading
    cases loading
  · exact absurd member List.not_mem_nil
  · rintro - (loading | ⟨-, piece, member, -⟩)
    · rw [down] at loading
      cases loading
    · exact absurd member List.not_mem_nil

/-- In every state of a run whose steps strand none, an ability that is LOADING has an item, a
check-loaded task, or an event in flight that moves it out. -/
theorem loading_is_movable (saProfiles : List SaProfile) (labels : List MachineLabel) (sa : Int)
    (known : sa ∈ (Scheduler.init saProfiles).abilityIds)
    (guarded : Runs.Guarded step
      (fun x label => x.stopsAtHome sa label = true ∧ x.strandsNone sa label = true)
      (init saProfiles) labels)
    (loading : (runFrom saProfiles labels).shared.stateOf sa = .loading) :
    (runFrom saProfiles labels).shared.Movable (runFrom saProfiles labels).inFlight sa := by
  have both : Guided (Scheduler.init saProfiles) sa (runFrom saProfiles labels) ∧
      Driven sa (runFrom saProfiles labels).shared (runFrom saProfiles labels).inFlight := by
    refine Runs.guarded_invariant
      (fun x : Machine => Guided (Scheduler.init saProfiles) sa x ∧ Driven sa x.shared x.inFlight) ?_
      guarded ⟨guided_init saProfiles sa, driven_init saProfiles sa⟩
    rintro x label ⟨stops, kept⟩ ⟨guided, driven⟩
    exact ⟨step_guided stops guided, guided.step_driven known kept driven⟩
  exact both.2.loading loading

/-- Ability 1 is asked for, and its process fails to start it in time. -/
def askOne : List MachineLabel :=
  [.call (.addSystemProcess ⟨"host", 100, 1000⟩ 3)] ++ runs 0 3 ++
    [.call (.load (Scheduler.localLoad 1 7 70))] ++ runs 1 9

theorem askOne_is_movable :
    (runFrom hostOfOne askOne).shared.Movable (runFrom hostOfOne askOne).inFlight 1 :=
  loading_is_movable hostOfOne askOne 1 (by decide +kernel) (by decide +kernel) (by decide +kernel)

/-- The process reports that it could not start the ability it was asked for. -/
def failOne : List MachineLabel :=
  askOne ++ [.call (.onStartSystemAbilityFail 1 (-1) "host")] ++ runs 2 2

theorem start_failure_strands_ability :
    ¬ ∀ (saProfiles : List SaProfile) (labels : List MachineLabel) (sa : Int),
      sa ∈ (Scheduler.init saProfiles).abilityIds →
      (runFrom saProfiles labels).shared.stateOf sa = .loading →
      (runFrom saProfiles labels).shared.Movable (runFrom saProfiles labels).inFlight sa := by
  intro always
  have movable := always hostOfOne failOne 1 (by decide +kernel) (by decide +kernel)
  revert movable
  decide +kernel

end Machine

end Samgr
