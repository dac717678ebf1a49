import Samgr.Manager.Effects
import Samgr.Manager.Subscriptions
import Samgr.Lib.Keyed
import Samgr.Lib.Notices

/-! The status notifications of one listener for one ability. The registry changes in one
section and its message is posted in a later one, and a registration clears the listener's
state before it touches the registry; so the messages may come in another order than the
changes. What a thread does to the registry, to the listener and to the queue are moves of
`Notices`, which says under which conditions the notifications agree with the registry. -/
namespace Samgr

open Notices

def Report.notice (sa : Int) (object : Nat) : Report → Option Bool
  | .onAddSystemAbility id listener => if id = sa ∧ listener.object = object then some true else none
  | .onRemoveSystemAbility id listener =>
      if id = sa ∧ listener.object = object then some false else none
  | _ => none

def WorkTask.notice (sa : Int) (object : Nat) : WorkTask → Option Notice
  | .notifyAdded id _ => if id = sa then some .added else none
  | .notifyRemoved id => if id = sa then some .removed else none
  | .listenerNotify id listener => if id = sa ∧ listener.object = object then some .greeting else none
  | _ => none

def Piece.notice (sa : Int) (object : Nat) : Piece → Option Notice
  | .findSystemAbilityNotify id added =>
      if id = sa then some (if added then .added else .removed) else none
  | .listenerNotify id listener => if id = sa ∧ listener.object = object then some .greeting else none
  | _ => none

/-- A registration that has its added message still to post. -/
def Piece.postsAdded (sa : Int) : Piece → Bool
  | .sendSystemAbilityAddedMsg id _ => id == sa
  | _ => false

/-- A removal that has its removed message still to post. -/
def Piece.postsRemoved (sa : Int) : Piece → Bool
  | .sendSystemAbilityRemovedMsg id => id == sa
  | _ => false

/-- A subscription that has its check still to make. -/
def Piece.checksListener (sa : Int) (object : Nat) : Piece → Bool
  | .checkListener id listener | .checkListenerNotify id listener =>
      id == sa && listener.object == object
  | _ => false

def SAListener.object (item : SAListener) : Nat := item.listener.object

namespace Manager

/-- Whether the listener is in the state NOTIFIED, if it is subscribed. -/
def told (m : Manager) (sa : Int) (object : Nat) : Option Bool :=
  (Keyed.find SAListener.object (m.listeners sa) object).map fun item => item.state == .notified

/-- The notifications of the listener for the ability, the newest first. -/
def notices (m : Manager) (sa : Int) (object : Nat) : List Bool :=
  m.reports.filterMap (Report.notice sa object)

def queued (m : Manager) (sa : Int) (object : Nat) : List Notice :=
  m.workHandler.readyMarks (WorkTask.notice sa object)

/-- `flying` are the pieces in flight and `running` the notices of the task that is running. -/
def track (m : Manager) (sa : Int) (object : Nat) (flying : List Piece) (running : List Notice) :
    Track where
  present := decide (sa ∈ m.abilityMap)
  arriving := flying.countP (Piece.postsAdded sa)
  leaving := flying.countP (Piece.postsRemoved sa)
  checking := flying.countP (Piece.checksListener sa object)
  queue := running ++ m.queued sa object
  told := m.told sa object
  log := m.notices sa object

/-- What a piece that concerns the listener and the ability needs of the state for the
notifications to come out in order. -/
def ordersNotices (sa : Int) (object : Nat) (t : Track) (m : Manager) : Piece → Bool
  | .refreshListenerState id _ => decide (id = sa → t.MayClear)
  | .sendSystemAbilityAddedMsg id _ => decide (id = sa → t.MayAnnounce)
  | .sendSystemAbilityRemovedMsg id => decide (id = sa → t.MayWithdraw)
  | .checkListenerNotify id listener => decide (id = sa ∧ listener.object = object → t.MayGreet)
  | .eraseObject ability => decide (m.findObject ability = some sa → sa ≠ 0)
  | _ => true

end Manager

/-- The piece ends the subscription of the object to the ability. -/
def Piece.unsubscribes (sa : Int) (object : Nat) : Piece → Bool
  | .unSubscribe id listener => id == sa && listener.object == object
  | .unSubscribeDied remoteObject => remoteObject == object
  | _ => false

/-- The pieces that change the registry or the listeners, that post or run their messages, or
that have such a piece following. -/
def Piece.notifies : Piece → Bool
  | .refreshListenerState _ _ | .insertAbility _ _ | .eraseAbility _ | .eraseObject _
  | .eraseDiedAbility _ | .sendSystemAbilityAddedMsg _ _ | .sendSystemAbilityRemovedMsg _
  | .findSystemAbilityNotify _ _ | .listenerNotify _ _ | .subscribe _ _ _ | .checkListener _ _
  | .checkListenerNotify _ _ | .unSubscribe _ _ | .unSubscribeDied _ => true
  | _ => false

section Pieces

variable {sa : Int} {object : Nat} {m : Manager} {piece made : Piece}

/-- No piece is followed by a piece of the worker's notices. -/
theorem Piece.Follows.unnoticed (follows : made.Follows m piece) : made.notice sa object = none := by
  cases made with
  | findSystemAbilityNotify id added =>
      cases piece <;> simp [Piece.Follows, Loading.EndsWith] at follows
  | listenerNotify id listener =>
      cases piece <;> simp [Piece.Follows, Loading.EndsWith] at follows
  | _ => rfl

/-- What follows from a piece that does not notify posts no message and makes no check. -/
theorem Piece.Follows.quiet (quiet : piece.notifies = false) (follows : made.Follows m piece) :
    made.postsAdded sa = false ∧ made.postsRemoved sa = false ∧ made.checksListener sa object = false := by
  cases made with
  | sendSystemAbilityAddedMsg id remoteObject =>
      cases piece <;> simp [Piece.Follows, Piece.notifies, Loading.EndsWith] at follows quiet
  | sendSystemAbilityRemovedMsg id =>
      cases piece <;> simp [Piece.Follows, Piece.notifies, Loading.EndsWith] at follows quiet
  | checkListener id listener =>
      cases piece <;> simp [Piece.Follows, Piece.notifies, Loading.EndsWith] at follows quiet
  | checkListenerNotify id listener =>
      cases piece <;> simp [Piece.Follows, Piece.notifies, Loading.EndsWith] at follows quiet
  | _ => exact ⟨rfl, rfl, rfl⟩

end Pieces

namespace Manager

variable {env : Env} {sa : Int} {object : Nat} {m n : Manager} {piece : Piece}

theorem told_of_agree (same : n.listenerMap[sa]? = m.listenerMap[sa]?) :
    n.told sa object = m.told sa object := by
  rw [told, told, listeners, listeners, same]

/-- No delayed task is a message. -/
def Undelayed (m : Manager) (sa : Int) (object : Nat) : Prop :=
  ∀ entry ∈ m.workHandler.delayed, entry.2.notice sa object = none

theorem unnoticed_of_checks {id : Int} {task : WorkTask} (checks : task.Checks id) :
    task.notice sa object = none := by
  obtain ⟨name, srcDeviceId, callback, rfl⟩ := checks
  rfl

theorem exec_undelayed (good : m.Undelayed sa object) : (m.exec env piece).1.Undelayed sa object := by
  have move : WorkMove m piece (m.exec env piece).1.workHandler := exec_work
  intro entry waits
  cases move with
  | same kept => exact good entry (kept ▸ waits)
  | posted task source after =>
      rw [after] at waits
      exact good entry waits
  | delayed id task source checks after =>
      rw [after] at waits
      rcases List.mem_append.mp waits with waits | last
      · exact good entry waits
      · rw [List.mem_singleton.mp last]
        exact unnoticed_of_checks checks
  | removed id cancels after =>
      rw [after] at waits
      exact good entry (List.mem_of_mem_filter waits)
  | forgot id after =>
      rw [after] at waits
      exact good entry waits

/-- A piece that posts no message for the listener leaves its messages alone: what is cancelled
are check-loaded tasks. -/
theorem exec_queued (named : m.Named)
    (unmarked : ∀ task : WorkTask, task.PostedBy m piece → task.notice sa object = none) :
    (m.exec env piece).1.queued sa object = m.queued sa object := by
  have move : WorkMove m piece (m.exec env piece).1.workHandler := exec_work
  unfold queued
  cases move with
  | same kept => rw [kept]
  | posted task source after =>
      rw [after, TaskQueue.readyMarks_post, unmarked task source]
      exact List.append_nil _
  | delayed id task source checks after =>
      rw [after]
      rfl
  | removed id cancels after =>
      rw [after]
      refine TaskQueue.readyMarks_removeTask fun entry ready recorded => ?_
      have waits : entry ∈ m.workHandler.waiting := List.mem_append_left _ ready
      exact unnoticed_of_checks ((TaskQueue.Named.named named id entry.1 recorded).2 entry.2 waits)
  | forgot id after =>
      rw [after]
      rfl

/-- A piece that reports nothing to the listener leaves its notifications alone. -/
theorem exec_notices
    (unmarked : ∀ report : Report, report.MadeBy m piece → report.notice sa object = none) :
    (m.exec env piece).1.notices sa object = m.notices sa object := by
  obtain ⟨new, after, made⟩ := exec_reports env m piece
  have silent : new.filterMap (Report.notice sa object) = [] :=
    List.filterMap_eq_nil_iff.mpr fun report member => unmarked report (made report member)
  rw [notices, after, List.filterMap_append, silent]
  rfl

theorem listeners_modify {f : SAListener → SAListener}
    (after : n.listenerMap = m.listenerMap.modify sa fun items => items.map f) :
    n.listeners sa = (m.listeners sa).map f := by
  simp only [listeners, after, Std.TreeMap.getElem?_modify_self]
  cases m.listenerMap[sa]? <;> rfl

theorem told_modify (state : ListenerState)
    (after : n.listenerMap = m.listenerMap.modify sa fun items =>
      items.map fun item => { item with state }) :
    n.told sa object = (m.told sa object).map fun _ => state == .notified := by
  rw [told, told, listeners_modify after, Keyed.find_map (by intro item; rfl), Option.map_map,
    Option.map_map]
  rfl

theorem told_modify_of_ne {id : Int} {f : List SAListener → List SAListener} (apart : id ≠ sa)
    (after : n.listenerMap = m.listenerMap.modify id f) : n.told sa object = m.told sa object := by
  apply told_of_agree
  rw [after]
  exact Quota.getElem?_modify_of_ne (Ne.symm apart)

/-- The listener is told once of what is reported to each of the kept entries. -/
theorem notices_reported (single : ((m.listeners sa).map SAListener.object).Nodup)
    (keep : SAListener → Bool) (report : SAListener → Report) (mark : Bool)
    (marks : ∀ item, (report item).notice sa object =
      if item.object = object then some mark else none)
    (after : n.reports = (((m.listeners sa).filter keep).map report).reverse ++ m.reports) :
    n.notices sa object =
      (((Keyed.find SAListener.object (m.listeners sa) object).filter keep).map fun _ => mark).toList ++
        m.notices sa object := by
  have once := Keyed.filterMap_key object single keep mark
  rw [notices, after, List.filterMap_append, List.filterMap_reverse, List.filterMap_map]
  have same : (Report.notice sa object ∘ report) =
      fun item => if item.object = object then some mark else none := funext marks
  rw [same, once]
  congr 1
  cases ((Keyed.find SAListener.object (m.listeners sa) object).filter keep) <;> rfl

theorem notices_added (single : ((m.listeners sa).map SAListener.object).Nodup) :
    (m.notifyListenersAdded sa).notices sa object =
      (if m.told sa object = some false then [true] else []) ++ m.notices sa object := by
  rw [notices_reported single (fun item => item.state == .init)
    (fun item => .onAddSystemAbility sa item.listener) true
    (fun item => by by_cases own : item.object = object <;> simp_all [Report.notice, SAListener.object])
    rfl, told]
  congr 1
  cases Keyed.find SAListener.object (m.listeners sa) object with
  | none => rfl
  | some item => cases state : item.state <;> simp [state]

theorem notices_removed (single : ((m.listeners sa).map SAListener.object).Nodup) :
    (m.notifyListenersRemoved sa).notices sa object =
      (if m.told sa object = none then [] else [false]) ++ m.notices sa object := by
  rw [notices_reported single (fun _ => true)
    (fun item => .onRemoveSystemAbility sa item.listener) false
    (fun item => by by_cases own : item.object = object <;> simp_all [Report.notice, SAListener.object])
    (by rw [List.filter_true]; rfl), told]
  congr 1
  cases Keyed.find SAListener.object (m.listeners sa) object <;> simp

theorem told_insert {items : List SAListener}
    (after : n.listenerMap = m.listenerMap.insert sa items) :
    n.told sa object = (Keyed.find SAListener.object items object).map fun item =>
      item.state == .notified := by
  simp [told, listeners, after]

theorem told_insert_of_ne {id : Int} {items : List SAListener} (apart : id ≠ sa)
    (after : n.listenerMap = m.listenerMap.insert id items) : n.told sa object = m.told sa object := by
  apply told_of_agree
  rw [after]
  exact Quota.getElem?_insert_of_ne (Ne.symm apart)

/-- A subscription is refused, or its listener is new. -/
theorem subscribe_cases {id : Int} {listener : RemoteInterface} {callingPid : Int} :
    let subscribed := m.subscribeSystemAbility id listener callingPid
    (subscribed.2 = false ∧ subscribed.1.listenerMap = m.listenerMap.insert id (m.listeners id)) ∨
    (subscribed.2 = true ∧ Keyed.find SAListener.object (m.listeners id) listener.object = none ∧
      subscribed.1.listenerMap =
        m.listenerMap.insert id (m.listeners id ++ [⟨listener, callingPid, .init⟩])) := by
  intro subscribed
  simp only [subscribed, subscribeSystemAbility]
  split
  · exact Or.inl ⟨rfl, rfl⟩
  · rename_i absent
    split
    · exact Or.inl ⟨rfl, rfl⟩
    · refine Or.inr ⟨rfl, Keyed.find_eq_none.mpr fun inside => absent ?_, rfl⟩
      obtain ⟨item, member, same⟩ := List.mem_map.mp inside
      exact List.any_eq_true.mpr ⟨item, member, by simpa [SAListener.object] using same⟩

/-- The listener is as it was, or it is new and not notified. -/
theorem subscribe_told {id : Int} {listener : RemoteInterface} {callingPid : Int} :
    let subscribed := m.subscribeSystemAbility id listener callingPid
    (subscribed.1.told sa object = m.told sa object ∧
      (subscribed.2 = true → ¬ (id = sa ∧ listener.object = object))) ∨
    (id = sa ∧ listener.object = object ∧ subscribed.2 = true ∧ m.told sa object = none ∧
      subscribed.1.told sa object = some false) := by
  intro subscribed
  by_cases own : id = sa
  case neg =>
    refine Or.inl ⟨?_, fun _ both => own both.1⟩
    rcases subscribe_cases (m := m) with ⟨-, after⟩ | ⟨-, -, after⟩
    · exact told_insert_of_ne own after
    · exact told_insert_of_ne own after
  subst own
  rcases @subscribe_cases m id listener callingPid with
    ⟨refused, after⟩ | ⟨accepted, new, after⟩
  · exact Or.inl ⟨told_insert after, fun accepted => by cases refused.symm.trans accepted⟩
  · by_cases same : listener.object = object
    · subst same
      refine Or.inr ⟨rfl, rfl, accepted, by rw [told, new]; rfl, ?_⟩
      rw [told_insert after, Keyed.find_append, new]
      simp [SAListener.object]
    · refine Or.inl ⟨?_, fun _ both => same both.2⟩
      have apart : SAListener.object ⟨listener, callingPid, .init⟩ ≠ object := same
      rw [told_insert after, Keyed.find_append, if_neg apart, Option.or_none]
      rfl

/-- A check finds the listener not yet notified and queues its notification, or does nothing. -/
theorem checkListenerNotify_cases {id : Int} {listener : RemoteInterface} :
    let checked := m.checkListenerNotify id listener
    (m.told id listener.object = some false ∧
      checked.workHandler = m.workHandler.post (.listenerNotify id listener) ∧
      checked.listenerMap = m.listenerMap.insert id ((m.listeners id).replaceF fun item =>
        if item.object == listener.object then some { item with state := .notified } else none)) ∨
    (m.told id listener.object ≠ some false ∧ checked.workHandler = m.workHandler ∧
      checked.listenerMap = m.listenerMap.insert id (m.listeners id)) := by
  intro checked
  simp only [checked, checkListenerNotify]
  split
  · rename_i item callingPid found
    refine Or.inl ⟨?_, rfl, rfl⟩
    have first : Keyed.find SAListener.object (m.listeners id) listener.object =
        some ⟨item, callingPid, .init⟩ := found
    rw [told, first]
    rfl
  · rename_i other
    refine Or.inr ⟨fun unset => ?_, rfl, rfl⟩
    obtain ⟨item, found, state⟩ := Option.map_eq_some_iff.mp unset
    cases shape : item.state with
    | init => exact other item.listener item.callingPid (by rw [← shape]; exact found)
    | notified => simp [shape] at state

theorem find_notified {items : List SAListener} {other : Nat} :
    Keyed.find SAListener.object (items.replaceF fun item =>
        if item.object == object then some { item with state := .notified } else none) other =
      if other = object then
        (Keyed.find SAListener.object items object).map fun item => { item with state := .notified }
      else Keyed.find SAListener.object items other :=
  Keyed.find_replaceF fun _ same => same

/-- The check of another listener, or of one that has been notified, changes nothing. -/
theorem checkListenerNotify_idle {id : Int} {listener : RemoteInterface}
    (idle : ¬ (id = sa ∧ listener.object = object) ∨ m.told sa object ≠ some false) :
    (m.checkListenerNotify id listener).told sa object = m.told sa object ∧
      (m.checkListenerNotify id listener).queued sa object = m.queued sa object := by
  rcases @checkListenerNotify_cases m id listener with
    ⟨unset, queue, after⟩ | ⟨-, queue, after⟩
  · have other : ¬ (id = sa ∧ listener.object = object) := by
      rintro ⟨rfl, rfl⟩
      rcases idle with apart | set
      · exact apart ⟨rfl, rfl⟩
      · exact set unset
    constructor
    · by_cases own : id = sa
      · subst own
        have apart : object ≠ listener.object := fun same => other ⟨rfl, same.symm⟩
        rw [told_insert after, find_notified, if_neg apart]
        rfl
      · exact told_insert_of_ne own after
    · rw [queued, queue, TaskQueue.readyMarks_post]
      simp [WorkTask.notice, other, queued]
  · constructor
    · by_cases own : id = sa
      · subst own
        exact told_insert after
      · exact told_insert_of_ne own after
    · rw [queued, queue]
      rfl

theorem checkListenerNotify_greets {listener : RemoteInterface}
    (unset : m.told sa listener.object = some false) :
    (m.checkListenerNotify sa listener).told sa listener.object = some true ∧
      (m.checkListenerNotify sa listener).queued sa listener.object =
        m.queued sa listener.object ++ [.greeting] := by
  rcases @checkListenerNotify_cases m sa listener with
    ⟨-, queue, after⟩ | ⟨set, -, -⟩
  · constructor
    · rw [told_insert after, find_notified, if_pos rfl]
      obtain ⟨item, found, -⟩ := Option.map_eq_some_iff.mp unset
      rw [found]
      rfl
    · rw [queued, queue, TaskQueue.readyMarks_post]
      simp [WorkTask.notice, queued]
  · exact absurd unset set

section Turns

variable {made others : List Piece} {running : List Notice}

/-- A piece has neither a message to post nor a check to make for the listener. -/
def Plain (sa : Int) (object : Nat) (piece : Piece) : Prop :=
  piece.postsAdded sa = false ∧ piece.postsRemoved sa = false ∧ piece.checksListener sa object = false

theorem track_cons (plain : Plain sa object piece) :
    m.track sa object (piece :: others) running = m.track sa object others running := by
  simp [track, plain.1, plain.2.1, plain.2.2]

theorem track_append (plain : ∀ piece ∈ made, Plain sa object piece) :
    m.track sa object (made ++ others) running = m.track sa object others running := by
  induction made with
  | nil => rfl
  | cons piece made hypothesis =>
      rw [List.cons_append, track_cons (plain piece List.mem_cons_self)]
      exact hypothesis fun piece member => plain piece (List.mem_cons_of_mem _ member)

/-- The pieces that notify nobody change nothing for the listener. -/
theorem track_quiet (named : m.Named) (quiet : piece.notifies = false) :
    (m.exec env piece).1.track sa object ((m.exec env piece).2 ++ others) running =
      m.track sa object (piece :: others) running := by
  have registry : Part.registry ∉ piece.touches := by
    cases piece <;> simp [Piece.touches, Piece.notifies] at quiet ⊢
  have entries : Part.listeners ∉ piece.touches := by
    cases piece <;> simp [Piece.touches, Piece.notifies] at quiet ⊢
  have posts : ∀ task : WorkTask, task.PostedBy m piece → task.notice sa object = none := by
    intro task source
    cases piece <;> simp [WorkTask.PostedBy, Piece.notifies] at source quiet
    case cleanCallback sa srcDeviceId callback =>
      obtain ⟨item, found, -, -, rfl⟩ := source
      rfl
    all_goals
      subst source
      rfl
  have reports : ∀ report : Report, report.MadeBy m piece → report.notice sa object = none := by
    intro report source
    cases report with
    | onAddSystemAbility id listener =>
        cases piece <;> simp [Report.MadeBy, Piece.notifies] at source quiet
    | onRemoveSystemAbility id listener =>
        cases piece <;> simp [Report.MadeBy, Piece.notifies] at source quiet
    | _ => rfl
  have own : Plain sa object piece := by
    cases piece <;>
      simp [Plain, Piece.postsAdded, Piece.postsRemoved, Piece.checksListener, Piece.notifies] at quiet ⊢
  rw [track_append fun made member => (exec_follows member).quiet quiet, track_cons own]
  have kept : Part.registry.Same m (m.exec env piece).1 := exec_keeps piece .registry registry
  have heard : Part.listeners.Same m (m.exec env piece).1 := exec_keeps piece .listeners entries
  simp only [track, kept.1, exec_queued named posts, exec_notices reports,
    told_of_agree (congrArg (fun map => map[sa]?) heard.1)]

theorem track_setRegistry {abilityMap : Registry} :
    (m.setRegistry abilityMap).track sa object others running =
      { m.track sa object others running with present := decide (sa ∈ abilityMap) } := rfl

theorem track_postTask {task : WorkTask} :
    (m.postTask task).track sa object others running =
      { m.track sa object others running with
        queue := (m.track sa object others running).queue ++ (task.notice sa object).toList } := by
  have queue : (m.postTask task).queued sa object = m.queued sa object ++ (task.notice sa object).toList :=
    TaskQueue.readyMarks_post
  simp only [track, queue, List.append_assoc]
  rfl

theorem track_announcing {remoteObject : Nat} :
    m.track sa object (.sendSystemAbilityAddedMsg sa remoteObject :: others) running =
      { m.track sa object others running with
        arriving := (m.track sa object others running).arriving + 1 } := by
  simp [track, Piece.postsAdded, Piece.postsRemoved, Piece.checksListener]

theorem track_withdrawing :
    m.track sa object (.sendSystemAbilityRemovedMsg sa :: others) running =
      { m.track sa object others running with
        leaving := (m.track sa object others running).leaving + 1 } := by
  simp [track, Piece.postsAdded, Piece.postsRemoved, Piece.checksListener]

theorem track_checking (checks : piece.checksListener sa object = true) :
    m.track sa object (piece :: others) running =
      { m.track sa object others running with
        checking := (m.track sa object others running).checking + 1 } := by
  cases piece <;> simp [Piece.checksListener] at checks
  case checkListener id listener =>
    simp [track, Piece.postsAdded, Piece.postsRemoved, Piece.checksListener, checks]
  case checkListenerNotify id listener =>
    simp [track, Piece.postsAdded, Piece.postsRemoved, Piece.checksListener, checks]

theorem plain_added {id : Int} {remoteObject : Nat} (apart : id ≠ sa) :
    Plain sa object (.sendSystemAbilityAddedMsg id remoteObject) :=
  ⟨by simpa [Piece.postsAdded] using apart, rfl, rfl⟩

theorem plain_removed {id : Int} (apart : id ≠ sa) :
    Plain sa object (.sendSystemAbilityRemovedMsg id) :=
  ⟨rfl, by simpa [Piece.postsRemoved] using apart, rfl⟩

theorem registered_insert_of_ne {abilityMap : Registry} {id : Int} {saInfo : SAInfo} (apart : id ≠ sa) :
    sa ∈ abilityMap.insert id saInfo ↔ sa ∈ abilityMap := by
  simp [Std.TreeMap.mem_insert, apart]

theorem registered_erase_of_ne {abilityMap : Registry} {id : Int} (apart : id ≠ sa) :
    sa ∈ abilityMap.erase id ↔ sa ∈ abilityMap := by
  simp [Std.TreeMap.mem_erase, apart]

/-- A registration clears the state of the listeners. -/
theorem refresh_good {id : Int} {saInfo : SAInfo} (good : (m.track sa object others running).Good)
    (may : id = sa → (m.track sa object others running).MayClear) :
    ((m.exec env (.refreshListenerState id saInfo)).1.track sa object
      ((m.exec env (.refreshListenerState id saInfo)).2 ++ others) running).Good := by
  rw [track_append]
  · by_cases own : id = sa
    · subst own
      have state : (m.refreshListenerState id).told id object = (m.told id object).map fun _ => false :=
        told_modify .init rfl
      have cleared := good.clears (may rfl)
      simp only [track, ← state] at cleared
      exact cleared
    · have state : (m.refreshListenerState id).told sa object = m.told sa object :=
        told_modify_of_ne own rfl
      simp only [track, ← state] at good
      exact good
  · intro piece member
    simp only [exec] at member
    split at member <;> simp at member
    subst member
    exact ⟨rfl, rfl, rfl⟩

/-- The registry gains an entry; a covering one has posted its removed message. -/
theorem insert_good {id : Int} {saInfo : SAInfo} (good : (m.track sa object others running).Good) :
    ((m.exec env (.insertAbility id saInfo)).1.track sa object
      ((m.exec env (.insertAbility id saInfo)).2 ++ others) running).Good := by
  simp only [exec, insertAbility]
  split
  · exact good
  · rename_i inserted result
    split at result
    · cases result
    · cases result
      simp only [List.cons_append, List.nil_append]
      rw [track_cons ⟨rfl, rfl, rfl⟩, track_cons ⟨rfl, rfl, rfl⟩, track_cons ⟨rfl, rfl, rfl⟩]
      by_cases own : id = sa
      · subst own
        have arrived := good.arrives
        rw [track_announcing, track_setRegistry]
        by_cases there : id ∈ m.abilityMap
        · rw [if_pos there, track_postTask]
          simpa [track, there, WorkTask.notice] using arrived
        · rw [if_neg there]
          simpa [track, there] using arrived
      · rw [track_cons (plain_added own), track_setRegistry]
        simp only [registered_insert_of_ne own]
        split
        · rw [track_postTask]
          simp only [WorkTask.notice, own, if_false, Option.toList_none, List.append_nil]
          exact good
        · exact good

/-- The registry loses an entry, and the removed message is still to be posted. -/
theorem erase_good {id : Int} (good : (m.track sa object others running).Good) :
    ((m.setRegistry (m.abilityMap.erase id)).track sa object (.sendSystemAbilityRemovedMsg id :: others)
      running).Good := by
  by_cases own : id = sa
  · subst own
    rw [track_withdrawing, track_setRegistry]
    simpa using good.leaves
  · rw [track_cons (plain_removed own), track_setRegistry]
    simp only [registered_erase_of_ne own]
    exact good

theorem eraseAbility_good {id : Int} (good : (m.track sa object others running).Good) :
    ((m.exec env (.eraseAbility id)).1.track sa object
      ((m.exec env (.eraseAbility id)).2 ++ others) running).Good := by
  simp only [exec, eraseAbility]
  split
  · exact good
  · rename_i erased result
    split at result <;> cases result
    rw [List.cons_append, track_cons ⟨rfl, rfl, rfl⟩]
    exact erase_good good

theorem eraseDiedAbility_good {id : Int} (good : (m.track sa object others running).Good) :
    ((m.exec env (.eraseDiedAbility id)).1.track sa object
      ((m.exec env (.eraseDiedAbility id)).2 ++ others) running).Good := by
  simp only [exec, eraseAbility]
  split
  · exact good
  · rename_i erased result
    split at result <;> cases result
    exact erase_good good

/-- Unless it was registered under id 0, the removal of an object has its message to post. -/
theorem eraseObject_good {ability : Nat} (good : (m.track sa object others running).Good)
    (posts : m.findObject ability = some sa → sa ≠ 0) :
    ((m.exec env (.eraseObject ability)).1.track sa object
      ((m.exec env (.eraseObject ability)).2 ++ others) running).Good := by
  simp only [exec]
  split
  · exact good
  · rename_i id found
    by_cases zero : id = 0
    · have other : id ≠ sa := fun own => posts (own ▸ found) (own ▸ zero)
      simp only [zero, ne_eq, not_true_eq_false, if_false, List.nil_append]
      rw [zero] at other
      rw [track_setRegistry]
      simp only [registered_erase_of_ne other]
      exact good
    · simp only [ne_eq, zero, not_false_eq_true, if_true]
      exact erase_good good

theorem announce_good {id : Int} {remoteObject : Nat}
    (good : (m.track sa object (.sendSystemAbilityAddedMsg id remoteObject :: others) running).Good)
    (may : id = sa →
      (m.track sa object (.sendSystemAbilityAddedMsg id remoteObject :: others) running).MayAnnounce) :
    ((m.postTask (.notifyAdded id remoteObject)).track sa object others running).Good := by
  rw [track_postTask]
  by_cases own : id = sa
  · subst own
    have posted := good.announces (m.track id object others running).arriving (may rfl)
    rw [track_announcing] at posted
    simpa [WorkTask.notice] using posted
  · rw [track_cons (plain_added own)] at good
    simp only [WorkTask.notice, own, if_false, Option.toList_none, List.append_nil]
    exact good

theorem withdraw_good {id : Int}
    (good : (m.track sa object (.sendSystemAbilityRemovedMsg id :: others) running).Good)
    (may : id = sa →
      (m.track sa object (.sendSystemAbilityRemovedMsg id :: others) running).MayWithdraw) :
    ((m.postTask (.notifyRemoved id)).track sa object others running).Good := by
  rw [track_postTask]
  by_cases own : id = sa
  · subst own
    have posted := good.withdraws (m.track id object others running).leaving (may rfl)
    rw [track_withdrawing] at posted
    simpa [WorkTask.notice] using posted
  · rw [track_cons (plain_removed own)] at good
    simp only [WorkTask.notice, own, if_false, Option.toList_none, List.append_nil]
    exact good

/-- The worker tells every listener that has not been told. -/
theorem added_good (single : ((m.listeners sa).map SAListener.object).Nodup)
    (good : (m.track sa object others (.added :: running)).Good) :
    ((m.notifyListenersAdded sa).track sa object others running).Good := by
  have state : (m.notifyListenersAdded sa).told sa object = (m.told sa object).map fun _ => true :=
    told_modify .notified rfl
  have log : (m.notifyListenersAdded sa).notices sa object = _ := notices_added single
  cases before : m.told sa object with
  | none =>
      have passed := good.passes .added rfl before
      simp only [before, Option.map_none] at state
      simp only [before, reduceCtorEq, if_false, List.nil_append] at log
      simp only [track, before] at passed
      simp only [track, state, log]
      exact passed
  | some told =>
      have heard := good.delivers .added rfl before
      simp only [before, Option.map_some] at state
      simp only [before, Option.some.injEq] at log
      simp only [track] at heard
      simp only [track, state, log]
      cases told with
      | true => exact heard
      | false => exact heard

theorem removed_good (single : ((m.listeners sa).map SAListener.object).Nodup)
    (good : (m.track sa object others (.removed :: running)).Good) :
    ((m.notifyListenersRemoved sa).track sa object others running).Good := by
  have state : (m.notifyListenersRemoved sa).told sa object = (m.told sa object).map fun _ => false :=
    told_modify .init rfl
  have log : (m.notifyListenersRemoved sa).notices sa object = _ := notices_removed single
  cases before : m.told sa object with
  | none =>
      have passed := good.passes .removed rfl before
      simp only [before, Option.map_none] at state
      simp only [before, if_true, List.nil_append] at log
      simp only [track, before] at passed
      simp only [track, state, log]
      exact passed
  | some told =>
      have heard := good.delivers .removed rfl before
      simp only [before, Option.map_some] at state
      simp only [before, reduceCtorEq, if_false] at log
      simp only [track] at heard
      simp only [track, state, log]
      exact heard

/-- The worker runs a message of the ability, or of another one. -/
theorem find_good {id : Int} {added : Bool} (foreground : env.isForegroundUser = true)
    (single : ((m.listeners sa).map SAListener.object).Nodup)
    (good : (m.track sa object others
      (((Piece.findSystemAbilityNotify id added).notice sa object).toList ++ running)).Good) :
    ((m.exec env (.findSystemAbilityNotify id added)).1.track sa object others running).Good := by
  by_cases own : id = sa
  · subst own
    cases added with
    | true =>
        simp only [Piece.notice, if_true, Option.toList_some, List.singleton_append] at good
        simp only [exec, foreground, Bool.not_true, Bool.false_eq_true, if_false, if_true]
        exact added_good single good
    | false =>
        simp only [Piece.notice, Bool.false_eq_true, if_false, if_true, Option.toList_some,
          List.singleton_append] at good
        simp only [exec, foreground, Bool.not_true, Bool.false_eq_true, if_false]
        exact removed_good single good
  · simp only [Piece.notice, own, if_false, Option.toList_none, List.nil_append] at good
    have log : (m.exec env (.findSystemAbilityNotify id added)).1.notices sa object =
        m.notices sa object := by
      refine exec_notices fun report made => ?_
      obtain ⟨listener, rfl⟩ := made
      cases added <;> simp [Report.notice, own]
    have state : (m.exec env (.findSystemAbilityNotify id added)).1.told sa object =
        m.told sa object := by
      cases added with
      | true =>
          simp only [exec, foreground, Bool.not_true, Bool.false_eq_true, if_false, if_true]
          exact told_modify_of_ne own rfl
      | false =>
          simp only [exec, foreground, Bool.not_true, Bool.false_eq_true, if_false]
          exact told_modify_of_ne own rfl
    have kept : Keeps [.listeners, .reports] m (m.exec env (.findSystemAbilityNotify id added)).1 :=
      exec_keeps (.findSystemAbilityNotify id added)
    have registry := (kept .registry (by simp)).1
    have work : (m.exec env (.findSystemAbilityNotify id added)).1.workHandler = m.workHandler :=
      kept .work (by simp)
    simp only [track, queued, log, state, registry, work]
    exact good

/-- The worker runs the notification that a check has queued. -/
theorem listenerNotify_good {id : Int} {listener : RemoteInterface}
    (good : (m.track sa object others
      (((Piece.listenerNotify id listener).notice sa object).toList ++ running)).Good) :
    ((m.report (.onAddSystemAbility id listener)).track sa object others running).Good := by
  by_cases own : id = sa ∧ listener.object = object
  · simp only [Piece.notice, own, and_self, if_true, Option.toList_some, List.singleton_append] at good
    have log : (m.report (.onAddSystemAbility id listener)).notices sa object =
        true :: m.notices sa object := by
      simp [notices, report, Report.notice, own]
    cases before : m.told sa object with
    | none => exact absurd List.mem_cons_self (good.stranger before).2.2
    | some told =>
        have heard := good.delivers .greeting rfl before
        have state : (m.report (.onAddSystemAbility id listener)).told sa object = some told := before
        simp only [track] at heard
        simp only [track, log, state]
        exact heard
  · simp only [Piece.notice, own, if_false, Option.toList_none, List.nil_append] at good
    have log : (m.report (.onAddSystemAbility id listener)).notices sa object = m.notices sa object := by
      simp [notices, report, Report.notice, own]
    simp only [track, log]
    exact good

theorem subscribe_good {id : Int} {listener : RemoteInterface} {callingPid : Int}
    (good : (m.track sa object others running).Good) :
    ((m.exec env (.subscribe id listener callingPid)).1.track sa object
      ((m.exec env (.subscribe id listener callingPid)).2 ++ others) running).Good := by
  have kept : Keeps [.listeners] m (m.exec env (.subscribe id listener callingPid)).1 :=
    exec_keeps (.subscribe id listener callingPid)
  have registry := (kept .registry (by simp)).1
  have work : (m.exec env (.subscribe id listener callingPid)).1.workHandler = m.workHandler :=
    kept .work (by simp)
  have reports : (m.exec env (.subscribe id listener callingPid)).1.reports = m.reports :=
    kept .reports (by simp)
  have moved : ∀ told, (m.exec env (.subscribe id listener callingPid)).1.told sa object = told →
      (m.exec env (.subscribe id listener callingPid)).1.track sa object others running =
        { m.track sa object others running with told := told } := by
    rintro told rfl
    simp only [track, queued, notices, registry, work, reports]
  rcases @subscribe_told sa object m id listener callingPid with
    ⟨same, other⟩ | ⟨own, same, accepted, alone, state⟩
  · rw [track_append]
    · rw [moved _ same]
      exact good
    · intro piece member
      simp only [exec] at member
      split at member <;> simp at member
      rename_i accepted
      subst member
      exact ⟨rfl, rfl, by simpa [Piece.checksListener] using other accepted⟩
  · have next : (m.exec env (.subscribe id listener callingPid)).2 = [.checkListener id listener] := by
      simp only [exec, accepted, if_true]
    rw [next, List.singleton_append, track_checking (by simp [Piece.checksListener, own, same]), moved _ state]
    exact good.joins alone

theorem checkListener_good {id : Int} {listener : RemoteInterface}
    (valid : id = sa → checkInputSysAbilityId sa = true)
    (good : (m.track sa object (.checkListener id listener :: others) running).Good) :
    ((m.exec env (.checkListener id listener)).1.track sa object
      ((m.exec env (.checkListener id listener)).2 ++ others) running).Good := by
  simp only [exec]
  split
  · rename_i absent
    by_cases own : id = sa ∧ listener.object = object
    · obtain ⟨rfl, rfl⟩ := own
      have gone : id ∉ m.abilityMap := by
        intro there
        obtain ⟨saInfo, found⟩ := Option.isSome_iff_exists.mp
          (Std.TreeMap.mem_iff_isSome_getElem?.mp there)
        simp [checkSystemAbility, valid rfl, found] at absent
      rw [track_checking (by simp [Piece.checksListener])] at good
      exact good.looks rfl (Or.inl (by simpa [track] using gone))
    · rw [track_cons ⟨rfl, rfl, by simpa [Piece.checksListener] using own⟩] at good
      exact good
  · by_cases own : id = sa ∧ listener.object = object
    · rw [track_checking (by simp [Piece.checksListener, own])] at good
      rw [List.singleton_append, track_checking (by simp [Piece.checksListener, own])]
      exact good
    · rw [track_cons ⟨rfl, rfl, by simpa [Piece.checksListener] using own⟩] at good
      rw [List.singleton_append, track_cons ⟨rfl, rfl, by simpa [Piece.checksListener] using own⟩]
      exact good

theorem checkListenerNotify_good {id : Int} {listener : RemoteInterface}
    (good : (m.track sa object (.checkListenerNotify id listener :: others) running).Good)
    (may : id = sa ∧ listener.object = object →
      (m.track sa object (.checkListenerNotify id listener :: others) running).MayGreet) :
    ((m.checkListenerNotify id listener).track sa object others running).Good := by
  have kept : Keeps [.listeners, .work] m (m.checkListenerNotify id listener) := checkListenerNotify_keeps
  have registry := (kept .registry (by simp)).1
  have reports : (m.checkListenerNotify id listener).reports = m.reports := kept .reports (by simp)
  have idle : (m.checkListenerNotify id listener).told sa object = m.told sa object →
      (m.checkListenerNotify id listener).queued sa object = m.queued sa object →
      (m.checkListenerNotify id listener).track sa object others running =
        m.track sa object others running := by
    intro state queue
    simp only [track, notices, registry, reports, state, queue]
  by_cases own : id = sa ∧ listener.object = object
  · have checks : (Piece.checkListenerNotify id listener).checksListener sa object = true := by
      simp [Piece.checksListener, own]
    have allowed := may own
    obtain ⟨rfl, rfl⟩ := own
    rw [track_checking checks] at good allowed
    cases before : m.told id listener.object with
    | none => exact absurd (good.stranger before).1 (Nat.succ_ne_zero _)
    | some told =>
        cases told with
        | true =>
            obtain ⟨state, queue⟩ := @checkListenerNotify_idle id listener.object m id listener
              (Or.inr (by simp [before]))
            rw [idle state queue]
            exact good.looks rfl (Or.inr before)
        | false =>
            obtain ⟨state, queue⟩ := checkListenerNotify_greets before
            have greeted := good.greets rfl before allowed
            simp only [track] at greeted
            simp only [track, notices, registry, reports, state, queue, ← List.append_assoc]
            exact greeted
  · obtain ⟨state, queue⟩ := @checkListenerNotify_idle sa object m id listener (Or.inl own)
    rw [idle state queue]
    rw [track_cons ⟨rfl, rfl, by simpa [Piece.checksListener] using own⟩] at good
    exact good

theorem find_dropListener {items : List SAListener} {other : Nat} (apart : object ≠ other)
    (single : (items.map SAListener.object).Nodup) :
    Keyed.find SAListener.object (dropListener other items) object =
      Keyed.find SAListener.object items object := by
  have found : Keyed.find SAListener.object (items.eraseP fun item => item.object == other) object = _ :=
    Keyed.find_eraseP single
  rw [if_neg apart] at found
  exact found

theorem unSubscribe_told {id : Int} {listener : RemoteInterface}
    (single : ((m.listeners sa).map SAListener.object).Nodup)
    (other : ¬ (id = sa ∧ listener.object = object)) :
    (m.unSubscribeSystemAbility id listener).told sa object = m.told sa object := by
  by_cases own : id = sa
  · subst own
    have apart : object ≠ listener.object := fun same => other ⟨rfl, same.symm⟩
    have after : (m.unSubscribeSystemAbility id listener).listenerMap =
        m.listenerMap.insert id (dropListener listener.object (m.listeners id)) := rfl
    rw [told_insert after, find_dropListener apart single]
    rfl
  · exact told_insert_of_ne own rfl

theorem unSubscribeDied_told {other : Nat} (single : ((m.listeners sa).map SAListener.object).Nodup)
    (apart : object ≠ other) : (m.unSubscribeDiedObject other).told sa object = m.told sa object := by
  have entries : (m.unSubscribeDiedObject other).listeners sa = dropListener other (m.listeners sa) := by
    simp only [listeners, unSubscribeDiedObject, Std.TreeMap.getElem?_map]
    cases m.listenerMap[sa]? <;> rfl
  rw [told, told, entries, find_dropListener apart single]

/-- A subscription that is on its way has passed the check of its id. -/
def Valid : Piece → Prop
  | .subscribe id _ _ | .checkListener id _ => checkInputSysAbilityId id = true
  | _ => True

/-- What every piece keeps, under the conditions on its moment. -/
theorem exec_good (named : m.Named) (subscribed : m.Subscribed) (valid : Valid piece)
    (foreground : env.isForegroundUser = true) (keeps : piece.unsubscribes sa object = false)
    (orders : m.ordersNotices sa object (m.track sa object (piece :: others)
      ((piece.notice sa object).toList ++ running)) piece = true)
    (good : (m.track sa object (piece :: others)
      ((piece.notice sa object).toList ++ running)).Good) :
    ((m.exec env piece).1.track sa object ((m.exec env piece).2 ++ others) running).Good := by
  have single : ((m.listeners sa).map SAListener.object).Nodup := subscribed.single sa
  cases noted : piece.notifies with
  | false =>
      rw [track_quiet named noted]
      cases piece <;> simp [Piece.notifies] at noted <;> exact good
  | true =>
      cases piece <;> simp [Piece.notifies] at noted
      case refreshListenerState id saInfo =>
        rw [track_cons ⟨rfl, rfl, rfl⟩] at good orders
        exact refresh_good good (of_decide_eq_true orders)
      case insertAbility id saInfo =>
        rw [track_cons ⟨rfl, rfl, rfl⟩] at good
        exact insert_good good
      case eraseAbility id =>
        rw [track_cons ⟨rfl, rfl, rfl⟩] at good
        exact eraseAbility_good good
      case eraseObject ability =>
        rw [track_cons ⟨rfl, rfl, rfl⟩] at good
        exact eraseObject_good good (of_decide_eq_true orders)
      case eraseDiedAbility id =>
        rw [track_cons ⟨rfl, rfl, rfl⟩] at good
        exact eraseDiedAbility_good good
      case sendSystemAbilityAddedMsg id remoteObject =>
        exact announce_good good (of_decide_eq_true orders)
      case sendSystemAbilityRemovedMsg id =>
        exact withdraw_good good (of_decide_eq_true orders)
      case findSystemAbilityNotify id added =>
        rw [track_cons ⟨rfl, rfl, rfl⟩] at good
        exact find_good foreground single good
      case listenerNotify id listener =>
        rw [track_cons ⟨rfl, rfl, rfl⟩] at good
        exact listenerNotify_good good
      case subscribe id listener callingPid =>
        rw [track_cons ⟨rfl, rfl, rfl⟩] at good
        exact subscribe_good good
      case checkListener id listener =>
        exact checkListener_good (fun own => own ▸ valid) good
      case checkListenerNotify id listener =>
        exact checkListenerNotify_good good (of_decide_eq_true orders)
      case unSubscribe id listener =>
        rw [track_cons ⟨rfl, rfl, rfl⟩] at good
        have state : (m.unSubscribeSystemAbility id listener).told sa object = m.told sa object :=
          unSubscribe_told single (by simpa [Piece.unsubscribes] using keeps)
        simp only [track, ← state] at good
        exact good
      case unSubscribeDied remoteObject =>
        rw [track_cons ⟨rfl, rfl, rfl⟩] at good
        have apart : object ≠ remoteObject := by
          rintro rfl
          simp [Piece.unsubscribes] at keeps
        have state : (m.unSubscribeDiedObject remoteObject).told sa object = m.told sa object :=
          unSubscribeDied_told single apart
        simp only [track, ← state] at good
        exact good

/-- What a piece leaves behind runs no notice. -/
theorem made_unnoticed : ((m.exec env piece).2 ++ others).filterMap (Piece.notice sa object) =
    others.filterMap (Piece.notice sa object) := by
  have none : (m.exec env piece).2.filterMap (Piece.notice sa object) = [] :=
    List.filterMap_eq_nil_iff.mpr fun made member => (exec_follows member).unnoticed
  rw [List.filterMap_append, none]
  rfl

theorem track_perm {flying : List Piece} (same : flying.Perm others) :
    m.track sa object flying running = m.track sa object others running := by
  simp only [track, same.countP_eq]

theorem enter_plain {call : Call} (member : piece ∈ m.enter call) :
    Plain sa object piece ∧ Valid piece ∧ piece.notice sa object = none := by
  cases call with
  | subscribeSystemAbility id listener callingPid =>
      simp only [enter] at member
      split at member <;> simp at member
      rename_i valid
      subst member
      exact ⟨⟨rfl, rfl, rfl⟩, valid, rfl⟩
  | load request =>
      obtain ⟨load, rfl, -, -, -⟩ : Piece.Begins piece m (.load request) := enter_begins member
      exact ⟨⟨rfl, rfl, rfl⟩, trivial, rfl⟩
  | _ =>
      have begins := enter_begins member
      simp only [Piece.Begins] at begins
      subst begins
      exact ⟨⟨rfl, rfl, rfl⟩, trivial, rfl⟩

theorem task_plain {task : WorkTask} (member : piece ∈ task.pieces) :
    Plain sa object piece ∧ Valid piece := by
  cases task <;> simp [WorkTask.pieces] at member
  case notifyAdded id remoteObject =>
    rcases member with rfl | rfl <;> exact ⟨⟨rfl, rfl, rfl⟩, trivial⟩
  case checkLoaded id name srcDeviceId callback =>
    rcases member with rfl | rfl <;> exact ⟨⟨rfl, rfl, rfl⟩, trivial⟩
  all_goals
    subst member
    exact ⟨⟨rfl, rfl, rfl⟩, trivial⟩

theorem task_notices {task : WorkTask} :
    task.pieces.filterMap (Piece.notice sa object) = (task.notice sa object).toList := by
  cases task with
  | notifyAdded id remoteObject =>
      by_cases own : id = sa <;> simp [WorkTask.pieces, WorkTask.notice, Piece.notice, own]
  | notifyRemoved id =>
      by_cases own : id = sa <;> simp [WorkTask.pieces, WorkTask.notice, Piece.notice, own]
  | listenerNotify id listener =>
      by_cases own : id = sa ∧ listener.object = object <;>
        simp [WorkTask.pieces, WorkTask.notice, Piece.notice, own]
  | _ => rfl

theorem follows_valid {made : Piece} (valid : Valid piece) (follows : made.Follows m piece) :
    Valid made := by
  cases made with
  | subscribe id listener callingPid =>
      cases piece <;> simp [Piece.Follows, Loading.EndsWith] at follows
  | checkListener id listener =>
      cases piece <;> simp [Piece.Follows, Loading.EndsWith] at follows
      case subscribe other subscriber callingPid =>
        obtain ⟨rfl, -⟩ := follows
        exact valid
  | _ => trivial

end Turns

end Manager

end Samgr
