import Samgr.User.Subscribers
import Samgr.Schedule.ProcessListeners

/-! The subscriptions of a user's manager when its calls run one after the other: what it holds of
each kind after a call on an ability or on the processes, and after the death of a listener. -/
namespace Samgr

/-- What is subscribed to: an ability, charged to a pid, or the processes. -/
inductive Subscription where
  | ability (systemAbilityId : Int) (listener : RemoteInterface) (callingPid : Int)
  | process (listener : RemoteInterface)
  deriving DecidableEq, Repr

/-- By what a subscription is found again. -/
inductive SubscriptionKey where
  | ability (systemAbilityId : Int) (remoteObject : Nat)
  | process (remoteObject : Nat)
  deriving DecidableEq, Repr

namespace SubscriptionKey

def object : SubscriptionKey → Nat
  | .ability _ remoteObject | .process remoteObject => remoteObject

end SubscriptionKey

namespace Subscription

def listener : Subscription → RemoteInterface
  | .ability _ listener _ | .process listener => listener

def key : Subscription → SubscriptionKey
  | .ability systemAbilityId listener _ => .ability systemAbilityId listener.object
  | .process listener => .process listener.object

/-- The ability has an id that is accepted. -/
def valid : Subscription → Bool
  | .ability systemAbilityId _ _ => checkInputSysAbilityId systemAbilityId
  | .process _ => true

theorem object_key (sub : Subscription) : sub.key.object = sub.listener.object := by
  cases sub <;> rfl

end Subscription

/-- Whether the processes are subscribed to from one source. -/
def Scheduler.sourceOf (s : Scheduler) (remoteObject : Nat) (foregroundOnly : Bool) : Bool :=
  if foregroundOnly then (s.sourcesOf remoteObject).2 else (s.sourcesOf remoteObject).1

theorem Scheduler.sourceOf_exec {s : Scheduler} (good : s.Listening) (op : Scheduler.Op)
    (listens : op.isListening = true) {object : Nat} {kind : Bool} :
    (s.exec {} op).1.sourceOf object kind = (op.source kind object).getD (s.sourceOf object kind) := by
  have sources : (((op.item object (s.listenerOf object)).map ProcessListener.sources).getD (false, false)) =
      ((op.source false object).getD (s.sourcesOf object).1,
        (op.source true object).getD (s.sourcesOf object).2) := Op.item_sources
  have after : (s.exec {} op).1.listenerOf object = op.item object (s.listenerOf object) :=
    listenerOf_exec good.single listens
  rw [← after] at sources
  cases kind
  · exact congrArg Prod.fst sources
  · exact congrArg Prod.snd sources

theorem Scheduler.Listening.isSome_iff {s : Scheduler} (good : s.Listening) {object : Nat} :
    (s.listenerOf object).isSome = true ↔ ∃ kind, s.sourceOf object kind = true := by
  cases found : s.listenerOf object with
  | none => simp [sourceOf, sourcesOf, found]
  | some item =>
      have sourced := good.sourced object item found
      simp only [Option.isSome_some, sourceOf, sourcesOf, found, Option.map_some, Option.getD_some, true_iff]
      by_contra bare
      rw [not_exists] at bare
      have direct := bare false
      have foreground := bare true
      simp only [Bool.false_eq_true, if_false, if_true, Bool.not_eq_true] at direct foreground
      exact sourced (Prod.ext direct foreground)

namespace MultiSystemAbilityManager

variable (m : MultiSystemAbilityManager) (expired : List Nat) (systemAbilityId : Int)
  (listener : RemoteInterface) (foregroundOnly : Bool) (callingPid : Int)

def checkListenerNotify : MultiSystemAbilityManager :=
  { m with
    base := if m.base.checkSystemAbility systemAbilityId = none then m.base
      else m.base.checkListenerNotify systemAbilityId listener }

def subscribeSystemAbilityWithPid : MultiSystemAbilityManager × ErrCode :=
  let added := m.addSubscriberInfo expired systemAbilityId listener foregroundOnly
  let subscribed := added.subscribeSystemAbilityInner systemAbilityId listener callingPid
  if subscribed.2.1 ≠ .errOk then
    ((subscribed.1.removeSubscriberInfo expired systemAbilityId listener foregroundOnly).1, subscribed.2.1)
  else if subscribed.2.2 then (subscribed.1.checkListenerNotify systemAbilityId listener, .errOk)
  else (subscribed.1, .errOk)

def unSubscribeSystemAbility : MultiSystemAbilityManager × ErrCode :=
  if !checkInputSysAbilityId systemAbilityId then (m, .errInvalidValue)
  else
    let removed := m.removeSubscriberInfo expired systemAbilityId listener foregroundOnly
    if !removed.2 then (removed.1, .errOk)
    else
      ({ removed.1 with base := removed.1.base.unSubscribeSystemAbility systemAbilityId listener }, .errOk)

/-- A listener of abilities has died. -/
def unSubscribeRemoteObject (remoteObject : Nat) : MultiSystemAbilityManager :=
  { base := m.base.unSubscribeDiedObject remoteObject
    subscriberInfoMap := fun systemAbilityId => (m.subscriberInfoMap systemAbilityId).filter fun info =>
      info.remoteObject ∉ expired ∧ info.remoteObject ≠ remoteObject }

/-- The scheduler of the manager. -/
def setSched (sched : Scheduler) : MultiSystemAbilityManager :=
  { m with base := { m.base with sched } }

/-- `SubscribeSystemAbilityWithPid` or `SubscribeSystemProcess`. -/
def subscribe : Subscription → MultiSystemAbilityManager × ErrCode
  | .ability systemAbilityId listener callingPid =>
      m.subscribeSystemAbilityWithPid expired systemAbilityId listener foregroundOnly callingPid
  | .process listener => (m.setSched (m.base.sched.subscribeSystemProcess listener foregroundOnly), .errOk)

/-- `UnSubscribeSystemAbility` or `UnSubscribeSystemProcess`. -/
def unSubscribe : Subscription → MultiSystemAbilityManager × ErrCode
  | .ability systemAbilityId listener _ =>
      m.unSubscribeSystemAbility expired systemAbilityId listener foregroundOnly
  | .process listener => (m.setSched (m.base.sched.unSubscribeSystemProcess listener foregroundOnly), .errOk)

/-- The listeners of abilities and of processes lose the dead object. -/
def onRemoteDied (remoteObject : Nat) : MultiSystemAbilityManager :=
  let swept := m.unSubscribeRemoteObject expired remoteObject
  swept.setSched (swept.base.sched.unSubscribeDiedListener remoteObject)

/-- The manager has a subscription of the kind under the key. -/
def Holds (m : MultiSystemAbilityManager) (key : SubscriptionKey) (kind : Bool) : Prop :=
  match key with
  | .ability systemAbilityId remoteObject => m.Subscribes systemAbilityId remoteObject kind
  | .process remoteObject => m.base.sched.sourceOf remoteObject kind = true

/-- The manager has a listener for the key. -/
def Hears (m : MultiSystemAbilityManager) (key : SubscriptionKey) : Prop :=
  match key with
  | .ability systemAbilityId remoteObject => m.base.Listens systemAbilityId remoteObject
  | .process remoteObject => (m.base.sched.listenerOf remoteObject).isSome

/-- Between its calls a manager has a listener of a living object exactly when it has a subscription
of some kind, and only for abilities with an accepted id. -/
structure Consistent (m : MultiSystemAbilityManager) (dead : List Nat) : Prop where
  sound : m.Sound
  processes : m.base.sched.Listening
  agree : ∀ sa object, object ∉ dead →
    (m.base.Listens sa object ↔ ∃ kind, m.Subscribes sa object kind)
  valid : ∀ sa object kind, object ∉ dead → m.Subscribes sa object kind → checkInputSysAbilityId sa = true

variable {m expired systemAbilityId listener foregroundOnly callingPid} {dead : List Nat} {sa : Int}
  {object : Nat} {kind : Bool} {sub : Subscription} {key : SubscriptionKey}

theorem Consistent.mono (good : m.Consistent dead) {more : List Nat} (grown : dead ⊆ more) :
    m.Consistent more where
  sound := good.sound
  processes := good.processes
  agree := fun sa object live => good.agree sa object fun inside => live (grown inside)
  valid := fun sa object kind live => good.valid sa object kind fun inside => live (grown inside)

section Abilities

theorem listens_checkListenerNotify :
    (m.checkListenerNotify systemAbilityId listener).base.Listens sa object ↔ m.base.Listens sa object := by
  simp only [checkListenerNotify]
  split
  · exact Iff.rfl
  · have move : ListenerMove m.base (.checkListenerNotify systemAbilityId listener)
        (m.base.checkListenerNotify systemAbilityId listener) := Manager.checkListenerNotify_move
    cases move with
    | same id agree entries counts deaths => exact Manager.listens_of_keys agree entries
    | added id listener callingPid source => cases source
    | dropped id listener source => cases source
    | swept remoteObject source => cases source

theorem sound_checkListenerNotify (sound : m.Sound) :
    (m.checkListenerNotify systemAbilityId listener).Sound := by
  simp only [checkListenerNotify]
  split
  · exact sound
  · have kept : (m.base.exec {} (.checkListenerNotify systemAbilityId listener)).1.Subscribed :=
      Manager.exec_subscribed sound.base
    exact ⟨kept, sound.infos⟩

theorem sched_checkListenerNotify :
    (m.checkListenerNotify systemAbilityId listener).base.sched = m.base.sched := by
  simp only [checkListenerNotify, Manager.checkListenerNotify]
  split
  · rfl
  · split <;> rfl

theorem sched_subscribeInner :
    (m.subscribeSystemAbilityInner systemAbilityId listener callingPid).1.base.sched = m.base.sched := by
  simp only [subscribeSystemAbilityInner, Manager.subscribeSystemAbility]
  split
  · split
    · rfl
    · split <;> rfl
  · rfl

theorem subscribeWithPid_result :
    (m.subscribeSystemAbilityWithPid expired systemAbilityId listener foregroundOnly callingPid).2 =
      m.base.subscribeResult systemAbilityId listener callingPid := by
  simp only [subscribeSystemAbilityWithPid, subscribeInner_result]
  split
  · rfl
  · rename_i accepted
    rw [show m.base.subscribeResult systemAbilityId listener callingPid = .errOk from not_not.mp accepted]
    split <;> rfl

theorem sched_subscribeWithPid :
    (m.subscribeSystemAbilityWithPid expired systemAbilityId listener foregroundOnly callingPid).1.base.sched =
      m.base.sched := by
  simp only [subscribeSystemAbilityWithPid]
  split
  · exact sched_subscribeInner
  · split
    · exact sched_checkListenerNotify.trans sched_subscribeInner
    · exact sched_subscribeInner

theorem sound_subscribeWithPid (sound : m.Sound) :
    (m.subscribeSystemAbilityWithPid expired systemAbilityId listener foregroundOnly callingPid).1.Sound := by
  simp only [subscribeSystemAbilityWithPid]
  split
  · exact sound.add.subscribe.remove
  · split
    · exact sound_checkListenerNotify sound.add.subscribe
    · exact sound.add.subscribe

theorem listens_subscribeWithPid :
    (m.subscribeSystemAbilityWithPid expired systemAbilityId listener foregroundOnly callingPid).1.base.Listens
        sa object ↔
      m.base.Listens sa object ∨ (sa = systemAbilityId ∧ object = listener.object) ∧
        m.base.subscribeResult systemAbilityId listener callingPid = .errOk := by
  simp only [subscribeSystemAbilityWithPid]
  split
  · exact listens_subscribeInner
  · split
    · exact listens_checkListenerNotify.trans listens_subscribeInner
    · exact listens_subscribeInner

/-- A refused subscribe finds no subscription of the object. -/
theorem Consistent.refused (good : m.Consistent dead) (live : listener.object ∉ dead)
    (refused : m.base.subscribeResult systemAbilityId listener callingPid ≠ .errOk) :
    ¬ m.Subscribes systemAbilityId listener.object kind := by
  intro entry
  have valid := good.valid _ _ _ live entry
  have heard := (good.agree _ _ live).mpr ⟨kind, entry⟩
  exact refused (by simp [Manager.subscribeResult, valid, heard])

theorem subscribes_subscribeWithPid (good : m.Consistent dead) (gone : expired ⊆ dead) (live : object ∉ dead) :
    (m.subscribeSystemAbilityWithPid expired systemAbilityId listener foregroundOnly callingPid).1.Subscribes
        sa object kind ↔
      m.Subscribes sa object kind ∨ ((sa = systemAbilityId ∧ object = listener.object) ∧
        kind = foregroundOnly) ∧ m.base.subscribeResult systemAbilityId listener callingPid = .errOk := by
  have fresh : object ∉ expired := fun inside => live (gone inside)
  simp only [subscribeSystemAbilityWithPid, subscribeInner_result]
  split
  · rename_i refused
    have answer : m.base.subscribeResult systemAbilityId listener callingPid ≠ .errOk := refused
    rw [subscribes_remove good.sound.add.subscribe fresh, subscribes_subscribeInner, subscribes_add fresh]
    simp only [answer, and_false, or_false]
    constructor
    · rintro ⟨new | old, other⟩
      · exact absurd new other
      · exact old
    · intro old
      refine ⟨Or.inr old, ?_⟩
      rintro ⟨⟨rfl, rfl⟩, rfl⟩
      exact good.refused live answer old
  · rename_i accepted
    have answer : m.base.subscribeResult systemAbilityId listener callingPid = .errOk := not_not.mp accepted
    simp only [answer, and_true]
    split
    · exact (subscribes_subscribeInner.trans (subscribes_add fresh)).trans or_comm
    · exact (subscribes_subscribeInner.trans (subscribes_add fresh)).trans or_comm

theorem Consistent.subscribeAbility (good : m.Consistent dead) (gone : expired ⊆ dead) :
    (m.subscribeSystemAbilityWithPid expired systemAbilityId listener foregroundOnly callingPid).1.Consistent
      dead where
  sound := sound_subscribeWithPid good.sound
  processes := by
    rw [sched_subscribeWithPid]
    exact good.processes
  agree := by
    intro sa object live
    rw [listens_subscribeWithPid, good.agree sa object live]
    simp [subscribes_subscribeWithPid good gone live, exists_or]
  valid := by
    intro sa object kind live entry
    rcases (subscribes_subscribeWithPid good gone live).mp entry with old | ⟨⟨⟨rfl, -⟩, -⟩, answer⟩
    · exact good.valid sa object kind live old
    · exact Manager.valid_of_accepted answer

theorem unSubscribe_result : (m.unSubscribeSystemAbility expired systemAbilityId listener foregroundOnly).2 =
    if checkInputSysAbilityId systemAbilityId then .errOk else .errInvalidValue := by
  cases valid : checkInputSysAbilityId systemAbilityId with
  | true =>
      simp only [unSubscribeSystemAbility, valid, Bool.not_true, Bool.false_eq_true, if_false, if_true]
      split <;> rfl
  | false => simp [unSubscribeSystemAbility, valid]

theorem sched_unSubscribe :
    (m.unSubscribeSystemAbility expired systemAbilityId listener foregroundOnly).1.base.sched =
      m.base.sched := by
  simp only [unSubscribeSystemAbility]
  split
  · rfl
  · split <;> rfl

theorem sound_unSubscribe (sound : m.Sound) :
    (m.unSubscribeSystemAbility expired systemAbilityId listener foregroundOnly).1.Sound := by
  simp only [unSubscribeSystemAbility]
  split
  · exact sound
  · split
    · exact sound.remove
    · have kept : (m.base.exec {} (.unSubscribe systemAbilityId listener)).1.Subscribed :=
        Manager.exec_subscribed sound.base
      exact ⟨kept, sound.remove.infos⟩

theorem subscribes_unSubscribe (good : m.Consistent dead) (gone : expired ⊆ dead) (live : object ∉ dead) :
    (m.unSubscribeSystemAbility expired systemAbilityId listener foregroundOnly).1.Subscribes sa object kind ↔
      m.Subscribes sa object kind ∧
        ¬ ((sa = systemAbilityId ∧ object = listener.object) ∧ kind = foregroundOnly) := by
  have fresh : object ∉ expired := fun inside => live (gone inside)
  simp only [unSubscribeSystemAbility]
  split
  · rename_i invalid
    refine (and_iff_left_of_imp fun entry => ?_).symm
    rintro ⟨⟨rfl, -⟩, -⟩
    simp [good.valid _ _ _ live entry] at invalid
  · split
    · exact subscribes_remove good.sound fresh
    · exact subscribes_remove good.sound fresh

theorem agree_unSubscribe (good : m.Consistent dead) (gone : expired ⊆ dead) (live : object ∉ dead) :
    let done := (m.unSubscribeSystemAbility expired systemAbilityId listener foregroundOnly).1
    done.base.Listens sa object ↔ ∃ kind, done.Subscribes sa object kind := by
  intro done
  have fresh : object ∉ expired := fun inside => live (gone inside)
  have entries : ∀ kind, done.Subscribes sa object kind ↔ m.Subscribes sa object kind ∧
      ¬ ((sa = systemAbilityId ∧ object = listener.object) ∧ kind = foregroundOnly) :=
    fun kind => subscribes_unSubscribe good gone live
  by_cases own : sa = systemAbilityId ∧ object = listener.object
  · obtain ⟨rfl, rfl⟩ := own
    simp only [done, unSubscribeSystemAbility]
    split
    · exact good.agree sa listener.object live
    · split
      · -- a flag is left, and with it the listener
        rename_i left
        have some : ∃ kind, (m.removeSubscriberInfo expired sa listener foregroundOnly).1.Subscribes sa
            listener.object kind := by
          by_contra none
          rw [not_exists, ← removeSubscriberInfo_eq_true good.sound] at none
          simp [none] at left
        refine iff_of_true ?_ some
        obtain ⟨kind, entry⟩ := some
        exact (good.agree sa listener.object live).mpr
          ⟨kind, ((subscribes_remove good.sound fresh).mp entry).1⟩
      · rename_i last
        have none := (removeSubscriberInfo_eq_true good.sound).mp (by simpa using last)
        refine iff_of_false ?_ (not_exists.mpr none)
        intro heard
        have base : (m.removeSubscriberInfo expired sa listener foregroundOnly).1.base.Subscribed :=
          good.sound.remove.base
        exact ((Manager.listens_unSubscribe base).mp heard).2 ⟨rfl, rfl⟩
  · have heard : done.base.Listens sa object ↔ m.base.Listens sa object := by
      simp only [done, unSubscribeSystemAbility]
      split
      · exact Iff.rfl
      · split
        · exact Iff.rfl
        · exact (Manager.listens_unSubscribe good.sound.remove.base).trans (and_iff_left own)
    rw [heard, good.agree sa object live]
    exact exists_congr fun kind => ((entries kind).trans (and_iff_left fun new => own new.1)).symm

theorem Consistent.unSubscribeAbility (good : m.Consistent dead) (gone : expired ⊆ dead) :
    (m.unSubscribeSystemAbility expired systemAbilityId listener foregroundOnly).1.Consistent dead where
  sound := sound_unSubscribe good.sound
  processes := by
    rw [sched_unSubscribe]
    exact good.processes
  agree := fun sa object live => agree_unSubscribe good gone live
  valid := fun sa object kind live entry =>
    good.valid sa object kind live ((subscribes_unSubscribe good gone live).mp entry).1

theorem listens_died {remoteObject : Nat} (other : object ≠ remoteObject) :
    (m.base.unSubscribeDiedObject remoteObject).Listens sa object ↔ m.base.Listens sa object := by
  have after : (m.base.unSubscribeDiedObject remoteObject).listeners sa =
      Manager.dropListener remoteObject (m.base.listeners sa) := by
    simp only [Manager.listeners, Manager.unSubscribeDiedObject, Std.TreeMap.getElem?_map]
    cases m.base.listenerMap[sa]? <;> rfl
  simp only [Manager.Listens, after]
  constructor
  · rintro ⟨item, member, own⟩
    exact ⟨item, List.mem_of_mem_eraseP member, own⟩
  · rintro ⟨item, member, rfl⟩
    refine ⟨item, ?_, rfl⟩
    exact (List.mem_eraseP_of_neg (by simpa using other)).mpr member

theorem subscribes_died {remoteObject : Nat} (other : object ≠ remoteObject) (fresh : object ∉ expired) :
    (m.unSubscribeRemoteObject expired remoteObject).Subscribes sa object kind ↔
      m.Subscribes sa object kind := by
  simp only [Subscribes, SubscriberInfo.Flagged, unSubscribeRemoteObject, List.mem_filter]
  constructor
  · rintro ⟨info, ⟨member, -⟩, own, flag⟩
    exact ⟨info, member, own, flag⟩
  · rintro ⟨info, member, rfl, flag⟩
    exact ⟨info, ⟨member, by simp [other, fresh]⟩, rfl, flag⟩

end Abilities

section Calls

/-- The base manager runs an operation of its scheduler on the listeners of processes. -/
theorem Consistent.process (good : m.Consistent dead) {op : Scheduler.Op} (listens : op.isListening = true) :
    (m.setSched (m.base.sched.exec {} op).1).Consistent dead where
  sound := ⟨⟨good.sound.base.counted, good.sound.base.bounded, good.sound.base.single⟩, good.sound.infos⟩
  processes := Scheduler.exec_listening good.processes listens
  agree := good.agree
  valid := good.valid

theorem Consistent.subscribe (good : m.Consistent dead) (gone : expired ⊆ dead) :
    (m.subscribe expired foregroundOnly sub).1.Consistent dead := by
  cases sub with
  | ability systemAbilityId listener callingPid => exact good.subscribeAbility gone
  | process listener =>
      have listens : (Scheduler.Op.subscribe listener foregroundOnly).isListening = true := rfl
      exact good.process listens

theorem Consistent.unSubscribe (good : m.Consistent dead) (gone : expired ⊆ dead) :
    (m.unSubscribe expired foregroundOnly sub).1.Consistent dead := by
  cases sub with
  | ability systemAbilityId listener callingPid => exact good.unSubscribeAbility gone
  | process listener =>
      have listens : (Scheduler.Op.unSubscribe listener foregroundOnly).isListening = true := rfl
      exact good.process listens

theorem Consistent.onRemoteDied (good : m.Consistent dead) (gone : expired ⊆ dead) {remoteObject : Nat}
    (died : remoteObject ∈ dead) : (m.onRemoteDied expired remoteObject).Consistent dead := by
  have apart : ∀ object, object ∉ dead → object ≠ remoteObject ∧ object ∉ expired := by
    intro object live
    exact ⟨fun same => live (same ▸ died), fun inside => live (gone inside)⟩
  have base : (m.base.exec {} (.unSubscribeDied remoteObject)).1.Subscribed :=
    Manager.exec_subscribed good.sound.base
  have swept : (m.unSubscribeRemoteObject expired remoteObject).Consistent dead := by
    refine ⟨⟨base, fun sa => ?_⟩, good.processes, ?_, ?_⟩
    · exact (good.sound.infos sa).sublist (List.filter_sublist.map _)
    · intro sa object live
      obtain ⟨other, fresh⟩ := apart object live
      exact (listens_died other).trans ((good.agree sa object live).trans
        (exists_congr fun kind => (subscribes_died other fresh).symm))
    · intro sa object kind live entry
      obtain ⟨other, fresh⟩ := apart object live
      exact good.valid sa object kind live ((subscribes_died other fresh).mp entry)
  have listens : (Scheduler.Op.listenerDied remoteObject).isListening = true := rfl
  exact swept.process listens

theorem holds_subscribe (good : m.Consistent dead) (gone : expired ⊆ dead) (live : key.object ∉ dead) :
    (m.subscribe expired foregroundOnly sub).1.Holds key kind ↔
      m.Holds key kind ∨
        (key = sub.key ∧ kind = foregroundOnly) ∧ (m.subscribe expired foregroundOnly sub).2 = .errOk := by
  cases sub with
  | ability systemAbilityId listener callingPid =>
      cases key with
      | ability sa object =>
          have answer : (m.subscribe expired foregroundOnly (.ability systemAbilityId listener callingPid)).2 =
              m.base.subscribeResult systemAbilityId listener callingPid := subscribeWithPid_result
          rw [answer]
          refine (subscribes_subscribeWithPid good gone live).trans ?_
          simp [Holds, Subscription.key, SubscriptionKey.object]
      | process object =>
          have kept : (m.subscribe expired foregroundOnly
              (.ability systemAbilityId listener callingPid)).1.base.sched = m.base.sched :=
            sched_subscribeWithPid
          simp [Holds, Subscription.key, kept]
  | process listener =>
      cases key with
      | ability sa object =>
          simp only [Subscription.key, reduceCtorEq, false_and, or_false]
          exact Iff.rfl
      | process object =>
          have source : (m.subscribe expired foregroundOnly (.process listener)).1.base.sched.sourceOf object
              kind = ((Scheduler.Op.subscribe listener foregroundOnly).source kind object).getD
                (m.base.sched.sourceOf object kind) :=
            Scheduler.sourceOf_exec good.processes (.subscribe listener foregroundOnly) rfl
          simp only [Holds, source, Scheduler.Op.source, Subscription.key, SubscriptionKey.process.injEq]
          by_cases own : listener.object = object ∧ foregroundOnly = kind
          · obtain ⟨rfl, rfl⟩ := own
            simp [subscribe]
          · have other : ¬ (object = listener.object ∧ kind = foregroundOnly) :=
              fun same => own ⟨same.1.symm, same.2.symm⟩
            simp [own, other]

theorem holds_unSubscribe (good : m.Consistent dead) (gone : expired ⊆ dead) (live : key.object ∉ dead) :
    (m.unSubscribe expired foregroundOnly sub).1.Holds key kind ↔
      m.Holds key kind ∧ ¬ (key = sub.key ∧ kind = foregroundOnly) := by
  cases sub with
  | ability systemAbilityId listener callingPid =>
      cases key with
      | ability sa object =>
          refine (subscribes_unSubscribe good gone live).trans ?_
          simp [Holds, Subscription.key, SubscriptionKey.object]
      | process object =>
          have kept : (m.unSubscribe expired foregroundOnly
              (.ability systemAbilityId listener callingPid)).1.base.sched = m.base.sched :=
            sched_unSubscribe
          simp [Holds, Subscription.key, kept]
  | process listener =>
      cases key with
      | ability sa object =>
          simp only [Subscription.key, reduceCtorEq, false_and, not_false_eq_true, and_true]
          exact Iff.rfl
      | process object =>
          have source : (m.unSubscribe expired foregroundOnly (.process listener)).1.base.sched.sourceOf object
              kind = ((Scheduler.Op.unSubscribe listener foregroundOnly).source kind object).getD
                (m.base.sched.sourceOf object kind) :=
            Scheduler.sourceOf_exec good.processes (.unSubscribe listener foregroundOnly) rfl
          simp only [Holds, source, Scheduler.Op.source, Subscription.key, SubscriptionKey.process.injEq]
          by_cases own : listener.object = object ∧ foregroundOnly = kind
          · obtain ⟨rfl, rfl⟩ := own
            simp
          · have other : ¬ (object = listener.object ∧ kind = foregroundOnly) :=
              fun same => own ⟨same.1.symm, same.2.symm⟩
            simp [own, other]

theorem holds_onRemoteDied (good : m.Consistent dead) (gone : expired ⊆ dead) {remoteObject : Nat}
    (died : remoteObject ∈ dead) (live : key.object ∉ dead) :
    (m.onRemoteDied expired remoteObject).Holds key kind ↔ m.Holds key kind := by
  have other : key.object ≠ remoteObject := fun same => live (same ▸ died)
  have fresh : key.object ∉ expired := fun inside => live (gone inside)
  cases key with
  | ability sa object => exact subscribes_died other fresh
  | process object =>
      have source : (m.onRemoteDied expired remoteObject).base.sched.sourceOf object kind =
          ((Scheduler.Op.listenerDied remoteObject).source kind object).getD
            (m.base.sched.sourceOf object kind) :=
        Scheduler.sourceOf_exec good.processes (.listenerDied remoteObject) rfl
      have away : remoteObject ≠ object := fun same => other same.symm
      simp [Holds, source, Scheduler.Op.source, away]

theorem unSubscribe_valid (valid : sub.valid = true) :
    (m.unSubscribe expired foregroundOnly sub).2 = .errOk := by
  cases sub with
  | ability systemAbilityId listener callingPid =>
      have accepted : checkInputSysAbilityId systemAbilityId = true := valid
      refine unSubscribe_result.trans ?_
      rw [if_pos accepted]
  | process listener => rfl

/-- A manager has a listener exactly for what it holds. -/
theorem Consistent.hears_iff (good : m.Consistent dead) (live : key.object ∉ dead) :
    m.Hears key ↔ ∃ kind, m.Holds key kind := by
  cases key with
  | ability sa object => exact good.agree sa object live
  | process object => exact good.processes.isSome_iff

/-- A new manager holds nothing. -/
theorem consistent_init (saProfiles : List SaProfile) :
    Consistent { base := Manager.init saProfiles } dead := by
  have nothing : ∀ sa object kind,
      ¬ Subscribes { base := Manager.init saProfiles } sa object kind := by
    rintro sa object kind ⟨info, member, -⟩
    cases member
  refine ⟨⟨Manager.subscribed_init saProfiles, fun sa => List.nodup_nil⟩, ?_, ?_, ?_⟩
  · exact (Scheduler.runFrom_sourced saProfiles [] (by simp)).listening
  · intro sa object _
    refine iff_of_false ?_ fun ⟨kind, entry⟩ => nothing sa object kind entry
    rintro ⟨item, member, -⟩
    simp [Manager.init, Manager.listeners] at member
  · exact fun sa object kind _ entry => absurd entry (nothing sa object kind)

theorem not_holds_init (saProfiles : List SaProfile) :
    ¬ Holds { base := Manager.init saProfiles } key kind := by
  cases key with
  | ability sa object =>
      rintro ⟨info, member, -⟩
      cases member
  | process object =>
      have sources := (Scheduler.runFrom_sourced saProfiles [] (by simp)).sources object
      have none : (Scheduler.init saProfiles).sourcesOf object = (false, false) := sources
      simp [Holds, Manager.init, Scheduler.sourceOf, none]

end Calls

end MultiSystemAbilityManager

end Samgr
