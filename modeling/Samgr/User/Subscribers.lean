import Samgr.Manager.Subscriptions

/-! The subscribers of a user's manager. Beside the listeners of the base manager it keeps, for each
ability, which remote objects have subscribed directly and which for the foreground user only; an
object has one listener for both. -/
namespace Samgr

structure SubscriberInfo where
  remoteObject : Nat
  hasDirectSubscription : Bool
  hasForegroundSubscription : Bool
  deriving DecidableEq, Repr

namespace SubscriberInfo

variable (info : SubscriberInfo) (foregroundOnly : Bool)

def flag : Bool := if foregroundOnly then info.hasForegroundSubscription else info.hasDirectSubscription

def set (value : Bool) : SubscriberInfo :=
  if foregroundOnly then { info with hasForegroundSubscription := value }
  else { info with hasDirectSubscription := value }

/-- `AddSubscriberInfo` on the entries of one ability. The walk drops the entries of objects that
cannot be promoted any more, up to the entry it looks for. -/
def add (expired : List Nat) (remoteObject : Nat) : List SubscriberInfo → List SubscriberInfo
  | [] => [⟨remoteObject, !foregroundOnly, foregroundOnly⟩]
  | info :: rest =>
      if info.remoteObject ∈ expired then add expired remoteObject rest
      else if info.remoteObject = remoteObject then info.set foregroundOnly true :: rest
      else info :: add expired remoteObject rest

/-- `RemoveSubscriberInfo` on the entries of one ability; false if a subscription of the other kind
remains. -/
def remove (expired : List Nat) (remoteObject : Nat) : List SubscriberInfo → List SubscriberInfo × Bool
  | [] => ([], true)
  | info :: rest =>
      if info.remoteObject ∈ expired then remove expired remoteObject rest
      else if info.remoteObject = remoteObject then
        let cleared := info.set foregroundOnly false
        if cleared.hasDirectSubscription || cleared.hasForegroundSubscription then (cleared :: rest, false)
        else (rest, true)
      else
        let removed := remove expired remoteObject rest
        (info :: removed.1, removed.2)

/-- The object has a subscription of the kind among the entries. -/
def Flagged (infos : List SubscriberInfo) (remoteObject : Nat) (foregroundOnly : Bool) : Prop :=
  ∃ info ∈ infos, info.remoteObject = remoteObject ∧ info.flag foregroundOnly = true

instance (infos : List SubscriberInfo) (remoteObject : Nat) (foregroundOnly : Bool) :
    Decidable (Flagged infos remoteObject foregroundOnly) :=
  inferInstanceAs (Decidable (∃ info ∈ infos, _))

variable {info foregroundOnly} {infos : List SubscriberInfo} {expired : List Nat} {remoteObject object : Nat}
  {kind : Bool}

@[simp] theorem set_remoteObject {value : Bool} :
    (info.set foregroundOnly value).remoteObject = info.remoteObject := by
  unfold set
  split <;> rfl

theorem flag_set {value : Bool} :
    (info.set foregroundOnly value).flag kind = if kind = foregroundOnly then value else info.flag kind := by
  cases foregroundOnly <;> cases kind <;> rfl

theorem any_flag : (info.hasDirectSubscription || info.hasForegroundSubscription) = true ↔
    ∃ kind, info.flag kind = true := by
  simp [flag]

@[simp] theorem flagged_nil : ¬ Flagged [] object kind := by simp [Flagged]

@[simp] theorem flagged_cons : Flagged (info :: infos) object kind ↔
    info.remoteObject = object ∧ info.flag kind = true ∨ Flagged infos object kind := by
  simp [Flagged]

theorem flagged_add (live : object ∉ expired) :
    Flagged (add foregroundOnly expired remoteObject infos) object kind ↔
      object = remoteObject ∧ kind = foregroundOnly ∨ Flagged infos object kind := by
  induction infos with
  | nil => cases kind <;> cases foregroundOnly <;> simp [add, flag, eq_comm]
  | cons info infos hypothesis =>
      simp only [add]
      split
      · rename_i gone
        have other : info.remoteObject ≠ object := fun same => live (same ▸ gone)
        simp [hypothesis, other]
      · split
        · rename_i own
          subst own
          by_cases same : info.remoteObject = object
          · by_cases set : kind = foregroundOnly <;> simp [flag_set, same, set]
          · simp [same, Ne.symm same]
        · simp only [flagged_cons, hypothesis]
          exact or_left_comm

/-- An object has one entry at most. -/
def Single (infos : List SubscriberInfo) : Prop := (infos.map SubscriberInfo.remoteObject).Nodup

theorem single_cons : Single (info :: infos) ↔
    (∀ other ∈ infos, other.remoteObject ≠ info.remoteObject) ∧ Single infos := by
  simp [Single]

theorem not_flagged_of_single (single : Single (info :: infos)) :
    ¬ Flagged infos info.remoteObject kind := by
  rintro ⟨other, member, same, -⟩
  exact (single_cons.mp single).1 other member same

theorem objects_add
    (member : object ∈ (add foregroundOnly expired remoteObject infos).map SubscriberInfo.remoteObject) :
    object = remoteObject ∨ object ∈ infos.map SubscriberInfo.remoteObject := by
  induction infos with
  | nil => exact Or.inl (by simpa [add] using member)
  | cons info infos hypothesis =>
      simp only [add] at member
      split at member
      · exact (hypothesis member).imp_right (List.mem_cons_of_mem _)
      · split at member
        · exact Or.inr (by simpa using member)
        · rcases List.mem_cons.mp member with rfl | later
          · exact Or.inr List.mem_cons_self
          · exact (hypothesis later).imp_right (List.mem_cons_of_mem _)

theorem Single.add (single : Single infos) : Single (add foregroundOnly expired remoteObject infos) := by
  induction infos with
  | nil => simp [SubscriberInfo.add, Single]
  | cons info infos hypothesis =>
      obtain ⟨apart, rest⟩ := single_cons.mp single
      simp only [SubscriberInfo.add]
      split
      · exact hypothesis rest
      · split
        · exact single_cons.mpr ⟨by simpa using apart, rest⟩
        · rename_i other
          refine single_cons.mpr ⟨fun entry member same => ?_, hypothesis rest⟩
          rcases objects_add (List.mem_map_of_mem member) with own | old
          · exact other (same.symm.trans own)
          · obtain ⟨before, inside, equal⟩ := List.mem_map.mp old
            exact apart before inside (equal.trans same)

theorem sublist_remove :
    ((remove foregroundOnly expired remoteObject infos).1.map SubscriberInfo.remoteObject).Sublist
      (infos.map SubscriberInfo.remoteObject) := by
  induction infos with
  | nil => exact List.Sublist.refl _
  | cons info infos hypothesis =>
      simp only [remove]
      split
      · exact hypothesis.trans (List.sublist_cons_self _ _)
      · split
        · split
          · simp
          · exact List.sublist_cons_self _ _
        · exact hypothesis.cons_cons _

theorem Single.remove (single : Single infos) :
    Single (remove foregroundOnly expired remoteObject infos).1 :=
  single.sublist sublist_remove

theorem flagged_remove (single : Single infos) (live : object ∉ expired) :
    Flagged (remove foregroundOnly expired remoteObject infos).1 object kind ↔
      Flagged infos object kind ∧ ¬ (object = remoteObject ∧ kind = foregroundOnly) := by
  induction infos with
  | nil => simp [remove]
  | cons info infos hypothesis =>
      have rest := hypothesis (single_cons.mp single).2
      simp only [remove]
      split
      · rename_i gone
        have other : info.remoteObject ≠ object := fun same => live (same ▸ gone)
        simp [rest, other]
      · split
        · rename_i own
          subst own
          have alone : ∀ kind, ¬ Flagged infos info.remoteObject kind := fun _ => not_flagged_of_single single
          by_cases same : info.remoteObject = object
          · subst same
            split
            · by_cases set : kind = foregroundOnly <;> simp [flag_set, set, alone]
            · rename_i none
              -- no flag is left, so a flag of the entry was of the cleared kind
              have cleared : (info.set foregroundOnly false).flag kind ≠ true :=
                fun flagged => none (any_flag.mpr ⟨kind, flagged⟩)
              rw [flag_set] at cleared
              by_cases set : kind = foregroundOnly
              · simp [set, alone]
              · simpa [set, alone] using cleared
          · split <;> simp [same, Ne.symm same]
        · rename_i other
          by_cases same : info.remoteObject = object
          · subst same
            simp [rest, other]
          · simp [rest, same]

theorem remove_eq_true (single : Single infos) :
    (remove foregroundOnly expired remoteObject infos).2 = true ↔
      ∀ kind, ¬ Flagged (remove foregroundOnly expired remoteObject infos).1 remoteObject kind := by
  induction infos with
  | nil => simp [remove]
  | cons info infos hypothesis =>
      have rest := hypothesis (single_cons.mp single).2
      simp only [remove]
      split
      · exact rest
      · split
        · rename_i own
          split
          · rename_i some
            obtain ⟨kind, flagged⟩ := any_flag.mp some
            simp only [Bool.false_eq_true, false_iff, not_forall, not_not]
            exact ⟨kind, flagged_cons.mpr (Or.inl ⟨by simpa using own, flagged⟩)⟩
          · simp only [true_iff]
            exact fun kind => own ▸ not_flagged_of_single single
        · rename_i other
          simp [rest, other]

end SubscriberInfo

namespace Manager

/-- The object is listened to: `listenerMap_` has a listener of it under the ability. -/
def Listens (m : Manager) (systemAbilityId : Int) (remoteObject : Nat) : Prop :=
  ∃ item ∈ m.listeners systemAbilityId, item.listener.object = remoteObject

instance (m : Manager) (systemAbilityId : Int) (remoteObject : Nat) :
    Decidable (m.Listens systemAbilityId remoteObject) :=
  inferInstanceAs (Decidable (∃ item ∈ m.listeners systemAbilityId, _))

/-- What `SubscribeSystemAbilityInner` answers. -/
def subscribeResult (m : Manager) (systemAbilityId : Int) (listener : RemoteInterface) (callingPid : Int) :
    ErrCode :=
  if !checkInputSysAbilityId systemAbilityId then .errInvalidValue
  else if m.Listens systemAbilityId listener.object then .errOk
  else if Quota.count m.subscribeCountMap callingPid ≥ Scheduler.MAX_SUBSCRIBE_COUNT then
    .errPermissionDenied
  else .errOk

variable {m n : Manager} {sa id : Int} {listener : RemoteInterface} {callingPid : Int} {object : Nat}

theorem valid_of_accepted (accepted : m.subscribeResult sa listener callingPid = .errOk) :
    checkInputSysAbilityId sa = true := by
  by_contra invalid
  rw [Bool.not_eq_true] at invalid
  simp [subscribeResult, invalid] at accepted

theorem any_iff_listens : ((m.listenerMap[sa]?).getD []).any (fun item =>
    item.listener.object == object) = true ↔ m.Listens sa object := by
  simp [Listens, listeners]

theorem listens_of_keys (agree : ∀ id, id ≠ sa → n.listenerMap[id]? = m.listenerMap[id]?)
    (entries : (n.listeners sa).map SAListener.key = (m.listeners sa).map SAListener.key) :
    n.Listens id object ↔ m.Listens id object := by
  by_cases own : id = sa
  · subst own
    have objects := objects_of_keys entries
    have known : ∀ k : Manager, k.Listens id object ↔
        object ∈ (k.listeners id).map fun item => item.listener.object := by simp [Listens]
    rw [known, known, objects]
  · rw [Listens, Listens, listeners_of_agree agree own]

theorem listens_subscribe (valid : checkInputSysAbilityId sa = true) :
    (m.subscribeSystemAbility sa listener callingPid).1.Listens id object ↔
      m.Listens id object ∨
        id = sa ∧ object = listener.object ∧ m.subscribeResult sa listener callingPid = .errOk := by
  simp only [subscribeSystemAbility, any_iff_listens, subscribeResult, valid, Bool.not_true,
    Bool.false_eq_true, if_false]
  have opened : Listens { m with
      listenerMap := m.listenerMap.insert sa ((m.listenerMap[sa]?).getD []) } id object ↔
      m.Listens id object := by
    refine listens_of_keys (fun id apart => Quota.getElem?_insert_of_ne apart) ?_
    simp [listeners]
  by_cases known : m.Listens sa listener.object
  · simp only [known, if_true, opened, and_true, iff_self_or]
    rintro ⟨rfl, rfl⟩
    exact known
  · by_cases full : Quota.count m.subscribeCountMap callingPid ≥ Scheduler.MAX_SUBSCRIBE_COUNT
    · simp [known, full, opened]
    · simp only [known, full, if_false, and_true]
      by_cases own : id = sa
      · subst own
        simp [Listens, listeners, or_and_right, exists_or, eq_comm]
      · simp [Listens, listeners, own, Quota.getElem?_insert_of_ne own]

theorem listens_unSubscribe (good : m.Subscribed) :
    (m.unSubscribeSystemAbility sa listener).Listens id object ↔
      m.Listens id object ∧ ¬ (id = sa ∧ object = listener.object) := by
  by_cases own : id = sa
  · subst own
    have after : (m.unSubscribeSystemAbility id listener).listeners id =
        dropListener listener.object (m.listeners id) := by
      simp [unSubscribeSystemAbility, listeners]
    simp only [Listens, after, true_and]
    constructor
    · rintro ⟨item, member, rfl⟩
      refine ⟨⟨item, List.mem_of_mem_eraseP member, rfl⟩, ?_⟩
      exact Quota.ne_of_mem_eraseP (good.single id) item member
    · rintro ⟨⟨item, member, rfl⟩, other⟩
      refine ⟨item, ?_, rfl⟩
      exact (List.mem_eraseP_of_neg (by simpa using other)).mpr member
  · simp [Listens, listeners, unSubscribeSystemAbility, own, Quota.getElem?_insert_of_ne own]

end Manager

/-- A user's manager. An ability without entries is one that is not in the map. -/
structure MultiSystemAbilityManager where
  base : Manager
  subscriberInfoMap : Int → List SubscriberInfo := fun _ => []

namespace MultiSystemAbilityManager

open SubscriberInfo (Flagged Single)

variable (m : MultiSystemAbilityManager) (expired : List Nat) (systemAbilityId : Int)
  (listener : RemoteInterface) (foregroundOnly : Bool) (callingPid : Int)

def addSubscriberInfo : MultiSystemAbilityManager :=
  { m with
    subscriberInfoMap := Function.update m.subscriberInfoMap systemAbilityId
      (SubscriberInfo.add foregroundOnly expired listener.object (m.subscriberInfoMap systemAbilityId)) }

/-- True if nothing of the object is left, so that its listener can go. -/
def removeSubscriberInfo : MultiSystemAbilityManager × Bool :=
  let removed :=
    SubscriberInfo.remove foregroundOnly expired listener.object (m.subscriberInfoMap systemAbilityId)
  ({ m with subscriberInfoMap := Function.update m.subscriberInfoMap systemAbilityId removed.1 }, removed.2)

/-- `SubscribeSystemAbilityInner` up to the notification; true if the listener is new. -/
def subscribeSystemAbilityInner : MultiSystemAbilityManager × ErrCode × Bool :=
  let result := m.base.subscribeResult systemAbilityId listener callingPid
  if checkInputSysAbilityId systemAbilityId then
    let subscribed := m.base.subscribeSystemAbility systemAbilityId listener callingPid
    ({ m with base := subscribed.1 }, result, subscribed.2)
  else (m, result, false)

/-- The subscription of a kind that `subscriberInfoMap_` has for the object. -/
def Subscribes (m : MultiSystemAbilityManager) (systemAbilityId : Int) (remoteObject : Nat)
    (foregroundOnly : Bool) : Prop :=
  Flagged (m.subscriberInfoMap systemAbilityId) remoteObject foregroundOnly

instance (m : MultiSystemAbilityManager) (systemAbilityId : Int) (remoteObject : Nat)
    (foregroundOnly : Bool) : Decidable (m.Subscribes systemAbilityId remoteObject foregroundOnly) :=
  inferInstanceAs (Decidable (Flagged _ _ _))

/-- What every operation keeps of the two tables: an ability has one entry for an object at most. -/
structure Sound (m : MultiSystemAbilityManager) : Prop where
  base : m.base.Subscribed
  infos : ∀ systemAbilityId, Single (m.subscriberInfoMap systemAbilityId)

variable {m expired systemAbilityId listener foregroundOnly callingPid} {sa : Int} {object : Nat}
  {kind : Bool}

theorem subscribes_add (live : object ∉ expired) :
    (m.addSubscriberInfo expired systemAbilityId listener foregroundOnly).Subscribes sa object kind ↔
      (sa = systemAbilityId ∧ object = listener.object) ∧ kind = foregroundOnly ∨
        m.Subscribes sa object kind := by
  by_cases own : sa = systemAbilityId
  · subst own
    simp [Subscribes, addSubscriberInfo, SubscriberInfo.flagged_add live]
  · simp [Subscribes, addSubscriberInfo, own]

theorem subscribes_remove (good : m.Sound) (live : object ∉ expired) :
    (m.removeSubscriberInfo expired systemAbilityId listener foregroundOnly).1.Subscribes sa object kind ↔
      m.Subscribes sa object kind ∧
        ¬ ((sa = systemAbilityId ∧ object = listener.object) ∧ kind = foregroundOnly) := by
  by_cases own : sa = systemAbilityId
  · subst own
    simp [Subscribes, removeSubscriberInfo, SubscriberInfo.flagged_remove (good.infos sa) live]
  · simp [Subscribes, removeSubscriberInfo, own]

theorem removeSubscriberInfo_eq_true (good : m.Sound) :
    (m.removeSubscriberInfo expired systemAbilityId listener foregroundOnly).2 = true ↔
      ∀ kind, ¬ (m.removeSubscriberInfo expired systemAbilityId listener foregroundOnly).1.Subscribes
        systemAbilityId listener.object kind := by
  simp only [removeSubscriberInfo, Subscribes, Function.update_self]
  exact SubscriberInfo.remove_eq_true (good.infos systemAbilityId)

theorem Sound.add (good : m.Sound) :
    (m.addSubscriberInfo expired systemAbilityId listener foregroundOnly).Sound := by
  refine ⟨good.base, fun sa => ?_⟩
  by_cases own : sa = systemAbilityId
  · subst own
    simpa [addSubscriberInfo] using (good.infos sa).add
  · simpa [addSubscriberInfo, own] using good.infos sa

theorem Sound.remove (good : m.Sound) :
    (m.removeSubscriberInfo expired systemAbilityId listener foregroundOnly).1.Sound := by
  refine ⟨good.base, fun sa => ?_⟩
  by_cases own : sa = systemAbilityId
  · subst own
    simpa [removeSubscriberInfo] using (good.infos sa).remove
  · simpa [removeSubscriberInfo, own] using good.infos sa

theorem Sound.subscribe (good : m.Sound) :
    (m.subscribeSystemAbilityInner systemAbilityId listener callingPid).1.Sound := by
  simp only [subscribeSystemAbilityInner]
  split
  · have kept : (m.base.exec {} (.subscribe systemAbilityId listener callingPid)).1.Subscribed :=
      Manager.exec_subscribed good.base
    exact ⟨kept, good.infos⟩
  · exact good

@[simp] theorem subscribeInner_result :
    (m.subscribeSystemAbilityInner systemAbilityId listener callingPid).2.1 =
      m.base.subscribeResult systemAbilityId listener callingPid := by
  simp only [subscribeSystemAbilityInner]
  split <;> rfl

theorem listens_subscribeInner :
    (m.subscribeSystemAbilityInner systemAbilityId listener callingPid).1.base.Listens sa object ↔
      m.base.Listens sa object ∨ (sa = systemAbilityId ∧ object = listener.object) ∧
        m.base.subscribeResult systemAbilityId listener callingPid = .errOk := by
  simp only [subscribeSystemAbilityInner]
  split
  · rename_i valid
    exact (Manager.listens_subscribe valid).trans (or_congr_right and_assoc.symm)
  · rename_i invalid
    simp [Manager.subscribeResult, invalid]

@[simp] theorem subscribes_subscribeInner :
    (m.subscribeSystemAbilityInner systemAbilityId listener callingPid).1.Subscribes sa object kind ↔
      m.Subscribes sa object kind := by
  simp only [subscribeSystemAbilityInner]
  split <;> rfl

end MultiSystemAbilityManager

end Samgr
