import Samgr.Schedule.Operations
import Samgr.Lib.Keyed
import Mathlib.Data.List.Induction

/-! The listeners of processes. The general list keeps two sources apart in one entry with one
registration for the listener's death. The lists of single processes are charged to the
callers, and what is charged, found and cleaned there drifts apart unless the callers are
careful. -/
namespace Samgr

/-- What an operation says about one source of an object's subscription: whether it is there
afterwards. Death takes both sources away. -/
def Scheduler.Op.source (foregroundOnly : Bool) (object : Nat) : Scheduler.Op → Option Bool
  | .subscribe listener only =>
      if listener.object = object ∧ only = foregroundOnly then some true else none
  | .unSubscribe listener only =>
      if listener.object = object ∧ only = foregroundOnly then some false else none
  | .listenerDied remoteObject => if remoteObject = object then some false else none
  | _ => none

/-- An operation on the general list. -/
def Scheduler.Op.isListening : Scheduler.Op → Bool
  | .subscribe _ _ => true
  | .unSubscribe _ _ => true
  | .listenerDied _ => true
  | _ => false

/-- The two sources of an item, the direct one first. -/
def ProcessListener.sources (item : ProcessListener) : Bool × Bool :=
  (item.hasDirectSubscription, item.hasForegroundSubscription)

/-- An item with one more source. -/
def ProcessListener.withSource (foregroundOnly : Bool) (item : ProcessListener) : ProcessListener :=
  if foregroundOnly then { item with hasForegroundSubscription := true }
  else { item with hasDirectSubscription := true }

theorem ProcessListener.withSource_object {foregroundOnly : Bool} {object : Nat} (item : ProcessListener)
    (own : item.listener.object = object) : (item.withSource foregroundOnly).listener.object = object := by
  cases foregroundOnly <;> exact own

theorem Scheduler.withoutSource_object {foregroundOnly : Bool} {object : Nat} {item : ProcessListener}
    (own : item.listener.object = object) :
    (Scheduler.withoutSource foregroundOnly item).listener.object = object := by
  cases foregroundOnly <;> exact own

namespace Scheduler

/-- Whether the latest subscription or unsubscription of the object from one source, since
its death if it died, was a subscription. -/
def latest (foregroundOnly : Bool) (object : Nat) (ops : List (Env × Op)) : Bool :=
  (ops.reverse.findSome? fun label => label.2.source foregroundOnly object).getD false

theorem latest_append {foregroundOnly : Bool} {object : Nat} {ops : List (Env × Op)} {label : Env × Op} :
    latest foregroundOnly object (ops ++ [label]) =
      (label.2.source foregroundOnly object).getD (latest foregroundOnly object ops) := by
  simp only [latest, List.reverse_append, List.reverse_singleton, List.singleton_append,
    List.findSome?_cons]
  cases label.2.source foregroundOnly object <;> rfl

/-- The item of an object. -/
def listenerOf (s : Scheduler) (object : Nat) : Option ProcessListener :=
  Keyed.find (fun item : ProcessListener => item.listener.object) s.processListeners object

/-- The sources of an object that the list knows. -/
def sourcesOf (s : Scheduler) (object : Nat) : Bool × Bool :=
  ((s.listenerOf object).map ProcessListener.sources).getD (false, false)

/-- What an operation makes of the item of one object. -/
def Op.item (object : Nat) (before : Option ProcessListener) : Op → Option ProcessListener
  | .subscribe listener foregroundOnly =>
      if object = listener.object then
        some ((before.map (ProcessListener.withSource foregroundOnly)).getD
          { listener
            hasDirectSubscription := !foregroundOnly
            hasForegroundSubscription := foregroundOnly })
      else before
  | .unSubscribe listener foregroundOnly =>
      if object = listener.object then
        (before.map (withoutSource foregroundOnly)).filter fun item => item.sources != (false, false)
      else before
  | .listenerDied remoteObject => if object = remoteObject then none else before
  | _ => before

variable {env : Env} {s : Scheduler}

section Effects

variable {listener : RemoteInterface} {foregroundOnly : Bool} {object : Nat}

theorem any_eq_isSome : (s.processListeners.any fun item => item.listener.object == listener.object) =
    (s.listenerOf listener.object).isSome := by
  rw [Bool.eq_iff_iff, List.any_eq_true, listenerOf, Keyed.find, List.find?_isSome]

/-- The item of the object is replaced, and those of other objects stay. -/
theorem find_replaced {f : ProcessListener → ProcessListener} (keeps : ∀ item,
      item.listener.object = listener.object → (f item).listener.object = listener.object) :
    Keyed.find (fun item : ProcessListener => item.listener.object)
        (s.processListeners.replaceF fun item => if item.listener.object == listener.object then
          some (f item) else none) object =
      if object = listener.object then (s.listenerOf listener.object).map f else s.listenerOf object :=
  Keyed.find_replaceF keeps

theorem listenerOf_subscribe : (s.subscribeSystemProcess listener foregroundOnly).listenerOf object =
    (Op.subscribe listener foregroundOnly).item object (s.listenerOf object) := by
  simp only [subscribeSystemProcess, any_eq_isSome, Op.item]
  split
  · rename_i present
    obtain ⟨item, found⟩ := Option.isSome_iff_exists.mp present
    refine (find_replaced (f := ProcessListener.withSource foregroundOnly)
      ProcessListener.withSource_object).trans ?_
    split
    · rename_i own
      subst own
      simp [found]
    · rfl
  · rename_i absent
    have none : s.listenerOf listener.object = none := by simpa using absent
    refine Keyed.find_append.trans ?_
    by_cases own : object = listener.object
    · subst own
      have before : Keyed.find (fun item : ProcessListener => item.listener.object) s.processListeners
          listener.object = .none := none
      simp [none, before]
    · rw [if_neg (Ne.symm own), if_neg own, Option.or_none]
      rfl

theorem subscribe_single (single : (s.processListeners.map fun item => item.listener.object).Nodup) :
    ((s.subscribeSystemProcess listener foregroundOnly).processListeners.map fun item =>
      item.listener.object).Nodup := by
  simp only [subscribeSystemProcess, any_eq_isSome]
  split
  · have same : (s.processListeners.replaceF fun item => if item.listener.object == listener.object then
        some (item.withSource foregroundOnly) else none).map (fun item => item.listener.object) =
        s.processListeners.map fun item => item.listener.object :=
      Keyed.map_replaceF ProcessListener.withSource_object
    exact same ▸ single
  · rename_i absent
    rw [List.map_append]
    refine List.nodup_append.mpr ⟨single, List.nodup_singleton _, ?_⟩
    intro known inside other last same
    obtain rfl : other = listener.object := List.mem_singleton.mp last
    subst same
    have none : s.listenerOf listener.object = none := by simpa using absent
    exact Keyed.find_eq_none.mp none inside

theorem unSubscribe_single (single : (s.processListeners.map fun item => item.listener.object).Nodup) :
    ((s.unSubscribeSystemProcess listener foregroundOnly).processListeners.map fun item =>
      item.listener.object).Nodup := by
  simp only [unSubscribeSystemProcess]
  split
  · exact single
  · rename_i item present
    split
    · exact single.sublist (List.eraseP_sublist.map _)
    · have own : item.listener.object = listener.object := (Keyed.find_eq_some present).2
      have same : (s.processListeners.replaceF fun other => if other.listener.object == listener.object then
          some (withoutSource foregroundOnly item) else none).map (fun item => item.listener.object) =
          s.processListeners.map fun item => item.listener.object :=
        Keyed.map_replaceF (f := fun _ => withoutSource foregroundOnly item)
          fun _ _ => withoutSource_object own
      exact same ▸ single

theorem listenerOf_unSubscribe (single : (s.processListeners.map fun item => item.listener.object).Nodup) :
    (s.unSubscribeSystemProcess listener foregroundOnly).listenerOf object =
      (Op.unSubscribe listener foregroundOnly).item object (s.listenerOf object) := by
  have found : s.processListeners.find? (fun item => item.listener.object == listener.object) =
      s.listenerOf listener.object := rfl
  simp only [unSubscribeSystemProcess, found, Op.item]
  split
  · rename_i none
    split
    · rename_i own
      rw [own, none]
      rfl
    · rfl
  · rename_i item present
    split
    · rename_i bare
      refine (Keyed.find_eraseP single).trans ?_
      split
      · rename_i own
        subst own
        simp only [Bool.and_eq_true, Bool.not_eq_true'] at bare
        have gone : (withoutSource foregroundOnly item).sources = (false, false) :=
          Prod.ext bare.1 bare.2
        rw [present, Option.map_some, Option.filter_some, if_neg (by simp [gone])]
      · rfl
    · rename_i left
      have own : item.listener.object = listener.object := (Keyed.find_eq_some present).2
      refine (find_replaced (f := fun _ => withoutSource foregroundOnly item)
        fun _ _ => withoutSource_object own).trans ?_
      split
      · rename_i same
        subst same
        simp only [Bool.and_eq_true, Bool.not_eq_true'] at left
        have kept : (withoutSource foregroundOnly item).sources ≠ (false, false) := by
          intro bare
          exact left (Prod.mk.inj bare)
        rw [present, Option.map_some, Option.map_some, Option.filter_some, if_pos (by simp [kept])]
      · rfl

theorem listenerOf_died {remoteObject : Nat} : (s.unSubscribeDiedListener remoteObject).listenerOf object =
    (Op.listenerDied remoteObject).item object (s.listenerOf object) :=
  Keyed.find_filter_ne

end Effects

/-- Every object has one item at most, and every item has a source. -/
structure Listening (s : Scheduler) : Prop where
  single : (s.processListeners.map fun item => item.listener.object).Nodup
  sourced : ∀ object item, s.listenerOf object = some item → item.sources ≠ (false, false)

/-- The object is registered once while it has an item, and not otherwise. -/
def Registered (s : Scheduler) (object : Nat) : Prop :=
  s.processListenerDeath object = (s.listenerOf object).toList.length

section Step

variable {op : Op} {object : Nat}

theorem listenerOf_exec (single : (s.processListeners.map fun item => item.listener.object).Nodup)
    (listens : op.isListening = true) :
    (s.exec env op).1.listenerOf object = op.item object (s.listenerOf object) := by
  cases op with
  | subscribe listener foregroundOnly => exact listenerOf_subscribe
  | unSubscribe listener foregroundOnly => exact listenerOf_unSubscribe single
  | listenerDied remoteObject => exact listenerOf_died
  | _ => cases listens

theorem Op.item_sourced {before : Option ProcessListener} {item : ProcessListener}
    (sourced : ∀ item, before = some item → item.sources ≠ (false, false))
    (after : op.item object before = some item) : item.sources ≠ (false, false) := by
  cases op with
  | subscribe listener foregroundOnly =>
      simp only [Op.item] at after
      split at after
      · obtain rfl := Option.some.inj after
        cases before <;> cases foregroundOnly <;> simp [ProcessListener.sources, ProcessListener.withSource]
      · exact sourced item after
  | unSubscribe listener foregroundOnly =>
      simp only [Op.item] at after
      split at after
      · obtain ⟨-, kept⟩ := Option.filter_eq_some_iff.mp after
        simpa using kept
      · exact sourced item after
  | listenerDied remoteObject =>
      simp only [Op.item] at after
      split at after
      · cases after
      · exact sourced item after
  | _ => exact sourced item after

/-- The sources of an object after an operation are those the operation names, and otherwise
those before. -/
theorem Op.item_sources {before : Option ProcessListener} :
    ((op.item object before).map ProcessListener.sources).getD (false, false) =
      ((op.source false object).getD ((before.map ProcessListener.sources).getD (false, false)).1,
        (op.source true object).getD ((before.map ProcessListener.sources).getD (false, false)).2) := by
  cases op with
  | subscribe listener foregroundOnly =>
      by_cases own : object = listener.object
      · subst own
        cases before <;> cases foregroundOnly <;>
          simp [Op.item, Op.source, ProcessListener.sources, ProcessListener.withSource]
      · simp [Op.item, Op.source, own, Ne.symm own]
  | unSubscribe listener foregroundOnly =>
      by_cases own : object = listener.object
      · subst own
        cases before with
        | none => cases foregroundOnly <;> simp [Op.item, Op.source]
        | some item =>
            have kept : ((Option.filter (fun item : ProcessListener => item.sources != (false, false))
                (some (withoutSource foregroundOnly item))).map ProcessListener.sources).getD (false, false) =
                (withoutSource foregroundOnly item).sources := by
              rw [Option.filter_some]
              by_cases bare : (withoutSource foregroundOnly item).sources = (false, false) <;> simp [bare]
            simp only [Op.item, Op.source, if_true, Option.map_some, kept]
            cases foregroundOnly <;> simp [withoutSource, ProcessListener.sources]
      · simp [Op.item, Op.source, own, Ne.symm own]
  | listenerDied remoteObject =>
      by_cases own : object = remoteObject
      · simp [Op.item, Op.source, own]
      · simp [Op.item, Op.source, own, Ne.symm own]
  | _ => simp [Op.item, Op.source]

theorem exec_listening (good : s.Listening) (listens : op.isListening = true) :
    (s.exec env op).1.Listening := by
  refine ⟨?_, fun object item after => ?_⟩
  · cases op with
    | subscribe listener foregroundOnly => exact subscribe_single good.single
    | unSubscribe listener foregroundOnly => exact unSubscribe_single good.single
    | listenerDied remoteObject => exact good.single.sublist (List.filter_sublist.map _)
    | _ => cases listens
  · rw [listenerOf_exec good.single listens] at after
    exact Op.item_sourced (good.sourced object) after

section Events

variable {sa : Int} {task : ProcessTask} {event : AbilityStateEvent}

/-- What a state keeps of the general list it keeps of its listening. -/
theorem Listening.of_same {after : Scheduler} (good : s.Listening)
    (same : after.processListeners = s.processListeners) : after.Listening := by
  have items : after.listenerOf = s.listenerOf := by
    funext object
    simp only [listenerOf, same]
  refine ⟨?_, ?_⟩
  · rw [same]
    exact good.single
  · rw [items]
    exact good.sourced

@[simp] theorem processListeners_postProcessTask :
    (s.postProcessTask env task).processListeners = s.processListeners := by
  rw [postProcessTask]
  split <;> rfl

@[simp] theorem processListeners_removeDelayUnload :
    (s.removeDelayUnloadEventLocked sa).processListeners = s.processListeners := by
  rw [removeDelayUnloadEventLocked]
  split <;> rfl

@[simp] theorem processListeners_removePendingUnload :
    (s.removePendingUnloadEventLocked sa).processListeners = s.processListeners := by
  rw [removePendingUnloadEventLocked]
  split <;> rfl

theorem processListeners_onAbilityNotLoaded :
    (s.onAbilityNotLoadedLocked env sa).processListeners = s.processListeners := by
  simp only [onAbilityNotLoadedLocked]
  split <;> simp

theorem processListeners_onAbilityLoaded :
    (s.onAbilityLoadedLocked env sa).processListeners = s.processListeners := by
  simp only [onAbilityLoadedLocked]
  split
  · exact processListeners_postProcessTask
  · exact processListeners_postProcessTask

theorem processListeners_transition {onEnter : Scheduler → Int → Scheduler} {nextState : SystemAbilityState}
    (kept : ∀ entered : Scheduler, (onEnter entered sa).processListeners = entered.processListeners) :
    (s.abilityStateTransitionLocked onEnter sa nextState).1.processListeners = s.processListeners := by
  simp only [abilityStateTransitionLocked]
  split
  · rfl
  · split
    · rfl
    · split
      · rfl
      · exact kept _

theorem processListeners_toNotLoaded : (s.toNotLoaded env sa).1.processListeners = s.processListeners :=
  processListeners_transition fun _ => processListeners_onAbilityNotLoaded

theorem processListeners_toLoaded : (s.toLoaded env sa).1.processListeners = s.processListeners :=
  processListeners_transition fun _ => processListeners_onAbilityLoaded

/-- No event of an ability touches the listeners of processes. -/
theorem processListeners_abilityEvent :
    (s.sendAbilityStateEvent env sa event).1.processListeners = s.processListeners := by
  unfold sendAbilityStateEvent
  split
  · rfl
  · cases event with
    | abilityLoadFailedEvent =>
        simp only [handleAbilityLoadFailedEventLocked]
        split
        · rw [processListeners_toNotLoaded, processListeners_removePendingUnload]
        · rfl
    | abilityLoadSuccessEvent =>
        simp only [handleAbilityLoadSuccessEventLocked]
        split
        · exact processListeners_toLoaded
        · exact processListeners_toLoaded
        · rfl
    | abilityUnloadSuccessEvent =>
        simp only [handleAbilityUnLoadSuccessEventLocked]
        split
        · rw [processListeners_toNotLoaded, processListeners_removePendingUnload]
        · exact processListeners_toNotLoaded
        · exact processListeners_toNotLoaded
        · exact processListeners_toNotLoaded
        · rfl

end Events

theorem subscribe_registered {listener : RemoteInterface} {foregroundOnly : Bool}
    (before : s.Registered object) :
    (s.subscribeSystemProcess listener foregroundOnly).processListenerDeath object =
      ((Op.subscribe listener foregroundOnly).item object (s.listenerOf object)).toList.length := by
  unfold Registered at before
  simp only [subscribeSystemProcess, any_eq_isSome, Op.item]
  by_cases own : object = listener.object
  · subst own
    cases found : s.listenerOf listener.object <;> simp_all [DeathRecipients.add]
  · split <;> simp [own, before, DeathRecipients.add]

theorem unSubscribe_registered {listener : RemoteInterface} {foregroundOnly : Bool}
    (before : s.Registered object) :
    (s.unSubscribeSystemProcess listener foregroundOnly).processListenerDeath object =
      ((Op.unSubscribe listener foregroundOnly).item object (s.listenerOf object)).toList.length := by
  have found : s.processListeners.find? (fun item => item.listener.object == listener.object) =
      s.listenerOf listener.object := rfl
  unfold Registered at before
  simp only [unSubscribeSystemProcess, found, Op.item]
  by_cases own : object = listener.object
  · subst own
    cases present : s.listenerOf listener.object with
    | none => simpa [present] using before
    | some item =>
        have once : s.processListenerDeath listener.object = 1 := by simpa [present] using before
        simp only [if_true, Option.map_some, Option.filter_some]
        by_cases bare : (withoutSource foregroundOnly item).sources = (false, false)
        · obtain ⟨direct, foreground⟩ := Prod.mk.inj bare
          simp [bare, direct, foreground, once, DeathRecipients.remove]
        · have kept : ¬ ((withoutSource foregroundOnly item).hasDirectSubscription = false ∧
              (withoutSource foregroundOnly item).hasForegroundSubscription = false) :=
            fun both => bare (Prod.ext both.1 both.2)
          simp [bare, kept, once]
  · rw [if_neg own]
    split
    · exact before
    · split
      · simp only [DeathRecipients.remove, Function.update_of_ne own]
        exact before
      · exact before

/-- The registrations of an object follow its item while it lives. -/
theorem exec_registered (good : s.Listening) (listens : op.isListening = true)
    (lives : op ≠ .listenerDied object) (before : s.Registered object) :
    (s.exec env op).1.Registered object := by
  unfold Registered
  rw [listenerOf_exec good.single listens]
  cases op with
  | subscribe listener foregroundOnly => exact subscribe_registered before
  | unSubscribe listener foregroundOnly => exact unSubscribe_registered before
  | listenerDied remoteObject =>
      have other : object ≠ remoteObject := fun same => lives (same ▸ rfl)
      rw [Op.item, if_neg other]
      exact before
  | _ => cases listens

end Step

/-- What a run of subscriptions, unsubscriptions and deaths leaves. -/
structure Sourced (s : Scheduler) (ops : List (Env × Op)) : Prop where
  listening : s.Listening
  sources : ∀ object, s.sourcesOf object = (latest false object ops, latest true object ops)
  registered : ∀ object, (∀ label ∈ ops, label.2 ≠ .listenerDied object) → s.Registered object

/-- Initialisation makes no listener. -/
structure NoListeners (s : Scheduler) : Prop where
  general : s.processListeners = []
  lists : s.procListenerMap = ∅
  counts : s.subscribeProcCountMap = ∅
  deaths : s.processListenerDeath = fun _ => 0

theorem init_noListeners (saProfiles : List SaProfile) : (init saProfiles).NoListeners := by
  have kept : ∀ s : Scheduler, s.NoListeners → (saProfiles.foldl initStateContext s).NoListeners := by
    induction saProfiles with
    | nil => exact fun s good => good
    | cons saProfile rest hypothesis =>
        intro s good
        refine hypothesis (s.initStateContext saProfile) ?_
        simp only [initStateContext]
        split
        · exact good
        · split <;> exact ⟨good.general, good.lists, good.counts, good.deaths⟩
  exact kept {} ⟨rfl, rfl, rfl, rfl⟩

theorem runFrom_sourced (saProfiles : List SaProfile) (ops : List (Env × Op))
    (listens : ∀ label ∈ ops, label.2.isListening = true) : (runFrom saProfiles ops).Sourced ops := by
  induction ops using List.reverseRecOn with
  | nil =>
      have start := init_noListeners saProfiles
      have none : ∀ object, (runFrom saProfiles []).listenerOf object = none := by
        intro object
        rw [runFrom, Runs.run_nil, listenerOf, start.general]
        rfl
      refine ⟨⟨?_, fun object item found => ?_⟩, fun object => ?_, fun object _ => ?_⟩
      · rw [runFrom, Runs.run_nil, start.general]
        exact List.nodup_nil
      · rw [none] at found
        cases found
      · rw [sourcesOf, none]
        rfl
      · rw [Registered, none, runFrom, Runs.run_nil, start.deaths]
        rfl
  | append_singleton ops label hypothesis =>
      have good := hypothesis fun other member => listens other (List.mem_append_left _ member)
      have last : label.2.isListening = true := listens label (List.mem_append_right _ (List.mem_singleton_self _))
      have stepped : runFrom saProfiles (ops ++ [label]) =
          ((runFrom saProfiles ops).exec label.1 label.2).1 :=
        Runs.run_append step (init saProfiles) ops [label]
      rw [stepped]
      refine ⟨exec_listening good.listening last, fun object => ?_, fun object lives => ?_⟩
      · have before := good.sources object
        rw [sourcesOf, listenerOf_exec good.listening.single last, Op.item_sources, latest_append,
          latest_append]
        rw [sourcesOf] at before
        rw [before]
      · refine exec_registered good.listening last ?_ (good.registered object ?_)
        · exact lives label (List.mem_append_right _ (List.mem_singleton_self _))
        · exact fun other member => lives other (List.mem_append_left _ member)

/-- In every state that subscriptions, unsubscriptions and deaths of listeners reach, an object
has one item at most; it has one exactly when its latest direct or its latest foreground
subscription since its death stands, and the two flags are these two facts; and an object that
has not died is registered once while it has an item and not otherwise. -/
theorem process_listeners_keep_sources_apart (saProfiles : List SaProfile) (ops : List (Env × Op))
    (listens : ∀ label ∈ ops, label.2.isListening = true) :
    let s := runFrom saProfiles ops
    (s.processListeners.map fun item => item.listener.object).Nodup ∧
    (∀ object, (∃ item ∈ s.processListeners, item.listener.object = object) ↔
      latest false object ops = true ∨ latest true object ops = true) ∧
    (∀ item ∈ s.processListeners,
      item.hasDirectSubscription = latest false item.listener.object ops ∧
      item.hasForegroundSubscription = latest true item.listener.object ops) ∧
    ∀ object, (∀ label ∈ ops, label.2 ≠ .listenerDied object) →
      s.processListenerDeath object =
        if ∃ item ∈ s.processListeners, item.listener.object = object then 1 else 0 := by
  intro s
  have good : s.Sourced ops := runFrom_sourced saProfiles ops listens
  have occurs : ∀ object, (∃ item ∈ s.processListeners, item.listener.object = object) ↔
      (s.listenerOf object).isSome = true := by
    intro object
    rw [listenerOf, Keyed.find, List.find?_isSome]
    simp only [beq_iff_eq]
  refine ⟨good.listening.single, fun object => ?_, fun item member => ?_, fun object lives => ?_⟩
  · have sources := good.sources object
    have direct : latest false object ops = (s.sourcesOf object).1 := by rw [sources]
    have foreground : latest true object ops = (s.sourcesOf object).2 := by rw [sources]
    rw [occurs, direct, foreground, sourcesOf]
    cases found : s.listenerOf object with
    | none => simp
    | some item =>
        have sourced := good.listening.sourced object item found
        simp only [Option.isSome_some, Option.map_some, Option.getD_some, true_iff]
        by_contra bare
        simp only [not_or, Bool.not_eq_true] at bare
        exact sourced (Prod.ext bare.1 bare.2)
  · have found := Keyed.find_of_mem good.listening.single member
    have sources := good.sources item.listener.object
    have same : s.listenerOf item.listener.object = some item := found
    rw [sourcesOf, same] at sources
    exact Prod.mk.inj sources
  · rw [good.registered object lives]
    simp only [occurs]
    cases s.listenerOf object <;> rfl

/-- A listener subscribes from both sources, with another proxy each time, and takes one back. -/
def bothSourcesOps : List (Env × Op) :=
  [({}, .subscribe ⟨7, 7⟩ false), ({}, .subscribe ⟨7, 8⟩ true), ({}, .unSubscribe ⟨7, 9⟩ false)]

theorem bothSourcesOps_keep_foreground :
    latest true 7 bothSourcesOps = true ∧
    ∃ item ∈ (runFrom [] bothSourcesOps).processListeners, item.listener.object = 7 :=
  ⟨by decide, ((process_listeners_keep_sources_apart [] bothSourcesOps (by decide)).2.1 7).mpr
    (Or.inr (by decide))⟩

end Scheduler

/-! The lists of single processes. -/

/-- What the source does under one hold of `procListenerMapLock_`: one process of a call, or
the death of a listener, which takes another lock. -/
inductive ProcSection where
  | subscribe (listener : RemoteInterface) (callingPid : Int) (procName : String)
  | unSubscribe (listener : RemoteInterface) (callingPid : Int) (procName : String)
  | died (remoteObject : Nat)
  deriving DecidableEq, Repr

/-- The scheduler, with the objects whose death it has handled. -/
structure ProcLists where
  sched : Scheduler
  dead : List Nat := []

namespace Scheduler

variable {env : Env} {s t : Scheduler}

/-- The entries of a process. -/
def subscriptions (s : Scheduler) (procName : String) : List ProcSubscription :=
  (s.procListenerMap[procName]?).getD []

/-- The pids that subscribed the entries of all processes, each as often as it has entries. -/
def procSubscribers (s : Scheduler) : List Int :=
  Quota.all s.procListenerMap fun items => items.map ProcSubscription.subscriber

/-- The section adds an entry: the process is known, the pointer is not in its list and the
caller has room. -/
def addsEntry (s : Scheduler) (listener : RemoteInterface) (callingPid : Int) (procName : String) : Prop :=
  procName ∈ s.processNames ∧ (∀ item ∈ s.subscriptions procName, item.listener ≠ listener) ∧
    Quota.count s.subscribeProcCountMap callingPid < MAX_SUBSCRIBE_COUNT

theorem subscribeOne_adds {listener : RemoteInterface} {callingPid : Int} {procName : String}
    (adds : s.addsEntry listener callingPid procName) :
    (s.subscribeOneProcess listener callingPid procName).1 =
      { s with
        processListenerDeath := s.processListenerDeath.add listener.object
        procListenerMap := s.procListenerMap.insert procName
          (s.subscriptions procName ++ [{ listener, subscriber := callingPid }])
        subscribeProcCountMap := Quota.charge s.subscribeProcCountMap callingPid } := by
  obtain ⟨known, absent, room⟩ := adds
  have unseen : ((s.procListenerMap[procName]?).getD []).any (fun item => item.listener == listener) =
      false := by
    rw [List.any_eq_false]
    intro item member same
    exact absent item member (eq_of_beq same)
  simp only [subscribeOneProcess, known, not_true_eq_false, if_false, unseen, Bool.false_eq_true,
    ge_iff_le, Int.not_le.mpr room]
  rfl

theorem subscribeOne_keeps {listener : RemoteInterface} {callingPid : Int} {procName : String}
    (full : ¬ s.addsEntry listener callingPid procName) :
    (s.subscribeOneProcess listener callingPid procName).1.subscribeProcCountMap =
      s.subscribeProcCountMap ∧
    ∃ lists, (s.subscribeOneProcess listener callingPid procName).1.procListenerMap = lists ∧
      (lists = s.procListenerMap ∨ lists = s.procListenerMap.insert procName (s.subscriptions procName)) := by
  simp only [subscribeOneProcess]
  split
  · exact ⟨rfl, _, rfl, Or.inl rfl⟩
  · rename_i known
    split
    · exact ⟨rfl, _, rfl, Or.inr rfl⟩
    · rename_i unseen
      split
      · exact ⟨rfl, _, rfl, Or.inr rfl⟩
      · rename_i room
        refine absurd ⟨not_not.mp known, fun item member same => unseen ?_, Int.not_le.mp room⟩ full
        exact List.any_eq_true.mpr ⟨item, member, by simpa using same⟩

theorem listAt_subscriptions {procName : String} :
    Quota.listAt s.procListenerMap (fun items => items.map ProcSubscription.subscriber) procName =
      (s.subscriptions procName).map ProcSubscription.subscriber := by
  unfold Quota.listAt subscriptions
  cases s.procListenerMap[procName]? <;> rfl

/-- Only the list of one process differs. -/
def SameElsewhere (procName : String) (s t : Scheduler) : Prop :=
  ∀ name, name ≠ procName → t.procListenerMap[name]? = s.procListenerMap[name]?

theorem SameElsewhere.subscriptions {procName name : String} (agree : SameElsewhere procName s t)
    (other : name ≠ procName) : t.subscriptions name = s.subscriptions name := by
  rw [Scheduler.subscriptions, Scheduler.subscriptions, agree name other]

theorem SameElsewhere.count {procName : String} (agree : SameElsewhere procName s t) (pid : Int) :
    t.procSubscribers.count pid +
        ((s.subscriptions procName).map ProcSubscription.subscriber).count pid =
      s.procSubscribers.count pid +
        ((t.subscriptions procName).map ProcSubscription.subscriber).count pid := by
  rw [← listAt_subscriptions, ← listAt_subscriptions]
  exact Quota.count_all_add agree pid

/-- No entry comes or goes. -/
structure SameSubscriptions (s t : Scheduler) : Prop where
  entries : ∀ procName, t.subscriptions procName = s.subscriptions procName
  total : ∀ pid, t.procSubscribers.count pid = s.procSubscribers.count pid
  counts : t.subscribeProcCountMap = s.subscribeProcCountMap

theorem sameSubscriptions_of_list {procName : String} (agree : SameElsewhere procName s t)
    (list : t.subscriptions procName = s.subscriptions procName)
    (counts : t.subscribeProcCountMap = s.subscribeProcCountMap) : SameSubscriptions s t := by
  refine ⟨fun name => ?_, fun pid => ?_, counts⟩
  · by_cases own : name = procName
    · rw [own, list]
    · exact agree.subscriptions own
  · have counted := agree.count pid
    rw [list] at counted
    omega

theorem subscribeOne_same {listener : RemoteInterface} {callingPid : Int} {procName : String}
    (full : ¬ s.addsEntry listener callingPid procName) :
    SameSubscriptions s (s.subscribeOneProcess listener callingPid procName).1 := by
  obtain ⟨counts, lists, rfl, same | keyed⟩ := subscribeOne_keeps full
  · refine ⟨fun name => ?_, fun pid => ?_, counts⟩
    · rw [subscriptions, subscriptions, same]
    · rw [procSubscribers, procSubscribers, same]
  · have agree : SameElsewhere procName s (s.subscribeOneProcess listener callingPid procName).1 := by
      intro name other
      rw [keyed]
      exact Quota.getElem?_insert_of_ne other
    refine sameSubscriptions_of_list agree ?_ counts
    rw [subscriptions, keyed]
    simp

/-- What a section that adds an entry does. -/
structure Added (s t : Scheduler) (listener : RemoteInterface) (callingPid : Int) (procName : String) :
    Prop where
  agree : SameElsewhere procName s t
  list : t.subscriptions procName =
    s.subscriptions procName ++ [{ listener, subscriber := callingPid : ProcSubscription }]
  counts : t.subscribeProcCountMap = Quota.charge s.subscribeProcCountMap callingPid

theorem subscribeOne_added {listener : RemoteInterface} {callingPid : Int} {procName : String}
    (adds : s.addsEntry listener callingPid procName) :
    Added s (s.subscribeOneProcess listener callingPid procName).1 listener callingPid procName := by
  rw [subscribeOne_adds adds]
  refine ⟨fun name other => Quota.getElem?_insert_of_ne other, ?_, rfl⟩
  simp [subscriptions]

theorem Added.total {listener : RemoteInterface} {callingPid : Int} {procName : String}
    (added : Added s t listener callingPid procName) (pid : Int) :
    t.procSubscribers.count pid = s.procSubscribers.count pid + [callingPid].count pid := by
  have counted := added.agree.count pid
  rw [added.list, List.map_append, List.count_append] at counted
  have last : ([{ listener, subscriber := callingPid : ProcSubscription }].map
      ProcSubscription.subscriber).count pid = [callingPid].count pid := rfl
  omega

/-- The entry that an unsubscription finds. -/
def foundEntry (s : Scheduler) (listener : RemoteInterface) (procName : String) : Option ProcSubscription :=
  (s.subscriptions procName).find? fun item => item.listener.object == listener.object

theorem unSubscribeOne_elsewhere {listener : RemoteInterface} {callingPid : Int} {procName : String} :
    SameElsewhere procName s (unSubscribeOneProcess listener callingPid s procName) := by
  intro name other
  simp only [unSubscribeOneProcess]
  split
  · rfl
  · exact Quota.getElem?_insert_of_ne other

theorem unSubscribeOne_list {listener : RemoteInterface} {callingPid : Int} {procName : String} :
    (unSubscribeOneProcess listener callingPid s procName).subscriptions procName =
      (s.subscriptions procName).eraseP fun item => item.listener.object == listener.object := by
  simp only [unSubscribeOneProcess]
  split
  · rename_i absent
    simp [subscriptions, absent]
  · rename_i listeners found
    simp [subscriptions, found]

theorem unSubscribeOne_counts {listener : RemoteInterface} {callingPid : Int} {procName : String} :
    (unSubscribeOneProcess listener callingPid s procName).subscribeProcCountMap =
      if (s.foundEntry listener procName).isSome then
        Quota.release (· ≤ 0) s.subscribeProcCountMap callingPid
      else s.subscribeProcCountMap := by
  simp only [unSubscribeOneProcess]
  split
  · rename_i absent
    simp [foundEntry, subscriptions, absent]
  · rename_i listeners found
    have same : (s.foundEntry listener procName).isSome =
        listeners.any fun item => item.listener.object == listener.object := by
      rw [Bool.eq_iff_iff, List.any_eq_true, foundEntry, List.find?_isSome, subscriptions, found]
      rfl
    rw [same]

theorem unSubscribeOne_total {listener : RemoteInterface} {callingPid : Int} {procName : String}
    (pid : Int) :
    (unSubscribeOneProcess listener callingPid s procName).procSubscribers.count pid +
        ((s.foundEntry listener procName).map ProcSubscription.subscriber).toList.count pid =
      s.procSubscribers.count pid := by
  have agree : SameElsewhere procName s (unSubscribeOneProcess listener callingPid s procName) :=
    unSubscribeOne_elsewhere
  have whole := agree.count pid
  rw [unSubscribeOne_list] at whole
  have split := Quota.count_eraseP_add (fun item : ProcSubscription => item.listener.object == listener.object)
    ProcSubscription.subscriber (s.subscriptions procName) pid
  rw [foundEntry]
  omega

end Scheduler

namespace ProcLists

def step (x : ProcLists) : ProcSection → ProcLists
  | .subscribe listener callingPid procName =>
      { x with sched := (x.sched.subscribeOneProcess listener callingPid procName).1 }
  | .unSubscribe listener callingPid procName =>
      { x with sched := Scheduler.unSubscribeOneProcess listener callingPid x.sched procName }
  | .died remoteObject =>
      { sched := x.sched.unSubscribeDiedListener remoteObject, dead := remoteObject :: x.dead }

def runFrom (saProfiles : List SaProfile) (sections : List ProcSection) : ProcLists :=
  Runs.run step { sched := Scheduler.init saProfiles } sections

/-- Each process has one entry for an object at most, the count of a pid is the number of
entries it subscribed and within the quota, and no entry is of a dead listener. -/
structure Accounted (x : ProcLists) : Prop where
  single : ∀ procName, ((x.sched.subscriptions procName).map fun item => item.listener.object).Nodup
  counted : ∀ pid, Quota.count x.sched.subscribeProcCountMap pid = x.sched.procSubscribers.count pid
  bounded : ∀ pid, Quota.count x.sched.subscribeProcCountMap pid ≤ 256
  clean : ∀ object ∈ x.dead, ∀ procName, ∀ item ∈ x.sched.subscriptions procName,
    item.listener.object ≠ object

/-- What the callers have to take care of. A subscription that adds an entry is the first of
its object for the process, and its object is not dead; an unsubscription that finds an entry
is made by its subscriber; and no listener dies that has an entry. -/
def Careful (x : ProcLists) : ProcSection → Prop
  | .subscribe listener callingPid procName =>
      x.sched.addsEntry listener callingPid procName →
        (∀ item ∈ x.sched.subscriptions procName, item.listener.object ≠ listener.object) ∧
        listener.object ∉ x.dead
  | .unSubscribe listener callingPid procName =>
      ∀ item, x.sched.foundEntry listener procName = some item → item.subscriber = callingPid
  | .died remoteObject =>
      ∀ procName, ∀ item ∈ x.sched.subscriptions procName, item.listener.object ≠ remoteObject

/-- The invariant: a count of zero is not in the map. -/
structure Kept (x : ProcLists) : Prop where
  accounted : x.Accounted
  holds : ∀ pid, Quota.Holds x.sched.subscribeProcCountMap pid (x.sched.procSubscribers.count pid)

variable {x : ProcLists}

theorem Kept.of_holds {y : ProcLists}
    (single : ∀ procName, ((y.sched.subscriptions procName).map fun item => item.listener.object).Nodup)
    (holds : ∀ pid, Quota.Holds y.sched.subscribeProcCountMap pid (y.sched.procSubscribers.count pid))
    (bounded : ∀ pid, y.sched.procSubscribers.count pid ≤ 256)
    (clean : ∀ object ∈ y.dead, ∀ procName, ∀ item ∈ y.sched.subscriptions procName,
      item.listener.object ≠ object) : y.Kept := by
  refine ⟨⟨single, fun pid => (holds pid).count_eq, fun pid => ?_, clean⟩, holds⟩
  rw [(holds pid).count_eq]
  exact Int.ofNat_le.mpr (bounded pid)

theorem Kept.bounded (good : x.Kept) (pid : Int) : x.sched.procSubscribers.count pid ≤ 256 := by
  have bounded := good.accounted.bounded pid
  rw [good.accounted.counted pid] at bounded
  exact Int.ofNat_le.mp bounded

theorem Kept.same (good : x.Kept) {t : Scheduler} (same : Scheduler.SameSubscriptions x.sched t) :
    Kept { x with sched := t } := by
  refine Kept.of_holds (fun procName => ?_) (fun pid => ?_) (fun pid => ?_) fun object gone procName => ?_
  · rw [same.entries]
    exact good.accounted.single procName
  · rw [same.counts, same.total]
    exact good.holds pid
  · rw [same.total]
    exact good.bounded pid
  · rw [same.entries]
    exact good.accounted.clean object gone procName

section Sections

variable {listener : RemoteInterface} {callingPid : Int} {procName : String}

theorem Kept.subscribe (good : x.Kept) (careful : x.Careful (.subscribe listener callingPid procName)) :
    (x.step (.subscribe listener callingPid procName)).Kept := by
  by_cases adds : x.sched.addsEntry listener callingPid procName
  case neg => exact good.same (Scheduler.subscribeOne_same adds)
  obtain ⟨fresh, lives⟩ := careful adds
  have added := Scheduler.subscribeOne_added adds
  have room : x.sched.procSubscribers.count callingPid < 256 := by
    have room := adds.2.2
    rw [good.accounted.counted callingPid] at room
    exact Int.ofNat_lt.mp room
  refine Kept.of_holds (fun name => ?_) (fun pid => ?_) (fun pid => ?_) fun object gone name item member => ?_
  · by_cases own : name = procName
    · subst own
      simp only [step, added.list, List.map_append]
      refine List.nodup_append.mpr ⟨good.accounted.single name, List.nodup_singleton _, ?_⟩
      intro object inside other last same
      obtain rfl : other = listener.object := List.mem_singleton.mp last
      obtain ⟨item, member, rfl⟩ := List.mem_map.mp inside
      exact fresh item member same
    · simp only [step, added.agree.subscriptions own]
      exact good.accounted.single name
  · simp only [step, added.counts, added.total]
    exact (good.holds pid).charge_count
  · simp only [step, added.total]
    have before := good.bounded pid
    by_cases own : callingPid = pid
    · subst own
      rw [List.count_singleton_self]
      omega
    · rw [List.count_singleton, if_neg (by simpa using own)]
      exact before
  · by_cases own : name = procName
    · subst own
      simp only [step, added.list] at member
      rcases List.mem_append.mp member with before | last
      · exact good.accounted.clean object gone name item before
      · rw [List.mem_singleton.mp last]
        exact fun same => lives (same ▸ gone)
    · simp only [step, added.agree.subscriptions own] at member
      exact good.accounted.clean object gone name item member

/-- A second entry for an object, or one of a dead listener, spoils the list. -/
theorem careful_of_subscribe (after : (x.step (.subscribe listener callingPid procName)).Accounted) :
    x.Careful (.subscribe listener callingPid procName) := by
  intro adds
  have added := Scheduler.subscribeOne_added adds
  constructor
  · intro item member same
    have single := after.single procName
    simp only [step, added.list, List.map_append] at single
    exact (List.nodup_append.mp single).2.2 item.listener.object (List.mem_map_of_mem member)
      listener.object (List.mem_singleton_self _) same
  · intro gone
    refine after.clean listener.object gone procName { listener, subscriber := callingPid } ?_ rfl
    simp only [step, added.list]
    exact List.mem_append_right _ (List.mem_singleton_self _)

theorem Kept.unSubscribe (good : x.Kept) (careful : x.Careful (.unSubscribe listener callingPid procName)) :
    (x.step (.unSubscribe listener callingPid procName)).Kept := by
  have agree : Scheduler.SameElsewhere procName x.sched
      (Scheduler.unSubscribeOneProcess listener callingPid x.sched procName) :=
    Scheduler.unSubscribeOne_elsewhere
  have lists : ∀ name, ((x.step (.unSubscribe listener callingPid procName)).sched.subscriptions name).Sublist
      (x.sched.subscriptions name) := by
    intro name
    by_cases own : name = procName
    · subst own
      simp only [step, Scheduler.unSubscribeOne_list]
      exact List.eraseP_sublist
    · simp only [step, agree.subscriptions own]
      exact List.Sublist.refl _
  have total : ∀ pid, (x.step (.unSubscribe listener callingPid procName)).sched.procSubscribers.count pid +
      ((x.sched.foundEntry listener procName).map ProcSubscription.subscriber).toList.count pid =
      x.sched.procSubscribers.count pid := Scheduler.unSubscribeOne_total
  refine Kept.of_holds (fun name => ?_) (fun pid => ?_) (fun pid => ?_) fun object gone name item member => ?_
  · exact (good.accounted.single name).sublist ((lists name).map _)
  · have split := total pid
    have holds := good.holds pid
    simp only [step, Scheduler.unSubscribeOne_counts] at split ⊢
    cases found : x.sched.foundEntry listener procName with
    | none =>
        simp only [found, Option.map_none, Option.toList_none, List.count_nil, Nat.add_zero] at split
        rw [split]
        exact holds
    | some item =>
        have charged : item.subscriber = callingPid := careful item found
        simp only [found, Option.map_some, Option.toList_some, charged] at split
        simp only [Option.isSome_some, if_true]
        rw [← split] at holds
        by_cases own : callingPid = pid
        · subst own
          rw [List.count_singleton_self] at holds
          exact holds.release Quota.settles_le_zero
        · rw [List.count_singleton, if_neg (by simpa using own)] at holds
          exact holds.release_of_ne own
  · have split := total pid
    have before := good.bounded pid
    omega
  · exact good.accounted.clean object gone name item ((lists name).subset member)

/-- An entry that another pid takes out stays in the count of its subscriber. -/
theorem careful_of_unSubscribe (good : x.Kept)
    (after : (x.step (.unSubscribe listener callingPid procName)).Accounted) :
    x.Careful (.unSubscribe listener callingPid procName) := by
  intro item found
  by_contra other
  have total : (x.step (.unSubscribe listener callingPid procName)).sched.procSubscribers.count
      item.subscriber + ((x.sched.foundEntry listener procName).map ProcSubscription.subscriber).toList.count
        item.subscriber = x.sched.procSubscribers.count item.subscriber :=
    Scheduler.unSubscribeOne_total item.subscriber
  have counted := after.counted item.subscriber
  have kept : Quota.Holds (Quota.release (· ≤ 0) x.sched.subscribeProcCountMap callingPid) item.subscriber
      (x.sched.procSubscribers.count item.subscriber) :=
    (good.holds item.subscriber).release_of_ne (Ne.symm other)
  simp only [step, Scheduler.unSubscribeOne_counts, found, Option.isSome_some, if_true,
    kept.count_eq, Int.natCast_inj] at counted
  simp only [step, found, Option.map_some, Option.toList_some, List.count_singleton_self] at total
  omega

end Sections

theorem Kept.died (good : x.Kept) {remoteObject : Nat} (careful : x.Careful (.died remoteObject)) :
    (x.step (.died remoteObject)).Kept := by
  refine Kept.of_holds good.accounted.single good.holds good.bounded fun object gone => ?_
  rcases List.mem_cons.mp gone with rfl | before
  · exact careful
  · exact good.accounted.clean object before

theorem step_kept {part : ProcSection} (good : x.Kept) (careful : x.Careful part) :
    (x.step part).Kept := by
  cases part with
  | subscribe listener callingPid procName => exact good.subscribe careful
  | unSubscribe listener callingPid procName => exact good.unSubscribe careful
  | died remoteObject => exact good.died careful

theorem careful_of_step {part : ProcSection} (good : x.Kept) (after : (x.step part).Accounted) :
    x.Careful part := by
  cases part with
  | subscribe listener callingPid procName => exact careful_of_subscribe after
  | unSubscribe listener callingPid procName => exact careful_of_unSubscribe good after
  | died remoteObject => exact fun procName => after.clean remoteObject List.mem_cons_self procName

theorem kept_init (saProfiles : List SaProfile) : Kept { sched := Scheduler.init saProfiles } := by
  have start := Scheduler.init_noListeners saProfiles
  have none : ∀ procName, (Scheduler.init saProfiles).subscriptions procName = [] := by
    intro procName
    simp [Scheduler.subscriptions, start.lists]
  have nobody : (Scheduler.init saProfiles).procSubscribers = [] := by
    simp [Scheduler.procSubscribers, Quota.all, start.lists]
  refine Kept.of_holds (fun procName => ?_) (fun pid => ?_) (fun pid => ?_) fun object gone => ?_
  · rw [none]
    exact List.nodup_nil
  · rw [nobody, start.counts]
    exact Quota.holds_empty
  · rw [nobody]
    exact Nat.zero_le _
  · cases gone

/-- A call on the lists is its sections in a row; a subscription stops where the quota of the
caller is used up. -/
theorem exec_eq_sections (env : Env) (x : ProcLists) {op : Scheduler.Op}
    (calls : (∃ procNames listener callingPid, op = .subscribeList procNames listener callingPid) ∨
      (∃ procNames listener callingPid, op = .unSubscribeList procNames listener callingPid) ∨
      ∃ remoteObject, op = .listenerDied remoteObject) :
    ∃ sections, (x.sched.exec env op).1 = (Runs.run step x sections).sched := by
  rcases calls with ⟨procNames, listener, callingPid, rfl⟩ | ⟨procNames, listener, callingPid, rfl⟩ |
    ⟨remoteObject, rfl⟩
  · simp only [Scheduler.exec]
    induction procNames generalizing x with
    | nil => exact ⟨[], rfl⟩
    | cons procName rest hypothesis =>
        simp only [Scheduler.subscribeSystemProcessList]
        split
        · obtain ⟨sections, same⟩ := hypothesis (x.step (.subscribe listener callingPid procName))
          exact ⟨.subscribe listener callingPid procName :: sections, same⟩
        · exact ⟨[.subscribe listener callingPid procName], rfl⟩
  · simp only [Scheduler.exec, Scheduler.unSubscribeSystemProcessList]
    induction procNames generalizing x with
    | nil => exact ⟨[], rfl⟩
    | cons procName rest hypothesis =>
        obtain ⟨sections, same⟩ := hypothesis (x.step (.unSubscribe listener callingPid procName))
        exact ⟨.unSubscribe listener callingPid procName :: sections, same⟩
  · exact ⟨[.died remoteObject], rfl⟩

/-- Along every run of subscriptions, unsubscriptions and deaths, the lists of the processes
are accounted and clean exactly when the callers are careful. -/
theorem proc_lists_accounted_iff_careful (saProfiles : List SaProfile) (sections : List ProcSection) :
    (∀ before, before <+: sections → (runFrom saProfiles before).Accounted) ↔
      Runs.Guarded step Careful { sched := Scheduler.init saProfiles } sections :=
  Runs.forall_prefix_iff_guarded Kept (fun _ _ careful good => step_kept good careful)
    (fun _ good => good.accounted)
    (fun _ _ good careless after => careless (careful_of_step good after)) (kept_init saProfiles)

/-- A listener of a process dies. -/
def diedListener : List ProcSection := [.subscribe ⟨7, 7⟩ 50 "host", .died 7]

theorem dead_listener_keeps_its_entry :
    ¬ ∀ saProfiles sections, (runFrom saProfiles sections).Accounted := by
  intro always
  have clean := (always [{ process := "host", saId := 1 }] diedListener).clean 7 (by decide) "host"
    { listener := ⟨7, 7⟩, subscriber := 50 } (by decide +kernel)
  exact clean rfl

end ProcLists

end Samgr
