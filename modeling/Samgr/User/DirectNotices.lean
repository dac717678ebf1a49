import Samgr.User.Notices
import Samgr.Lib.Runs

/-! Whether a direct subscriber learns that an ability is there. The calls of a user's manager run
one after the other and the worker runs dry after each. Beside the manager a run keeps which objects
the current registration of an ability should have reached by then, from what was subscribed and who
was in the foreground; what the listeners have heard since is compared with it. -/
namespace Samgr

open MultiSystemAbilityManager

/-- `marks` is the number of reports at the latest accepted registration of an ability. -/
structure Session where
  manager : MultiSystemAbilityManager
  isForegroundUser : Bool
  marks : Int → Nat := fun _ => 0
  reached : Int → Nat → Bool := fun _ _ => false

namespace Session

inductive Label where
  | addSystemAbility (env : Env) (systemAbilityId : Int) (ability : Nat) (isDistributed : Bool)
  | removeSystemAbility (env : Env) (systemAbilityId : Int)
  | removeObject (ability : Nat)
  | removeDiedSystemAbility (systemAbilityId : Int)
  | subscribe (systemAbilityId : Int) (listener : RemoteInterface) (foregroundOnly : Bool)
      (callingPid : Int)
  | unSubscribe (systemAbilityId : Int) (listener : RemoteInterface) (foregroundOnly : Bool)
  | switchUser (isForegroundUser : Bool)

/-- The user's manager after its initialisation with the profiles. -/
def init (saProfiles : List SaProfile) (isForegroundUser : Bool) : Session :=
  { manager := { base := Manager.init saProfiles }, isForegroundUser }

variable (s : Session) (systemAbilityId : Int)

/-- The reports since the ability was last registered, the newest first. -/
def since : List Report :=
  s.manager.base.reports.take (s.manager.base.reports.length - s.marks systemAbilityId)

/-- The object has been told that the ability is there since it was last registered. -/
def Informed (remoteObject : Nat) : Prop := Announces (s.since systemAbilityId) systemAbilityId remoteObject

instance (remoteObject : Nat) : Decidable (s.Informed systemAbilityId remoteObject) :=
  inferInstanceAs (Decidable (Announces _ _ _))

/-- A registration reaches every direct subscriber, and the others while the user is in the
foreground. -/
def register : Session :=
  { s with
    marks := Function.update s.marks systemAbilityId s.manager.base.reports.length
    reached := Function.update s.reached systemAbilityId fun object =>
      decide (s.manager.Subscribes systemAbilityId object false) ||
        s.isForegroundUser && decide (s.manager.Subscribes systemAbilityId object true) }

/-- A first subscription reaches its object if it is direct or the user is in the foreground. -/
def greet (remoteObject : Nat) (foregroundOnly : Bool) : Session :=
  { s with
    reached := Function.update s.reached systemAbilityId
      (Function.update (s.reached systemAbilityId) remoteObject
        (s.reached systemAbilityId remoteObject || !foregroundOnly || s.isForegroundUser)) }

/-- The object has no subscription to the ability, which is registered. -/
def IsFirst (remoteObject : Nat) : Prop :=
  systemAbilityId ∈ s.manager.base.abilityMap ∧
    ¬ s.manager.Subscribes systemAbilityId remoteObject false ∧
    ¬ s.manager.Subscribes systemAbilityId remoteObject true

instance (remoteObject : Nat) : Decidable (s.IsFirst systemAbilityId remoteObject) :=
  inferInstanceAs (Decidable (_ ∧ _ ∧ _))

/-- The worker runs what the call has posted. -/
def settle (manager : MultiSystemAbilityManager) : Session :=
  { s with manager := manager.drain s.isForegroundUser [] }

/-- No listener is expired: the entry of a listener holds its object. -/
def step (s : Session) : Label → Session
  | .addSystemAbility env systemAbilityId ability isDistributed =>
      let added := s.manager.addSystemAbility env systemAbilityId ⟨ability, isDistributed⟩
      (if added.2 = .errOk then s.register systemAbilityId else s).settle added.1
  | .removeSystemAbility env systemAbilityId =>
      s.settle (s.manager.removeSystemAbility env systemAbilityId).1
  | .removeObject ability => s.settle (s.manager.removeObject ability)
  | .removeDiedSystemAbility systemAbilityId =>
      s.settle (s.manager.removeDiedSystemAbility systemAbilityId)
  | .subscribe systemAbilityId listener foregroundOnly callingPid =>
      let subscribed := s.manager.subscribeSystemAbilityWithPid [] systemAbilityId listener foregroundOnly
        callingPid
      (if subscribed.2 = .errOk ∧ s.IsFirst systemAbilityId listener.object then
        s.greet systemAbilityId listener.object foregroundOnly else s).settle subscribed.1
  | .unSubscribe systemAbilityId listener foregroundOnly =>
      s.settle (s.manager.unSubscribeSystemAbility [] systemAbilityId listener foregroundOnly).1
  | .switchUser isForegroundUser => { s with isForegroundUser }

/-- A direct subscription that is accepted leaves its listener informed, if it had no direct one
before and the ability is registered. -/
def Learns (s : Session) : Label → Prop
  | .subscribe systemAbilityId listener false callingPid =>
      (s.manager.subscribeSystemAbilityWithPid [] systemAbilityId listener false callingPid).2 = .errOk →
      ¬ s.manager.Subscribes systemAbilityId listener.object false →
      systemAbilityId ∈ (s.step (.subscribe systemAbilityId listener false callingPid)).manager.base.abilityMap →
      (s.step (.subscribe systemAbilityId listener false callingPid)).Informed systemAbilityId listener.object
  | _ => True

instance (s : Session) : (label : Label) → Decidable (s.Learns label)
  | .subscribe _ _ false _ => inferInstanceAs (Decidable (_ → _ → _ → _))
  | .subscribe _ _ true _ | .addSystemAbility _ _ _ _ | .removeSystemAbility _ _ | .removeObject _
  | .removeDiedSystemAbility _ | .unSubscribe _ _ _ | .switchUser _ => isTrue trivial

/-- No direct subscription comes from a listener of a registered ability that has subscribed for
the foreground user only and has not been reached. -/
def NotPassedOver (s : Session) : Label → Prop
  | .subscribe systemAbilityId listener false _ =>
      systemAbilityId ∈ s.manager.base.abilityMap →
      ¬ s.manager.Subscribes systemAbilityId listener.object false →
      s.manager.Subscribes systemAbilityId listener.object true →
      s.reached systemAbilityId listener.object = true
  | _ => True

/-- Between the calls nothing is left to run, and the objects that have been told of a registered
ability are those its registration should have reached. -/
structure Good (s : Session) : Prop where
  idle : s.manager.Idle
  empty : s.manager.base.workHandler.ready = []
  marks : ∀ sa, s.marks sa ≤ s.manager.base.reports.length
  informed : ∀ sa ∈ s.manager.base.abilityMap, ∀ object,
    s.Informed sa object ↔ s.reached sa object = true

variable {s : Session} {n : MultiSystemAbilityManager} {reports : List Report} {sa : Int} {object : Nat}
  {label : Label}

theorem since_settle (marks : s.marks sa ≤ s.manager.base.reports.length)
    (before : n.base.reports = s.manager.base.reports)
    (told : Told (n.setReady []) (n.drain s.isForegroundUser []) reports) :
    (s.settle n).since sa = reports ++ s.since sa := by
  have after : (s.settle n).manager.base.reports = reports ++ s.manager.base.reports := by
    rw [← before]
    exact told.reports
  have kept : (s.settle n).marks = s.marks := rfl
  rw [since, since, after, kept, List.take_append, List.length_append]
  rw [List.take_of_length_le (by omega)]
  congr 2
  omega

/-- A call and the run of its messages keep the session good when what they announce accounts for
what the call should have reached. -/
theorem Good.settle (marks : ∀ sa, s.marks sa ≤ s.manager.base.reports.length)
    (before : n.base.reports = s.manager.base.reports)
    (told : Told (n.setReady []) (n.drain s.isForegroundUser []) reports)
    (informed : ∀ sa ∈ n.base.abilityMap, ∀ object,
      Announces reports sa object ∨ s.Informed sa object ↔ s.reached sa object = true) :
    (s.settle n).Good where
  idle := told.idle
  empty := by
    have queue : (s.settle n).manager.base.workHandler = (n.setReady []).base.workHandler := told.queue
    rw [queue]
    rfl
  marks := by
    intro sa
    have after : (s.settle n).manager.base.reports = reports ++ s.manager.base.reports := by
      rw [← before]
      exact told.reports
    rw [after, List.length_append]
    exact (marks sa).trans (Nat.le_add_left _ _)
  informed := by
    intro sa inside object
    have registry : (s.settle n).manager.base.abilityMap = n.base.abilityMap := told.registry
    rw [Informed, since_settle (marks sa) before told, announces_append]
    exact informed sa (registry ▸ inside) object

theorem Good.quiet (good : s.Good) (call : ∃ tasks, Quiet s.manager n tasks) : (s.settle n).Good := by
  obtain ⟨tasks, quiet⟩ := call
  obtain ⟨reports, told, silent⟩ := quiet.drain s.isForegroundUser
  refine .settle good.marks quiet.posts.reports told fun sa inside object => ?_
  rw [or_iff_right (silent sa object)]
  exact good.informed sa (quiet.registry sa inside) object

theorem Good.addSystemAbility (good : s.Good) {env : Env} {ability : Nat} {isDistributed : Bool} :
    (s.step (.addSystemAbility env sa ability isDistributed)).Good := by
  simp only [step]
  split
  · rename_i accepted
    obtain ⟨reports, told, announced⟩ := addSystemAbility_told good.idle good.empty accepted
    obtain ⟨covered, -, posts⟩ := addSystemAbility_posts good.idle good.empty accepted
    obtain ⟨-, -, registry⟩ := addSystemAbility_tables accepted
    refine .settle ?_ posts.reports told ?_
    · intro id
      by_cases own : id = sa
      · simp [register, own]
      · simpa [register, own] using good.marks id
    · intro id inside object
      by_cases own : id = sa
      · subst own
        have nothing : ¬ (s.register id).Informed id object := by
          simp [Informed, since, register]
        have agree := good.idle.consistent.agree id object List.not_mem_nil
        rw [announced, or_iff_left nothing]
        simp only [true_and, register, Function.update_self, Bool.or_eq_true, Bool.and_eq_true,
          decide_eq_true_eq]
        constructor
        · rintro ⟨listens, through⟩
          rcases (good.idle.consistent.passes_iff listens).mp through with direct | foreground
          · exact Or.inl direct
          · obtain ⟨kind, entry⟩ := agree.mp listens
            cases kind with
            | false => exact Or.inl entry
            | true => exact Or.inr ⟨foreground, entry⟩
        · rintro (direct | ⟨foreground, entry⟩)
          · have listens := agree.mpr ⟨false, direct⟩
            exact ⟨listens, (good.idle.consistent.passes_iff listens).mpr (Or.inl direct)⟩
          · have listens := agree.mpr ⟨true, entry⟩
            exact ⟨listens, (good.idle.consistent.passes_iff listens).mpr (Or.inr foreground)⟩
      · have before : id ∈ s.manager.base.abilityMap := by
          rw [registry, Std.TreeMap.mem_insert] at inside
          exact inside.resolve_left fun same => own (Std.LawfulEqCmp.eq_of_compare same).symm
        have kept : (s.register sa).Informed id object ↔ s.Informed id object := by
          simp [Informed, since, register, own]
        rw [announced, or_iff_right fun both => own both.1, kept, good.informed id before]
        simp [register, own]
  · rename_i refused
    exact good.quiet (addSystemAbility_quiet good.idle good.empty refused)

section Subscriptions

variable {listener : RemoteInterface} {foregroundOnly : Bool} {callingPid : Int}

/-- A task is posted exactly for an accepted first subscription. -/
theorem Good.greetings_iff (good : s.Good) : s.manager.greetings sa listener callingPid ≠ [] ↔
    (s.manager.subscribeSystemAbilityWithPid [] sa listener foregroundOnly callingPid).2 = .errOk ∧
      s.IsFirst sa listener.object := by
  have agree := good.idle.consistent.agree sa listener.object List.not_mem_nil
  have bare : ¬ s.manager.base.Listens sa listener.object ↔
      ¬ s.manager.Subscribes sa listener.object false ∧ ¬ s.manager.Subscribes sa listener.object true := by
    rw [agree, Bool.exists_bool, not_or]
  rw [subscribeWithPid_result, greetings, IsFirst, ← bare]
  split
  · rename_i both
    simp [both]
  · rename_i other
    simp only [ne_eq, not_true_eq_false, false_iff]
    exact fun all => other ⟨⟨all.1, all.2.2⟩, all.2.1⟩

/-- The first subscription of an object is let through if it is direct or its user is in the
foreground. -/
theorem Good.passes_first (good : s.Good) (first : s.IsFirst sa listener.object)
    (accepted : (s.manager.subscribeSystemAbilityWithPid [] sa listener foregroundOnly callingPid).2 = .errOk) :
    (s.manager.subscribeSystemAbilityWithPid [] sa listener foregroundOnly callingPid).1.passes
        s.isForegroundUser sa listener.object = true ↔
      foregroundOnly = false ∨ s.isForegroundUser = true := by
  have answer := subscribeWithPid_result.symm.trans accepted
  have consistent : (s.manager.subscribeSystemAbilityWithPid [] sa listener foregroundOnly
      callingPid).1.Consistent [] := good.idle.consistent.subscribeAbility (List.Subset.refl [])
  have direct : (s.manager.subscribeSystemAbilityWithPid [] sa listener foregroundOnly
      callingPid).1.Subscribes sa listener.object false ↔ foregroundOnly = false := by
    rw [subscribes_subscribeWithPid good.idle.consistent (List.Subset.refl []) List.not_mem_nil,
      or_iff_right first.2.1]
    simp [answer, eq_comm]
  rw [consistent.passes_iff (listens_subscribeWithPid.mpr (Or.inr ⟨⟨rfl, rfl⟩, answer⟩)), direct]

theorem Good.subscribe (good : s.Good) :
    (s.step (.subscribe sa listener foregroundOnly callingPid)).Good := by
  have posts : Posts s.manager
      (s.manager.subscribeSystemAbilityWithPid [] sa listener foregroundOnly callingPid).1
      (s.manager.greetings sa listener callingPid) := subscribe_posts good.idle good.empty
  have keeps : Keeps [.listeners, .work] s.manager.base
      (s.manager.subscribeSystemAbilityWithPid [] sa listener foregroundOnly callingPid).1.base :=
    subscribe_keeps
  have registry := (keeps .registry (by simp)).1
  obtain ⟨reports, told, announced⟩ :=
    @subscribe_told s.manager s.isForegroundUser sa listener foregroundOnly callingPid good.idle good.empty
  simp only [step]
  split
  · rename_i first
    have greeted := good.greetings_iff.mpr first
    refine .settle good.marks posts.reports told fun id inside object => ?_
    have before : (s.greet sa listener.object foregroundOnly).Informed id object ↔
        s.reached id object = true := good.informed id (registry ▸ inside) object
    rw [announced, before, good.passes_first first.2 first.1]
    by_cases own : id = sa
    · subst own
      by_cases same : object = listener.object
      · subst same
        simp [greet, greeted]
        tauto
      · simp [greet, same]
    · simp [greet, own]
  · rename_i other
    have silent : ¬ s.manager.greetings sa listener callingPid ≠ [] :=
      fun greeted => other (good.greetings_iff.mp greeted)
    refine .settle good.marks posts.reports told fun id inside object => ?_
    rw [announced, or_iff_right fun all => silent all.2.1]
    exact good.informed id (registry ▸ inside) object

/-- No subscription touches the registry. -/
theorem Good.registry_subscribe (good : s.Good) :
    (s.step (.subscribe sa listener foregroundOnly callingPid)).manager.base.abilityMap =
      s.manager.base.abilityMap := by
  have keeps : Keeps [.listeners, .work] s.manager.base
      (s.manager.subscribeSystemAbilityWithPid [] sa listener foregroundOnly callingPid).1.base :=
    subscribe_keeps
  obtain ⟨reports, told, -⟩ :=
    @subscribe_told s.manager s.isForegroundUser sa listener foregroundOnly callingPid good.idle good.empty
  have call := (keeps .registry (by simp)).1
  simp only [step]
  split
  · exact told.registry.trans call
  · exact told.registry.trans call

/-- An object that holds a subscription is accepted again. -/
theorem Good.accepted (good : s.Good) {kind : Bool} (entry : s.manager.Subscribes sa listener.object kind) :
    (s.manager.subscribeSystemAbilityWithPid [] sa listener foregroundOnly callingPid).2 = .errOk := by
  by_contra refused
  rw [subscribeWithPid_result] at refused
  exact good.idle.consistent.refused List.not_mem_nil refused entry

end Subscriptions

theorem step_good (good : s.Good) : (s.step label).Good := by
  cases label with
  | addSystemAbility env sa ability isDistributed => exact good.addSystemAbility
  | removeSystemAbility env sa => exact good.quiet (removeSystemAbility_quiet good.idle good.empty)
  | removeObject ability => exact good.quiet (removeObject_quiet good.idle good.empty)
  | removeDiedSystemAbility sa => exact good.quiet (removeDied_quiet good.idle good.empty)
  | subscribe sa listener foregroundOnly callingPid => exact good.subscribe
  | unSubscribe sa listener foregroundOnly => exact good.quiet (unSubscribe_quiet good.idle good.empty)
  | switchUser isForegroundUser => exact ⟨good.idle, good.empty, good.marks, good.informed⟩

/-- What a direct subscription promises is what its listener has been reached by before, if it has
subscribed for the foreground user already; a new listener is let through. -/
theorem learns_iff (good : s.Good) : s.Learns label ↔ s.NotPassedOver label := by
  cases label with
  | subscribe sa listener foregroundOnly callingPid =>
      cases foregroundOnly with
      | true => exact Iff.rfl
      | false =>
          have after : (s.step (.subscribe sa listener false callingPid)).Good := step_good good
          have informed := after.informed sa
          rw [good.registry_subscribe] at informed
          simp only [Learns, NotPassedOver, good.registry_subscribe]
          constructor
          · intro learns inside bare entry
            have reached := (informed inside listener.object).mp (learns (good.accepted entry) bare inside)
            have other : ¬ s.IsFirst sa listener.object := fun first => first.2.2 entry
            simpa [step, settle, other] using reached
          · intro spared accepted bare inside
            rw [informed inside]
            by_cases entry : s.manager.Subscribes sa listener.object true
            · have other : ¬ s.IsFirst sa listener.object := fun first => first.2.2 entry
              simpa [step, settle, other] using spared inside bare entry
            · have first : s.IsFirst sa listener.object := ⟨inside, bare, entry⟩
              simp [step, accepted, first, settle, greet]
  | _ => exact Iff.rfl

theorem init_good (saProfiles : List SaProfile) (isForegroundUser : Bool) :
    (init saProfiles isForegroundUser).Good where
  idle := ⟨consistent_init saProfiles, fun _ => rfl, rfl⟩
  empty := rfl
  marks := fun _ => Nat.le_refl _
  informed := by
    intro sa inside
    simp [init, Manager.init] at inside

/-- In every run of direct and foreground-only subscriptions, unsubscriptions, registrations and
removals, whoever is in the foreground, every direct subscription to a registered ability leaves its
listener informed exactly when none comes from a listener that holds a foreground-only subscription
and has been passed over since the ability was registered. -/
theorem direct_subscribers_learn_unless_passed_over (saProfiles : List SaProfile) (isForegroundUser : Bool)
    (labels : List Label) :
    Runs.Guarded step Learns (init saProfiles isForegroundUser) labels ↔
      Runs.Guarded step NotPassedOver (init saProfiles isForegroundUser) labels :=
  Runs.guarded_iff_guarded Good (fun _ _ good => learns_iff good) (fun _ _ good _ => step_good good) labels
    (init_good saProfiles isForegroundUser)

/-- While its user is in the background a listener subscribes to a registered ability for the
foreground user, and then directly. -/
def passedOver : List Label :=
  [.addSystemAbility {} 1 10 false, .subscribe 1 ⟨7, 7⟩ true 100, .subscribe 1 ⟨7, 7⟩ false 100]

/-- The direct subscription is accepted, and its listener is never told of the ability. -/
theorem passed_over_listener_does_not_learn :
    ¬ Runs.Guarded step Learns (init [] false) passedOver := by
  decide +kernel

end Session

end Samgr
