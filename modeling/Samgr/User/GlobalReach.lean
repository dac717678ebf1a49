import Samgr.User.AllUsers

/-! Every active user holds the subscriptions of the global list. While a call runs, its own
subscription is held by the users it has come to; the list changes when it has come to all of them. -/
namespace Samgr

open MultiSystemAbilityManager

namespace AllUsers

/-- Of what lives, every active user holds for the foreground what is expected of it. -/
def Reaches (s : AllUsers) (expected : Int → SubscriptionKey → Prop) : Prop :=
  ∀ userId manager, s.multiUserManagers[userId]? = some manager →
    manager.Consistent s.dead ∧
      ∀ key, key.object ∉ s.dead → (manager.Holds key true ↔ expected userId key)

def Listed (s : AllUsers) (_ : Int) (key : SubscriptionKey) : Prop := key ∈ s.globalSubscriptions.keys

/-- Every active user is still to come, or done. -/
def Covered (s : AllUsers) (rest done : List Int) : Prop :=
  (rest ++ done).Nodup ∧ ∀ userId ∈ s.multiUserManagers, userId ∈ rest ∨ userId ∈ done

/-- What holds at each stage of the call that runs. -/
def Staged (s : AllUsers) : Option GlobalCall → Prop
  | none | some (.answered _) | some (.rollbackGlobal _ _) => s.Reaches s.Listed
  | some (.subscribing sub rest subscribed) =>
      sub.valid = true ∧ sub.key ∉ s.globalSubscriptions.keys ∧ s.Covered rest subscribed ∧
        s.Reaches fun userId key => s.Listed userId key ∨ key = sub.key ∧ userId ∈ subscribed
  | some (.rollbackSubscribe sub rest _) =>
      sub.key ∉ s.globalSubscriptions.keys ∧ rest.Nodup ∧
        s.Reaches fun userId key => s.Listed userId key ∨ key = sub.key ∧ userId ∈ rest
  | some (.unSubscribing sub rest unSubscribed) =>
      sub.valid = true ∧ s.Covered rest unSubscribed ∧
        s.Reaches fun userId key => s.Listed userId key ∧ ¬ (key = sub.key ∧ userId ∈ unSubscribed)
  | some (.rollbackUnsubscribe _ _ _) => False
  | some (.activating _ manager rest restored) =>
      s.Reaches s.Listed ∧ manager.Consistent s.dead ∧
        ∀ key, key.object ∉ s.dead →
          (manager.Holds key true ↔ key ∈ restored.map Subscription.key) ∧
          (key ∈ s.globalSubscriptions.keys ↔
            key ∈ rest.map Subscription.key ∨ key ∈ restored.map Subscription.key)
  | some (.activated _ manager) =>
      s.Reaches s.Listed ∧ manager.Consistent s.dead ∧
        ∀ key, key.object ∉ s.dead → (manager.Holds key true ↔ key ∈ s.globalSubscriptions.keys)

structure Good (s : AllUsers) : Prop where
  sound : s.globalSubscriptions.Sound
  staged : s.Staged s.running

variable {s : AllUsers} {expected wanted : Int → SubscriptionKey → Prop} {userId : Int}
  {manager : MultiSystemAbilityManager} {sub : Subscription}

theorem expired_subset (candidates : List Nat) : s.expired candidates ⊆ s.dead := by
  intro object member
  simpa using (List.mem_filter.mp member).2

section Reaching

theorem Reaches.congr (good : s.Reaches expected)
    (same : ∀ userId ∈ s.multiUserManagers, ∀ key, key.object ∉ s.dead →
      (expected userId key ↔ wanted userId key)) :
    s.Reaches wanted := by
  intro userId manager entry
  obtain ⟨consistent, holds⟩ := good userId manager entry
  refine ⟨consistent, fun key live => (holds key live).trans (same userId ?_ key live)⟩
  exact Std.TreeMap.mem_iff_isSome_getElem?.mpr (by rw [entry]; rfl)

/-- One manager changes: what is expected of the others stays. -/
theorem Reaches.set (good : s.Reaches expected) (consistent : manager.Consistent s.dead)
    (holds : ∀ key, key.object ∉ s.dead → (manager.Holds key true ↔ wanted userId key))
    (others : ∀ other, other ≠ userId → ∀ key, expected other key ↔ wanted other key) :
    (s.setManager userId manager).Reaches wanted := by
  intro other found entry
  by_cases own : other = userId
  · subst own
    simp only [setManager, Std.TreeMap.getElem?_insert_self, Option.some.injEq] at entry
    subst entry
    exact ⟨consistent, holds⟩
  · rw [setManager, Quota.getElem?_insert_of_ne own] at entry
    obtain ⟨kept, before⟩ := good other found entry
    exact ⟨kept, fun key live => (before key live).trans (others other own key)⟩

/-- A call on one manager that changes nothing of the foreground. -/
theorem Reaches.quiet (good : s.Reaches expected) {call : MultiSystemAbilityManager → MultiSystemAbilityManager}
    (consistent : ∀ manager : MultiSystemAbilityManager, manager.Consistent s.dead →
      (call manager).Consistent s.dead)
    (holds : ∀ manager : MultiSystemAbilityManager, manager.Consistent s.dead →
      ∀ key, key.object ∉ s.dead → ((call manager).Holds key true ↔ manager.Holds key true)) :
    (s.withManager userId call).Reaches expected := by
  unfold withManager
  split
  · exact good
  · rename_i manager entry
    obtain ⟨kept, before⟩ := good userId manager entry
    refine good.set (consistent manager kept) (fun key live => ?_) fun _ _ _ => Iff.rfl
    exact (holds manager kept key live).trans (before key live)

theorem Reaches.die (good : s.Reaches expected) (remoteObject : Nat) :
    Reaches { s with dead := remoteObject :: s.dead } expected := by
  intro userId manager entry
  obtain ⟨consistent, holds⟩ := good userId manager entry
  refine ⟨consistent.mono (List.subset_cons_self _ _), fun key live => ?_⟩
  exact holds key fun inside => live (List.mem_cons_of_mem _ inside)

theorem Reaches.stop (good : s.Reaches expected) :
    Reaches { s with multiUserManagers := s.multiUserManagers.erase userId } expected := by
  intro other manager entry
  simp only [Std.TreeMap.getElem?_erase] at entry
  split at entry
  · cases entry
  · exact good other manager entry

/-- What leaves the list as it is, brings no user and keeps what the managers hold for the foreground
is no matter for the call that runs. -/
theorem Staged.transfer {t : AllUsers} {call : Option GlobalCall}
    (list : t.globalSubscriptions = s.globalSubscriptions)
    (reach : ∀ expected, s.Reaches expected → t.Reaches expected)
    (users : ∀ userId ∈ t.multiUserManagers, userId ∈ s.multiUserManagers) (dead : s.dead ⊆ t.dead)
    (good : s.Staged call) : t.Staged call := by
  have listed : t.Listed = s.Listed := by
    funext userId key
    simp only [Listed, list]
  have covered : ∀ {rest done}, s.Covered rest done → t.Covered rest done :=
    fun covered => ⟨covered.1, fun userId member => covered.2 userId (users userId member)⟩
  cases call with
  | none =>
      simp only [Staged, listed] at good ⊢
      exact reach _ good
  | some call =>
      cases call with
      | subscribing sub rest subscribed =>
          simp only [Staged, listed, list] at good ⊢
          exact ⟨good.1, good.2.1, covered good.2.2.1, reach _ good.2.2.2⟩
      | rollbackSubscribe sub rest result =>
          simp only [Staged, listed, list] at good ⊢
          exact ⟨good.1, good.2.1, reach _ good.2.2⟩
      | unSubscribing sub rest unSubscribed =>
          simp only [Staged, listed] at good ⊢
          exact ⟨good.1, covered good.2.1, reach _ good.2.2⟩
      | rollbackUnsubscribe sub rest result => exact good
      | answered result =>
          simp only [Staged, listed] at good ⊢
          exact reach _ good
      | activating userId manager rest restored =>
          simp only [Staged, listed, list] at good ⊢
          exact ⟨reach _ good.1, good.2.1.mono dead,
            fun key live => good.2.2 key fun inside => live (dead inside)⟩
      | rollbackGlobal manager rest =>
          simp only [Staged, listed] at good ⊢
          exact reach _ good
      | activated userId manager =>
          simp only [Staged, listed, list] at good ⊢
          exact ⟨reach _ good.1, good.2.1.mono dead,
            fun key live => good.2.2 key fun inside => live (dead inside)⟩

end Reaching

section Proceeding

variable {expired : List Nat} {rest done : List Int}

theorem mem_of_entry (entry : s.multiUserManagers[userId]? = some manager) : userId ∈ s.multiUserManagers :=
  Std.TreeMap.mem_iff_isSome_getElem?.mpr (by rw [entry]; rfl)

theorem mem_setManager {other : Int} {changed : MultiSystemAbilityManager}
    (entry : s.multiUserManagers[userId]? = some manager)
    (member : other ∈ (s.setManager userId changed).multiUserManagers) : other ∈ s.multiUserManagers := by
  rcases Std.TreeMap.mem_insert.mp member with same | old
  · rw [← Std.LawfulEqCmp.eq_of_compare same]
    exact mem_of_entry entry
  · exact old

theorem Covered.advance {t : AllUsers} (covered : s.Covered (userId :: rest) done)
    (users : ∀ other ∈ t.multiUserManagers, other ∈ s.multiUserManagers) :
    t.Covered rest (userId :: done) := by
  refine ⟨List.perm_middle.nodup_iff.mpr covered.1, fun other member => ?_⟩
  rcases covered.2 other (users other member) with ahead | behind
  · rcases List.mem_cons.mp ahead with rfl | later
    · exact Or.inr List.mem_cons_self
    · exact Or.inl later
  · exact Or.inr (List.mem_cons_of_mem _ behind)

theorem Covered.skip (covered : s.Covered (userId :: rest) done)
    (absent : s.multiUserManagers[userId]? = none) : s.Covered rest done := by
  refine ⟨(List.nodup_cons.mp covered.1).2, fun other member => ?_⟩
  refine (covered.2 other member).imp_left fun ahead => ?_
  rcases List.mem_cons.mp ahead with rfl | later
  · rw [Std.TreeMap.mem_iff_isSome_getElem?, absent] at member
    cases member
  · exact later

theorem Covered.fresh (covered : s.Covered (userId :: rest) done) : userId ∉ done := by
  intro member
  exact (List.nodup_cons.mp covered.1).1 (List.mem_append_right rest member)

/-- A call that changes what one manager holds for the foreground. -/
theorem Reaches.apply (good : s.Reaches expected)
    {call : MultiSystemAbilityManager → MultiSystemAbilityManager}
    (consistent : ∀ manager : MultiSystemAbilityManager, manager.Consistent s.dead →
      (call manager).Consistent s.dead)
    (holds : ∀ manager : MultiSystemAbilityManager, manager.Consistent s.dead →
      (∀ key, key.object ∉ s.dead → (manager.Holds key true ↔ expected userId key)) →
      ∀ key, key.object ∉ s.dead → ((call manager).Holds key true ↔ wanted userId key))
    (others : ∀ other, other ≠ userId → ∀ key, expected other key ↔ wanted other key) :
    (s.withManager userId call).Reaches wanted := by
  unfold withManager
  split
  · rename_i absent
    apply good.congr
    intro other member key _
    apply others other
    rintro rfl
    rw [Std.TreeMap.mem_iff_isSome_getElem?, absent] at member
    cases member
  · rename_i manager entry
    obtain ⟨kept, before⟩ := good userId manager entry
    exact good.set (consistent manager kept) (holds manager kept before) others

theorem Good.subscribeAll (good : s.Good) (stage : s.Staged (some (.subscribing sub [] done))) :
    (s.proceed expired (.subscribing sub [] done)).Good := by
  obtain ⟨valid, fresh, covered, reaches⟩ := stage
  refine ⟨good.sound.push valid fresh, ?_⟩
  refine Reaches.congr reaches ?_
  intro userId member key live
  have reached : userId ∈ done := (covered.2 userId member).resolve_left List.not_mem_nil
  simp only [Listed, proceed, GlobalSubscriptionInfo.keys_push.mem_iff, List.mem_append,
    List.mem_singleton, reached, and_true]

theorem Good.subscribeOne (gone : expired ⊆ s.dead) (good : s.Good)
    (stage : s.Staged (some (.subscribing sub (userId :: rest) done))) :
    (s.proceed expired (.subscribing sub (userId :: rest) done)).Good := by
  obtain ⟨valid, fresh, covered, reaches⟩ := stage
  simp only [proceed]
  split
  · rename_i absent
    exact ⟨good.sound, valid, fresh, covered.skip absent, reaches⟩
  · rename_i manager entry
    obtain ⟨consistent, holds⟩ := reaches userId manager entry
    refine ⟨good.sound, ?_⟩
    by_cases accepted : (manager.subscribe expired true sub).2 = .errOk
    · simp only [accepted, ne_eq, not_true_eq_false, if_false]
      refine ⟨valid, fresh, covered.advance fun _ => mem_setManager entry, ?_⟩
      refine reaches.set (consistent.subscribe gone) (fun key live => ?_) fun other apart key => ?_
      · rw [holds_subscribe consistent gone live, holds key live]
        simp only [accepted, and_true, List.mem_cons, covered.fresh, and_false, or_false]
        exact Iff.rfl
      · simp only [List.mem_cons, apart, false_or]
        exact Iff.rfl
    · simp only [ne_eq, accepted, not_false_eq_true, if_true]
      refine ⟨fresh, ?_, ?_⟩
      · exact (List.nodup_append.mp (List.nodup_cons.mp covered.1).2).2.1
      · refine reaches.set (consistent.subscribe gone) (fun key live => ?_) fun _ _ _ => Iff.rfl
        rw [holds_subscribe consistent gone live, holds key live]
        simp only [accepted, and_false, or_false]
        exact Iff.rfl

theorem Good.rollbackSubscribe {result : ErrCode} (gone : expired ⊆ s.dead) (good : s.Good)
    (stage : s.Staged (some (.rollbackSubscribe sub rest result))) :
    (s.proceed expired (.rollbackSubscribe sub rest result)).Good := by
  obtain ⟨fresh, single, reaches⟩ := stage
  cases rest with
  | nil =>
      refine ⟨good.sound, ?_⟩
      refine Reaches.congr reaches ?_
      intro userId _ key _
      simp [Listed, proceed]
  | cons userId rest =>
      obtain ⟨apart, single⟩ := List.nodup_cons.mp single
      have sound : (s.withManager userId fun manager =>
          (manager.unSubscribe expired true sub).1).globalSubscriptions = s.globalSubscriptions := by
        unfold withManager
        split <;> rfl
      refine ⟨sound ▸ good.sound, sound ▸ fresh, single, ?_⟩
      simp only [Listed, proceed, sound]
      refine Reaches.apply reaches (fun _ consistent => consistent.unSubscribe gone) ?_ ?_
      · intro manager consistent holds key live
        rw [holds_unSubscribe consistent gone live, holds key live]
        simp only [Listed, List.mem_cons, and_true, apart, and_false, or_false]
        constructor
        · rintro ⟨listed | own, other⟩
          · exact listed
          · exact absurd own other
        · intro listed
          exact ⟨Or.inl listed, fun own => fresh (own ▸ listed)⟩
      · intro other away key
        simp [Listed, away]

theorem Good.unSubscribeAll (good : s.Good) (stage : s.Staged (some (.unSubscribing sub [] done))) :
    (s.proceed expired (.unSubscribing sub [] done)).Good := by
  obtain ⟨valid, covered, reaches⟩ := stage
  refine ⟨good.sound.erase, ?_⟩
  refine Reaches.congr reaches ?_
  intro userId member key live
  have reached : userId ∈ done := (covered.2 userId member).resolve_left List.not_mem_nil
  simp only [Listed, proceed, GlobalSubscriptionInfo.mem_keys_erase good.sound.single, reached, and_true]

theorem Good.unSubscribeOne (gone : expired ⊆ s.dead) (good : s.Good)
    (stage : s.Staged (some (.unSubscribing sub (userId :: rest) done))) :
    (s.proceed expired (.unSubscribing sub (userId :: rest) done)).Good := by
  obtain ⟨valid, covered, reaches⟩ := stage
  simp only [proceed]
  split
  · rename_i absent
    exact ⟨good.sound, valid, covered.skip absent, reaches⟩
  · rename_i manager entry
    obtain ⟨consistent, holds⟩ := reaches userId manager entry
    have accepted : (manager.unSubscribe expired true sub).2 = .errOk := unSubscribe_valid valid
    simp only [accepted, ne_eq, not_true_eq_false, if_false]
    refine ⟨good.sound, valid, covered.advance fun _ => mem_setManager entry, ?_⟩
    refine reaches.set (consistent.unSubscribe gone) (fun key live => ?_) fun other apart key => ?_
    · rw [holds_unSubscribe consistent gone live, holds key live]
      simp only [and_true, List.mem_cons, true_or, covered.fresh, and_false, not_false_eq_true]
      exact Iff.rfl
    · simp only [List.mem_cons, apart, false_or]
      exact Iff.rfl

theorem Good.replay {restored remaining : List Subscription} (gone : expired ⊆ s.dead) (good : s.Good)
    (stage : s.Staged (some (.activating userId manager remaining restored))) :
    (s.proceed expired (.activating userId manager remaining restored)).Good := by
  obtain ⟨reaches, consistent, holds⟩ := stage
  cases remaining with
  | nil =>
      refine ⟨good.sound, reaches, consistent, fun key live => ?_⟩
      obtain ⟨held, listed⟩ := holds key live
      rw [held]
      exact (listed.trans (or_iff_right List.not_mem_nil)).symm
  | cons sub remaining =>
      simp only [proceed]
      split
      · rename_i died
        refine ⟨good.sound, reaches, consistent, fun key live => ?_⟩
        obtain ⟨held, listed⟩ := holds key live
        have other : key ≠ sub.key := fun same => live (same ▸ sub.object_key ▸ died)
        exact ⟨held, by simpa [other] using listed⟩
      · refine ⟨good.sound, ?_⟩
        by_cases accepted : (manager.subscribe expired true sub).2 = .errOk
        · simp only [accepted, ne_eq, not_true_eq_false, if_false]
          refine ⟨reaches, consistent.subscribe gone, fun key live => ?_⟩
          obtain ⟨held, listed⟩ := holds key live
          constructor
          · rw [holds_subscribe consistent gone live, held]
            simp only [accepted, and_true, List.map_cons, List.mem_cons]
            exact or_comm
          · refine listed.trans ?_
            simp only [List.map_cons, List.mem_cons]
            rw [or_assoc]
            exact or_left_comm
        · simp only [ne_eq, accepted, not_false_eq_true, if_true]
          exact reaches

theorem Good.insert (good : s.Good) (stage : s.Staged (some (.activated userId manager))) :
    (s.proceed expired (.activated userId manager)).Good := by
  obtain ⟨reaches, consistent, holds⟩ := stage
  simp only [proceed]
  split
  · exact ⟨good.sound, reaches⟩
  · exact ⟨good.sound, reaches.set consistent holds fun _ _ _ => Iff.rfl⟩

theorem Good.proceed {call : GlobalCall} (gone : expired ⊆ s.dead) (good : s.Good)
    (stage : s.Staged (some call)) : (s.proceed expired call).Good := by
  cases call with
  | subscribing sub rest done =>
      cases rest with
      | nil => exact good.subscribeAll stage
      | cons userId rest => exact good.subscribeOne gone stage
  | rollbackSubscribe sub rest result => exact good.rollbackSubscribe gone stage
  | unSubscribing sub rest done =>
      cases rest with
      | nil => exact good.unSubscribeAll stage
      | cons userId rest => exact good.unSubscribeOne gone stage
  | rollbackUnsubscribe sub rest result => exact stage.elim
  | answered result => exact ⟨good.sound, stage⟩
  | activating userId manager remaining restored => exact good.replay gone stage
  | rollbackGlobal manager remaining =>
      cases remaining with
      | nil => exact ⟨good.sound, stage⟩
      | cons sub remaining => exact ⟨good.sound, stage⟩
  | activated userId manager => exact good.insert stage

end Proceeding

section Steps

/-- Between the calls the list loses only what is dead. -/
theorem reaches_pruned (reaches : s.Reaches s.Listed) :
    s.removeExpiredGlobalSubscriptions.Reaches s.removeExpiredGlobalSubscriptions.Listed := by
  refine Reaches.congr reaches ?_
  intro userId _ key live
  have alive : key.object ∉ s.dead := live
  simp [Listed, removeExpiredGlobalSubscriptions, GlobalSubscriptionInfo.keys_removeExpired, alive]

theorem covered_keys : s.Covered s.multiUserManagers.keys [] := by
  refine ⟨?_, fun userId member => Or.inl (Std.TreeMap.mem_keys.mpr member)⟩
  rw [List.append_nil]
  refine Std.TreeMap.distinct_keys.imp fun apart same => apart ?_
  rw [same]
  exact Std.ReflCmp.compare_self

theorem Good.beginSubscribe (good : s.Good) (idle : s.running = none) (valid : sub.valid = true) :
    (s.beginSubscribe sub).Good := by
  have reaches := reaches_pruned (by simpa [Staged, idle] using good.staged)
  refine ⟨good.sound.removeExpired, ?_⟩
  simp only [AllUsers.beginSubscribe]
  split
  · exact reaches
  · rename_i fresh
    split
    · exact reaches
    · refine ⟨valid, fresh, covered_keys, ?_⟩
      refine Reaches.congr reaches ?_
      intro userId _ key _
      simp [Listed]

theorem Good.beginUnSubscribe (good : s.Good) (idle : s.running = none) :
    (s.beginUnSubscribe sub).Good := by
  have reaches := reaches_pruned (by simpa [Staged, idle] using good.staged)
  have sound : (s.globalSubscriptions.removeExpired s.dead).Sound := good.sound.removeExpired
  refine ⟨sound, ?_⟩
  simp only [AllUsers.beginUnSubscribe]
  split
  · exact reaches
  · rename_i listed
    refine ⟨?_, covered_keys, ?_⟩
    · rw [GlobalSubscriptionInfo.charged_valid]
      cases sub with
      | ability systemAbilityId listener callingPid => exact sound.valid _ _ (not_not.mp listed)
      | process listener => rfl
    · refine Reaches.congr reaches ?_
      intro userId _ key _
      simp [Listed]

theorem Good.beginActivate {saProfiles : List SaProfile} (good : s.Good) (idle : s.running = none) :
    (s.beginActivate userId saProfiles).Good := by
  have reaches := reaches_pruned (by simpa [Staged, idle] using good.staged)
  refine ⟨good.sound.removeExpired, reaches, consistent_init saProfiles, fun key live => ⟨?_, ?_⟩⟩
  · exact iff_of_false (not_holds_init saProfiles) List.not_mem_nil
  · rw [← GlobalSubscriptionInfo.keys_eq]
    exact (or_iff_left List.not_mem_nil).symm

theorem running_withManager {call : MultiSystemAbilityManager → MultiSystemAbilityManager} :
    (s.withManager userId call).running = s.running ∧
      (s.withManager userId call).globalSubscriptions = s.globalSubscriptions ∧
      (s.withManager userId call).dead = s.dead := by
  unfold withManager
  split <;> exact ⟨rfl, rfl, rfl⟩

theorem mem_withManager {call : MultiSystemAbilityManager → MultiSystemAbilityManager} {other : Int}
    (member : other ∈ (s.withManager userId call).multiUserManagers) : other ∈ s.multiUserManagers := by
  unfold withManager at member
  split at member
  · exact member
  · rename_i manager entry
    exact mem_setManager entry member

/-- A call on a manager that changes nothing of the foreground may come at any stage. -/
theorem Good.quiet (good : s.Good) {call : MultiSystemAbilityManager → MultiSystemAbilityManager}
    (consistent : ∀ manager : MultiSystemAbilityManager, manager.Consistent s.dead →
      (call manager).Consistent s.dead)
    (holds : ∀ manager : MultiSystemAbilityManager, manager.Consistent s.dead →
      ∀ key, key.object ∉ s.dead → ((call manager).Holds key true ↔ manager.Holds key true)) :
    (s.withManager userId call).Good := by
  have kept : (s.withManager userId call).running = s.running ∧
      (s.withManager userId call).globalSubscriptions = s.globalSubscriptions ∧
      (s.withManager userId call).dead = s.dead := running_withManager
  obtain ⟨running, list, dead⟩ := kept
  refine ⟨list ▸ good.sound, ?_⟩
  rw [running]
  refine Staged.transfer list (fun expected reaches => reaches.quiet consistent holds)
    (fun _ => mem_withManager) ?_ good.staged
  rw [dead]
  exact List.Subset.refl _

theorem Good.onRemoteDied {subscriber : Option Int} {remoteObject : Nat} {candidates : List Nat}
    (good : s.Good) : (s.step (.onRemoteDied subscriber remoteObject candidates)).Good := by
  simp only [AllUsers.step]
  split
  · exact good
  · rename_i died
    have died : remoteObject ∈ s.dead := not_not.mp died
    have gone := expired_subset (s := s) candidates
    have staged := good.staged
    split
    · apply good.quiet
      · exact fun manager consistent => consistent.onRemoteDied gone died
      · exact fun manager consistent key live => holds_onRemoteDied consistent gone died live
    · rename_i running
      rw [running] at staged
      refine ⟨good.sound, staged.1, staged.2.1.onRemoteDied gone died, fun key live => ?_⟩
      obtain ⟨held, listed⟩ := staged.2.2 key live
      exact ⟨(holds_onRemoteDied staged.2.1 gone died live).trans held, listed⟩
    · rename_i running
      rw [running] at staged
      exact ⟨good.sound, staged⟩
    · rename_i running
      rw [running] at staged
      refine ⟨good.sound, staged.1, staged.2.1.onRemoteDied gone died, fun key live => ?_⟩
      exact (holds_onRemoteDied staged.2.1 gone died live).trans (staged.2.2 key live)
    · exact good

theorem Good.step (good : s.Good) (label : AllUsersLabel) : (s.step label).Good := by
  cases label with
  | subscribeForAllUsers sub =>
      simp only [AllUsers.step]
      split
      · rename_i start
        rw [Bool.and_eq_true, Option.isNone_iff_eq_none] at start
        exact good.beginSubscribe start.1 start.2
      · exact good
  | unSubscribeForAllUsers sub =>
      simp only [AllUsers.step]
      split
      · rename_i idle
        exact good.beginUnSubscribe (Option.isNone_iff_eq_none.mp idle)
      · exact good
  | activate userId saProfiles =>
      simp only [AllUsers.step]
      split
      · rename_i start
        rw [Bool.and_eq_true, Option.isNone_iff_eq_none] at start
        exact good.beginActivate start.1
      · exact good
  | proceed candidates =>
      simp only [AllUsers.step]
      split
      · exact good
      · rename_i call running
        exact good.proceed (expired_subset candidates) (running ▸ good.staged)
  | leave =>
      simp only [AllUsers.step]
      split
      · rename_i result running
        have staged := good.staged
        rw [running] at staged
        exact ⟨good.sound, staged⟩
      · exact good
  | stop userId =>
      simp only [AllUsers.step]
      split
      · exact good
      · refine ⟨good.sound, ?_⟩
        refine Staged.transfer (s := s) rfl (fun expected reaches => reaches.stop) (fun other member => ?_)
          (List.Subset.refl _) good.staged
        exact Std.TreeMap.mem_of_mem_erase member
  | subscribe userId sub candidates =>
      apply good.quiet
      · exact fun manager consistent => consistent.subscribe (expired_subset candidates)
      · intro manager consistent key live
        simp [holds_subscribe consistent (expired_subset candidates) live]
  | unSubscribe userId sub candidates =>
      apply good.quiet
      · exact fun manager consistent => consistent.unSubscribe (expired_subset candidates)
      · intro manager consistent key live
        simp [holds_unSubscribe consistent (expired_subset candidates) live]
  | die remoteObject =>
      refine ⟨good.sound, ?_⟩
      exact Staged.transfer (s := s) rfl (fun expected reaches => reaches.die remoteObject)
        (fun _ member => member) (List.subset_cons_self _ _) good.staged
  | onRemoteDied userId remoteObject candidates => exact good.onRemoteDied

theorem good_run (labels : List AllUsersLabel) : (Runs.run AllUsers.step {} labels).Good := by
  apply Runs.run_invariant Good (fun _ label good => good.step label)
  refine ⟨⟨List.nodup_nil, nofun⟩, ?_⟩
  intro userId manager entry
  simp at entry

end Steps

end AllUsers

/-- A direct call of a user about the key. -/
def AllUsersLabel.direct (userId : Int) (key : SubscriptionKey) : AllUsersLabel → Bool
  | .subscribe other sub _ | .unSubscribe other sub _ => other == userId && sub.key == key
  | _ => false

/-- A call for all users that is made. -/
def AllUsersLabel.asks : AllUsersLabel → Bool
  | .subscribeForAllUsers sub => sub.valid
  | .unSubscribeForAllUsers _ => true
  | _ => false

namespace AllUsers

section Failing

variable {s x : AllUsers} {label : AllUsersLabel} {key : SubscriptionKey} {userId : Int}
  {manager : MultiSystemAbilityManager} {call : MultiSystemAbilityManager → MultiSystemAbilityManager}

/-- A call for all users that began in `x` is still running in `s`. Unless it has succeeded, the list
has lost only what was dead. -/
def Unchanged (x s : AllUsers) : Prop :=
  ∃ call, s.running = some call ∧ call.forAllUsers = true ∧
    (call = .answered .errOk ∨ s.globalSubscriptions = x.globalSubscriptions.removeExpired x.dead)

theorem Good.consistent (good : s.Good) (entry : s.multiUserManagers[userId]? = some manager) :
    manager.Consistent s.dead := by
  have staged := good.staged
  cases running : s.running with
  | none => exact ((running ▸ staged : s.Staged none) userId manager entry).1
  | some call =>
      rw [running] at staged
      cases call with
      | subscribing sub rest subscribed => exact (staged.2.2.2 userId manager entry).1
      | rollbackSubscribe sub rest result => exact (staged.2.2 userId manager entry).1
      | unSubscribing sub rest unSubscribed => exact (staged.2.2 userId manager entry).1
      | rollbackUnsubscribe sub rest result => exact staged.elim
      | answered result => exact (staged userId manager entry).1
      | activating other fresh rest restored => exact (staged.1 userId manager entry).1
      | rollbackGlobal fresh rest => exact (staged userId manager entry).1
      | activated other fresh => exact (staged.1 userId manager entry).1

theorem unchanged_begin (idle : x.running = none) (asks : label.asks = true) : x.Unchanged (x.step label) := by
  cases label with
  | subscribeForAllUsers sub =>
      have valid : sub.valid = true := asks
      simp only [step, idle, valid, Option.isNone_none, Bool.and_self, if_true]
      refine ⟨_, rfl, ?_, Or.inr rfl⟩
      split
      · rfl
      · split <;> rfl
  | unSubscribeForAllUsers sub =>
      simp only [step, idle, Option.isNone_none, if_true]
      refine ⟨_, rfl, ?_, Or.inr rfl⟩
      split <;> rfl
  | _ => cases asks

theorem Unchanged.proceed (same : x.Unchanged s) {expired : List Nat} {call : GlobalCall}
    (running : s.running = some call) : x.Unchanged (s.proceed expired call) := by
  obtain ⟨call, found, all, list⟩ := same
  cases running.symm.trans found
  have kept : ∀ userId change, (s.withManager userId change).globalSubscriptions = s.globalSubscriptions :=
    fun _ _ => running_withManager.2.1
  cases call with
  | subscribing sub rest subscribed =>
      have pruned := list.resolve_left nofun
      cases rest with
      | nil => exact ⟨_, rfl, rfl, Or.inl rfl⟩
      | cons userId rest =>
          simp only [AllUsers.proceed]
          split
          · exact ⟨_, rfl, rfl, Or.inr pruned⟩
          · refine ⟨_, rfl, ?_, Or.inr pruned⟩
            split <;> rfl
  | rollbackSubscribe sub rest result =>
      have pruned := list.resolve_left nofun
      cases rest with
      | nil => exact ⟨_, rfl, rfl, Or.inr pruned⟩
      | cons userId rest => exact ⟨_, rfl, rfl, Or.inr ((kept _ _).trans pruned)⟩
  | unSubscribing sub rest unSubscribed =>
      have pruned := list.resolve_left nofun
      cases rest with
      | nil => exact ⟨_, rfl, rfl, Or.inl rfl⟩
      | cons userId rest =>
          simp only [AllUsers.proceed]
          split
          · exact ⟨_, rfl, rfl, Or.inr pruned⟩
          · refine ⟨_, rfl, ?_, Or.inr pruned⟩
            split <;> rfl
  | rollbackUnsubscribe sub rest result =>
      have pruned := list.resolve_left nofun
      cases rest with
      | nil => exact ⟨_, rfl, rfl, Or.inr pruned⟩
      | cons userId rest => exact ⟨_, rfl, rfl, Or.inr ((kept _ _).trans pruned)⟩
  | answered result => exact ⟨_, rfl, rfl, list⟩
  | activating userId manager rest restored => cases all
  | rollbackGlobal manager rest => cases all
  | activated userId manager => cases all

theorem Unchanged.withManager (same : x.Unchanged s) : x.Unchanged (s.withManager userId call) := by
  have kept : (s.withManager userId call).running = s.running ∧
      (s.withManager userId call).globalSubscriptions = s.globalSubscriptions ∧
      (s.withManager userId call).dead = s.dead := running_withManager
  rw [Unchanged, kept.1, kept.2.1]
  exact same

theorem Unchanged.step (same : x.Unchanged s) (stays : label ≠ .leave) : x.Unchanged (s.step label) := by
  obtain ⟨call, running, all, list⟩ := same
  have same : x.Unchanged s := ⟨call, running, all, list⟩
  cases label with
  | leave => cases stays rfl
  | proceed candidates =>
      simp only [AllUsers.step, running]
      exact same.proceed running
  | subscribe userId sub candidates => exact same.withManager
  | unSubscribe userId sub candidates => exact same.withManager
  | die remoteObject => exact same
  | onRemoteDied userId remoteObject candidates =>
      simp only [AllUsers.step]
      split
      · exact same
      · split
        · exact same.withManager
        · rename_i activating
          cases running.symm.trans activating
          cases all
        · rename_i activating
          cases running.symm.trans activating
          cases all
        · rename_i activating
          cases running.symm.trans activating
          cases all
        · exact same
  | stop userId => simpa [AllUsers.step, running, all] using same
  | subscribeForAllUsers sub => simpa [AllUsers.step, running] using same
  | unSubscribeForAllUsers sub => simpa [AllUsers.step, running] using same
  | activate userId saProfiles => simpa [AllUsers.step, running] using same

/-- The user is active and holds the key directly as `manager` does. -/
def DirectAs (s : AllUsers) (userId : Int) (key : SubscriptionKey) (manager : MultiSystemAbilityManager) :
    Prop :=
  ∃ changed, s.multiUserManagers[userId]? = some changed ∧ (changed.Holds key false ↔ manager.Holds key false)

theorem DirectAs.set (direct : s.DirectAs userId key manager) {other : Int}
    {found changed : MultiSystemAbilityManager} (entry : s.multiUserManagers[other]? = some found)
    (keeps : other = userId → (changed.Holds key false ↔ found.Holds key false)) :
    (s.setManager other changed).DirectAs userId key manager := by
  obtain ⟨before, known, same⟩ := direct
  by_cases own : other = userId
  · subst own
    cases entry.symm.trans known
    refine ⟨changed, ?_, (keeps rfl).trans same⟩
    simp [setManager]
  · refine ⟨before, ?_, same⟩
    rw [setManager, Quota.getElem?_insert_of_ne (Ne.symm own)]
    exact known

theorem DirectAs.withManager (direct : s.DirectAs userId key manager) (good : s.Good) {other : Int}
    (keeps : other = userId → ∀ found : MultiSystemAbilityManager, found.Consistent s.dead →
      ((call found).Holds key false ↔ found.Holds key false)) :
    (s.withManager other call).DirectAs userId key manager := by
  unfold AllUsers.withManager
  split
  · exact direct
  · rename_i found entry
    exact direct.set entry fun own => keeps own found (good.consistent entry)

theorem DirectAs.proceed (direct : s.DirectAs userId key manager) (good : s.Good) {expired : List Nat}
    (gone : expired ⊆ s.dead) (live : key.object ∉ s.dead) {call : GlobalCall}
    (all : call.forAllUsers = true) : (s.proceed expired call).DirectAs userId key manager := by
  have subscribed : ∀ sub (found : MultiSystemAbilityManager), found.Consistent s.dead →
      ((found.subscribe expired true sub).1.Holds key false ↔ found.Holds key false) := by
    intro sub found consistent
    simp [holds_subscribe consistent gone live]
  have unSubscribed : ∀ sub (found : MultiSystemAbilityManager), found.Consistent s.dead →
      ((found.unSubscribe expired true sub).1.Holds key false ↔ found.Holds key false) := by
    intro sub found consistent
    simp [holds_unSubscribe consistent gone live]
  cases call with
  | subscribing sub rest done =>
      cases rest with
      | nil => exact direct
      | cons other rest =>
          simp only [AllUsers.proceed]
          split
          · exact direct
          · rename_i found entry
            exact direct.set entry fun _ => subscribed sub found (good.consistent entry)
  | rollbackSubscribe sub rest result =>
      cases rest with
      | nil => exact direct
      | cons other rest => exact direct.withManager good fun _ => unSubscribed sub
  | unSubscribing sub rest done =>
      cases rest with
      | nil => exact direct
      | cons other rest =>
          simp only [AllUsers.proceed]
          split
          · exact direct
          · rename_i found entry
            exact direct.set entry fun _ => unSubscribed sub found (good.consistent entry)
  | rollbackUnsubscribe sub rest result =>
      cases rest with
      | nil => exact direct
      | cons other rest => exact direct.withManager good fun _ => subscribed sub
  | answered result => exact direct
  | activating other fresh rest restored => cases all
  | rollbackGlobal fresh rest => cases all
  | activated other fresh => cases all

theorem dead_proceed {expired : List Nat} {call : GlobalCall} : (s.proceed expired call).dead = s.dead := by
  unfold AllUsers.proceed
  split
  case h_2 => split <;> rfl
  case h_4 => exact running_withManager.2.2
  case h_6 => split <;> rfl
  case h_8 => exact running_withManager.2.2
  case h_11 => split <;> rfl
  case h_14 => split <;> rfl
  all_goals rfl

/-- What is dead stays dead. -/
theorem dead_step : s.dead ⊆ (s.step label).dead := by
  cases label with
  | die remoteObject => exact List.subset_cons_self _ _
  | subscribe userId sub candidates => rw [step, running_withManager.2.2]; exact List.Subset.refl _
  | unSubscribe userId sub candidates => rw [step, running_withManager.2.2]; exact List.Subset.refl _
  | proceed candidates =>
      simp only [step]
      split
      · exact List.Subset.refl _
      · rw [dead_proceed]
        exact List.Subset.refl _
  | onRemoteDied userId remoteObject candidates =>
      simp only [step]
      split
      · exact List.Subset.refl _
      · split
        · rw [running_withManager.2.2]
          exact List.Subset.refl _
        all_goals exact List.Subset.refl _
  | _ =>
      simp only [step]
      split <;> exact List.Subset.refl _

theorem DirectAs.step (direct : s.DirectAs userId key manager) (good : s.Good) (same : x.Unchanged s)
    (stays : label ≠ .leave) (indirect : label.direct userId key = false) (live : key.object ∉ s.dead) :
    (s.step label).DirectAs userId key manager := by
  obtain ⟨call, running, all, -⟩ := same
  have apart : ∀ {other sub}, (other == userId && Subscription.key sub == key) = false →
      other = userId → ¬ key = sub.key := by
    rintro other sub indirect rfl rfl
    simp at indirect
  cases label with
  | leave => cases stays rfl
  | proceed candidates =>
      simp only [AllUsers.step, running]
      exact direct.proceed good (expired_subset candidates) live all
  | subscribe other sub candidates =>
      apply direct.withManager good
      intro own found consistent
      simp [holds_subscribe consistent (expired_subset candidates) live, apart indirect own]
  | unSubscribe other sub candidates =>
      apply direct.withManager good
      intro own found consistent
      simp [holds_unSubscribe consistent (expired_subset candidates) live, apart indirect own]
  | die remoteObject => exact direct
  | onRemoteDied target remoteObject candidates =>
      simp only [AllUsers.step]
      split
      · exact direct
      · rename_i died
        split
        · apply direct.withManager good
          intro _ found consistent
          exact holds_onRemoteDied consistent (expired_subset candidates) (not_not.mp died) live
        all_goals exact direct
  | stop other => simpa [AllUsers.step, running, all] using direct
  | subscribeForAllUsers sub => simpa [AllUsers.step, running] using direct
  | unSubscribeForAllUsers sub => simpa [AllUsers.step, running] using direct
  | activate other saProfiles => simpa [AllUsers.step, running] using direct

theorem active_withManager {other : Int} (active : userId ∈ s.multiUserManagers) :
    userId ∈ (s.withManager other call).multiUserManagers := by
  unfold AllUsers.withManager
  split
  · exact active
  · exact Std.TreeMap.mem_insert.mpr (Or.inr active)

theorem active_proceed {expired : List Nat} {call : GlobalCall} (active : userId ∈ s.multiUserManagers) :
    userId ∈ (s.proceed expired call).multiUserManagers := by
  have set : ∀ {other found}, userId ∈ (s.setManager other found).multiUserManagers :=
    Std.TreeMap.mem_insert.mpr (Or.inr active)
  unfold AllUsers.proceed
  split
  case h_2 =>
    split
    · exact active
    · exact set
  case h_4 => exact active_withManager active
  case h_6 =>
    split
    · exact active
    · exact set
  case h_8 => exact active_withManager active
  case h_11 => split <;> exact active
  case h_14 =>
    split
    · exact active
    · exact set
  all_goals exact active

/-- No user stops while a call runs. -/
theorem active_step (same : x.Unchanged s) (active : userId ∈ s.multiUserManagers) :
    userId ∈ (s.step label).multiUserManagers := by
  obtain ⟨call, running, all, -⟩ := same
  cases label with
  | proceed candidates =>
      simp only [step, running]
      exact active_proceed active
  | subscribe other sub candidates => exact active_withManager active
  | unSubscribe other sub candidates => exact active_withManager active
  | onRemoteDied target remoteObject candidates =>
      simp only [step]
      split
      · exact active
      · split
        · exact active_withManager active
        all_goals exact active
  | stop other => simpa [step, running, all] using active
  | die remoteObject => exact active
  | _ =>
      simp only [step]
      split <;> exact active

/-- The first step of a call comes to no user. -/
theorem users_begin (asks : label.asks = true) :
    (x.step label).multiUserManagers = x.multiUserManagers ∧ (x.step label).dead = x.dead := by
  cases label with
  | subscribeForAllUsers sub =>
      simp only [step]
      split <;> exact ⟨rfl, rfl⟩
  | unSubscribeForAllUsers sub =>
      simp only [step]
      split <;> exact ⟨rfl, rfl⟩
  | _ => cases asks

/-- While a call runs, the direct subscriptions that nobody touches stay. -/
theorem directAs_run (good : x.Good) (idle : x.running = none) (asks : label.asks = true)
    (entry : x.multiUserManagers[userId]? = some manager) {during : List AllUsersLabel}
    (quiet : ∀ label ∈ during, label ≠ .leave ∧ label.direct userId key = false) :
    let y := Runs.run step (x.step label) during
    key.object ∉ y.dead → y.DirectAs userId key manager := by
  intro y
  let inv (s : AllUsers) : Prop :=
    s.Good ∧ x.Unchanged s ∧ (key.object ∉ s.dead → s.DirectAs userId key manager)
  have start : inv (x.step label) := by
    refine ⟨good.step label, unchanged_begin idle asks, fun _ => ⟨manager, ?_, Iff.rfl⟩⟩
    rw [(users_begin asks).1]
    exact entry
  have kept : inv y := by
    refine Runs.guarded_invariant inv ?_ (Runs.guarded_of_forall quiet (x.step label)) start
    rintro s label ⟨stays, indirect⟩ ⟨good, same, direct⟩
    refine ⟨good.step label, same.step stays, fun live => ?_⟩
    have before : key.object ∉ s.dead := fun inside => live (dead_step inside)
    exact (direct before).step good same stays indirect before
  exact kept.2.2

theorem unchanged_run (idle : x.running = none) (asks : label.asks = true) {during : List AllUsersLabel}
    (stays : ∀ label ∈ during, label ≠ .leave) :
    let y := Runs.run step (x.step label) during
    x.Unchanged y ∧ x.dead ⊆ y.dead ∧ ∀ userId ∈ x.multiUserManagers, userId ∈ y.multiUserManagers := by
  intro y
  let inv (s : AllUsers) : Prop :=
    x.Unchanged s ∧ x.dead ⊆ s.dead ∧ ∀ userId ∈ x.multiUserManagers, userId ∈ s.multiUserManagers
  have start : inv (x.step label) := by
    refine ⟨unchanged_begin idle asks, ?_, ?_⟩
    · rw [(users_begin asks).2]
      exact List.Subset.refl _
    · rw [(users_begin asks).1]
      exact fun userId active => active
  refine Runs.guarded_invariant inv ?_ (Runs.guarded_of_forall stays (x.step label)) start
  rintro s label stays ⟨same, grown, active⟩
  refine ⟨same.step stays, List.Subset.trans grown dead_step, fun userId member => ?_⟩
  exact active_step same (active userId member)

/-- Outside the calls every active user holds for the foreground, of what lives, what the list has. -/
theorem Good.reaches (good : s.Good) (outside : s.running.all (fun call => !call.forAllUsers) = true) :
    s.Reaches s.Listed := by
  have staged := good.staged
  cases running : s.running with
  | none =>
      rw [running] at staged
      exact staged
  | some call =>
      rw [running] at staged outside
      cases call with
      | activating userId manager rest restored => exact staged.1
      | rollbackGlobal manager rest => exact staged
      | activated userId manager => exact staged.1
      | _ => cases outside

/-- A call that has answered with an error has given everything back. -/
theorem restored_of_error (good : x.Good) (idle : x.running = none) (asks : label.asks = true)
    {during : List AllUsersLabel} (later : (Runs.run step (x.step label) during).Good)
    (stays : ∀ label ∈ during, label ≠ .leave) {result : ErrCode}
    (answered : (Runs.run step (x.step label) during).running = some (.answered result))
    (failed : result ≠ .errOk) :
    let y := Runs.run step (x.step label) during
    y.globalSubscriptions = x.globalSubscriptions.removeExpired x.dead ∧
      ∀ userId key manager, key.object ∉ y.dead → x.multiUserManagers[userId]? = some manager →
        ∃ after, y.multiUserManagers[userId]? = some after ∧
          (after.Holds key true ↔ manager.Holds key true) ∧
          ((∀ label ∈ during, label.direct userId key = false) →
            (after.Holds key false ↔ manager.Holds key false) ∧ (after.Hears key ↔ manager.Hears key)) := by
  intro y
  obtain ⟨same, grown, active⟩ := unchanged_run idle asks stays
  have list : y.globalSubscriptions = x.globalSubscriptions.removeExpired x.dead := by
    obtain ⟨call, running, -, pruned⟩ := same
    cases answered.symm.trans running
    refine pruned.resolve_left fun succeeded => failed ?_
    cases succeeded
    rfl
  refine ⟨list, fun userId key manager live entry => ?_⟩
  have known := Std.TreeMap.mem_iff_isSome_getElem?.mp (active userId (mem_of_entry entry))
  obtain ⟨after, found⟩ := Option.isSome_iff_exists.mp known
  have before : key.object ∉ x.dead := fun inside => live (grown inside)
  obtain ⟨consistent, held⟩ := good.reaches (by rw [idle]; rfl) userId manager entry
  have reached : y.Reaches y.Listed := by
    have staged := later.staged
    rw [answered] at staged
    exact staged
  obtain ⟨consistentAfter, heldAfter⟩ := reached userId after found
  have foreground : after.Holds key true ↔ manager.Holds key true := by
    rw [heldAfter key live, held key before]
    simp [Listed, list, GlobalSubscriptionInfo.keys_removeExpired, before]
  refine ⟨after, found, foreground, fun indirect => ?_⟩
  have direct : after.Holds key false ↔ manager.Holds key false := by
    have quiet : ∀ label ∈ during, label ≠ .leave ∧ label.direct userId key = false :=
      fun label member => ⟨stays label member, indirect label member⟩
    obtain ⟨same, entryAfter, holds⟩ := directAs_run good idle asks entry quiet live
    cases found.symm.trans entryAfter
    exact holds
  refine ⟨direct, ?_⟩
  rw [consistentAfter.hears_iff live, consistent.hears_iff before]
  refine exists_congr fun kind => ?_
  cases kind with
  | false => exact direct
  | true => exact foreground

/-- In every state outside the calls for all users every active user holds a live subscription for the
foreground exactly when the list has it, and a call that answers with an error leaves the list without
what was dead, and every manager, but for direct calls of its user, as they were. -/
theorem global_subscriptions_reach_every_user (labels : List AllUsersLabel) :
    let x := Runs.run step {} labels
    (x.running.all (fun call => !call.forAllUsers) = true →
      ∀ (userId : Int) (manager : MultiSystemAbilityManager),
        x.multiUserManagers[userId]? = some manager → ∀ key, key.object ∉ x.dead →
          (manager.Holds key true ∧ manager.Hears key ↔ key ∈ x.globalSubscriptions.keys)) ∧
    (x.running = none → ∀ label during, label.asks = true → (∀ label ∈ during, label ≠ .leave) →
      let y := Runs.run step (x.step label) during
      ∀ result, y.running = some (.answered result) → result ≠ .errOk →
        y.globalSubscriptions = x.globalSubscriptions.removeExpired x.dead ∧
        ∀ userId key manager, key.object ∉ y.dead → x.multiUserManagers[userId]? = some manager →
          ∃ after, y.multiUserManagers[userId]? = some after ∧
            (after.Holds key true ↔ manager.Holds key true) ∧
            ((∀ label ∈ during, label.direct userId key = false) →
              (after.Holds key false ↔ manager.Holds key false) ∧
              (after.Hears key ↔ manager.Hears key))) := by
  intro x
  have good : x.Good := good_run labels
  constructor
  · intro outside userId manager entry key live
    obtain ⟨consistent, holds⟩ := good.reaches outside userId manager entry
    refine Iff.trans ?_ (holds key live)
    refine and_iff_left_of_imp fun held => ?_
    exact (consistent.hears_iff live).mpr ⟨true, held⟩
  · intro idle label during asks stays y result answered failed
    have later : y.Good := by
      have whole := good_run (labels ++ label :: during)
      rwa [Runs.run_append, Runs.run_cons] at whole
    exact restored_of_error good idle asks later stays answered failed

/-- User 100 becomes active, and an ability is subscribed to for all users. -/
def reachOne : List AllUsersLabel :=
  [.activate 100 [], .proceed [], .proceed [], .subscribeForAllUsers (.ability 1 ⟨70, 70⟩ 7), .proceed [],
    .proceed [], .leave]

theorem reachOne_is_held : ∃ manager,
    (Runs.run step {} reachOne).multiUserManagers[(100 : Int)]? = some manager ∧
      manager.Holds (.ability 1 70) true := by
  obtain ⟨manager, entry⟩ := Option.isSome_iff_exists.mp
    (show (Runs.run step {} reachOne).multiUserManagers[(100 : Int)]?.isSome = true by decide +kernel)
  have reached := (global_subscriptions_reach_every_user reachOne).1 (by decide +kernel) 100 manager entry
    (.ability 1 70) (by decide +kernel)
  exact ⟨manager, entry, (reached.mpr (by decide +kernel)).1⟩

/-- One listener has subscribed under pid 8, and a number of others under pid 7. -/
def filled (count : Nat) : AllUsers :=
  { globalSubscriptions.systemAbilitySubscriptions :=
      ⟨1, 1000, 8⟩ :: (List.range count).map fun object => ⟨1, object, 7⟩ }

def fillOne (object : Nat) : List AllUsersLabel :=
  [.subscribeForAllUsers (.ability 1 ⟨object, object⟩ 7), .proceed [], .leave]

theorem filled_keys {count : Nat} : (filled count).globalSubscriptions.keys =
    .ability 1 1000 :: (List.range count).map fun object => .ability 1 object := by
  simp [filled, GlobalSubscriptionInfo.keys, GlobalSystemAbilitySubscription.key, Function.comp_def]

theorem filled_pruned {count : Nat} : (filled count).removeExpiredGlobalSubscriptions = filled count := by
  simp [filled, removeExpiredGlobalSubscriptions, GlobalSubscriptionInfo.removeExpired]

theorem filled_count {count : Nat} {sa : Int} {listener : RemoteInterface} :
    (filled count).globalSubscriptions.overflows (.ability sa listener 7) = decide (256 ≤ count) := by
  simp [filled, GlobalSubscriptionInfo.overflows, Scheduler.MAX_SUBSCRIBE_COUNT, Function.comp_def]

theorem filled_succ {count : Nat} (room : count < 256) :
    Runs.run step (filled count) (fillOne count) = filled (count + 1) := by
  have fresh : SubscriptionKey.ability 1 count ∉ (filled count).globalSubscriptions.keys := by
    rw [filled_keys]
    simp
    omega
  have begun : step (filled count) (.subscribeForAllUsers (.ability 1 ⟨count, count⟩ 7)) =
      { filled count with running := some (.subscribing (.ability 1 ⟨count, count⟩ 7) [] []) } := by
    have idle : (filled count).running = none := rfl
    have valid : checkInputSysAbilityId 1 = true := by decide
    have few : ¬ 256 ≤ count := by omega
    have nobody : (filled count).multiUserManagers.keys = [] := rfl
    simp [step, idle, valid, Subscription.valid, beginSubscribe, filled_pruned, Subscription.key, fresh,
      filled_count, few, nobody]
  simp only [fillOne, Runs.run_cons, Runs.run_nil, begun]
  simp [step, AllUsers.proceed, filled, GlobalSubscriptionInfo.push, List.range_succ]

/-- Pid 7 has as many subscriptions as it may, and the listener of pid 8 is dead. -/
def fill : List AllUsersLabel :=
  [.subscribeForAllUsers (.ability 1 ⟨1000, 1000⟩ 8), .proceed [], .leave] ++
    (List.range 256).flatMap fillOne ++ [.die 1000]

theorem run_fill : Runs.run step {} fill = { filled 256 with dead := [1000] } := by
  have first : Runs.run step {} [.subscribeForAllUsers (.ability 1 ⟨1000, 1000⟩ 8), .proceed [], .leave] =
      filled 0 := rfl
  have more : ∀ count, count ≤ 256 →
      Runs.run step (filled 0) ((List.range count).flatMap fillOne) = filled count := by
    intro count room
    induction count with
    | zero => rfl
    | succ count hypothesis =>
        rw [List.range_succ, List.flatMap_append, Runs.run_append, hypothesis (by omega)]
        simpa using filled_succ (by omega)
  rw [fill, Runs.run_append, Runs.run_append, first, more 256 (Nat.le_refl _)]
  rfl

/-- A call that is refused by the quota drops the dead listener from the list. -/
theorem refused_call_prunes_list :
    ¬ ∀ labels : List AllUsersLabel,
      let x := Runs.run step {} labels
      x.running = none → ∀ label during, label.asks = true → (∀ label ∈ during, label ≠ .leave) →
        let y := Runs.run step (x.step label) during
        ∀ result, y.running = some (.answered result) → result ≠ .errOk →
          y.globalSubscriptions = x.globalSubscriptions := by
  intro always
  let sub : Subscription := .ability 2 ⟨70, 70⟩ 7
  let x : AllUsers := { filled 256 with dead := [1000] }
  have fresh : sub.key ∉ x.removeExpiredGlobalSubscriptions.globalSubscriptions.keys := by decide +kernel
  have full : x.removeExpiredGlobalSubscriptions.globalSubscriptions.overflows sub = true := by decide +kernel
  have refused : x.step (.subscribeForAllUsers sub) =
      { x.removeExpiredGlobalSubscriptions with running := some (.answered .errPermissionDenied) } := by
    have begun : x.step (.subscribeForAllUsers sub) = x.beginSubscribe sub := rfl
    rw [begun, beginSubscribe, if_neg fresh, if_pos full]
  have same : (x.step (.subscribeForAllUsers sub)).globalSubscriptions = x.globalSubscriptions := by
    have kept := always fill
    rw [run_fill] at kept
    exact kept rfl (.subscribeForAllUsers sub) [] (by decide) (by simp) .errPermissionDenied
      (congrArg AllUsers.running refused) nofun
  rw [refused] at same
  have lengths := congrArg (fun info => info.systemAbilitySubscriptions.length) same
  revert lengths
  decide +kernel

end Failing

end AllUsers

end Samgr
