import Samgr.Cache.Tracking

/-! The pieces that change the service: registrations and removals, invalidations, and the
life cycle of the users. Each keeps what is tracked, under a condition on the step where a
change is not followed by an invalidation. -/
namespace Samgr

open Stamped (Record)

namespace Service

variable {s t : Service} {sa : Int} {reply : Reply} {piece : ServicePiece}
variable {others : List ServicePiece}

/-- The client holds no live object of the ability under the current parameter. -/
def Unheld (s : Service) (pieces : List ServicePiece) (sa : Int) : Prop :=
  Stamped.Unheld s.live s.parameter (s.records pieces sa)

instance (s : Service) (pieces : List ServicePiece) (sa : Int) : Decidable (s.Unheld pieces sa) :=
  inferInstanceAs (Decidable (∀ r ∈ s.records pieces sa, r.stamp = s.parameter → ¬ s.live r.value))

/-- The client and the clock are as before. -/
structure SameClient (s t : Service) : Prop where
  cache : t.cache = s.cache
  parameter : t.parameter = s.parameter
  tickCount : t.tickCount = s.tickCount
  dead : t.dead = s.dead

/-- The pieces carry nothing of a query. -/
def Bare (sa : Int) (made : List ServicePiece) : Prop :=
  ∀ piece ∈ made, piece.waterLine = none ∧ piece.record sa = none ∧ piece.routed sa = false

theorem routedNow_of_not_routed (free : piece.routed sa = false) : s.RoutedNow sa piece := by
  cases piece with
  | checkSystemAbility query host =>
      intro own
      simp [ServicePiece.routed, own] at free
  | getMultiUserManager userId purpose =>
      cases purpose with
      | check query =>
          intro own
          simp [ServicePiece.routed, own] at free
      | _ => trivial
  | _ => trivial

theorem routedNow_of_target (same : t.target sa = s.target sa) (routed : s.RoutedNow sa piece) :
    t.RoutedNow sa piece := by
  obtain ⟨user, route⟩ := Prod.mk.inj same
  cases piece with
  | checkSystemAbility query host =>
      intro own
      rw [route]
      exact routed own
  | getMultiUserManager userId purpose =>
      cases purpose with
      | check query =>
          intro own
          rw [user]
          exact routed own
      | _ => trivial
  | _ => trivial

variable {made : List ServicePiece}

theorem Tracked.serve (good : s.Tracked (piece :: others) sa) (client : SameClient s t)
    (bare : Bare sa made) (managed : t.Managed (made ++ others))
    (routes : t.target sa = s.target sa ∨ ∀ other ∈ others, other.routed sa = false)
    (coherent : Stamped.Coherent (t.checkSystemAbility sa) s.live s.parameter
      (t.Owed (made ++ others) sa) (s.records (piece :: others) sa)) :
    t.Tracked (made ++ others) sa := by
  constructor
  · exact managed
  · rw [client.parameter, client.tickCount]
    exact good.clock
  · intro other member w kept
    rw [client.parameter]
    rcases List.mem_append.mp member with new | old
    · rw [(bare other new).1] at kept
      cases kept
    · exact good.lines other (List.mem_cons_of_mem piece old) w kept
  · intro other member
    rcases List.mem_append.mp member with new | old
    · exact routedNow_of_not_routed (bare other new).2.2
    · rcases routes with same | free
      · exact routedNow_of_target same (good.routed other (List.mem_cons_of_mem piece old))
      · exact routedNow_of_not_routed (free other old)
  · have lives : t.live = s.live := by
      funext object
      simp [live, client.dead]
    rw [lives, client.parameter]
    refine coherent.fewer ?_ id
    intro r member
    rw [mem_records_cons]
    rcases mem_records_append.mp member with cached | ⟨new, inside, kept⟩ | old
    · rw [client.cache] at cached
      exact Or.inl (List.mem_append_left _ cached)
    · rw [(bare new inside).2.1] at kept
      cases kept
    · exact Or.inr old

/-- What was owed is still owed. -/
theorem Owed.serve (idle : s.owes sa piece = false) (more : s.invalidations ≤ t.invalidations)
    (owes : ∀ other, t.owes sa other = s.owes sa other) (owed : s.Owed (piece :: others) sa) :
    t.Owed (made ++ others) sa := by
  rcases owed with waiting | ⟨other, member, owing⟩
  · exact Or.inl (waiting.trans_le more)
  · rcases List.mem_cons.mp member with rfl | member
    · rw [idle] at owing
      cases owing
    · refine Or.inr ⟨other, List.mem_append_right _ member, ?_⟩
      rw [owes]
      exact owing

/-- Only registries differ, each under the same on-demand set. -/
structure SameRoutes (s t : Service) : Prop where
  multi : t.multiInstanceSaIds = s.multiInstanceSaIds
  managers : t.multiUserManagers = s.multiUserManagers
  foreground : t.foregroundUserId = s.foregroundUserId
  caller : t.caller = s.caller
  more : s.invalidations ≤ t.invalidations
  onDemand : ∀ sa host, t.onDemandAt sa host = s.onDemandAt sa host

namespace SameRoutes

variable (same : SameRoutes s t)

include same

theorem target : t.target sa = s.target sa := by
  simp [Service.target, Service.route, Service.routeForUser, isMultiInstanceSaId, same.multi,
    same.managers, same.foreground, same.caller]

theorem route : t.route sa = s.route sa := (Prod.mk.inj same.target).2

theorem owes (other : ServicePiece) : t.owes sa other = s.owes sa other := by
  cases other <;> simp [Service.owes, same.route, same.onDemand]

theorem owed (idle : s.owes sa piece = false) (owing : s.Owed (piece :: others) sa) :
    t.Owed (made ++ others) sa := Owed.serve idle same.more same.owes owing

end SameRoutes

theorem sameRoutes_refl (s : Service) : SameRoutes s s :=
  ⟨rfl, rfl, rfl, rfl, le_rfl, fun _ _ => rfl⟩

theorem invalidate_sameRoutes (found : Host) (id : Int) :
    SameRoutes s (s.systemAbilityInvalidateCache found id) := by
  unfold systemAbilityInvalidateCache
  split
  · exact sameRoutes_refl s
  · exact ⟨rfl, rfl, rfl, rfl, Nat.le_succ _, fun _ _ => rfl⟩

theorem invalidate_sameClient (found : Host) (id : Int) :
    SameClient s (s.systemAbilityInvalidateCache found id) := by
  unfold systemAbilityInvalidateCache
  split
  · exact ⟨rfl, rfl, rfl, rfl⟩
  · exact ⟨rfl, rfl, rfl, rfl⟩

/-- One entry of one registry may differ. -/
structure RegistryChange (s t : Service) (host : Nat) (id : Int) : Prop where
  routes : SameRoutes s t
  client : SameClient s t
  users : KeepsUsers s t
  elsewhere : ∀ h sa, h ≠ host ∨ id ≠ sa → t.checkAt h sa = s.checkAt h sa

namespace RegistryChange

variable {host : Nat} {id : Int} (change : RegistryChange s t host id)

include change

theorem checkSystemAbility (elsewhere : ¬ (s.route sa = some host ∧ id = sa)) :
    t.checkSystemAbility sa = s.checkSystemAbility sa := by
  simp only [Service.checkSystemAbility, change.routes.route]
  cases routed : s.route sa with
  | none => rfl
  | some h =>
      refine change.elsewhere h sa ?_
      by_contra both
      push Not at both
      rw [both.1] at routed
      exact elsewhere ⟨routed, both.2⟩

/-- A change of a registry keeps what is tracked when it does so for the entry itself. -/
theorem tracked (good : s.Tracked (piece :: others) sa) (idle : s.owes sa piece = false)
    (bare : Bare sa made) (quiet : ∀ user host, .startUserStopping user host ∉ made)
    (affected : s.route sa = some host → id = sa →
      Stamped.Coherent (t.checkSystemAbility sa) s.live s.parameter (t.Owed (made ++ others) sa)
        (s.records (piece :: others) sa)) : t.Tracked (made ++ others) sa := by
  refine good.serve change.client bare (good.managed.keep change.users quiet)
    (Or.inl change.routes.target) ?_
  by_cases own : s.route sa = some host ∧ id = sa
  · exact affected own.1 own.2
  · rw [change.checkSystemAbility own]
    exact good.coherent.fewer (List.Subset.refl _) (change.routes.owed idle)

end RegistryChange

section Registries

variable {host : Nat} {found : Host} {id : Int}

theorem insertAbility_cases {ability : Nat} {d : Bool} :
    s.insertAbility host found id ability d = s ∨
      ∃ n, found.manager.insertAbility id ⟨ability, d⟩ = some n ∧
        s.insertAbility host found id ability d =
          (if id ∈ found.manager.abilityMap then s.systemAbilityInvalidateCache found id else s).setHost
            host { found with manager := n } := by
  unfold insertAbility
  split
  · split
    · exact Or.inl rfl
    · rename_i n inserted
      exact Or.inr ⟨n, inserted, rfl⟩
  · exact Or.inl rfl

variable (inside : s.hosts[host]? = some found)

include inside

theorem eraseAt_change : RegistryChange s (s.eraseAt host found id) host id := by
  refine ⟨⟨rfl, rfl, rfl, rfl, le_rfl, ?_⟩, ⟨rfl, rfl, rfl, rfl⟩, keepsUsers_setHost inside rfl, ?_⟩
  · intro sa h
    exact onDemandAt_setHost inside (by rfl) h
  · intro h sa other
    refine checkAt_setHost inside h fun own => checkSystemAbility_erase ?_
    exact other.resolve_left fun different => different own.symm

theorem insertAbility_change {ability : Nat} {d : Bool} :
    RegistryChange s (s.insertAbility host found id ability d) host id := by
  rcases insertAbility_cases with same | ⟨n, inserted, same⟩
  · rw [same]
    exact ⟨sameRoutes_refl s, ⟨rfl, rfl, rfl, rfl⟩, KeepsUsers.refl s, fun _ _ _ => rfl⟩
  · rw [same]
    have kept : RegistryChange s (s.setHost host { found with manager := n }) host id := by
      refine ⟨⟨rfl, rfl, rfl, rfl, le_rfl, ?_⟩, ⟨rfl, rfl, rfl, rfl⟩, keepsUsers_setHost inside rfl, ?_⟩
      · intro sa h
        exact onDemandAt_setHost inside (by rfl) h
      · intro h sa other
        refine checkAt_setHost inside h fun own => checkSystemAbility_insert inserted ?_
        exact other.resolve_left fun different => different own.symm
    split
    · unfold systemAbilityInvalidateCache
      split
      · exact kept
      · obtain ⟨⟨multi, managers, foreground, caller, more, onDemand⟩, client, users, elsewhere⟩ := kept
        exact ⟨⟨multi, managers, foreground, caller, Nat.le_succ _, onDemand⟩,
          ⟨client.cache, client.parameter, client.tickCount, client.dead⟩,
          ⟨users.managers, users.contexts, users.standing, users.hosts⟩, elsewhere⟩
    · exact kept

theorem onDemandAt_eq : s.onDemandAt sa host = found.onDemandSaIdsSet.contains sa := by
  simp [onDemandAt, inside]

theorem checkAt_eq : s.checkAt host sa = found.manager.checkSystemAbility sa := by
  simp [checkAt, inside]

end Registries

/-- A step that changes where requests for the ability go finds none of them on its way and
no object of the ability held, and neither does one that changes the answer of a manager for
which the ability is on demand. -/
def Careful (s : Service) (pieces : List ServicePiece) (sa : Int) (t : Service) : Prop :=
  (t.target sa ≠ s.target sa → s.Unheld pieces sa ∧ ∀ piece ∈ pieces, piece.routed sa = false) ∧
  (t.checkSystemAbility sa ≠ s.checkSystemAbility sa → (s.route sa).any (s.onDemandAt sa) = true →
    s.Unheld pieces sa)

/-- An invalidation beside the one that runs. -/
def Pending (s : Service) (pieces : List ServicePiece) (sa : Int) : Prop :=
  0 < s.invalidations ∨ ∃ piece ∈ pieces, piece ≠ .setParameter ∧ s.owes sa piece = true

/-- Every live object held under the current parameter is the registered one. -/
def Current (s : Service) (pieces : List ServicePiece) (sa : Int) : Prop :=
  ∀ r ∈ s.records pieces sa, r.stamp = s.parameter → s.live r.value →
    s.checkSystemAbility sa = some r.value

instance (s : Service) (pieces : List ServicePiece) (sa : Int) (t : Service) :
    Decidable (Careful s pieces sa t) := inferInstanceAs (Decidable (_ ∧ _))

instance (s : Service) (pieces : List ServicePiece) (sa : Int) : Decidable (s.Pending pieces sa) :=
  inferInstanceAs (Decidable (_ ∨ _))

instance (s : Service) (pieces : List ServicePiece) (sa : Int) : Decidable (s.Current pieces sa) :=
  inferInstanceAs (Decidable (∀ r ∈ s.records pieces sa, r.stamp = s.parameter → s.live r.value →
    s.checkSystemAbility sa = some r.value))

theorem bare_nil : Bare sa [] := fun _ member => nomatch member

theorem bare_invalidate {host : Nat} {id : Int} {byId own : Bool} :
    Bare sa [.invalidateCache host id byId own] := by
  intro piece member
  cases List.mem_singleton.mp member
  exact ⟨rfl, rfl, rfl⟩

theorem Careful.coherent_silent (careful : Careful s (piece :: others) sa t)
    (good : s.Tracked (piece :: others) sa) {host : Nat} (routed : s.route sa = some host)
    (onDemand : s.onDemandAt sa host = true)
    (owed : s.Owed (piece :: others) sa → t.Owed (made ++ others) sa) :
    Stamped.Coherent (t.checkSystemAbility sa) s.live s.parameter (t.Owed (made ++ others) sa)
      (s.records (piece :: others) sa) := by
  by_cases same : t.checkSystemAbility sa = s.checkSystemAbility sa
  · rw [same]
    exact good.coherent.fewer (List.Subset.refl _) owed
  · refine good.coherent.turn (careful.2 same ?_)
    rw [routed]
    exact onDemand

/-- A piece that finds nothing to do. -/
theorem Tracked.idle (good : s.Tracked (piece :: others) sa) (idle : s.owes sa piece = false) :
    s.Tracked others sa := by
  have kept : s.Tracked ([] ++ others) sa := by
    refine good.serve ⟨rfl, rfl, rfl, rfl⟩ bare_nil ?_ (Or.inl rfl) ?_
    · exact good.managed.keep (KeepsUsers.refl s) fun _ _ => List.not_mem_nil
    · exact good.coherent.fewer (List.Subset.refl _) ((sameRoutes_refl s).owed idle)
  exact kept

theorem invalidations_posted {found : Host} {id : Int}
    (static : found.onDemandSaIdsSet.contains id = false) :
    s.systemAbilityInvalidateCache found id = { s with invalidations := s.invalidations + 1 } := by
  rw [systemAbilityInvalidateCache, if_neg]
  rw [static]
  exact Bool.false_ne_true

section Registry

variable {host : Nat} {id : Int}

theorem tracked_insertAbility {ability : Nat} {d own : Bool}
    (good : s.Tracked (.insertAbility host id ability d own :: others) sa)
    (careful : Careful s (.insertAbility host id ability d own :: others) sa
      (s.exec reply (.insertAbility host id ability d own)).1) :
    (s.exec reply (.insertAbility host id ability d own)).1.Tracked
      ((s.exec reply (.insertAbility host id ability d own)).2 ++ others) sa := by
  cases inside : s.hosts[host]? with
  | none =>
      simp only [exec, inside]
      exact good.idle rfl
  | some found =>
  simp only [exec, inside] at careful ⊢
  have change : RegistryChange s (s.insertAbility host found id ability d) host id :=
    insertAbility_change inside
  have follow : ∀ made ∈ (if own && found.inserts id ability d then
      [ServicePiece.updateLimitDelayUnloadTime host id ability] else []),
      made = .updateLimitDelayUnloadTime host id ability := by
    intro made member
    split at member
    · exact List.mem_singleton.mp member
    · cases member
  refine change.tracked good rfl ?_ ?_ fun routed same => ?_
  · intro made member
    rw [follow made member]
    exact ⟨rfl, rfl, rfl⟩
  · intro user host member
    cases follow _ member
  subst same
  by_cases onDemand : s.onDemandAt id host = true
  · exact careful.coherent_silent good routed onDemand (change.routes.owed rfl)
  rw [onDemandAt_eq inside, Bool.not_eq_true] at onDemand
  by_cases covered : id ∈ found.manager.abilityMap
  · rcases insertAbility_cases with same | ⟨n, inserted, same⟩
    · rw [same]
      exact good.coherent.fewer (List.Subset.refl _) ((sameRoutes_refl s).owed rfl)
    · rw [same, if_pos covered, invalidations_posted onDemand]
      exact good.coherent.owe (Or.inl (Nat.succ_pos _))
  · have absent : s.checkSystemAbility id = none := by
      rw [checkSystemAbility_of_route routed, checkAt_eq inside]
      exact checkSystemAbility_of_notMem covered
    refine (good.coherent.lapse ?_).fewer (List.Subset.refl _) (change.routes.owed rfl)
    intro value answered
    rw [absent] at answered
    cases answered

/-- A removal leaves the invalidation that it owes. -/
theorem tracked_eraseAbility {own : Bool} (good : s.Tracked (.eraseAbility host id own :: others) sa)
    (careful : Careful s (.eraseAbility host id own :: others) sa (s.exec reply (.eraseAbility host id own)).1) :
    (s.exec reply (.eraseAbility host id own)).1.Tracked
      ((s.exec reply (.eraseAbility host id own)).2 ++ others) sa := by
  cases inside : s.hosts[host]? with
  | none =>
      simp only [exec, inside]
      exact good.idle rfl
  | some found =>
  by_cases listed : (checkInputSysAbilityId id && decide (id ∈ found.manager.abilityMap)) = true
  · simp only [exec, inside, listed, if_true] at careful ⊢
    have change : RegistryChange s (s.eraseAt host found id) host id := eraseAt_change inside
    refine change.tracked good rfl bare_invalidate (by simp) fun routed same => ?_
    subst same
    by_cases onDemand : s.onDemandAt id host = true
    · exact careful.coherent_silent good routed onDemand (change.routes.owed rfl)
    · refine good.coherent.owe (Or.inr ⟨_, List.mem_append_left _ (List.mem_singleton_self _), ?_⟩)
      rw [change.routes.owes]
      simp [owes, routed, onDemand]
  · simp only [exec, inside, listed]
    exact good.idle rfl

/-- Nobody uses a dead object from the cache. -/
theorem tracked_of_dead (good : s.Tracked (piece :: others) sa) (idle : s.owes sa piece = false)
    (bare : Bare sa made) (quiet : ∀ user host, .startUserStopping user host ∉ made) {found : Host}
    (inside : s.hosts[host]? = some found)
    (died : ∀ saInfo, found.manager.abilityMap[id]? = some saInfo → saInfo.remoteObj ∈ s.dead) :
    (s.eraseAt host found id).Tracked (made ++ others) sa := by
  have change : RegistryChange s (s.eraseAt host found id) host id := eraseAt_change inside
  refine change.tracked good idle bare quiet fun routed own => ?_
  subst own
  refine (good.coherent.lapse ?_).fewer (List.Subset.refl _) (change.routes.owed idle)
  intro value answered alive
  rw [checkSystemAbility_of_route routed, checkAt_eq inside] at answered
  obtain ⟨saInfo, listed, rfl⟩ := checkSystemAbility_eq_some answered
  exact alive (died saInfo listed)

theorem tracked_eraseObject {ability : Nat} (good : s.Tracked (.eraseObject host ability :: others) sa) :
    (s.exec reply (.eraseObject host ability)).1.Tracked
      ((s.exec reply (.eraseObject host ability)).2 ++ others) sa := by
  simp only [exec]
  split
  · rename_i found inside
    split
    · rename_i id listed
      split
      · rename_i dead
        refine tracked_of_dead good rfl ?_ ?_ inside ?_
        · split
          · exact bare_nil
          · exact bare_invalidate
        · intro user host
          split <;> simp
        · intro saInfo entry
          rw [remoteObj_of_findObject listed entry]
          simpa using dead
      · exact good.idle rfl
    · exact good.idle rfl
  · exact good.idle rfl

theorem tracked_eraseDiedAbility (good : s.Tracked (.eraseDiedAbility host id :: others) sa) :
    (s.exec reply (.eraseDiedAbility host id)).1.Tracked
      ((s.exec reply (.eraseDiedAbility host id)).2 ++ others) sa := by
  simp only [exec]
  split
  · rename_i found inside
    split
    · rename_i dead
      refine tracked_of_dead good rfl bare_nil (fun _ _ => List.not_mem_nil) inside ?_
      intro saInfo entry
      simpa [entry] using dead
    · exact good.idle rfl
  · exact good.idle rfl

/-- The invalidation that a removal owes is posted, since a manager that answers stands. -/
theorem tracked_invalidateCache {byId own : Bool}
    (good : s.Tracked (.invalidateCache host id byId own :: others) sa) :
    (s.exec reply (.invalidateCache host id byId own)).1.Tracked
      ((s.exec reply (.invalidateCache host id byId own)).2 ++ others) sa := by
  have kept : ∀ t : Service, SameRoutes s t → SameClient s t → KeepsUsers s t →
      (∀ h, t.checkAt h sa = s.checkAt h sa) →
      (s.owes sa (.invalidateCache host id byId own) = true → 0 < t.invalidations) →
      ∀ made : List ServicePiece, made ⊆ [.removeAbility id] → t.Tracked (made ++ others) sa := by
    intro t routes client users same posted made follow
    refine good.serve client ?_ (good.managed.keep users ?_) (Or.inl routes.target) ?_
    · intro piece member
      rw [List.mem_singleton.mp (follow member)]
      exact ⟨rfl, rfl, rfl⟩
    · intro user host member
      cases List.mem_singleton.mp (follow member)
    have answer : t.checkSystemAbility sa = s.checkSystemAbility sa := by
      simp [checkSystemAbility, routes.route, same]
    rw [answer]
    refine good.coherent.fewer (List.Subset.refl _) ?_
    rintro (waiting | ⟨piece, member, owing⟩)
    · exact Or.inl (waiting.trans_le routes.more)
    · rcases List.mem_cons.mp member with rfl | member
      · exact Or.inl (posted owing)
      · exact Or.inr ⟨piece, List.mem_append_right _ member, (routes.owes piece).trans owing⟩
  have owing : s.owes sa (.invalidateCache host id byId own) = true → id = sa ∧ s.route sa = some host ∧
      s.onDemandAt sa host = false := by
    simp [owes, and_assoc]
  simp only [exec]
  split
  · rename_i found inside
    split
    · rename_i released
      refine kept s (sameRoutes_refl s) ⟨rfl, rfl, rfl, rfl⟩ (KeepsUsers.refl s) (fun _ => rfl) ?_ []
        (List.nil_subset _)
      intro owes
      obtain ⟨other, there, unreleased⟩ := standing_of_route good.managed (owing owes).2.1
      obtain rfl : found = other := Option.some.inj (inside.symm.trans there)
      simp [unreleased] at released
    · refine kept _ (invalidate_sameRoutes found id) (invalidate_sameClient found id)
        (keepsUsers_invalidate found id) ?_ ?_ _ ?_
      · intro h
        unfold systemAbilityInvalidateCache
        split <;> rfl
      · intro owes
        obtain ⟨rfl, routed, static⟩ := owing owes
        rw [onDemandAt_eq inside] at static
        rw [invalidations_posted static]
        exact Nat.succ_pos _
      · show (if own then [ServicePiece.removeAbility id] else []) ⊆ _
        split
        · exact List.Subset.refl _
        · exact List.nil_subset _
  · rename_i absent
    refine kept s (sameRoutes_refl s) ⟨rfl, rfl, rfl, rfl⟩ (KeepsUsers.refl s) (fun _ => rfl) ?_ []
      (List.nil_subset _)
    intro owes
    obtain ⟨other, there, -⟩ := standing_of_route good.managed (owing owes).2.1
    rw [absent] at there
    cases there

end Registry

/-- The parameter moves on, or an object that it leaves valid is the registered one. -/
theorem coherent_setParameter (good : s.Tracked (.setParameter :: others) sa) {owes : Prop}
    (renews : s.parameter = s.tickCount → owes ∨ s.Current (.setParameter :: others) sa) :
    Stamped.Coherent (s.checkSystemAbility sa) s.live (s.tickCount : WaterLine) owes
      (s.records (.setParameter :: others) sa) := by
  rcases good.clock.lt_or_eq with passed | still
  · exact good.coherent.renew passed
  · rw [← still]
    rcases renews still with owing | current
    · exact good.coherent.owe owing
    · exact ⟨good.coherent.bounded, fun r member now alive => Or.inl (current r member now alive)⟩

theorem tracked_setParameter (good : s.Tracked (.setParameter :: others) sa)
    (renews : s.parameter = s.tickCount →
      s.Pending (.setParameter :: others) sa ∨ s.Current (.setParameter :: others) sa) :
    (s.exec reply .setParameter).1.Tracked ((s.exec reply .setParameter).2 ++ others) sa := by
  constructor
  · exact good.managed.keep ⟨rfl, rfl, fun _ => id, le_rfl⟩ fun _ _ => List.not_mem_nil
  · exact le_rfl
  · intro piece member w kept
    exact (good.lines piece (List.mem_cons_of_mem _ member) w kept).trans good.clock
  · intro piece member
    exact routedNow_of_target rfl (good.routed piece (List.mem_cons_of_mem _ member))
  · refine (coherent_setParameter good fun still => ?_).fewer ?_ id
    · refine (renews still).imp_left fun pending => pending.imp_right ?_
      rintro ⟨piece, member, other, owing⟩
      refine ⟨piece, (List.mem_cons.mp member).resolve_left other, ?_⟩
      rw [← owing]
      cases piece <;> rfl
    · intro r member
      rcases List.mem_append.mp member with cached | flying
      · exact List.mem_append_left _ cached
      · exact List.mem_append_right _ flying

/-! Users -/

/-- A manager that stands answers as before. -/
structure KeepsAnswers (s t : Service) : Prop where
  checkAt : ∀ host sa, s.Standing host → t.checkAt host sa = s.checkAt host sa
  onDemand : ∀ host sa, s.Standing host → t.onDemandAt sa host = s.onDemandAt sa host
  invalidations : t.invalidations = s.invalidations

theorem KeepsAnswers.of_hosts (hosts : t.hosts = s.hosts) (same : t.invalidations = s.invalidations) :
    KeepsAnswers s t := by
  refine ⟨fun host sa _ => ?_, fun host sa _ => ?_, same⟩
  · simp [Service.checkAt, hosts]
  · simp [onDemandAt, hosts]

theorem KeepsAnswers.checkSystemAbility {pieces : List ServicePiece} (answers : KeepsAnswers s t)
    (managed : s.Managed pieces) (route : t.route sa = s.route sa) :
    t.checkSystemAbility sa = s.checkSystemAbility sa := by
  simp only [Service.checkSystemAbility, route]
  cases routed : s.route sa with
  | none => rfl
  | some host => exact answers.checkAt host sa (standing_of_route managed routed)

/-- A change among the users keeps what is tracked when it is careful. -/
theorem Tracked.manage (good : s.Tracked (piece :: others) sa) (idle : s.owes sa piece = false)
    (careful : Careful s (piece :: others) sa t) (client : SameClient s t) (answers : KeepsAnswers s t)
    (bare : Bare sa made) (managed : t.Managed (made ++ others)) : t.Tracked (made ++ others) sa := by
  by_cases same : t.target sa = s.target sa
  · have route : t.route sa = s.route sa := (Prod.mk.inj same).2
    have owes : ∀ other, t.owes sa other = s.owes sa other := by
      intro other
      cases other with
      | invalidateCache host id byId =>
          simp only [Service.owes, route]
          by_cases routed : s.route sa = some host
          · rw [answers.onDemand host sa (standing_of_route good.managed routed)]
          · have elsewhere : (s.route sa == some host) = false := beq_eq_false_iff_ne.mpr routed
            simp only [elsewhere, Bool.and_false, Bool.false_and]
      | _ => rfl
    refine good.serve client bare managed (Or.inl same) ?_
    rw [answers.checkSystemAbility good.managed route]
    exact good.coherent.fewer (List.Subset.refl _)
      (Owed.serve idle answers.invalidations.ge owes)
  · obtain ⟨unheld, free⟩ := careful.1 same
    refine good.serve client bare managed (Or.inr ?_) (good.coherent.turn unheld)
    exact fun other member => free other (List.mem_cons_of_mem piece member)

section Users

variable {user : Int} {host : Nat}

theorem managed_createManager (good : s.Managed (piece :: others)) :
    (s.createManager user).Managed others := by
  have kept : s.Managed others :=
    ⟨good.base, good.users, good.apart, fun other host leaves =>
      good.leaving other host (leaves.imp_right (List.mem_cons_of_mem piece))⟩
  unfold createManager
  split
  · exact kept
  · rename_i fresh
    have standing : ∀ host, s.Standing host → host < s.hosts.length := by
      rintro host ⟨found, inside, -⟩
      exact (List.getElem?_eq_some_iff.mp inside).1
    have grown : ∀ host, s.Standing host → (∃ found,
        (s.hosts ++ [Host.ofUser s.allSaProfiles s.multiInstanceSaIds])[host]? = some found ∧
          found.released = false) := by
      rintro host ⟨found, inside, stands⟩
      refine ⟨found, ?_, stands⟩
      rw [List.getElem?_append_left (List.getElem?_eq_some_iff.mp inside).1]
      exact inside
    have base : 0 < s.hosts.length := standing 0 kept.base
    constructor
    · exact grown 0 kept.base
    · intro other host found
      simp only [Function.update_apply] at found
      split at found
      · cases found
        refine ⟨base.ne', Host.ofUser s.allSaProfiles s.multiInstanceSaIds, ?_, rfl⟩
        simp
      · exact ⟨(kept.users other host found).1, grown host (kept.users other host found).2⟩
    · intro first second host found same
      simp only [Function.update_apply] at found same
      split at found
      · rename_i own
        split at same
        · rename_i other
          rw [own, other]
        · cases found
          exact absurd (standing _ (kept.users _ _ same).2) (lt_irrefl _)
      · split at same
        · cases same
          exact absurd (standing _ (kept.users _ _ found).2) (lt_irrefl _)
        · exact kept.apart first second host found same
    · intro other host leaves
      obtain ⟨nonzero, bound, free⟩ := kept.leaving other host leaves
      refine ⟨nonzero, ?_, fun holder => ?_⟩
      · simp only [List.length_append, List.length_singleton]
        omega
      · simp only [Function.update_apply]
        split
        · intro same
          cases same
          exact lt_irrefl _ bound
        · exact free holder

theorem keepsAnswers_createManager : KeepsAnswers s (s.createManager user) := by
  unfold createManager
  split
  · exact KeepsAnswers.of_hosts rfl rfl
  · refine ⟨?_, ?_, rfl⟩
    · rintro host sa ⟨found, inside, -⟩
      have bound := (List.getElem?_eq_some_iff.mp inside).1
      simp only [checkAt, List.getElem?_append_left bound]
    · rintro host sa ⟨found, inside, -⟩
      have bound := (List.getElem?_eq_some_iff.mp inside).1
      simp only [onDemandAt, List.getElem?_append_left bound]

theorem tracked_createManager (good : s.Tracked (.createManager user :: others) sa)
    (careful : Careful s (.createManager user :: others) sa (s.exec reply (.createManager user)).1) :
    (s.exec reply (.createManager user)).1.Tracked
      ((s.exec reply (.createManager user)).2 ++ others) sa := by
  by_cases served : reply = .served
  · simp only [exec, served, if_true] at careful ⊢
    refine good.manage rfl careful ?_ keepsAnswers_createManager bare_nil
      (managed_createManager good.managed)
    unfold createManager
    split <;> exact ⟨rfl, rfl, rfl, rfl⟩
  · simp only [exec, served, if_false]
    exact good.idle rfl

theorem bare_unlock (user : Int) : Bare sa [.unlockUser user] := by
  intro piece member
  cases List.mem_singleton.mp member
  exact ⟨rfl, rfl, rfl⟩

theorem keepsAnswers_switching : KeepsAnswers s (s.handleUserSwitching user) := by
  unfold handleUserSwitching
  split <;> exact KeepsAnswers.of_hosts rfl rfl

theorem tracked_handleUserSwitching (good : s.Tracked (.handleUserSwitching user :: others) sa)
    (careful : Careful s (.handleUserSwitching user :: others) sa
      (s.exec reply (.handleUserSwitching user)).1) :
    (s.exec reply (.handleUserSwitching user)).1.Tracked
      ((s.exec reply (.handleUserSwitching user)).2 ++ others) sa := by
  simp only [exec] at careful ⊢
  refine good.manage rfl careful ?_ keepsAnswers_switching (bare_unlock user)
    (good.managed.keep ?_ (by simp))
  · unfold handleUserSwitching
    split <;> exact ⟨rfl, rfl, rfl, rfl⟩
  · unfold handleUserSwitching
    split
    · exact KeepsUsers.refl s
    · exact ⟨rfl, rfl, fun _ => id, le_rfl⟩

theorem keepsAnswers_stopping : KeepsAnswers s (s.handleUserStopping user).1 := by
  unfold handleUserStopping
  split
  · exact KeepsAnswers.of_hosts rfl rfl
  · split <;> exact KeepsAnswers.of_hosts rfl rfl

/-- The manager of a stopped user belongs to nobody. -/
theorem managed_handleUserStopping (good : s.Managed (.handleUserStopping user :: others)) :
    (s.handleUserStopping user).1.Managed
      ((s.handleUserStopping user).2 ++ [.unlockUser user] ++ others) := by
  unfold handleUserStopping
  split
  · exact good.keep (KeepsUsers.refl s) (by simp)
  · split
    · exact good.keep ⟨rfl, rfl, fun _ => id, le_rfl⟩ (by simp)
    · rename_i host owned
      have fewer : ∀ other host', Function.update s.multiUserManagers user none other = some host' →
          s.multiUserManagers other = some host' ∧ other ≠ user := by
        intro other host' found
        simp only [Function.update_apply] at found
        split at found
        · cases found
        · rename_i different
          exact ⟨found, different⟩
      constructor
      · exact good.base
      · exact fun other host' found => good.users other host' (fewer other host' found).1
      · intro first second host' found same
        exact good.apart first second host' (fewer first host' found).1 (fewer second host' same).1
      · intro other host' leaves
        by_cases stopped : host' = host
        · subst stopped
          obtain ⟨nonzero, found, inside, -⟩ := good.users user host' owned
          refine ⟨nonzero, (List.getElem?_eq_some_iff.mp inside).1, fun holder kept => ?_⟩
          obtain ⟨held, different⟩ := fewer holder host' kept
          exact different (good.apart holder user host' held owned)
        · have before : s.userStoppingContexts other = some host' ∨
              .startUserStopping other host' ∈ .handleUserStopping user :: others := by
            refine leaves.imp_right fun member => ?_
            simp only [List.cons_append, List.nil_append, List.mem_cons] at member ⊢
            rcases member with same | same | member
            · cases same
              exact absurd rfl stopped
            · cases same
            · exact Or.inr member
          obtain ⟨nonzero, bound, free⟩ := good.leaving other host' before
          exact ⟨nonzero, bound, fun holder kept => free holder (fewer holder host' kept).1⟩

theorem tracked_handleUserStopping (good : s.Tracked (.handleUserStopping user :: others) sa)
    (careful : Careful s (.handleUserStopping user :: others) sa
      (s.exec reply (.handleUserStopping user)).1) :
    (s.exec reply (.handleUserStopping user)).1.Tracked
      ((s.exec reply (.handleUserStopping user)).2 ++ others) sa := by
  simp only [exec] at careful ⊢
  refine good.manage rfl careful ?_ keepsAnswers_stopping ?_ (managed_handleUserStopping good.managed)
  · unfold handleUserStopping
    split
    · exact ⟨rfl, rfl, rfl, rfl⟩
    · split <;> exact ⟨rfl, rfl, rfl, rfl⟩
  · intro piece member
    have shape : (∃ host, piece = .startUserStopping user host) ∨ piece = .unlockUser user := by
      unfold handleUserStopping at member
      grind
    rcases shape with ⟨host, rfl⟩ | rfl
    · exact ⟨rfl, rfl, rfl⟩
    · exact ⟨rfl, rfl, rfl⟩

/-- A step that keeps the target and the answers needs no care. -/
theorem careful_of_same {pieces : List ServicePiece} (target : t.target sa = s.target sa)
    (answer : t.checkSystemAbility sa = s.checkSystemAbility sa) : Careful s pieces sa t :=
  ⟨fun differs => absurd target differs, fun differs => absurd answer differs⟩

theorem tracked_startUserStopping (good : s.Tracked (.startUserStopping user host :: others) sa) :
    (s.exec reply (.startUserStopping user host)).1.Tracked
      ((s.exec reply (.startUserStopping user host)).2 ++ others) sa := by
  simp only [exec]
  refine good.manage rfl (careful_of_same rfl rfl) ⟨rfl, rfl, rfl, rfl⟩
    (KeepsAnswers.of_hosts rfl rfl) ?_ ?_
  · intro piece member
    split at member
    · cases List.mem_singleton.mp member
      exact ⟨rfl, rfl, rfl⟩
    · cases member
  · refine ⟨good.managed.base, good.managed.users, good.managed.apart, fun other host' leaves => ?_⟩
    refine good.managed.leaving other host' ?_
    rcases leaves with context | member
    · simp only [Function.update_apply] at context
      split at context
      · rename_i own
        cases context
        rw [own]
        exact Or.inr List.mem_cons_self
      · exact Or.inl context
    · refine Or.inr (List.mem_cons_of_mem _ ?_)
      split at member <;> simpa using member

theorem keepsAnswers_release (host : Nat) : KeepsAnswers s
    { s with hosts := s.hosts.modify host fun found => { found with released := true } } := by
  refine ⟨?_, ?_, rfl⟩
  · rintro h sa ⟨found, inside, -⟩
    by_cases own : host = h
    · simp [checkAt, own, inside]
    · simp [checkAt, own, inside]
  · rintro h sa ⟨found, inside, -⟩
    by_cases own : host = h
    · simp [onDemandAt, own, inside]
    · simp [onDemandAt, own, inside]

theorem tracked_destroy (good : s.Tracked (.destroy user host :: others) sa) :
    (s.exec reply (.destroy user host)).1.Tracked
      ((s.exec reply (.destroy user host)).2 ++ others) sa := by
  simp only [exec]
  split
  · rename_i context
    obtain ⟨nonzero, bound, free⟩ := good.managed.leaving user host (Or.inl context)
    have answers : KeepsAnswers s
        { s with hosts := s.hosts.modify host fun found => { found with released := true } } :=
      keepsAnswers_release host
    have standing : ∀ h, h ≠ host → s.Standing h → Service.Standing
        { s with hosts := s.hosts.modify host fun found => { found with released := true } } h := by
      rintro h other ⟨found, inside, stands⟩
      refine ⟨found, ?_, stands⟩
      simpa [Ne.symm other] using inside
    refine good.manage rfl ?_ ⟨rfl, rfl, rfl, rfl⟩ answers ?_ ?_
    · exact careful_of_same rfl (answers.checkSystemAbility good.managed rfl)
    · intro piece member
      cases List.mem_singleton.mp member
      exact ⟨rfl, rfl, rfl⟩
    · constructor
      · exact standing 0 nonzero.symm good.managed.base
      · intro other h found
        refine ⟨(good.managed.users other h found).1, standing h ?_ (good.managed.users other h found).2⟩
        rintro rfl
        exact free other found
      · exact good.managed.apart
      · intro other h leaves
        have before : s.userStoppingContexts other = some h ∨
            .startUserStopping other h ∈ .destroy user host :: others := by
          refine leaves.imp_right fun member => List.mem_cons_of_mem _ ?_
          simpa using member
        obtain ⟨nonzero', bound', free'⟩ := good.managed.leaving other h before
        refine ⟨nonzero', ?_, free'⟩
        rw [List.length_modify]
        exact bound'
  · exact good.idle rfl

theorem tracked_eraseStoppingContext (good : s.Tracked (.eraseStoppingContext user host :: others) sa) :
    (s.exec reply (.eraseStoppingContext user host)).1.Tracked
      ((s.exec reply (.eraseStoppingContext user host)).2 ++ others) sa := by
  simp only [exec]
  split
  · refine good.manage rfl (careful_of_same rfl rfl) ⟨rfl, rfl, rfl, rfl⟩
      (KeepsAnswers.of_hosts rfl rfl) bare_nil ?_
    refine ⟨good.managed.base, good.managed.users, good.managed.apart, fun other host' leaves => ?_⟩
    refine good.managed.leaving other host' ?_
    rcases leaves with context | member
    · simp only [Function.update_apply] at context
      split at context
      · cases context
      · exact Or.inl context
    · exact Or.inr (List.mem_cons_of_mem _ member)
  · exact good.idle rfl

end Users

/-- Every piece keeps what is tracked, under the conditions on the step. -/
theorem exec_tracked (good : s.Tracked (piece :: others) sa)
    (careful : Careful s (piece :: others) sa (s.exec reply piece).1)
    (locally : s.LocallyCurrent (piece :: others) sa piece)
    (renews : piece = .setParameter → s.parameter = s.tickCount →
      s.Pending (piece :: others) sa ∨ s.Current (piece :: others) sa) :
    (s.exec reply piece).1.Tracked ((s.exec reply piece).2 ++ others) sa := by
  by_cases looks : piece.looks = true
  · exact good.look looks locally
  cases piece with
  | insertAbility => exact tracked_insertAbility good careful
  | eraseAbility => exact tracked_eraseAbility good careful
  | eraseObject => exact tracked_eraseObject good
  | eraseDiedAbility => exact tracked_eraseDiedAbility good
  | invalidateCache => exact tracked_invalidateCache good
  | setParameter => exact tracked_setParameter good (renews rfl)
  | createManager => exact tracked_createManager good careful
  | handleUserSwitching => exact tracked_handleUserSwitching good careful
  | handleUserStopping => exact tracked_handleUserStopping good careful
  | startUserStopping => exact tracked_startUserStopping good
  | destroy => exact tracked_destroy good
  | eraseStoppingContext => exact tracked_eraseStoppingContext good
  | _ => exact absurd rfl looks

/-- What no piece changes. -/
structure Fixed (s t : Service) : Prop where
  multi : t.multiInstanceSaIds = s.multiInstanceSaIds
  caller : t.caller = s.caller
  onDemand : ∀ host sa, s.Standing host → t.onDemandAt sa host = s.onDemandAt sa host

theorem SameRoutes.fixed (same : SameRoutes s t) : Fixed s t :=
  ⟨same.multi, same.caller, fun host sa _ => same.onDemand sa host⟩

theorem fixed_refl (s : Service) : Fixed s s := (sameRoutes_refl s).fixed

theorem exec_fixed (piece : ServicePiece) : Fixed s (s.exec reply piece).1 := by
  by_cases looks : piece.looks = true
  · have same : SameServer s (s.exec reply piece).1 := exec_looks looks
    exact ⟨same.multi, same.caller, fun host sa _ => by simp [onDemandAt, same.hosts]⟩
  cases piece with
  | insertAbility host id ability d own =>
      simp only [exec]
      split
      · rename_i found inside
        exact (insertAbility_change inside).routes.fixed
      · exact fixed_refl s
  | eraseAbility | eraseObject | eraseDiedAbility =>
      simp only [exec]
      repeat' split
      all_goals first | exact fixed_refl s | exact (eraseAt_change (by assumption)).routes.fixed
  | invalidateCache host id byId own =>
      simp only [exec]
      split
      · split
        · exact fixed_refl s
        · exact (invalidate_sameRoutes _ id).fixed
      · exact fixed_refl s
  | setParameter => exact ⟨rfl, rfl, fun _ _ _ => rfl⟩
  | createManager userId =>
      have answers : KeepsAnswers s (s.createManager userId) := keepsAnswers_createManager
      simp only [exec]
      split
      · refine ⟨?_, ?_, answers.onDemand⟩ <;> unfold createManager <;> split <;> rfl
      · exact fixed_refl s
  | handleUserSwitching userId =>
      have answers : KeepsAnswers s (s.handleUserSwitching userId) := keepsAnswers_switching
      simp only [exec]
      refine ⟨?_, ?_, answers.onDemand⟩ <;> unfold handleUserSwitching <;> split <;> rfl
  | handleUserStopping userId =>
      have answers : KeepsAnswers s (s.handleUserStopping userId).1 := keepsAnswers_stopping
      simp only [exec]
      refine ⟨?_, ?_, answers.onDemand⟩ <;> unfold handleUserStopping
      all_goals
        split
        · rfl
        · split <;> rfl
  | startUserStopping userId host => exact ⟨rfl, rfl, fun _ _ _ => rfl⟩
  | destroy userId host =>
      simp only [exec]
      split
      · exact ⟨rfl, rfl, (keepsAnswers_release host).onDemand⟩
      · exact fixed_refl s
  | eraseStoppingContext userId host =>
      simp only [exec]
      split
      · exact ⟨rfl, rfl, fun _ _ _ => rfl⟩
      · exact fixed_refl s
  | _ => exact absurd rfl looks

end Service

end Samgr
