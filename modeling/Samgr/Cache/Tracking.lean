import Samgr.Cache.Service
import Samgr.Lib.Stamped

/-! The client's cache against the registries. A kept object stands under the value of the
parameter that was read before it was asked for; the invariant is that such an object is the
registered one, or an invalidation is still to run. -/
namespace Samgr

open Stamped (Record)

/-- The cached object of the ability. -/
def DynamicCache.records (cache : DynamicCache) (sa : Int) : List (Record Nat WaterLine) :=
  match cache.localPara, cache.lastQuerySaProxy with
  | some waterLine, some object => if cache.lastQuerySaId = sa then [⟨object, waterLine⟩] else []
  | _, _ => []

namespace ServicePiece

/-- The object of the ability that the piece is about to cache. -/
def record (sa : Int) : ServicePiece → Option (Record Nat WaterLine)
  | .store querySaId waterLine res => if querySaId = sa then some ⟨res, waterLine⟩ else none
  | _ => none

/-- The value of the parameter that the piece carries. -/
def waterLine : ServicePiece → Option WaterLine
  | .canUseCache _ _ waterLine => some waterLine
  | .store _ waterLine _ => some waterLine
  | .getAbility request | .routeForUser request => request.waterLine
  | .checkSystemAbility request _ => request.waterLine
  | .getMultiUserManager _ (.check request) => request.waterLine
  | _ => none

/-- The request for the ability that the piece serves, once it has been routed. -/
def routed (sa : Int) : ServicePiece → Bool
  | .checkSystemAbility request _ => request.systemAbilityId == sa
  | .getMultiUserManager _ (.check request) => request.systemAbilityId == sa
  | _ => false

/-- The piece is about to post the invalidation for a removal of the ability. -/
def unposted (sa : Int) : ServicePiece → Bool
  | .invalidateCache _ systemAbilityId _ _ => systemAbilityId == sa
  | _ => false

/-- The piece looks for the ability among those of the process. -/
def asksLocally (sa : Int) : ServicePiece → Bool
  | .getAbility request => request.systemAbilityId == sa
  | _ => false

/-- The piece belongs to a query for the ability that has still to look into the cache. -/
def mayHit (sa : Int) : ServicePiece → Bool
  | .isOnDemandSystemAbility _ id | .getOnDemandSystemAbilityIds _ id | .getParameter _ id
  | .canUseCache _ id _ => id == sa
  | _ => false

end ServicePiece

namespace Service

variable (s : Service) (pieces : List ServicePiece) (sa : Int)

/-- The objects that the client holds for the ability, in the cache or about to be cached. -/
def records : List (Record Nat WaterLine) :=
  s.cache.records sa ++ pieces.filterMap (ServicePiece.record sa)

def live (object : Nat) : Prop := object ∉ s.dead

instance (object : Nat) : Decidable (s.live object) := inferInstanceAs (Decidable (object ∉ s.dead))

/-- The manager that the ability is routed to does not invalidate for it. -/
def onDemandAt (host : Nat) : Bool :=
  s.hosts[host]?.any fun found => found.onDemandSaIdsSet.contains sa

/-- The piece will invalidate for a removal from the manager that answers for the ability. -/
def owes : ServicePiece → Bool
  | .setParameter => true
  | .invalidateCache host systemAbilityId _ _ =>
      systemAbilityId == sa && s.route sa == some host && !s.onDemandAt sa host
  | _ => false

/-- An invalidation is on its way. -/
def Owed : Prop := 0 < s.invalidations ∨ ∃ piece ∈ pieces, s.owes sa piece = true

instance : Decidable (s.Owed pieces sa) := inferInstanceAs (Decidable (_ ∨ _))

/-- The user and the manager that requests for the ability go to. -/
def target : Int × Option Nat := (s.routeForUser sa s.caller, s.route sa)

/-- The piece serves a request for the ability where it would be routed to now. -/
def RoutedNow : ServicePiece → Prop
  | .checkSystemAbility request host =>
      request.systemAbilityId = sa → s.route sa = some host
  | .getMultiUserManager userId (.check request) =>
      request.systemAbilityId = sa →
        userId = s.routeForUser sa s.caller ∧ userId ≠ BASE_USER
  | _ => True

/-- The manager exists, and its scheduler with it. -/
def Standing (host : Nat) : Prop := ∃ found, s.hosts[host]? = some found ∧ found.released = false

/-- What a request whose answer will be cached finds among the abilities of the process is dead or is
the registered object, or no query has still to look into the cache and for a later one it will stand
under an old value of the parameter. -/
def LocallyCurrent (piece : ServicePiece) : Prop :=
  piece.asksLocally sa = true → ∀ waterLine ∈ piece.waterLine, ∀ object ∈ s.localAbilitys[sa]?,
    s.live object →
      s.checkSystemAbility sa = some object ∨
        (waterLine = s.parameter → s.Owed pieces sa) ∧ ∀ other ∈ pieces, other.mayHit sa = false

instance (piece : ServicePiece) : Decidable (s.LocallyCurrent pieces sa piece) :=
  inferInstanceAs (Decidable (_ → ∀ waterLine ∈ piece.waterLine, ∀ object ∈ s.localAbilitys[sa]?, _ → _))

/-- Which managers stand: the base manager and those of the users, each with its own. A
manager that is being stopped belongs to no user any more. -/
structure Managed : Prop where
  base : s.Standing 0
  users : ∀ user host, s.multiUserManagers user = some host → host ≠ 0 ∧ s.Standing host
  apart : ∀ user other host, s.multiUserManagers user = some host →
    s.multiUserManagers other = some host → user = other
  leaving : ∀ user host,
    s.userStoppingContexts user = some host ∨ .startUserStopping user host ∈ pieces →
      host ≠ 0 ∧ host < s.hosts.length ∧ ∀ other, s.multiUserManagers other ≠ some host

/-- What holds of the service and the client together. -/
structure Tracked : Prop where
  managed : s.Managed pieces
  clock : s.parameter ≤ s.tickCount
  lines : ∀ piece ∈ pieces, ∀ waterLine, piece.waterLine = some waterLine →
    waterLine ≤ s.parameter
  routed : ∀ piece ∈ pieces, s.RoutedNow sa piece
  coherent : Stamped.Coherent (s.checkSystemAbility sa) s.live s.parameter (s.Owed pieces sa)
    (s.records pieces sa)

variable {s pieces sa} {t : Service} {others made : List ServicePiece}

theorem standing_of_route (managed : s.Managed pieces) {host : Nat}
    (routed : s.route sa = some host) : s.Standing host := by
  unfold route at routed
  split at routed
  · cases routed
    exact managed.base
  · exact (managed.users _ _ routed).2

theorem Managed.perm (same : pieces.Perm others) (good : s.Managed pieces) : s.Managed others := by
  refine ⟨good.base, good.users, good.apart, fun user host leaves => ?_⟩
  exact good.leaving user host (leaves.imp_right same.mem_iff.mpr)

theorem records_perm (same : pieces.Perm others) : s.records others sa ⊆ s.records pieces sa :=
  (List.Perm.append_left _ (same.filterMap _)).symm.subset

theorem Owed.perm (same : pieces.Perm others) (owed : s.Owed pieces sa) : s.Owed others sa := by
  refine owed.imp_right ?_
  rintro ⟨piece, member, owes⟩
  exact ⟨piece, same.mem_iff.mp member, owes⟩

theorem Tracked.perm (same : pieces.Perm others) (good : s.Tracked pieces sa) :
    s.Tracked others sa where
  managed := good.managed.perm same
  clock := good.clock
  lines piece member := good.lines piece (same.mem_iff.mpr member)
  routed piece member := good.routed piece (same.mem_iff.mpr member)
  coherent := good.coherent.fewer (records_perm same) (Owed.perm same)

/-! Registries -/

theorem checkSystemAbility_insert {m n : Manager} {id : Int} {saInfo : SAInfo}
    (inserted : m.insertAbility id saInfo = some n) (other : id ≠ sa) :
    n.checkSystemAbility sa = m.checkSystemAbility sa := by
  unfold Manager.insertAbility at inserted
  split at inserted
  · cases inserted
  · cases inserted
    simp [Manager.checkSystemAbility, Manager.setRegistry, Std.TreeMap.getElem?_insert, other]

theorem checkSystemAbility_erase {m : Manager} {id : Int} (other : id ≠ sa) :
    (m.setRegistry (m.abilityMap.erase id)).checkSystemAbility sa = m.checkSystemAbility sa := by
  simp [Manager.checkSystemAbility, Manager.setRegistry, Std.TreeMap.getElem?_erase, other]

theorem checkSystemAbility_of_notMem {m : Manager} (absent : sa ∉ m.abilityMap) :
    m.checkSystemAbility sa = none := by
  simp [Manager.checkSystemAbility, Std.TreeMap.getElem?_eq_none absent]

theorem checkSystemAbility_eq_some {m : Manager} {object : Nat}
    (found : m.checkSystemAbility sa = some object) :
    ∃ saInfo, m.abilityMap[sa]? = some saInfo ∧ saInfo.remoteObj = object := by
  unfold Manager.checkSystemAbility at found
  split at found
  · exact Option.map_eq_some_iff.mp found
  · cases found

theorem remoteObj_of_findObject {m : Manager} {ability : Nat} {saInfo : SAInfo}
    (found : m.findObject ability = some sa) (entry : m.abilityMap[sa]? = some saInfo) :
    saInfo.remoteObj = ability := by
  obtain ⟨⟨id, listed⟩, first, same⟩ := Option.map_eq_some_iff.mp found
  obtain rfl : id = sa := same
  have member := Std.TreeMap.mem_toList_iff_getElem?_eq_some.mp (List.mem_of_find?_eq_some first)
  obtain rfl : listed = saInfo := Option.some.inj (member.symm.trans entry)
  simpa using List.find?_some first

section Hosts

variable {host : Nat} {found new : Host} (inside : s.hosts[host]? = some found)

include inside

theorem getElem?_setHost (h : Nat) :
    (s.setHost host new).hosts[h]? = if host = h then some new else s.hosts[h]? := by
  have bound : host < s.hosts.length := (List.getElem?_eq_some_iff.mp inside).1
  simp only [setHost, List.getElem?_set, bound, if_true]

theorem checkAt_setHost (h : Nat) (same : host = h → new.manager.checkSystemAbility sa =
    found.manager.checkSystemAbility sa) : (s.setHost host new).checkAt h sa = s.checkAt h sa := by
  unfold checkAt
  rw [getElem?_setHost inside]
  split
  · rename_i own
    subst own
    simp [inside, same rfl]
  · rfl

theorem standing_setHost (kept : new.released = found.released) {h : Nat} (stands : s.Standing h) :
    (s.setHost host new).Standing h := by
  obtain ⟨other, there, unreleased⟩ := stands
  unfold Standing
  rw [getElem?_setHost inside]
  split
  · rename_i own
    subst own
    obtain rfl : found = other := Option.some.inj (inside.symm.trans there)
    exact ⟨new, rfl, kept.trans unreleased⟩
  · exact ⟨other, there, unreleased⟩

theorem onDemandAt_setHost (kept : new.onDemandSaIdsSet = found.onDemandSaIdsSet) (h : Nat) :
    (s.setHost host new).onDemandAt sa h = s.onDemandAt sa h := by
  unfold onDemandAt
  rw [getElem?_setHost inside]
  split
  · rename_i own
    subst own
    simp [inside, kept]
  · rfl

end Hosts

/-! Managers -/

/-- The users keep their managers, and no manager falls. -/
structure KeepsUsers (s t : Service) : Prop where
  managers : t.multiUserManagers = s.multiUserManagers
  contexts : t.userStoppingContexts = s.userStoppingContexts
  standing : ∀ host, s.Standing host → t.Standing host
  hosts : s.hosts.length ≤ t.hosts.length

theorem KeepsUsers.refl (s : Service) : KeepsUsers s s := ⟨rfl, rfl, fun _ => id, le_rfl⟩

theorem Managed.keep {piece : ServicePiece} (good : s.Managed (piece :: others))
    (kept : KeepsUsers s t) (made_plain : ∀ user host, .startUserStopping user host ∉ made) :
    t.Managed (made ++ others) := by
  constructor
  · exact kept.standing 0 good.base
  · intro user host found
    rw [kept.managers] at found
    exact ⟨(good.users user host found).1, kept.standing host (good.users user host found).2⟩
  · intro user other host first second
    rw [kept.managers] at first second
    exact good.apart user other host first second
  · intro user host leaves
    rw [kept.contexts] at leaves
    rw [kept.managers]
    have before : s.userStoppingContexts user = some host ∨
        .startUserStopping user host ∈ piece :: others := by
      refine leaves.imp_right fun member => ?_
      rcases List.mem_append.mp member with inside | inside
      · exact absurd inside (made_plain user host)
      · exact List.mem_cons_of_mem piece inside
    obtain ⟨nonzero, bound, free⟩ := good.leaving user host before
    exact ⟨nonzero, bound.trans_le kept.hosts, free⟩

theorem keepsUsers_setHost {host : Nat} {found new : Host} (inside : s.hosts[host]? = some found)
    (kept : new.released = found.released) : KeepsUsers s (s.setHost host new) := by
  refine ⟨rfl, rfl, fun h => standing_setHost inside kept, ?_⟩
  simp [setHost]

theorem keepsUsers_invalidate (found : Host) (id : Int) :
    KeepsUsers s (s.systemAbilityInvalidateCache found id) := by
  unfold systemAbilityInvalidateCache
  split
  · exact KeepsUsers.refl s
  · exact ⟨rfl, rfl, fun _ stands => stands, le_rfl⟩

/-! Pieces that leave the service as it is -/

/-- Nothing but the client differs. -/
structure SameServer (s t : Service) : Prop where
  multi : t.multiInstanceSaIds = s.multiInstanceSaIds
  hosts : t.hosts = s.hosts
  managers : t.multiUserManagers = s.multiUserManagers
  contexts : t.userStoppingContexts = s.userStoppingContexts
  foreground : t.foregroundUserId = s.foregroundUserId
  invalidations : t.invalidations = s.invalidations
  parameter : t.parameter = s.parameter
  tickCount : t.tickCount = s.tickCount
  dead : t.dead = s.dead
  caller : t.caller = s.caller

end Service

/-- The pieces of a query, those of the client's own table, and those that only look at the service. -/
def ServicePiece.looks : ServicePiece → Bool
  | .insertAbility .. | .eraseAbility .. | .eraseObject .. | .eraseDiedAbility ..
  | .invalidateCache .. | .setParameter | .createManager .. | .handleUserSwitching ..
  | .handleUserStopping .. | .startUserStopping .. | .destroy .. | .eraseStoppingContext .. => false
  | _ => true

/-- Pieces that no looking piece leads to. -/
def ServicePiece.plain : ServicePiece → Bool
  | .invalidateCache .. | .setParameter | .startUserStopping .. | .handleUserSwitching .. => false
  | _ => true

namespace Service

variable {s t : Service} {sa : Int} {reply : Reply} {piece : ServicePiece}

theorem request_cases {code : QueryCode} {id : Int} {w : Option WaterLine} {made : ServicePiece}
    (member : made ∈ request code id w) :
    (checkInputSysAbilityId id = false ∧ made = .returned none false) ∨
      ∃ timeout, made = .getAbility ⟨code, id, w, timeout⟩ ∨ made = .routeForUser ⟨code, id, w, timeout⟩ := by
  unfold request at member
  split at member
  · split at member
    · exact Or.inr ⟨_, Or.inl (List.mem_singleton.mp member)⟩
    · rename_i invalid
      exact Or.inl ⟨Bool.eq_false_of_not_eq_true invalid, List.mem_singleton.mp member⟩
  · exact Or.inr ⟨_, Or.inr (List.mem_singleton.mp member)⟩

theorem queryPieces_cases {ids : List Int} {code : QueryCode} {id : Int} {made : ServicePiece}
    (member : made ∈ queryPieces ids code id) :
    (checkInputSysAbilityId id = false ∧ made = .returned none false) ∨
      (∃ timeout, made = .getAbility ⟨code, id, none, timeout⟩ ∨
        made = .routeForUser ⟨code, id, none, timeout⟩) ∨ made = .getParameter code id := by
  unfold queryPieces at member
  split at member
  · exact (request_cases member).imp_right Or.inl
  · exact Or.inr (Or.inr (List.mem_singleton.mp member))

theorem answered_cases {query : Request} {answer : Option Nat} {made : ServicePiece}
    (member : made ∈ query.answered answer) :
    (∃ res w, answer = some res ∧ query.waterLine = some w ∧
      made = .store query.systemAbilityId w res) ∨
    (∃ res, answer = some res ∧ made = .returned (some res) false) ∨
    (answer = none ∧ query.timeout = 0 ∧ made = .returned none false) ∨
    (answer = none ∧ ∃ timeout, made = .getAbility { query with timeout }) := by
  unfold Request.answered at member
  split at member
  · split at member
    · rename_i w kept
      exact Or.inl ⟨_, w, rfl, kept, List.mem_singleton.mp member⟩
    · exact Or.inr (Or.inl ⟨_, rfl, List.mem_singleton.mp member⟩)
  · split at member
    · rename_i last
      exact Or.inr (Or.inr (Or.inl ⟨rfl, last, List.mem_singleton.mp member⟩))
    · exact Or.inr (Or.inr (Or.inr ⟨rfl, _, List.mem_singleton.mp member⟩))

theorem exec_looks (looks : piece.looks = true) : SameServer s (s.exec reply piece).1 := by
  cases piece with
  | isOnDemandSystemAbility | canUseCache | getAbility | routeForUser | checkSystemAbility | isUserStopping
  | getStoppingMultiUserManager | getMultiUserManager | updateLimitDelayUnloadTime =>
      simp only [exec]
      repeat' split
      all_goals exact ⟨rfl, rfl, rfl, rfl, rfl, rfl, rfl, rfl, rfl, rfl⟩
  | getOnDemandSystemAbilityIds | getParameter | clearCache | store | returned | addAbility | removeAbility
  | handleUserActivating | unlockUser => exact ⟨rfl, rfl, rfl, rfl, rfl, rfl, rfl, rfl, rfl, rfl⟩
  | _ => cases looks

/-- What a piece hands on to a piece that it leads to. -/
structure Led (s : Service) (sa : Int) (piece made : ServicePiece) : Prop where
  plain : made.plain = true
  lines : ∀ w, made.waterLine = some w → w = s.parameter ∨ piece.waterLine = some w
  routed : s.RoutedNow sa piece → s.RoutedNow sa made
  records : ∀ r, made.record sa = some r → s.RoutedNow sa piece →
    piece.waterLine = some r.stamp ∧
      (s.checkSystemAbility sa = some r.value ∨
        piece.asksLocally sa = true ∧ s.localAbilitys[sa]? = some r.value)

/-- A piece that carries nothing. -/
theorem Led.bare {made : ServicePiece} (plain : made.plain = true) (line : made.waterLine = none)
    (routed : s.RoutedNow sa made) (record : made.record sa = none) : Led s sa piece made := by
  refine ⟨plain, fun w kept => ?_, fun _ => routed, fun r kept => ?_⟩
  · rw [line] at kept
    cases kept
  · rw [record] at kept
    cases kept

theorem Led.request {code : QueryCode} {id : Int} {w : Option WaterLine} {made : ServicePiece}
    (same : ∀ line, w = some line → piece.waterLine = some line)
    (member : made ∈ Samgr.request code id w) : Led s sa piece made := by
  rcases request_cases member with ⟨-, rfl⟩ | ⟨timeout, rfl | rfl⟩
  · exact Led.bare rfl rfl trivial rfl
  · exact ⟨rfl, fun line kept => Or.inr (same line kept), fun _ => trivial, fun _ kept => nomatch kept⟩
  · exact ⟨rfl, fun line kept => Or.inr (same line kept), fun _ => trivial, fun _ kept => nomatch kept⟩

theorem Led.query {ids : List Int} {code : QueryCode} {id : Int} {made : ServicePiece}
    (member : made ∈ queryPieces ids code id) : Led s sa piece made := by
  rcases queryPieces_cases member with ⟨-, rfl⟩ | ⟨timeout, rfl | rfl⟩ | rfl
  all_goals exact Led.bare rfl rfl trivial rfl

/-- The answer of a routed request is what the service answers. -/
theorem Led.answered {query : Request} {answer : Option Nat} {made : ServicePiece}
    (line : piece.waterLine = query.waterLine)
    (right : query.systemAbilityId = sa → s.RoutedNow sa piece → ∀ res, answer = some res →
      s.checkSystemAbility sa = some res ∨
        piece.asksLocally sa = true ∧ s.localAbilitys[sa]? = some res)
    (member : made ∈ query.answered answer) : Led s sa piece made := by
  rcases answered_cases member with ⟨res, w, found, kept, rfl⟩ | ⟨res, found, rfl⟩ |
    ⟨-, -, rfl⟩ | ⟨-, timeout, rfl⟩
  · refine ⟨rfl, ?_, fun _ => trivial, ?_⟩
    · intro w' same
      cases same
      exact Or.inr (line.trans kept)
    · intro r same routed
      simp only [ServicePiece.record] at same
      split at same
      · rename_i own
        cases same
        exact ⟨line.trans kept, right own routed res found⟩
      · cases same
  · exact Led.bare rfl rfl trivial rfl
  · exact Led.bare rfl rfl trivial rfl
  · exact ⟨rfl, fun w kept => Or.inr (line.trans kept), fun _ => trivial, fun _ kept => nomatch kept⟩

theorem checkSystemAbility_of_route {host : Nat} (routed : s.route sa = some host) :
    s.checkSystemAbility sa = s.checkAt host sa := by
  simp [checkSystemAbility, routed]

theorem exec_led (looks : piece.looks = true) {made : ServicePiece}
    (member : made ∈ (s.exec reply piece).2) : Led s sa piece made := by
  cases piece with
  | isOnDemandSystemAbility code id =>
      simp only [exec] at member
      split at member
      · cases List.mem_singleton.mp member
        exact Led.bare rfl rfl trivial rfl
      · exact Led.query member
  | getOnDemandSystemAbilityIds code id => exact Led.query member
  | getParameter code id =>
      cases List.mem_singleton.mp member
      refine ⟨rfl, ?_, fun _ => trivial, fun _ kept => nomatch kept⟩
      intro w kept
      cases kept
      exact Or.inl rfl
  | canUseCache code id w =>
      simp only [exec] at member
      split at member
      · cases List.mem_singleton.mp member
        exact Led.bare rfl rfl trivial rfl
      · rcases List.mem_cons.mp member with rfl | member
        · exact Led.bare rfl rfl trivial rfl
        · exact Led.request (fun _ same => same) member
  | clearCache => cases member
  | getAbility query =>
      simp only [exec] at member
      split at member
      · rename_i object held
        have asked : made ∈ query.answered (some object) := member
        refine Led.answered rfl (fun own _ res found => Or.inr ?_) asked
        subst own
        exact ⟨beq_self_eq_true query.systemAbilityId, held.trans found⟩
      · cases List.mem_singleton.mp member
        exact ⟨rfl, fun _ => Or.inr, fun _ => trivial, fun _ kept => nomatch kept⟩
  | routeForUser query =>
      simp only [exec] at member
      split at member
      · rename_i base
        cases List.mem_singleton.mp member
        refine ⟨rfl, fun _ => Or.inr, fun _ own => ?_, fun _ kept => nomatch kept⟩
        rw [route, if_pos]
        rw [← own]
        exact base
      · rename_i elsewhere
        cases List.mem_singleton.mp member
        refine ⟨rfl, fun _ => Or.inr, fun _ own => ?_, fun _ kept => nomatch kept⟩
        rw [← own]
        exact ⟨rfl, elsewhere⟩
  | checkSystemAbility query host =>
      simp only [exec] at member
      split at member
      · refine Led.answered rfl (fun own routed res found => Or.inl ?_) member
        rw [checkSystemAbility_of_route (routed own), ← own]
        exact found
      · have asked : made ∈ query.answered none := member
        exact Led.answered rfl (fun _ _ res absent => by cases absent) asked
      · cases List.mem_singleton.mp member
        exact Led.bare rfl rfl trivial rfl
  | store id w res =>
      cases List.mem_singleton.mp member
      exact Led.bare rfl rfl trivial rfl
  | returned => cases member
  | getMultiUserManager userId purpose =>
      simp only [exec] at member
      split at member
      · rename_i host query found
        cases List.mem_singleton.mp member
        refine ⟨rfl, fun _ => Or.inr, fun routed own => ?_, fun _ kept => nomatch kept⟩
        obtain ⟨same, other⟩ := routed own
        rw [same] at found other
        rw [route, if_neg other]
        exact found
      · rename_i query found
        have asked : made ∈ query.answered none := member
        exact Led.answered rfl (fun _ _ res absent => by cases absent) asked
      · cases List.mem_singleton.mp member
        exact Led.bare rfl rfl trivial rfl
      · cases List.mem_singleton.mp member
        exact Led.bare rfl rfl trivial rfl
      · cases member
  | updateLimitDelayUnloadTime host id ability =>
      simp only [exec] at member
      split at member
      · cases List.mem_singleton.mp member
        exact Led.bare rfl rfl trivial rfl
      · cases member
  | addAbility | removeAbility => cases member
  | isUserStopping userId id own =>
      simp only [exec] at member
      split at member
      all_goals
        cases List.mem_singleton.mp member
        exact Led.bare rfl rfl trivial rfl
  | getStoppingMultiUserManager userId id own =>
      simp only [exec] at member
      split at member
      · cases List.mem_singleton.mp member
        exact Led.bare rfl rfl trivial rfl
      · cases member
  | handleUserActivating userId =>
      simp only [exec, handleUserActivating] at member
      split at member
      · cases List.mem_singleton.mp member
        exact Led.bare rfl rfl trivial rfl
      · rcases List.mem_cons.mp member with rfl | member
        · exact Led.bare rfl rfl trivial rfl
        · cases List.mem_singleton.mp member
          exact Led.bare rfl rfl trivial rfl
  | unlockUser => cases member
  | _ => cases looks

/-- Storing moves a record into the cache, and the other looking pieces at most drop one. -/
theorem exec_cache (looks : piece.looks = true) :
    (s.exec reply piece).1.cache.records sa ⊆ s.records [piece] sa := by
  intro r member
  cases piece with
  | store id w res =>
      simp only [exec, DynamicCache.records] at member
      refine List.mem_append_right _ ?_
      by_cases own : id = sa
      · simpa [ServicePiece.record, own] using member
      · simp [own] at member
  | clearCache =>
      simp only [exec, DynamicCache.clear, DynamicCache.records] at member
      split at member
      · rename_i absent
        cases absent
      · cases member
  | isOnDemandSystemAbility | canUseCache | getAbility | routeForUser | checkSystemAbility | isUserStopping
  | getStoppingMultiUserManager | getMultiUserManager | updateLimitDelayUnloadTime =>
      simp only [exec] at member
      refine List.mem_append_left _ ?_
      revert member
      repeat' split
      all_goals exact id
  | getOnDemandSystemAbilityIds | getParameter | returned | addAbility | removeAbility
  | handleUserActivating | unlockUser => exact List.mem_append_left _ member
  | _ => cases looks

namespace SameServer

variable (same : SameServer s t)

include same

theorem routeForUser (caller : Int) : t.routeForUser sa caller = s.routeForUser sa caller := by
  simp [Service.routeForUser, isMultiInstanceSaId, same.multi, same.foreground]

theorem route : t.route sa = s.route sa := by
  simp [Service.route, same.routeForUser, same.caller, same.managers]

theorem checkAt (host : Nat) : t.checkAt host sa = s.checkAt host sa := by
  simp [Service.checkAt, same.hosts]

theorem checkSystemAbility : t.checkSystemAbility sa = s.checkSystemAbility sa := by
  simp [Service.checkSystemAbility, same.route, same.checkAt]

theorem live : t.live = s.live := by
  funext object
  simp [Service.live, same.dead]

theorem owes (piece : ServicePiece) : t.owes sa piece = s.owes sa piece := by
  cases piece <;> simp [Service.owes, same.route, onDemandAt, same.hosts]

theorem routedNow (routed : s.RoutedNow sa piece) : t.RoutedNow sa piece := by
  cases piece with
  | checkSystemAbility query host =>
      intro own
      rw [same.route]
      exact routed own
  | getMultiUserManager userId purpose =>
      cases purpose with
      | check query =>
          intro own
          rw [same.caller, same.routeForUser]
          exact routed own
      | _ => trivial
  | _ => trivial

theorem keepsUsers : KeepsUsers s t := by
  refine ⟨same.managers, same.contexts, fun host stands => ?_, ?_⟩
  · unfold Standing
    rw [same.hosts]
    exact stands
  · rw [same.hosts]

end SameServer

theorem not_owes_of_plain (plain : piece.plain = true) : s.owes sa piece = false := by
  cases piece <;> first | rfl | cases plain

theorem plain_of_looks (looks : piece.looks = true) : piece.plain = true := by
  cases piece <;> first | rfl | cases looks

variable {others : List ServicePiece}

theorem mem_records_cons {pieces : List ServicePiece} {r : Record Nat WaterLine} :
    r ∈ s.records (piece :: pieces) sa ↔
      r ∈ s.records [piece] sa ∨ ∃ other ∈ pieces, other.record sa = some r := by
  simp only [records, List.mem_append, List.mem_filterMap, List.mem_cons, List.not_mem_nil, or_false]
  constructor
  · rintro (kept | ⟨other, rfl | member, same⟩)
    · exact Or.inl (Or.inl kept)
    · exact Or.inl (Or.inr ⟨_, rfl, same⟩)
    · exact Or.inr ⟨other, member, same⟩
  · rintro ((kept | ⟨other, rfl, same⟩) | ⟨other, member, same⟩)
    · exact Or.inl kept
    · exact Or.inr ⟨_, Or.inl rfl, same⟩
    · exact Or.inr ⟨other, Or.inr member, same⟩

theorem mem_records_append {made pieces : List ServicePiece} {r : Record Nat WaterLine} :
    r ∈ s.records (made ++ pieces) sa ↔ r ∈ s.cache.records sa ∨
      (∃ piece ∈ made, piece.record sa = some r) ∨ ∃ other ∈ pieces, other.record sa = some r := by
  simp only [records, List.filterMap_append, List.mem_append, List.mem_filterMap]

theorem Owed.looked (looks : piece.looks = true) (same : SameServer s t) (made : List ServicePiece)
    (owed : s.Owed (piece :: others) sa) : t.Owed (made ++ others) sa := by
  rcases owed with waiting | ⟨other, member, owes⟩
  · left
    rw [same.invalidations]
    exact waiting
  · right
    rcases List.mem_cons.mp member with rfl | member
    · rw [not_owes_of_plain (plain_of_looks looks)] at owes
      cases owes
    · refine ⟨other, List.mem_append_right _ member, ?_⟩
      rw [same.owes]
      exact owes

/-- A looking piece keeps what is tracked. -/
theorem Tracked.look (looks : piece.looks = true) (good : s.Tracked (piece :: others) sa)
    (locally : s.LocallyCurrent (piece :: others) sa piece) :
    (s.exec reply piece).1.Tracked ((s.exec reply piece).2 ++ others) sa := by
  have same : SameServer s (s.exec reply piece).1 := exec_looks looks
  have first : s.RoutedNow sa piece := good.routed piece List.mem_cons_self
  constructor
  · refine good.managed.keep same.keepsUsers fun user host member => ?_
    have led : Led s sa piece (.startUserStopping user host) := exec_led looks member
    cases led.plain
  · rw [same.parameter, same.tickCount]
    exact good.clock
  · intro made member w kept
    rw [same.parameter]
    rcases List.mem_append.mp member with new | old
    · have led : Led s sa piece made := exec_led looks new
      rcases led.lines w kept with current | carried
      · exact current.le
      · exact good.lines piece List.mem_cons_self w carried
    · exact good.lines made (List.mem_cons_of_mem piece old) w kept
  · intro made member
    apply same.routedNow
    rcases List.mem_append.mp member with new | old
    · exact (exec_led looks new).routed first
    · exact good.routed made (List.mem_cons_of_mem piece old)
  · rw [same.checkSystemAbility, same.live, same.parameter]
    refine good.coherent.join ?_ (fun _ => id) (Owed.looked looks same _)
    intro r member
    rw [mem_records_cons]
    rcases mem_records_append.mp member with cached | ⟨made, new, kept⟩ | old
    · exact Or.inl (Or.inl (exec_cache looks cached))
    · obtain ⟨line, answered⟩ := (exec_led looks new).records r kept first
      refine Or.inr ⟨good.lines piece List.mem_cons_self _ line, fun current alive => ?_⟩
      rcases answered with answered | ⟨asks, held⟩
      · exact Or.inl answered
      · rcases locally asks r.stamp line r.value held alive with registered | ⟨owing, -⟩
        · exact Or.inl registered
        · exact Or.inr (Owed.looked looks same _ (owing current))
    · exact Or.inl (Or.inr old)

end Service

end Samgr
