import Samgr.Cache.Coherence

/-! Queries of a base client for multi-instance abilities, which go to the manager of the
foreground user. -/
namespace Samgr

/-- The piece belongs to a registration of the ability by the client itself. -/
def ServicePiece.provides (sa : Int) : ServicePiece → Bool
  | .getMultiUserManager _ (.add id _ _ own) | .insertAbility _ id _ _ own => own && id == sa
  | .updateLimitDelayUnloadTime _ id _ | .addAbility id _ => id == sa
  | _ => false

namespace Service

variable {s : Service} {sa : Int} {pieces : List ServicePiece}

/-- The object that is registered for the ability in the manager of the foreground user. -/
def foregroundAnswer (s : Service) (sa : Int) : Option Nat :=
  (s.multiUserManagers s.foregroundUserId).bind fun host => s.checkAt host sa

/-- A base client of a multi-instance ability is answered by the foreground user's manager, and does
not provide the ability itself. -/
structure Fronted (s : Service) (pieces : List ServicePiece) (sa : Int) : Prop where
  multi : s.isMultiInstanceSaId sa = true
  client : s.caller = BASE_USER
  foreground : s.foregroundUserId ≠ BASE_USER
  switching : .handleUserSwitching BASE_USER ∉ pieces
  bare : s.localAbilitys[sa]? = none
  provides : ∀ piece ∈ pieces, piece.provides sa = false

theorem Fronted.answer (good : s.Fronted pieces sa) :
    s.checkSystemAbility sa = s.foregroundAnswer sa := by
  simp [checkSystemAbility, foregroundAnswer, route, routeForUser, good.multi, good.client,
    good.foreground]

theorem enter_switching {call : ServiceCall} : .handleUserSwitching BASE_USER ∉ s.enter call := by
  intro member
  cases call <;> simp only [enter, addSystemAbility, removeSystemAbility] at member
  all_goals
    repeat' split at member
    all_goals simp_all

/-- The user in the foreground is one that has switched, or none. -/
theorem exec_foreground (s : Service) (reply : Reply) (piece : ServicePiece) :
    ((s.exec reply piece).1.foregroundUserId = s.foregroundUserId ∨
      (s.exec reply piece).1.foregroundUserId = SAMGR_INVALID_USER_ID ∨
      piece = .handleUserSwitching (s.exec reply piece).1.foregroundUserId) ∧
    ∀ user, .handleUserSwitching user ∉ (s.exec reply piece).2 := by
  by_cases looks : piece.looks = true
  · refine ⟨Or.inl (exec_looks looks).foreground, fun user member => ?_⟩
    have led : Led s 0 piece (.handleUserSwitching user) := exec_led looks member
    cases led.plain
  cases piece with
  | insertAbility host id ability d own =>
      simp only [exec]
      split
      · rename_i found inside
        have change : RegistryChange s (s.insertAbility host found id ability d) host id :=
          insertAbility_change inside
        refine ⟨Or.inl change.routes.foreground, fun user => ?_⟩
        split <;> simp
      · exact ⟨Or.inl rfl, fun _ => List.not_mem_nil⟩
  | eraseAbility | eraseObject | eraseDiedAbility | destroy | eraseStoppingContext =>
      simp only [exec]
      repeat' split
      all_goals exact ⟨Or.inl rfl, by simp⟩
  | invalidateCache host id byId own =>
      simp only [exec]
      split
      · split
        · exact ⟨Or.inl rfl, fun _ => List.not_mem_nil⟩
        · refine ⟨Or.inl (invalidate_sameRoutes _ id).foreground, fun user => ?_⟩
          dsimp only
          split <;> simp
      · exact ⟨Or.inl rfl, fun _ => List.not_mem_nil⟩
  | setParameter => exact ⟨Or.inl rfl, fun _ => List.not_mem_nil⟩
  | createManager userId =>
      simp only [exec, createManager]
      repeat' split
      all_goals exact ⟨Or.inl rfl, fun _ => List.not_mem_nil⟩
  | handleUserSwitching userId =>
      simp only [exec, handleUserSwitching]
      split
      · exact ⟨Or.inl rfl, by simp⟩
      · exact ⟨Or.inr (Or.inr rfl), by simp⟩
  | handleUserStopping userId =>
      simp only [exec, handleUserStopping]
      split
      · exact ⟨Or.inl rfl, by simp⟩
      · split
        · exact ⟨Or.inl rfl, by simp⟩
        · refine ⟨?_, by simp⟩
          by_cases own : userId = s.foregroundUserId
          · exact Or.inr (Or.inl (if_pos own))
          · exact Or.inl (if_neg own)
  | startUserStopping userId host =>
      refine ⟨Or.inl rfl, fun user member => ?_⟩
      simp only [exec] at member
      split at member <;> simp at member
  | _ => exact absurd rfl looks

/-- Only its own calls change what the process of the client provides. -/
theorem exec_localAbilitys (s : Service) (reply : Reply) (piece : ServicePiece) :
    (s.exec reply piece).1.localAbilitys =
      match piece with
      | .addAbility id ability => s.localAbilitys.insert id ability
      | .removeAbility id => s.localAbilitys.erase id
      | _ => s.localAbilitys := by
  cases piece with
  | addAbility | removeAbility | getParameter | clearCache | getOnDemandSystemAbilityIds | store | returned
  | setParameter | handleUserActivating | unlockUser | startUserStopping => rfl
  | insertAbility host id ability d own =>
      simp only [exec]
      split
      · rcases insertAbility_cases with same | ⟨n, -, same⟩
        · rw [same]
        · rw [same]
          split
          · simp only [setHost, systemAbilityInvalidateCache]
            split <;> rfl
          · rfl
      · rfl
  | invalidateCache host id byId own =>
      simp only [exec, systemAbilityInvalidateCache]
      repeat' split
      all_goals rfl
  | createManager userId =>
      simp only [exec, createManager]
      repeat' split
      all_goals rfl
  | handleUserSwitching userId =>
      simp only [exec, handleUserSwitching]
      split <;> rfl
  | handleUserStopping userId =>
      simp only [exec, handleUserStopping]
      repeat' split
      all_goals rfl
  | isOnDemandSystemAbility | canUseCache | getAbility | routeForUser | checkSystemAbility | getMultiUserManager
  | isUserStopping | getStoppingMultiUserManager | updateLimitDelayUnloadTime | eraseAbility | eraseObject
  | eraseDiedAbility | destroy | eraseStoppingContext =>
      simp only [exec]
      repeat' split
      all_goals rfl

section Provides

variable {made : ServicePiece} {code : QueryCode} {id : Int}

theorem provides_request {w : Option WaterLine} (member : made ∈ request code id w) :
    made.provides sa = false := by
  rcases request_cases member with ⟨-, rfl⟩ | ⟨timeout, rfl | rfl⟩
  all_goals rfl

theorem provides_query {ids : List Int} (member : made ∈ queryPieces ids code id) :
    made.provides sa = false := by
  rcases queryPieces_cases member with ⟨-, rfl⟩ | ⟨timeout, rfl | rfl⟩ | rfl
  all_goals rfl

theorem provides_answered {query : Request} {answer : Option Nat} (member : made ∈ query.answered answer) :
    made.provides sa = false := by
  rcases answered_cases member with ⟨res, w, -, -, rfl⟩ | ⟨res, -, rfl⟩ | ⟨-, -, rfl⟩ | ⟨-, timeout, rfl⟩
  all_goals rfl

end Provides

/-- What comes of other pieces is no registration by the client. -/
theorem provides_of_exec {s : Service} {reply : Reply} {piece made : ServicePiece}
    (free : piece.provides sa = false) (member : made ∈ (s.exec reply piece).2) :
    made.provides sa = false := by
  cases piece with
  | isOnDemandSystemAbility code id =>
      simp only [exec] at member
      split at member
      · cases List.mem_singleton.mp member
        rfl
      · exact provides_query member
  | getOnDemandSystemAbilityIds code id => exact provides_query member
  | canUseCache code id w =>
      simp only [exec] at member
      split at member
      · cases List.mem_singleton.mp member
        rfl
      · rcases List.mem_cons.mp member with rfl | member
        · rfl
        · exact provides_request member
  | getAbility query =>
      simp only [exec] at member
      split at member
      · rename_i object _
        have asked : made ∈ query.answered (some object) := member
        exact provides_answered asked
      · cases List.mem_singleton.mp member
        rfl
  | checkSystemAbility query host =>
      simp only [exec] at member
      split at member
      · exact provides_answered member
      · have asked : made ∈ query.answered none := member
        exact provides_answered asked
      · cases List.mem_singleton.mp member
        rfl
  | getMultiUserManager userId purpose =>
      simp only [exec] at member
      split at member
      · cases List.mem_singleton.mp member
        rfl
      · rename_i query _
        have asked : made ∈ query.answered none := member
        exact provides_answered asked
      · cases List.mem_singleton.mp member
        exact free
      · cases List.mem_singleton.mp member
        rfl
      · cases member
  | insertAbility host id ability d own =>
      simp only [exec] at member
      split at member
      · dsimp only at member
        split at member
        · rename_i inserts
          cases List.mem_singleton.mp member
          simp only [Bool.and_eq_true] at inserts
          simpa [ServicePiece.provides, inserts.1] using free
        · cases member
      · cases member
  | updateLimitDelayUnloadTime host id ability =>
      simp only [exec] at member
      split at member
      · cases List.mem_singleton.mp member
        exact free
      · cases member
  | handleUserActivating userId =>
      simp only [exec, handleUserActivating] at member
      split at member
      · cases List.mem_singleton.mp member
        rfl
      · rcases List.mem_cons.mp member with rfl | member
        · rfl
        · cases List.mem_singleton.mp member
          rfl
  | handleUserStopping userId =>
      have shape : (∃ host, made = .startUserStopping userId host) ∨ made = .unlockUser userId := by
        simp only [exec, handleUserStopping] at member
        grind
      rcases shape with ⟨host, rfl⟩ | rfl
      all_goals rfl
  | _ =>
      simp only [exec] at member
      repeat' split at member
      all_goals
        first
          | cases member; done
          | cases List.mem_singleton.mp member; rfl

theorem Fronted.provides_enter (good : s.Fronted pieces sa) {call : ServiceCall} {piece : ServicePiece}
    (member : piece ∈ s.enter call) : piece.provides sa = false := by
  cases call with
  | proxyAddSystemAbility id ability d =>
      -- An ability of the users is refused to the base user.
      have other : id ≠ sa := by
        rintro rfl
        have refused : s.routeForSa id BASE_USER = false := by simp [routeForSa, good.multi]
        simp [enter, addSystemAbility, good.client, refused] at member
      simp only [enter, addSystemAbility] at member
      repeat' split at member
      all_goals
        first
          | cases member; done
          | cases List.mem_singleton.mp member; simp [ServicePiece.provides, other]
  | _ =>
      simp only [enter, addSystemAbility, removeSystemAbility] at member
      repeat' split at member
      all_goals
        first
          | cases member; done
          | cases List.mem_singleton.mp member; rfl

end Service

namespace Deployment

variable {sa : Int} {x : Deployment} {label : ServiceLabel}

/-- The base user never comes to the foreground. -/
theorem step_front (good : x.shared.Fronted x.inFlight sa) :
    (x.step label).shared.foregroundUserId ≠ BASE_USER ∧
      .handleUserSwitching BASE_USER ∉ (x.step label).inFlight := by
  refine Threads.Config.step_keeps (P := serviceProgram) (fun (s : Service) pieces =>
    s.foregroundUserId ≠ BASE_USER ∧ .handleUserSwitching BASE_USER ∉ pieces) ?_ ?_ ?_ ?_ ?_
    ⟨good.foreground, good.switching⟩
  · rintro s pieces others same ⟨foreground, switching⟩
    exact ⟨foreground, fun member => switching (same.mem_iff.mpr member)⟩
  · rintro call pieces ⟨foreground, switching⟩
    exact ⟨foreground, List.not_mem_append Service.enter_switching switching⟩
  · rintro reply piece others - - - ⟨foreground, switching⟩
    obtain ⟨moves, quiet⟩ := Service.exec_foreground x.shared reply piece
    constructor
    · intro based
      have based : (x.shared.exec reply piece).1.foregroundUserId = BASE_USER := based
      rcases moves with same | none | switched
      · exact foreground (same.symm.trans based)
      · exact absurd (none.symm.trans based) (by decide)
      · rw [based] at switched
        exact switching (List.mem_cons.mpr (Or.inl switched.symm))
    · refine List.not_mem_append (quiet BASE_USER) fun member => ?_
      exact switching (List.mem_cons_of_mem piece member)
  · intro made t pieces taken kept
    obtain ⟨rfl, invalidations, rfl⟩ := Service.take_eq_some taken
    exact ⟨kept.1, by simpa using kept.2⟩
  · intro action _ kept
    cases action <;> exact kept

/-- The client does not come to provide the ability. -/
theorem step_bare (good : x.shared.Fronted x.inFlight sa) :
    (x.step label).shared.localAbilitys[sa]? = none ∧
      ∀ piece ∈ (x.step label).inFlight, piece.provides sa = false := by
  refine Threads.Config.step_keeps (P := serviceProgram) (fun (s : Service) pieces =>
    s.localAbilitys[sa]? = none ∧ ∀ piece ∈ pieces, piece.provides sa = false) ?_ ?_ ?_ ?_ ?_
    ⟨good.bare, good.provides⟩
  · rintro s pieces others same ⟨bare, provides⟩
    exact ⟨bare, fun piece member => provides piece (same.mem_iff.mpr member)⟩
  · rintro call pieces ⟨bare, provides⟩
    refine ⟨bare, fun piece member => ?_⟩
    exact (List.mem_append.mp member).elim good.provides_enter (provides piece)
  · rintro reply piece others - - - ⟨bare, provides⟩
    have free : piece.provides sa = false := provides piece List.mem_cons_self
    refine ⟨?_, fun made member => ?_⟩
    · have table := Service.exec_localAbilitys x.shared reply piece
      cases piece with
      | addAbility id ability =>
          have other : id ≠ sa := by simpa [ServicePiece.provides] using free
          simpa [table, serviceProgram, Std.TreeMap.getElem?_insert, other] using bare
      | removeAbility id =>
          simp only [serviceProgram, table, Std.TreeMap.getElem?_erase]
          split
          · rfl
          · exact bare
      | _ => exact (congrArg (fun table => table[sa]?) table).trans bare
    · rcases List.mem_append.mp member with new | old
      · exact Service.provides_of_exec free new
      · exact provides made (List.mem_cons_of_mem piece old)
  · intro made t pieces taken kept
    obtain ⟨rfl, invalidations, rfl⟩ := Service.take_eq_some taken
    refine ⟨kept.1, fun piece member => ?_⟩
    rcases List.mem_cons.mp member with rfl | old
    · rfl
    · exact kept.2 piece old
  · intro action _ kept
    cases action <;> exact kept

theorem step_fronted (good : x.shared.Fronted x.inFlight sa) :
    (x.step label).shared.Fronted (x.step label).inFlight sa := by
  have fixed : Service.Fixed x.shared (x.step label).shared := step_fixed x label
  obtain ⟨foreground, switching⟩ := step_front good
  obtain ⟨bare, provides⟩ := step_bare good
  refine ⟨?_, fixed.caller.trans good.client, foreground, switching, bare, provides⟩
  rw [Service.isMultiInstanceSaId, fixed.multi]
  exact good.multi

/-- A query for the ability does not start while a removal of it is about to post its
invalidation. -/
def Timely (sa : Int) (x : Deployment) (label : ServiceLabel) : Prop :=
  match label with
  | .call call => Asks sa call → ∀ piece ∈ x.inFlight, piece.unposted sa = false
  | _ => True

theorem not_owed_of_timely {call : ServiceCall} (asks : Asks sa call)
    (timely : Timely sa x (.call call)) (emptied : x.shared.invalidations = 0)
    (ran : .setParameter ∉ x.inFlight) : ¬ x.shared.Owed x.inFlight sa := by
  rintro (waiting | ⟨piece, member, owes⟩)
  · exact waiting.ne' emptied
  · cases piece with
    | setParameter => exact ran member
    | invalidateCache host id byId =>
        have other := timely asks _ member
        simp only [Service.owes, Bool.and_eq_true] at owes
        simp only [ServicePiece.unposted, owes.1.1] at other
        cases other
    | _ => cases owes

variable {allSaProfiles : List SaProfile} {multiInstanceSaIds : List Int}

theorem runFrom_fronted (multi : sa ∈ multiInstanceSaIds) (labels : List ServiceLabel) :
    (runFrom allSaProfiles multiInstanceSaIds BASE_USER labels).shared.Fronted
      (runFrom allSaProfiles multiInstanceSaIds BASE_USER labels).inFlight sa := by
  have none_apart : SAMGR_INVALID_USER_ID ≠ BASE_USER := by decide
  refine Runs.run_invariant (fun x : Deployment => x.shared.Fronted x.inFlight sa)
    (fun x label => step_fronted) labels
    ⟨?_, rfl, none_apart, List.not_mem_nil, Std.TreeMap.getElem?_emptyc, fun _ => nofun⟩
  simpa [init, Service.init, Service.isMultiInstanceSaId] using multi

/-- What a step may do while a client queries a multi-instance ability. -/
structure Considerate (sa : Int) (x : Deployment) (label : ServiceLabel) : Prop where
  ticks : x.TicksApart sa label
  careful : x.Careful sa label
  served : x.Served sa label
  timely : x.Timely sa label

instance : Decidable (Timely sa x label) :=
  match label with
  | .call call => inferInstanceAs (Decidable (call = _ ∨ call = _ → _))
  | .run _ _ => isTrue trivial
  | .dispatch => isTrue trivial
  | .act _ => isTrue trivial

instance : Decidable (x.Considerate sa label) :=
  decidable_of_iff
    (x.TicksApart sa label ∧ x.Careful sa label ∧ x.Served sa label ∧ x.Timely sa label)
    ⟨fun ⟨ticks, careful, served, timely⟩ => ⟨ticks, careful, served, timely⟩,
      fun kind => ⟨kind.ticks, kind.careful, kind.served, kind.timely⟩⟩

/-- Along considerate steps, a query of a base client for a multi-instance ability that is
issued when all queued invalidations have run answers, cached or not, the object that was
registered in the foreground user's manager at a moment of the query. -/
theorem answer_follows_foreground (allSaProfiles : List SaProfile) (multiInstanceSaIds : List Int)
    (sa : Int) (multi : sa ∈ multiInstanceSaIds) (before during : List ServiceLabel)
    (query : ServiceCall) (asks : Asks sa query)
    (considerate : Runs.Guarded step (fun x label => x.Considerate sa label)
      (init allSaProfiles multiInstanceSaIds BASE_USER) (before ++ .call query :: during))
    (emptied : (runFrom allSaProfiles multiInstanceSaIds BASE_USER before).shared.invalidations = 0)
    (ran : .setParameter ∉ (runFrom allSaProfiles multiInstanceSaIds BASE_USER before).inFlight)
    (res : Option Nat) (cached : Bool)
    (answered : (runFrom allSaProfiles multiInstanceSaIds BASE_USER
        (before ++ .call query :: during)).thread
      (some (runFrom allSaProfiles multiInstanceSaIds BASE_USER before).clients.length) =
        [.returned res cached]) :
    ∃ mid, mid <+: during ∧ (runFrom allSaProfiles multiInstanceSaIds BASE_USER
      (before ++ .call query :: mid)).shared.foregroundAnswer sa = res := by
  have fronted (labels : List ServiceLabel) :
      (runFrom allSaProfiles multiInstanceSaIds BASE_USER labels).shared.Fronted
        (runFrom allSaProfiles multiInstanceSaIds BASE_USER labels).inFlight sa :=
    runFrom_fronted multi labels
  -- The client provides nothing of the ability, so whatever it does is current.
  have bare : Runs.Guarded step (fun (x : Deployment) _ => x.shared.localAbilitys[sa]? = none)
      (init allSaProfiles multiInstanceSaIds BASE_USER) (before ++ .call query :: during) :=
    Runs.guarded_of_prefix fun labels _ => (fronted labels).bare
  obtain ⟨first, timely, second⟩ := Runs.guarded_append.mp (considerate.and bare)
  have good := runFrom_tracked (first.mono fun x label kind =>
    ⟨kind.1.ticks, kind.1.careful, locallyCurrent_of_bare kind.2⟩)
  rw [runFrom_call] at answered
  obtain ⟨mid, ahead, answer⟩ := answer_of_query asks good
    (not_owed_of_timely asks timely.1.timely emptied ran)
    (second.mono fun x label kind => ⟨kind.1.ticks, kind.1.careful, locallyCurrent_of_bare kind.2⟩)
    (second.mono fun x label kind (_ : True) => ⟨kind.1.served, kind.2⟩) (Or.inl trivial) answered
  refine ⟨mid, ahead, ?_⟩
  rw [← (fronted (before ++ .call query :: mid)).answer, runFrom_call]
  exact answer

/-- One multi-instance ability. -/
def instanced : List SaProfile := [{ process := "host", saId := 1, runOnCreate := true }]

/-- Two users are active, the first in the foreground, and the ability is registered for
both. -/
def twoUsers : List ServiceLabel :=
  [.act (.elapse 5)] ++ invalidate ++
    [.call (.onUserStateChanged 100 .activating)] ++ runs 0 3 ++
    [.call (.onUserStateChanged 101 .activating)] ++ runs 1 3 ++
    [.call (.onUserStateChanged 100 .switching)] ++ runs 2 2 ++
    [.call (.addSystemAbility 100 1 10 false)] ++ runs 3 2 ++
    [.call (.addSystemAbility 101 1 11 false)] ++ runs 4 2

/-- The second of two queries is answered from the cache. -/
theorem second_query_follows_foreground : ∃ mid, mid <+: runs 6 3 ∧
    (runFrom instanced [1] BASE_USER (twoUsers ++ [.call (.getSystemAbility 1)] ++ runs 5 11 ++
      .call (.getSystemAbility 1) :: mid)).shared.foregroundAnswer 1 = some 10 := by
  have answer := answer_follows_foreground instanced [1] 1 (by decide)
    (twoUsers ++ [.call (.getSystemAbility 1)] ++ runs 5 11) (runs 6 3) (.getSystemAbility 1)
    (Or.inl rfl) (by decide +kernel) (by decide +kernel) (by decide +kernel) (some 10) true
    (by decide +kernel)
  exact answer

/-- The client queries the ability, and the second user comes to the foreground. -/
def switchAfterQuery : List ServiceLabel :=
  twoUsers ++ [.call (.getSystemAbility 1)] ++ runs 5 11 ++
    [.call (.onUserStateChanged 101 .switching)] ++ runs 6 2

theorem cached_answer_survives_switch :
    ¬ ∀ (allSaProfiles : List SaProfile) (multiInstanceSaIds : List Int) (sa : Int)
      (before during : List ServiceLabel) (query : ServiceCall) (res : Option Nat) (cached : Bool),
      sa ∈ multiInstanceSaIds → Asks sa query →
      (runFrom allSaProfiles multiInstanceSaIds BASE_USER before).Settled →
      (runFrom allSaProfiles multiInstanceSaIds BASE_USER (before ++ .call query :: during)).thread
        (some (runFrom allSaProfiles multiInstanceSaIds BASE_USER before).clients.length) =
          [.returned res cached] →
      ∃ mid, mid <+: during ∧ (runFrom allSaProfiles multiInstanceSaIds BASE_USER
        (before ++ .call query :: mid)).shared.foregroundAnswer sa = res := by
  intro always
  obtain ⟨mid, ahead, answer⟩ := always instanced [1] 1 switchAfterQuery (runs 7 3)
    (.getSystemAbility 1) (some 10) true (by decide) (Or.inl rfl) (by decide +kernel)
    (by decide +kernel)
  have never : ∀ mid ∈ (runs 7 3).inits, (runFrom instanced [1] BASE_USER
      (switchAfterQuery ++ .call (.getSystemAbility 1) :: mid)).shared.foregroundAnswer 1 ≠
        some 10 := by
    decide +kernel
  exact never mid ((List.mem_inits mid _).mpr ahead) answer

end Deployment

end Samgr
