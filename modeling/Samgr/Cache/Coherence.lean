import Samgr.Cache.Updates
import Mathlib.Data.List.Infix

/-! Runs of the service and a client with a cache: what a query answers is what the service
would have answered at a moment of the query. -/
namespace Samgr

namespace Service

variable {s : Service} {sa : Int} {pieces others : List ServicePiece}

/-- A call brings nothing of a query with it. -/
theorem enter_bare {call : ServiceCall} {piece : ServicePiece} (sa : Int)
    (member : piece ∈ s.enter call) :
    piece.waterLine = none ∧ piece.record sa = none ∧ piece.routed sa = false ∧
      ∀ user host, piece ≠ .startUserStopping user host := by
  cases call <;> simp only [enter, addSystemAbility, removeSystemAbility] at member
  all_goals
    repeat' split at member
    all_goals
      first
        | cases List.mem_singleton.mp member; exact ⟨rfl, rfl, rfl, fun _ _ same => nomatch same⟩
        | cases member

theorem records_enter {call : ServiceCall} :
    s.records (s.enter call ++ pieces) sa ⊆ s.records pieces sa := by
  intro r member
  rcases mem_records_append.mp member with cached | ⟨piece, new, kept⟩ | ⟨piece, old, kept⟩
  · exact List.mem_append_left _ cached
  · rw [(enter_bare sa new).2.1] at kept
    cases kept
  · exact List.mem_append_right _ (List.mem_filterMap.mpr ⟨piece, old, kept⟩)

theorem Tracked.enter (call : ServiceCall) (good : s.Tracked pieces sa) :
    s.Tracked (s.enter call ++ pieces) sa := by
  constructor
  · refine ⟨good.managed.base, good.managed.users, good.managed.apart, fun user host leaves => ?_⟩
    refine good.managed.leaving user host (leaves.imp_right fun member => ?_)
    rcases List.mem_append.mp member with new | old
    · exact absurd rfl ((enter_bare sa new).2.2.2 user host)
    · exact old
  · exact good.clock
  · intro piece member w kept
    rcases List.mem_append.mp member with new | old
    · rw [(enter_bare sa new).1] at kept
      cases kept
    · exact good.lines piece old w kept
  · intro piece member
    rcases List.mem_append.mp member with new | old
    · exact routedNow_of_not_routed (enter_bare sa new).2.2.1
    · exact good.routed piece old
  · refine good.coherent.fewer records_enter (Or.imp_right ?_)
    rintro ⟨piece, member, owing⟩
    exact ⟨piece, List.mem_append_right _ member, owing⟩

/-- A task leaves the queue as the piece that is to run. -/
theorem Tracked.take {t : Service} {made : List ServicePiece} (taken : s.take = some (made, t))
    (good : s.Tracked pieces sa) : t.Tracked (made ++ pieces) sa := by
  obtain ⟨rfl, invalidations, rfl⟩ := take_eq_some taken
  constructor
  · refine ⟨good.managed.base, good.managed.users, good.managed.apart, fun user host leaves => ?_⟩
    exact good.managed.leaving user host (leaves.imp_right fun member => by simpa using member)
  · exact good.clock
  · intro piece member w kept
    rcases List.mem_cons.mp member with rfl | old
    · cases kept
    · exact good.lines piece old w kept
  · intro piece member
    rcases List.mem_cons.mp member with rfl | old
    · trivial
    · exact routedNow_of_target rfl (good.routed piece old)
  · refine good.coherent.fewer (fun r member => member) fun _ => ?_
    exact Or.inr ⟨.setParameter, List.mem_cons_self, rfl⟩

theorem Tracked.act (action : ServiceAction) (good : s.Tracked pieces sa) :
    (s.act action).Tracked pieces sa := by
  have owed : s.Owed pieces sa → (s.act action).Owed pieces sa := by
    cases action with
    | elapse ticks =>
        rintro (waiting | ⟨piece, member, owing⟩)
        · exact Or.inl waiting
        · exact Or.inr ⟨piece, member, by rw [← owing]; cases piece <;> rfl⟩
    | die object =>
        rintro (waiting | ⟨piece, member, owing⟩)
        · exact Or.inl waiting
        · exact Or.inr ⟨piece, member, by rw [← owing]; cases piece <;> rfl⟩
  obtain ⟨base, users, apart, leaving⟩ := good.managed
  cases action with
  | elapse ticks =>
      refine ⟨⟨base, users, apart, leaving⟩, ?_, good.lines, fun piece member => ?_, ?_⟩
      · refine good.clock.trans ?_
        exact WithBot.coe_le_coe.mpr (Nat.le_add_right s.tickCount ticks)
      · exact routedNow_of_target rfl (good.routed piece member)
      · exact good.coherent.fewer (List.Subset.refl _) owed
  | die object =>
      refine ⟨⟨base, users, apart, leaving⟩, good.clock, good.lines, fun piece member => ?_, ?_⟩
      · exact routedNow_of_target rfl (good.routed piece member)
      · refine good.coherent.join (fun r member => Or.inl member) ?_ owed
        intro value alive dead
        exact alive (List.mem_cons_of_mem object dead)

/-! One query -/

variable (start : WaterLine) (seen : Option Nat → Prop) (honest : Prop)

/-- The piece belongs to a query for the ability that started under the parameter `start`.
What it is about to answer from the cache has been seen; another answer only if the query is
honest, that is, if its last request is not turned away and it finds nothing in its own process. -/
def Answers (sa : Int) : ServicePiece → Prop
  | .isOnDemandSystemAbility _ id | .getOnDemandSystemAbilityIds _ id | .getParameter _ id => id = sa
  | .canUseCache _ id waterLine => id = sa ∧ start ≤ waterLine
  | .clearCache => True
  | .getAbility request | .routeForUser request | .getMultiUserManager _ (.check request)
  | .checkSystemAbility request _ => request.systemAbilityId = sa
  | .store _ _ res => honest → seen (some res)
  | .returned res cached =>
      (∀ object, res = some object → honest ∨ cached = true → seen (some object)) ∧
        (honest → res = none → seen none)
  | _ => False

/-- The last request of a query is turned away, or access is denied. -/
def refuses (reply : Reply) : ServicePiece → Bool
  | .checkSystemAbility request _ =>
      match reply with
      | .served => false
      | .turnedAway => request.timeout == 0
      | .denied => true
  | _ => false

variable {start seen honest} {reply : Reply} {piece made : ServicePiece}

theorem checkSystemAbility_invalid (invalid : checkInputSysAbilityId sa = false) :
    s.checkSystemAbility sa = none := by
  have none_at : ∀ host, s.checkAt host sa = none := by
    intro host
    unfold checkAt
    cases s.hosts[host]? with
    | none => rfl
    | some found => simp [Manager.checkSystemAbility, invalid]
  unfold checkSystemAbility
  cases s.route sa with
  | none => rfl
  | some host => exact none_at host

theorem answers_none (shown : honest → seen none) : Answers start seen honest sa (.returned none false) :=
  ⟨fun _ absent => (by cases absent), fun honestly _ => shown honestly⟩

theorem answers_some {object : Nat} {cached : Bool} (shown : honest ∨ cached = true → seen (some object)) :
    Answers start seen honest sa (.returned (some object) cached) := by
  refine ⟨fun other same => ?_, fun _ absent => by cases absent⟩
  cases same
  exact shown

theorem answers_request (now : seen (s.checkSystemAbility sa)) {code : QueryCode}
    {w : Option WaterLine} (member : made ∈ request code sa w) : Answers start seen honest sa made := by
  rcases request_cases member with ⟨invalid, rfl⟩ | ⟨timeout, rfl | rfl⟩
  · rw [checkSystemAbility_invalid invalid] at now
    exact answers_none fun _ => now
  · exact rfl
  · exact rfl

theorem answers_query (now : seen (s.checkSystemAbility sa)) {ids : List Int} {code : QueryCode}
    (member : made ∈ queryPieces ids code sa) : Answers start seen honest sa made := by
  unfold queryPieces at member
  split at member
  · exact answers_request now member
  · cases List.mem_singleton.mp member
    exact rfl

theorem answers_answered {query : Request} {answer : Option Nat} (own : query.systemAbilityId = sa)
    (some_seen : ∀ object, answer = some object → honest → seen (some object))
    (none_seen : honest → answer = none → query.timeout = 0 → seen none)
    (member : made ∈ query.answered answer) : Answers start seen honest sa made := by
  rcases answered_cases member with ⟨res, w, found, -, rfl⟩ | ⟨res, found, rfl⟩ |
    ⟨absent, last, rfl⟩ | ⟨-, timeout, rfl⟩
  · exact some_seen res found
  · exact answers_some fun counts => some_seen res found (counts.resolve_right Bool.false_ne_true)
  · exact answers_none fun honestly => none_seen honestly absent last
  · exact own

theorem record_of_hit {object : Nat} {w : WaterLine}
    (hit : s.cache.canUseCache s.dead sa w = some object) :
    (⟨object, w⟩ : Stamped.Record Nat WaterLine) ∈ s.cache.records sa ∧ s.live object := by
  unfold DynamicCache.canUseCache at hit
  split at hit
  · rename_i conditions
    obtain ⟨own, -, stored⟩ := conditions
    obtain ⟨proxy, alive⟩ := Option.filter_eq_some_iff.mp hit
    refine ⟨?_, by simpa [live] using alive⟩
    simp [DynamicCache.records, stored, proxy, own]
  · cases hit

/-- The pieces that a piece of the query leads to belong to the query as well. -/
theorem exec_answers (good : s.Tracked pieces sa) (inside : piece ∈ pieces)
    (covers : piece.mayHit sa = true → Stamped.Covers start seen s.live (s.records pieces sa))
    (since : start ≤ s.parameter) (now : seen (s.checkSystemAbility sa))
    (honestly : honest → refuses reply piece = false) (bare : honest → s.localAbilitys[sa]? = none)
    (answers : Answers start seen honest sa piece) (member : made ∈ (s.exec reply piece).2) :
    Answers start seen honest sa made := by
  cases piece with
  | isOnDemandSystemAbility code id =>
      obtain rfl : id = sa := answers
      simp only [exec] at member
      split at member
      · cases List.mem_singleton.mp member
        exact rfl
      · exact answers_query now member
  | getOnDemandSystemAbilityIds code id =>
      obtain rfl : id = sa := answers
      exact answers_query now member
  | getParameter code id =>
      cases List.mem_singleton.mp member
      exact ⟨answers, since⟩
  | canUseCache code id w =>
      obtain ⟨rfl, late⟩ := answers
      simp only [exec] at member
      split at member
      · rename_i object hit
        cases List.mem_singleton.mp member
        obtain ⟨kept, alive⟩ := record_of_hit hit
        exact answers_some fun _ => covers (by simp [ServicePiece.mayHit]) _ (List.mem_append_left _ kept) late alive
      · rcases List.mem_cons.mp member with rfl | member
        · exact trivial
        · exact answers_request now member
  | clearCache => cases member
  | getAbility query =>
      have own : query.systemAbilityId = sa := answers
      simp only [exec] at member
      split at member
      · rename_i object held
        have asked : made ∈ query.answered (some object) := member
        refine answers_answered own (fun _ _ honest => ?_) (fun _ absent _ => by cases absent) asked
        rw [own, bare honest] at held
        cases held
      · cases List.mem_singleton.mp member
        exact own
  | routeForUser query =>
      simp only [exec] at member
      split at member
      · cases List.mem_singleton.mp member
        exact answers
      · cases List.mem_singleton.mp member
        exact answers
  | checkSystemAbility query host =>
      have own : query.systemAbilityId = sa := answers
      have here : s.checkAt host query.systemAbilityId = s.checkSystemAbility sa := by
        rw [own, checkSystemAbility_of_route (good.routed _ inside own)]
      simp only [exec] at member
      split at member
      · have asked : made ∈ query.answered (s.checkSystemAbility sa) := by rwa [here] at member
        refine answers_answered own (fun object found _ => ?_) (fun _ absent _ => ?_) asked
        · rw [← found]
          exact now
        · rw [← absent]
          exact now
      · have asked : made ∈ query.answered none := member
        refine answers_answered own (fun object absent => by cases absent) ?_ asked
        intro honest _ last
        have kept := honestly honest
        simp [refuses, last] at kept
      · cases List.mem_singleton.mp member
        refine answers_none fun honest => ?_
        have kept := honestly honest
        cases kept
  | store id w res =>
      cases List.mem_singleton.mp member
      exact answers_some fun counts => answers (counts.resolve_right Bool.false_ne_true)
  | returned => cases member
  | getMultiUserManager userId purpose =>
      cases purpose with
      | check query =>
          have own : query.systemAbilityId = sa := answers
          obtain ⟨user, elsewhere⟩ := good.routed _ inside own
          simp only [exec] at member
          cases found : s.multiUserManagers userId with
          | some host =>
              simp only [found] at member
              cases List.mem_singleton.mp member
              exact own
          | none =>
              simp only [found] at member
              have asked : made ∈ query.answered none := member
              refine answers_answered own (fun object absent => by cases absent) ?_ asked
              intro _ _ _
              have absent : s.checkSystemAbility sa = none := by
                rw [user] at found elsewhere
                simp [checkSystemAbility, route, elsewhere, found]
              rw [← absent]
              exact now
      | add | remove => cases answers
  | _ => cases answers

/-- A query does not come to look into the cache twice. -/
theorem mayHit_of_exec (answers : Answers start seen honest sa piece) (member : made ∈ (s.exec reply piece).2)
    (hits : made.mayHit sa = true) : piece.mayHit sa = true := by
  have late : ∀ (query : Request) (answer : Option Nat), made ∈ query.answered answer →
      made.mayHit sa = false := by
    intro query answer inside
    rcases answered_cases inside with ⟨res, w, -, -, rfl⟩ | ⟨res, -, rfl⟩ | ⟨-, -, rfl⟩ | ⟨-, timeout, rfl⟩
    all_goals rfl
  cases piece with
  | isOnDemandSystemAbility code id | getOnDemandSystemAbilityIds code id | getParameter code id =>
      have own : id = sa := answers
      simp [ServicePiece.mayHit, own]
  | canUseCache code id w => simp [ServicePiece.mayHit, answers.1]
  | clearCache | returned => cases member
  | getAbility query =>
      simp only [exec] at member
      split at member
      · rename_i object _
        rw [late query (some object) member] at hits
        cases hits
      · cases List.mem_singleton.mp member
        cases hits
  | routeForUser query =>
      simp only [exec] at member
      split at member
      · cases List.mem_singleton.mp member
        cases hits
      · cases List.mem_singleton.mp member
        cases hits
  | checkSystemAbility query host =>
      simp only [exec] at member
      split at member
      · rw [late query _ member] at hits
        cases hits
      · rw [late query none member] at hits
        cases hits
      · cases List.mem_singleton.mp member
        cases hits
  | store id w res =>
      cases List.mem_singleton.mp member
      cases hits
  | getMultiUserManager userId purpose =>
      cases purpose with
      | check query =>
          simp only [exec] at member
          cases found : s.multiUserManagers userId with
          | some host =>
              simp only [found] at member
              cases List.mem_singleton.mp member
              cases hits
          | none =>
              simp only [found] at member
              rw [late _ _ member] at hits
              cases hits
      | add | remove => cases answers
  | _ => cases answers

/-- The client stays, and the parameter unless the piece sets it. -/
def LeavesClient (s : Service) (piece : ServicePiece) (t : Service) : Prop :=
  t.cache = s.cache ∧ t.dead = s.dead ∧ (piece ≠ .setParameter → t.parameter = s.parameter)

theorem leavesClient_refl : LeavesClient s piece s := ⟨rfl, rfl, fun _ => rfl⟩

theorem SameClient.leaves {t : Service} (same : SameClient s t) : LeavesClient s piece t :=
  ⟨same.cache, same.dead, fun _ => same.parameter⟩

/-- A piece that changes the service leaves the client alone. -/
theorem exec_acts (acts : piece.looks = false) :
    LeavesClient s piece (s.exec reply piece).1 ∧
      ∀ made ∈ (s.exec reply piece).2, made.record sa = none := by
  cases piece with
  | insertAbility host id ability d own =>
      simp only [exec]
      split
      · rename_i found inside
        have change : RegistryChange s (s.insertAbility host found id ability d) host id :=
          insertAbility_change inside
        refine ⟨change.client.leaves, fun made member => ?_⟩
        split at member
        · cases List.mem_singleton.mp member
          rfl
        · cases member
      · exact ⟨leavesClient_refl, fun _ member => absurd member List.not_mem_nil⟩
  | invalidateCache host id byId own =>
      simp only [exec]
      split
      · split
        · exact ⟨leavesClient_refl, fun _ member => absurd member List.not_mem_nil⟩
        · refine ⟨(invalidate_sameClient _ id).leaves, fun made member => ?_⟩
          dsimp only at member
          split at member
          · cases List.mem_singleton.mp member
            rfl
          · cases member
      · exact ⟨leavesClient_refl, fun _ member => absurd member List.not_mem_nil⟩
  | eraseAbility | eraseObject | eraseDiedAbility | destroy | eraseStoppingContext =>
      simp only [exec]
      repeat' split
      all_goals exact ⟨⟨rfl, rfl, fun _ => rfl⟩, by simp [ServicePiece.record]⟩
  | setParameter => exact ⟨⟨rfl, rfl, fun other => absurd rfl other⟩, fun _ member => absurd member List.not_mem_nil⟩
  | createManager userId =>
      simp only [exec, createManager]
      repeat' split
      all_goals exact ⟨⟨rfl, rfl, fun _ => rfl⟩, fun _ member => absurd member List.not_mem_nil⟩
  | handleUserSwitching userId =>
      simp only [exec, handleUserSwitching]
      split
      all_goals exact ⟨⟨rfl, rfl, fun _ => rfl⟩, by simp [ServicePiece.record]⟩
  | handleUserStopping userId =>
      simp only [exec, handleUserStopping]
      repeat' split
      all_goals exact ⟨⟨rfl, rfl, fun _ => rfl⟩, by simp [ServicePiece.record]⟩
  | startUserStopping userId host =>
      refine ⟨⟨rfl, rfl, fun _ => rfl⟩, fun made member => ?_⟩
      simp only [exec] at member
      split at member
      · cases List.mem_singleton.mp member
        rfl
      · cases member
  | _ => cases acts

/-- While a query has still to look into the cache, or there is nothing of the ability in the process. -/
theorem exec_covers (good : s.Tracked (piece :: others) sa)
    (covers : Stamped.Covers start seen s.live (s.records (piece :: others) sa))
    (now : seen (s.checkSystemAbility sa)) (locally : s.LocallyCurrent (piece :: others) sa piece)
    (watching : (∃ other ∈ piece :: others, other.mayHit sa = true) ∨ s.localAbilitys[sa]? = none) :
    Stamped.Covers start seen (s.exec reply piece).1.live
      ((s.exec reply piece).1.records ((s.exec reply piece).2 ++ others) sa) := by
  by_cases looks : piece.looks = true
  · rw [(exec_looks looks).live]
    refine covers.move (fun r member => ?_) (fun _ => id)
    rw [mem_records_cons]
    rcases mem_records_append.mp member with cached | ⟨made, new, kept⟩ | old
    · exact Or.inl (Or.inl (exec_cache looks cached))
    · have led : Led s sa piece made := exec_led looks new
      obtain ⟨line, answered⟩ := led.records r kept (good.routed piece List.mem_cons_self)
      refine Or.inr fun alive => ?_
      have registered : s.checkSystemAbility sa = some r.value := by
        rcases answered with answered | ⟨asks, held⟩
        · exact answered
        · rcases locally asks r.stamp line r.value held alive with registered | ⟨-, unwatched⟩
          · exact registered
          · rcases watching with ⟨other, inside, hits⟩ | bare
            · rw [unwatched other inside] at hits
              cases hits
            · rw [bare] at held
              cases held
      rw [registered] at now
      exact now
    · exact Or.inl (Or.inr old)
  · obtain ⟨⟨cache, dead, -⟩, bare⟩ := exec_acts (Bool.eq_false_of_not_eq_true looks)
    refine covers.move (fun r member => ?_) ?_
    · rw [mem_records_cons]
      rcases mem_records_append.mp member with cached | ⟨made, new, kept⟩ | old
      · rw [cache] at cached
        exact Or.inl (Or.inl (List.mem_append_left _ cached))
      · rw [bare made new] at kept
        cases kept
      · exact Or.inl (Or.inr old)
    · intro value alive
      unfold live at alive ⊢
      rwa [dead] at alive

theorem exec_parameter (good : s.Tracked pieces sa) (piece : ServicePiece) :
    s.parameter ≤ (s.exec reply piece).1.parameter := by
  by_cases sets : piece = .setParameter
  · subst sets
    exact good.clock
  by_cases looks : piece.looks = true
  · exact (exec_looks looks).parameter.ge
  · have acts : LeavesClient s piece (s.exec reply piece).1 ∧
        ∀ made ∈ (s.exec reply piece).2, made.record sa = none :=
      exec_acts (Bool.eq_false_of_not_eq_true looks)
    exact (acts.1.2.2 sets).ge

/-! Conditions on a step -/

theorem Unheld.perm (same : pieces.Perm others) (unheld : s.Unheld pieces sa) : s.Unheld others sa :=
  fun r member => unheld r (records_perm same member)

theorem Careful.perm {t : Service} (same : pieces.Perm others) (careful : Careful s pieces sa t) :
    Careful s others sa t := by
  refine ⟨fun moved => ?_, fun changed onDemand => (careful.2 changed onDemand).perm same⟩
  obtain ⟨unheld, free⟩ := careful.1 moved
  exact ⟨unheld.perm same, fun piece member => free piece (same.mem_iff.mpr member)⟩

theorem LocallyCurrent.perm {piece : ServicePiece} (same : pieces.Perm others)
    (locally : s.LocallyCurrent pieces sa piece) : s.LocallyCurrent others sa piece := by
  intro asks waterLine line object held alive
  refine (locally asks waterLine line object held alive).imp_right fun ⟨owing, unwatched⟩ => ?_
  exact ⟨fun current => (owing current).perm same, fun other member => unwatched other (same.mem_iff.mpr member)⟩

theorem Pending.perm (same : pieces.Perm others) (pending : s.Pending pieces sa) :
    s.Pending others sa := by
  refine pending.imp_right ?_
  rintro ⟨piece, member, owes⟩
  exact ⟨piece, same.mem_iff.mp member, owes⟩

theorem Current.perm (same : pieces.Perm others) (current : s.Current pieces sa) :
    s.Current others sa :=
  fun r member => current r (records_perm same member)

end Service

/-- The piece is an invalidation that is to run, or is about to post one. -/
def ServicePiece.invalidates : ServicePiece → Bool
  | .setParameter | .invalidateCache .. => true
  | _ => false

namespace Deployment

variable (sa : Int) (x : Deployment) (label : ServiceLabel)

/-- An invalidation that runs in the tick which the parameter already shows leaves nothing
stale behind: another invalidation is still to run, or every live object of the ability that
the client holds under the parameter is the registered one. -/
def TicksApart : Prop :=
  x.next label = some .setParameter → x.shared.parameter = x.shared.tickCount →
    x.shared.Pending x.inFlight sa ∨ x.shared.Current x.inFlight sa

def Careful : Prop := Service.Careful x.shared x.inFlight sa (x.step label).shared

/-- What a request finds in its own process does no harm in the cache. -/
def LocallyCurrent : Prop := ∀ piece ∈ x.next label, x.shared.LocallyCurrent x.inFlight sa piece

/-- No request for the ability is refused as the last of its query. -/
def Served : Prop :=
  match label with
  | .run _ reply =>
      (x.next label).all (fun piece => !(piece.routed sa && Service.refuses reply piece)) = true
  | _ => True

instance : Decidable (x.TicksApart sa label) :=
  inferInstanceAs (Decidable (_ → _ → _ ∨ _))

instance : Decidable (x.Careful sa label) :=
  inferInstanceAs (Decidable (Service.Careful x.shared x.inFlight sa (x.step label).shared))

instance : Decidable (x.LocallyCurrent sa label) :=
  inferInstanceAs (Decidable (∀ piece ∈ x.next label, x.shared.LocallyCurrent x.inFlight sa piece))

instance : Decidable (x.Served sa label) :=
  match label with
  | .run client reply => inferInstanceAs (Decidable ((x.next (.run client reply)).all _ = true))
  | .call _ => isTrue trivial
  | .dispatch => isTrue trivial
  | .act _ => isTrue trivial

variable {sa x label}

/-- Where the process has nothing of the ability, nothing is found. -/
theorem locallyCurrent_of_bare (bare : x.shared.localAbilitys[sa]? = none) : x.LocallyCurrent sa label := by
  intro piece _ _ _ _ object held
  rw [bare] at held
  cases held

theorem step_tracked (ticks : x.TicksApart sa label) (careful : x.Careful sa label)
    (locally : x.LocallyCurrent sa label) (good : x.shared.Tracked x.inFlight sa) :
    (x.step label).shared.Tracked (x.step label).inFlight sa := by
  refine Threads.Config.step_keeps_input (P := serviceProgram)
    (fun (s : Service) pieces => s.Tracked pieces sa) ?_ ?_ ?_ ?_ ?_ good
  · exact fun same => Service.Tracked.perm same
  · exact fun call pieces => Service.Tracked.enter call
  · rintro client reply piece others rfl next opened kept
    refine Service.exec_tracked kept ?_ ((locally piece next).perm opened) ?_
    · have shared : (x.step (.run client reply)).shared = (x.shared.exec reply piece).1 :=
        Threads.Config.shared_of_run next
      rw [← shared]
      exact Service.Careful.perm opened careful
    · rintro rfl still
      exact (ticks next still).imp (Service.Pending.perm opened) (Service.Current.perm opened)
  · exact fun made t pieces taken => Service.Tracked.take taken
  · exact fun action _ => Service.Tracked.act action

/-- A query for the ability is watched from its start under the parameter `start` on: the
objects held since then and the pieces of its thread answer what has been seen. -/
structure Watched (start : WaterLine) (seen : Option Nat → Prop) (honest : Prop) (sa : Int)
    (n : Nat) (x : Deployment) : Prop where
  tracked : x.shared.Tracked x.inFlight sa
  since : start ≤ x.shared.parameter
  covers : honest ∨ (∃ piece ∈ x.thread (some n), piece.mayHit sa = true) →
    Stamped.Covers start seen x.shared.live (x.shared.records x.inFlight sa)
  inside : n < x.clients.length
  answers : ∀ piece ∈ x.thread (some n), Service.Answers start seen honest sa piece

variable {start : WaterLine} {seen : Option Nat → Prop} {honest : Prop} {n : Nat}

/-- A step keeps what the cache covers while a query has still to look into it. -/
theorem step_covers (tracked : x.shared.Tracked x.inFlight sa)
    (covers : Stamped.Covers start seen x.shared.live (x.shared.records x.inFlight sa))
    (now : seen (x.shared.checkSystemAbility sa)) (locally : x.LocallyCurrent sa label)
    (watching : (∃ piece ∈ x.inFlight, piece.mayHit sa = true) ∨ x.shared.localAbilitys[sa]? = none) :
    Stamped.Covers start seen (x.step label).shared.live
      ((x.step label).shared.records (x.step label).inFlight sa) := by
  refine Threads.Config.step_keeps_input (P := serviceProgram) (fun (s : Service) pieces =>
    Stamped.Covers start seen s.live (s.records pieces sa)) ?_ ?_ ?_ ?_ ?_ covers
  · intro s pieces others same covers
    exact covers.move (fun r member => Or.inl (Service.records_perm same member)) fun _ => id
  · intro call pieces covers
    exact covers.move (fun r member => Or.inl (Service.records_enter member)) fun _ => id
  · rintro client reply piece others rfl next opened covers
    refine Service.exec_covers (tracked.perm opened) covers now ((locally piece next).perm opened) ?_
    exact watching.imp_left fun ⟨other, member, hits⟩ => ⟨other, opened.mem_iff.mp member, hits⟩
  · intro made t pieces taken covers
    obtain ⟨rfl, invalidations, rfl⟩ := Service.take_eq_some taken
    exact covers
  · intro action _ covers
    cases action with
    | elapse ticks => exact covers
    | die object =>
        refine covers.move (fun r => Or.inl) ?_
        intro value alive dead
        exact alive (List.mem_cons_of_mem object dead)

theorem step_parameter (tracked : x.shared.Tracked x.inFlight sa) :
    x.shared.parameter ≤ (x.step label).shared.parameter := by
  refine Threads.Config.step_keeps_input (P := serviceProgram) (fun (s : Service) _ =>
    x.shared.parameter ≤ s.parameter) ?_ ?_ ?_ ?_ ?_ le_rfl
  · exact fun _ => id
  · exact fun _ _ => id
  · rintro client reply piece others - - opened -
    exact Service.exec_parameter (tracked.perm opened) piece
  · intro made t pieces taken since
    obtain ⟨rfl, invalidations, rfl⟩ := Service.take_eq_some taken
    exact since
  · intro action _ since
    cases action <;> exact since

/-- The thread of a query runs one of its pieces, or stays. -/
theorem Watched.moves (good : Watched start seen honest sa n x) (label : ServiceLabel) :
    (x.step label).thread (some n) = x.thread (some n) ∨
      ∃ reply piece rest, label = .run (some n) reply ∧ x.next label = some piece ∧
        x.thread (some n) = piece :: rest ∧
        (x.step label).thread (some n) = (x.shared.exec reply piece).2 ++ rest :=
  Threads.Config.thread_step good.inside

/-- What has still to look into the cache had to before. -/
theorem Watched.mayHit (good : Watched start seen honest sa n x)
    (hits : ∃ piece ∈ (x.step label).thread (some n), piece.mayHit sa = true) :
    ∃ piece ∈ x.thread (some n), piece.mayHit sa = true := by
  obtain ⟨made, member, hit⟩ := hits
  rcases good.moves label with same | ⟨reply, piece, rest, -, -, shape, after⟩
  · rw [same] at member
    exact ⟨made, member, hit⟩
  · rw [after] at member
    rw [shape]
    have first : Service.Answers start seen honest sa piece :=
      good.answers piece (by rw [shape]; exact List.mem_cons_self)
    rcases List.mem_append.mp member with new | old
    · exact ⟨piece, List.mem_cons_self, Service.mayHit_of_exec first new hit⟩
    · exact ⟨made, List.mem_cons_of_mem piece old, hit⟩

theorem Watched.step_answers (good : Watched start seen honest sa n x)
    (served : honest → x.Served sa label) (bare : honest → x.shared.localAbilitys[sa]? = none)
    (now : seen (x.shared.checkSystemAbility sa)) :
    ∀ piece ∈ (x.step label).thread (some n), Service.Answers start seen honest sa piece := by
  rcases good.moves label with same | ⟨reply, piece, rest, rfl, next, shape, after⟩
  · intro piece member
    refine good.answers piece ?_
    rw [← same]
    exact member
  · intro made member
    rw [after] at member
    have inside : piece ∈ x.thread (some n) := by rw [shape]; exact List.mem_cons_self
    have first : Service.Answers start seen honest sa piece := good.answers piece inside
    rcases List.mem_append.mp member with new | old
    · refine Service.exec_answers good.tracked (Threads.Config.mem_inFlight_of_thread inside)
        (fun hits => good.covers (Or.inr ⟨piece, inside, hits⟩)) good.since now ?_ bare first new
      intro honestly
      cases piece with
      | checkSystemAbility request host =>
          have own : request.systemAbilityId = sa := first
          have kept := served honestly
          simpa [Served, next, ServicePiece.routed, own] using kept
      | _ => rfl
    · exact good.answers made (by rw [shape]; exact List.mem_cons_of_mem piece old)

theorem Watched.step (good : Watched start seen honest sa n x) (ticks : x.TicksApart sa label)
    (careful : x.Careful sa label) (locally : x.LocallyCurrent sa label)
    (served : honest → x.Served sa label) (bare : honest → x.shared.localAbilitys[sa]? = none)
    (now : seen (x.shared.checkSystemAbility sa)) : Watched start seen honest sa n (x.step label) where
  tracked := step_tracked ticks careful locally good.tracked
  since := good.since.trans (step_parameter good.tracked)
  covers watching := by
    have before := watching.imp_right good.mayHit
    refine step_covers good.tracked (good.covers before) now locally ?_
    rcases before with honestly | ⟨piece, member, hits⟩
    · exact Or.inr (bare honestly)
    · exact Or.inl ⟨piece, Threads.Config.mem_inFlight_of_thread member, hits⟩
  inside := good.inside.trans_le Threads.Config.length_le_step
  answers := good.step_answers served bare now

/-! Runs -/

variable {allSaProfiles : List SaProfile} {multiInstanceSaIds : List Int} {caller : Int}

theorem tracked_init : (init allSaProfiles multiInstanceSaIds caller).shared.Tracked
    (init allSaProfiles multiInstanceSaIds caller).inFlight sa where
  managed := by
    refine ⟨⟨Host.base allSaProfiles multiInstanceSaIds, rfl, rfl⟩, ?_, ?_, ?_⟩
    · intro user host found
      cases found
    · intro user other host found
      cases found
    · rintro user host (context | member)
      · cases context
      · cases member
  clock := bot_le
  lines piece member := by cases member
  routed piece member := by cases member
  coherent := ⟨fun r member => (by cases member), fun r member => (by cases member)⟩

/-- Every invalidation that was posted has run, and no removal is still to post its own. -/
def Settled (x : Deployment) : Prop :=
  x.shared.invalidations = 0 ∧ ∀ piece ∈ x.inFlight, piece.invalidates = false

theorem not_owed_of_settled (settled : x.Settled) : ¬ x.shared.Owed x.inFlight sa := by
  rintro (waiting | ⟨piece, member, owes⟩)
  · rw [settled.1] at waiting
    exact lt_irrefl 0 waiting
  · have idle := settled.2 piece member
    cases piece with
    | setParameter => cases idle
    | invalidateCache => cases idle
    | _ => cases owes

/-- The call asks for the ability. -/
def Asks (sa : Int) (call : ServiceCall) : Prop :=
  call = .getSystemAbility sa ∨ call = .checkSystemAbility sa

theorem answers_enter {s : Service} {call : ServiceCall} (asks : Asks sa call)
    (now : seen (s.checkSystemAbility sa)) {piece : ServicePiece} (member : piece ∈ s.enter call) :
    Service.Answers start seen honest sa piece := by
  rcases asks with rfl | rfl
  · cases List.mem_singleton.mp member
    exact rfl
  · simp only [Service.enter] at member
    split at member
    · cases List.mem_singleton.mp member
      exact rfl
    · rename_i invalid
      cases List.mem_singleton.mp member
      rw [Service.checkSystemAbility_invalid (Bool.eq_false_of_not_eq_true invalid)] at now
      exact Service.answers_none fun _ => now

/-- A query that starts when no invalidation is owed is watched from its start on. -/
theorem Watched.begin {call : ServiceCall} (asks : Asks sa call)
    (good : x.shared.Tracked x.inFlight sa) (settled : ¬ x.shared.Owed x.inFlight sa)
    (now : seen (x.shared.checkSystemAbility sa)) :
    Watched x.shared.parameter seen honest sa x.clients.length (x.step (.call call)) := by
  have flying : (x.step (.call call)).inFlight.Perm (x.shared.enter call ++ x.inFlight) := by
    simp only [Deployment.step, Threads.Config.step, Threads.Config.inFlight, List.flatten_append,
      List.flatten_cons, List.flatten_nil, List.append_nil]
    rw [← List.append_assoc]
    exact List.perm_append_comm
  have covers : Stamped.Covers x.shared.parameter seen x.shared.live (x.shared.records x.inFlight sa) :=
    good.coherent.covers settled now
  constructor
  · exact (good.enter call).perm flying.symm
  · exact le_rfl
  · refine fun _ => covers.move (fun r member => Or.inl ?_) (fun _ => id)
    exact Service.records_enter (Service.records_perm flying.symm member)
  · simp [Deployment.step, Threads.Config.step]
  · intro piece member
    refine answers_enter asks now (s := x.shared) ?_
    simpa [Deployment.step, Threads.Config.step, Threads.Config.thread, serviceProgram] using member

theorem runFrom_tracked {labels : List ServiceLabel}
    (guarded : Runs.Guarded step
      (fun x label => x.TicksApart sa label ∧ x.Careful sa label ∧ x.LocallyCurrent sa label)
      (init allSaProfiles multiInstanceSaIds caller) labels) :
    (runFrom allSaProfiles multiInstanceSaIds caller labels).shared.Tracked
      (runFrom allSaProfiles multiInstanceSaIds caller labels).inFlight sa := by
  refine Runs.guarded_invariant (fun x : Deployment => x.shared.Tracked x.inFlight sa) ?_ guarded
    tracked_init
  exact fun x label sound good => step_tracked sound.1 sound.2.1 sound.2.2 good

theorem runFrom_call (before during : List ServiceLabel) (call : ServiceCall) :
    runFrom allSaProfiles multiInstanceSaIds caller (before ++ .call call :: during) =
      Runs.run step ((runFrom allSaProfiles multiInstanceSaIds caller before).step (.call call))
        during := by
  rw [runFrom, Runs.run_append, Runs.run_cons]
  rfl

/-- What a query answers is what the service would have answered at a moment of the query, if
it starts when no invalidation is owed for the ability. -/
theorem answer_of_query {call : ServiceCall} (asks : Asks sa call)
    (good : x.shared.Tracked x.inFlight sa) (settled : ¬ x.shared.Owed x.inFlight sa)
    {during : List ServiceLabel}
    (guarded : Runs.Guarded step
      (fun x label => x.TicksApart sa label ∧ x.Careful sa label ∧ x.LocallyCurrent sa label)
      (x.step (.call call)) during)
    (served : Runs.Guarded step
      (fun (x : Deployment) label => honest → x.Served sa label ∧ x.shared.localAbilitys[sa]? = none)
      (x.step (.call call)) during)
    {res : Option Nat} {cached : Bool} (counts : honest ∨ res.isSome ∧ cached = true)
    (answered : (Runs.run step (x.step (.call call)) during).thread (some x.clients.length) =
      [.returned res cached]) :
    ∃ mid, mid <+: during ∧
      (Runs.run step (x.step (.call call)) mid).shared.checkSystemAbility sa = res := by
  let seen : Option Nat → Prop := fun answer => ∃ mid, mid <+: during ∧
    (Runs.run step (x.step (.call call)) mid).shared.checkSystemAbility sa = answer
  have along : Runs.Guarded step (fun (x : Deployment) _ => seen (x.shared.checkSystemAbility sa))
      (x.step (.call call)) during :=
    Runs.guarded_of_prefix fun before ahead => ⟨before, ahead, rfl⟩
  have start : Watched x.shared.parameter seen honest sa x.clients.length (x.step (.call call)) :=
    Watched.begin asks good settled ⟨[], List.nil_prefix, rfl⟩
  have watched : Watched x.shared.parameter seen honest sa x.clients.length
      (Runs.run step (x.step (.call call)) during) := by
    refine Runs.guarded_invariant _ ?_ ((guarded.and served).and along) start
    rintro y label ⟨⟨⟨ticks, careful, locally⟩, served⟩, now⟩ kept
    exact kept.step ticks careful locally (fun honestly => (served honestly).1)
      (fun honestly => (served honestly).2) now
  have answers := watched.answers (.returned res cached) (by rw [answered]; exact List.mem_cons_self)
  cases res with
  | some object => exact answers.1 object rfl (counts.imp_right And.right)
  | none => exact answers.2 (counts.resolve_right fun both => Bool.false_ne_true both.1) rfl

/-! Base abilities -/

/-- The base manager invalidates for the ability, which has one instance. -/
structure StaticBase (s : Service) (sa : Int) : Prop where
  single : s.isMultiInstanceSaId sa = false
  static : s.onDemandAt sa 0 = false

theorem StaticBase.target {s : Service} (base : StaticBase s sa) : s.target sa = (BASE_USER, some 0) := by
  have user : ∀ caller, s.routeForUser sa caller = BASE_USER := by
    intro caller
    simp [Service.routeForUser, base.single]
  simp [Service.target, Service.route, user]

theorem StaticBase.fixed {s t : Service} (base : StaticBase s sa) (stands : s.Standing 0)
    (fixed : Service.Fixed s t) : StaticBase t sa := by
  constructor
  · rw [Service.isMultiInstanceSaId, fixed.multi]
    exact base.single
  · rw [fixed.onDemand 0 sa stands]
    exact base.static

theorem step_fixed (x : Deployment) (label : ServiceLabel) :
    Service.Fixed x.shared (x.step label).shared := by
  refine Threads.Config.step_keeps (P := serviceProgram)
    (fun (s : Service) _ => Service.Fixed x.shared s) ?_ ?_ ?_ ?_ ?_ (Service.fixed_refl x.shared)
  · exact fun _ => id
  · exact fun _ _ => id
  · exact fun reply piece _ _ _ _ _ => Service.exec_fixed piece
  · intro made t _ taken _
    obtain ⟨rfl, invalidations, rfl⟩ := Service.take_eq_some taken
    exact ⟨rfl, rfl, fun _ _ _ => rfl⟩
  · intro action _ _
    cases action <;> exact ⟨rfl, rfl, fun _ _ _ => rfl⟩

/-- For a base ability only the ticks need care. -/
theorem careful_of_base (good : x.shared.Managed x.inFlight) (base : StaticBase x.shared sa) :
    x.Careful sa label := by
  have after : StaticBase (x.step label).shared sa := base.fixed good.base (step_fixed x label)
  refine ⟨fun moved => absurd (after.target.trans base.target.symm) moved, fun _ onDemand => ?_⟩
  have route : x.shared.route sa = some 0 := (Prod.mk.inj base.target).2
  simp [route, base.static] at onDemand

theorem step_base (good : x.shared.Tracked x.inFlight sa ∧ StaticBase x.shared sa)
    (clean : x.TicksApart sa label ∧ x.LocallyCurrent sa label) :
    (x.step label).shared.Tracked (x.step label).inFlight sa ∧ StaticBase (x.step label).shared sa := by
  obtain ⟨tracked, base⟩ := good
  refine ⟨step_tracked clean.1 (careful_of_base tracked.managed base) clean.2 tracked, ?_⟩
  exact base.fixed tracked.managed.base (step_fixed x label)

theorem staticBase_init (single : sa ∉ multiInstanceSaIds)
    (static : sa ∉ (Host.base allSaProfiles multiInstanceSaIds).onDemandSaIdsSet) :
    StaticBase (init allSaProfiles multiInstanceSaIds caller).shared sa := by
  constructor
  · simpa [init, Service.init, Service.isMultiInstanceSaId] using single
  · simpa [init, Service.init, Service.onDemandAt] using static

/-- Along such a run every step is careful for a base ability. -/
theorem runFrom_base (base : StaticBase (init allSaProfiles multiInstanceSaIds caller).shared sa)
    {labels : List ServiceLabel}
    (clean : Runs.Guarded step (fun x label => x.TicksApart sa label ∧ x.LocallyCurrent sa label)
      (init allSaProfiles multiInstanceSaIds caller) labels) :
    Runs.Guarded step
      (fun x label => x.TicksApart sa label ∧ x.Careful sa label ∧ x.LocallyCurrent sa label)
      (init allSaProfiles multiInstanceSaIds caller) labels ∧
    StaticBase (runFrom allSaProfiles multiInstanceSaIds caller labels).shared sa := by
  constructor
  · refine Runs.Guarded.along (fun y : Deployment => y.shared.Tracked y.inFlight sa ∧
      StaticBase y.shared sa) (fun y label sound good => step_base good sound) ?_ clean ⟨tracked_init, base⟩
    rintro y label ⟨apart, locally⟩ ⟨tracked, base⟩
    exact ⟨apart, careful_of_base tracked.managed base, locally⟩
  · have kept := Runs.guarded_invariant (fun y : Deployment => y.shared.Tracked y.inFlight sa ∧
      StaticBase y.shared sa) (fun y label sound good => step_base good sound) clean ⟨tracked_init, base⟩
    exact kept.2

/-- A query for a base ability that is not on demand, started when every posted invalidation
has run and no registry change is under way, answers from the cache only what was registered
at a moment of the query, if no invalidation runs in the tick of an earlier one while the
client holds a stale object of the ability, and no query takes one from the process of the client
into the cache that is of use there. -/
theorem cached_answer_is_registered (allSaProfiles : List SaProfile) (multiInstanceSaIds : List Int)
    (caller sa : Int) (single : sa ∉ multiInstanceSaIds)
    (static : sa ∉ (Host.base allSaProfiles multiInstanceSaIds).onDemandSaIdsSet)
    (before during : List ServiceLabel) (query : ServiceCall) (asks : Asks sa query)
    (clean : Runs.Guarded step (fun x label => x.TicksApart sa label ∧ x.LocallyCurrent sa label)
      (init allSaProfiles multiInstanceSaIds caller) (before ++ .call query :: during))
    (settled : (runFrom allSaProfiles multiInstanceSaIds caller before).Settled) (object : Nat)
    (answered : (runFrom allSaProfiles multiInstanceSaIds caller
        (before ++ .call query :: during)).thread
      (some (runFrom allSaProfiles multiInstanceSaIds caller before).clients.length) =
        [.returned (some object) true]) :
    ∃ mid, mid <+: during ∧ (runFrom allSaProfiles multiInstanceSaIds caller
      (before ++ .call query :: mid)).shared.checkAt 0 sa = some object := by
  have base : StaticBase (init allSaProfiles multiInstanceSaIds caller).shared sa :=
    staticBase_init single static
  obtain ⟨first, second⟩ := Runs.guarded_append.mp (runFrom_base base clean).1
  rw [runFrom_call] at answered
  obtain ⟨mid, ⟨rest, rfl⟩, registered⟩ := answer_of_query asks (runFrom_tracked first)
    (not_owed_of_settled settled) second.2 (Runs.guarded_never _ _) (Or.inr ⟨rfl, rfl⟩) answered
  refine ⟨mid, List.prefix_append mid rest, ?_⟩
  rw [← List.cons_append, ← List.append_assoc] at clean
  have after := (runFrom_base base (Runs.guarded_append.mp clean).1).2
  rw [runFrom_call] at after ⊢
  rw [← registered]
  exact (Service.checkSystemAbility_of_route (Prod.mk.inj after.target).2).symm

instance (x : Deployment) : Decidable x.Settled := inferInstanceAs (Decidable (_ ∧ _))

/-- Two abilities of one process, which are started with it. -/
def residents : List SaProfile :=
  [{ process := "host", saId := 1, runOnCreate := true },
    { process := "host", saId := 2, runOnCreate := true }]

/-- Both abilities are registered after the first invalidation has run. -/
def register : List ServiceLabel :=
  [.act (.elapse 5)] ++ invalidate ++ [.call (.addSystemAbility 0 1 10 false)] ++ runs 0 1 ++
    [.call (.addSystemAbility 0 2 20 false)] ++ runs 1 1

/-- Two queries for the first ability; the second is answered from the cache. -/
theorem second_query_is_registered : ∃ mid, mid <+: runs 3 3 ∧
    (runFrom residents [] 0 (register ++ [.call (.getSystemAbility 1)] ++ runs 2 10 ++
      .call (.getSystemAbility 1) :: mid)).shared.checkAt 0 1 = some 10 := by
  have answer := cached_answer_is_registered residents [] 0 1 (by decide) (by decide)
    (register ++ [.call (.getSystemAbility 1)] ++ runs 2 10) (runs 3 3) (.getSystemAbility 1)
    (Or.inl rfl) (by decide +kernel) (by decide +kernel) 10 (by decide +kernel)
  exact answer

/-- The second ability is removed, the first is queried, registered anew, and queried again,
and all of it falls in one tick. -/
def sameTick : List ServiceLabel :=
  register ++ [.act (.elapse 2), .call (.removeSystemAbility 0 2)] ++ runs 2 2 ++ invalidate ++
    [.call (.getSystemAbility 1)] ++ runs 3 10 ++ [.call (.addSystemAbility 0 1 11 false)] ++
    runs 4 1 ++ invalidate

theorem second_invalidation_in_tick_is_lost :
    ¬ ∀ (allSaProfiles : List SaProfile) (multiInstanceSaIds : List Int) (caller sa : Int)
      (before during : List ServiceLabel) (query : ServiceCall) (object : Nat),
      sa ∉ multiInstanceSaIds →
      sa ∉ (Host.base allSaProfiles multiInstanceSaIds).onDemandSaIdsSet → Asks sa query →
      (runFrom allSaProfiles multiInstanceSaIds caller before).Settled →
      (runFrom allSaProfiles multiInstanceSaIds caller (before ++ .call query :: during)).thread
        (some (runFrom allSaProfiles multiInstanceSaIds caller before).clients.length) =
          [.returned (some object) true] →
      ∃ mid, mid <+: during ∧ (runFrom allSaProfiles multiInstanceSaIds caller
        (before ++ .call query :: mid)).shared.checkAt 0 sa = some object := by
  intro always
  obtain ⟨mid, ahead, registered⟩ := always residents [] 0 1 sameTick (runs 5 3)
    (.getSystemAbility 1) 10 (by decide) (by decide) (Or.inl rfl) (by decide +kernel)
    (by decide +kernel)
  have never : ∀ mid ∈ (runs 5 3).inits, (runFrom residents [] 0
      (sameTick ++ .call (.getSystemAbility 1) :: mid)).shared.checkAt 0 1 ≠ some 10 := by
    decide +kernel
  exact never mid ((List.mem_inits mid _).mpr ahead) registered

/-- The client provides the first ability itself and removes it again. The invalidation runs, and the
ability is queried, before the removal gets to the table of the process. -/
def ownRemoval : List ServiceLabel :=
  [.act (.elapse 5)] ++ invalidate ++ [.call (.proxyAddSystemAbility 1 10 false)] ++ runs 0 3 ++
    [.act (.elapse 2), .call (.proxyRemoveSystemAbility 1)] ++ runs 1 2 ++ invalidate ++
    [.call (.getSystemAbility 1)] ++ runs 2 8 ++ runs 1 1

/-- Ticks that are apart are not enough. -/
theorem removed_ability_is_cached_again :
    ¬ ∀ (allSaProfiles : List SaProfile) (multiInstanceSaIds : List Int) (caller sa : Int)
      (before during : List ServiceLabel) (query : ServiceCall) (object : Nat),
      sa ∉ multiInstanceSaIds →
      sa ∉ (Host.base allSaProfiles multiInstanceSaIds).onDemandSaIdsSet → Asks sa query →
      Runs.Guarded step (fun x label => x.TicksApart sa label)
        (init allSaProfiles multiInstanceSaIds caller) (before ++ .call query :: during) →
      (runFrom allSaProfiles multiInstanceSaIds caller before).Settled →
      (runFrom allSaProfiles multiInstanceSaIds caller (before ++ .call query :: during)).thread
        (some (runFrom allSaProfiles multiInstanceSaIds caller before).clients.length) =
          [.returned (some object) true] →
      ∃ mid, mid <+: during ∧ (runFrom allSaProfiles multiInstanceSaIds caller
        (before ++ .call query :: mid)).shared.checkAt 0 sa = some object := by
  intro always
  obtain ⟨mid, ahead, registered⟩ := always residents [] 0 1 ownRemoval (runs 3 3)
    (.getSystemAbility 1) 10 (by decide) (by decide) (Or.inl rfl) (by decide +kernel)
    (by decide +kernel) (by decide +kernel)
  have never : ∀ mid ∈ (runs 3 3).inits, (runFrom residents [] 0
      (ownRemoval ++ .call (.getSystemAbility 1) :: mid)).shared.checkAt 0 1 ≠ some 10 := by
    decide +kernel
  exact never mid ((List.mem_inits mid _).mpr ahead) registered

end Deployment

end Samgr
