import Samgr.Schedule.Ledger
import Samgr.Schedule.Counters
import Samgr.Schedule.PendedReplay

/-! The pended load requests in numbers. Each ability keeps how many of its pended requests each caller
has. When its process has stopped it hands them to the load handler, which pends requests itself but
knows every one of these. -/
namespace Samgr

/-- The object of the callback of a request. -/
def LoadRequestInfo.object (request : LoadRequestInfo) : Option Nat :=
  request.callback.map RemoteInterface.object

/-- The pended requests of one ability and their counts. -/
structure Tallied (requests : List LoadRequestInfo) (counts : Int → Nat) : Prop where
  tallies : ∀ pid, counts pid = Tally.tally requests LoadRequestInfo.callingPid pid
  bounded : ∀ pid, counts pid ≤ MAX_PENDING_LOAD_COUNT
  given : ∀ request ∈ requests, request.callback.isSome
  distinct : (requests.map LoadRequestInfo.object).Nodup

theorem tallied_nil : Tallied [] fun _ => 0 := by
  refine ⟨fun pid => rfl, fun pid => Nat.zero_le _, fun request member => ?_, List.nodup_nil⟩
  cases member

theorem Tallied.pend {requests : List LoadRequestInfo} {counts : Int → Nat} {request : LoadRequestInfo}
    (good : Tallied requests counts) (given : request.callback.isSome)
    (isNew : ¬ Ledger.Knows requests request) (room : counts request.callingPid < MAX_PENDING_LOAD_COUNT) :
    Tallied (requests ++ [request])
      (Function.update counts request.callingPid (counts request.callingPid + 1)) := by
  constructor
  · intro pid
    rw [Tally.tally_snoc, ← good.tallies pid]
    by_cases own : pid = request.callingPid
    · subst own
      rw [Function.update_self, if_pos rfl]
    · rw [Function.update_of_ne own, if_neg (Ne.symm own), Nat.add_zero]
  · intro pid
    rw [Function.update_apply]
    split
    · exact room
    · exact good.bounded pid
  · intro other member
    rcases List.mem_append.mp member with old | new
    · exact good.given other old
    · rwa [List.mem_singleton.mp new]
  · rw [List.map_append, List.map_singleton]
    apply List.Nodup.append good.distinct (List.nodup_singleton _)
    intro object known only
    obtain ⟨item, member, rfl⟩ := List.mem_map.mp known
    exact isNew ⟨item, member, List.mem_singleton.mp only⟩

namespace Ledger

variable {x y : Ledger} {P : Entry → Prop}

/-- Every ability is tallied. -/
def Exact (x : Ledger) : Prop := ∀ sa, Tallied (x.pended sa) (x.counts sa)

theorem Step.exact {entry : Entry} (step : Step x y entry) (good : Exact x) : Exact y := by
  intro id
  cases entry with
  | pend sa request =>
      obtain ⟨given, isNew, room, rfl⟩ := step
      by_cases own : id = sa
      · subst own
        simp only [Function.update_self]
        exact (good id).pend given isNew room
      · simpa only [Function.update_of_ne own] using good id
  | clear sa =>
      cases step
      by_cases own : id = sa
      · subst own
        simp only [Function.update_self]
        exact tallied_nil
      · simpa only [Function.update_of_ne own] using good id
  | _ =>
      have kept : y.pended id = x.pended id ∧ y.counts id = x.counts id := step.list_eq nofun nofun
      simpa only [kept.1, kept.2] using good id

end Ledger

namespace Scheduler

open Ledger

variable {env : Env} {s : Scheduler} {sa : Int}

theorem exact_init (saProfiles : List SaProfile) : (init saProfiles).ledger.Exact := by
  have kept : ∀ s : Scheduler, s.ledger.Exact → (saProfiles.foldl initStateContext s).ledger.Exact := by
    induction saProfiles with
    | nil => exact fun s good => good
    | cons profile rest hypothesis =>
        intro s good
        apply hypothesis
        by_cases named : profile.process = ""
        · rwa [initStateContext_of_unnamed named]
        · intro id
          simp only [ledger, initStateContext_ability named]
          by_cases own : id = profile.saId
          · subst own
            rw [Function.update_self]
            exact tallied_nil
          · rw [Function.update_of_ne own]
            exact good id
  exact kept {} fun _ => tallied_nil

theorem runFrom_exact (saProfiles : List SaProfile) (ops : List (Env × Op)) :
    (runFrom saProfiles ops).ledger.Exact := by
  apply Runs.run_invariant (fun s : Scheduler => s.ledger.Exact) _ ops (exact_init saProfiles)
  intro s label good
  have path : Ledger.Path (OpEntry label.1 label.2) s.ledger (step s label).ledger := exec_ledger
  exact path.keeps Exact (fun _ step good => step.exact good) good

/-- The calls of `HandlePendingLoadEventLocked` in the loop over the abilities of a stopped process:
the ability, and the scheduler at the call. -/
def pendingCalls (env : Env) : List Int → Scheduler → List (Int × Scheduler)
  | [], _ => []
  | sa :: rest, s =>
      (if sa ∈ s.abilityIds ∧ (s.toNotLoaded env sa).2 = .errOk then [(sa, (s.toNotLoaded env sa).1)]
        else []) ++ pendingCalls env rest (s.stopAbility env sa)

/-- The calls of `HandlePendingLoadEventLocked` in `OnProcessNotStartedLocked`. -/
def replayCalls (env : Env) (s : Scheduler) (processName : String) : List (Int × Scheduler) :=
  let begun := s.beginStop env processName
  pendingCalls env (begun.1.process processName).saList begun.1

/-- The call hands every pended request to the load handler once, in order, while the list stays as it
is, and leaves nothing behind. -/
structure ReplaysOnce (env : Env) (s : Scheduler) (sa : Int) : Prop where
  handled : loadsOf sa (s.handlePendingLoadEventLocked env sa).log =
    loadsOf sa s.log ++ (s.ability sa).pendingLoadEventList
  unchanged : ∀ done, done <+: (s.ability sa).pendingLoadEventList →
    ((replayPendingLoads env sa done (s.setAbility sa fun context =>
      { context with pendingEvent := .noEvent })).ability sa).pendingLoadEventList =
        (s.ability sa).pendingLoadEventList
  cleared : ((s.handlePendingLoadEventLocked env sa).ability sa).pendingLoadEventList = []
  uncounted : ∀ pid, ((s.handlePendingLoadEventLocked env sa).ability sa).pendingLoadEventCountMap pid = 0

/-- Requests that the list knows are replayed without a change of any list. -/
theorem replayPendingLoads_known {requests : List LoadRequestInfo}
    (known : ∀ request ∈ requests, Knows (s.ledger.pended sa) request) :
    (replayPendingLoads env sa requests s).ledger.pended = s.ledger.pended := by
  induction requests generalizing s with
  | nil => rfl
  | cons request rest hypothesis =>
      have first : (s.handleLoadAbilityEventLocked env sa request).1.ledger.pended = s.ledger.pended :=
        handleLoadAbilityEventLocked_known (known request List.mem_cons_self)
      rw [replayPendingLoads, hypothesis, first]
      rw [first]
      exact fun other member => known other (List.mem_cons_of_mem _ member)

theorem replaysOnce (listed : sa ∈ s.abilityIds)
    (pending : (s.ability sa).pendingEvent = .loadAbilityEvent) : ReplaysOnce env s sa := by
  have begun : (s.setAbility sa fun context => { context with pendingEvent := .noEvent }).ledger =
      s.ledger := ledger_setAbility_quiet rfl rfl rfl
  have log : (s.setAbility sa fun context => { context with pendingEvent := .noEvent }).log = s.log := rfl
  have handles : s.handlePendingLoadEventLocked env sa =
      (replayPendingLoads env sa (s.ability sa).pendingLoadEventList
        (s.setAbility sa fun context => { context with pendingEvent := .noEvent })).clearPendingLoads sa :=
    if_neg (not_not.mpr pending)
  have knows : ∀ request ∈ (s.ability sa).pendingLoadEventList,
      Knows ((s.setAbility sa fun context =>
        { context with pendingEvent := .noEvent }).ledger.pended sa) request := by
    rw [begun]
    exact fun request member => ⟨request, member, rfl⟩
  have loads : loadsOf sa (replayPendingLoads env sa (s.ability sa).pendingLoadEventList
      (s.setAbility sa fun context => { context with pendingEvent := .noEvent })).log =
      loadsOf sa s.log ++ (s.ability sa).pendingLoadEventList := loads_replayPendingLoads listed
  constructor
  · rw [handles, ← loads]
    rfl
  · intro done ahead
    have same : (replayPendingLoads env sa done (s.setAbility sa fun context =>
        { context with pendingEvent := .noEvent })).ledger.pended = s.ledger.pended := by
      rw [replayPendingLoads_known fun request member => knows request (ahead.subset member), begun]
    exact congrFun same sa
  · rw [handles]
    simp [clearPendingLoads, setAbility]
  · intro pid
    rw [handles]
    simp [clearPendingLoads, setAbility]

theorem pendingCalls_listed {sas : List Int} {call : Int × Scheduler}
    (member : call ∈ pendingCalls env sas s) : call.1 ∈ call.2.abilityIds := by
  induction sas generalizing s with
  | nil => cases member
  | cons sa rest hypothesis =>
      rw [pendingCalls, List.mem_append] at member
      rcases member with first | later
      · split at first
        · rename_i called
          rw [List.mem_singleton.mp first]
          exact Scheduler.Path.listed (toNotLoaded_path called.1) called.1
        · cases first
      · exact hypothesis later

/-- In every reachable state, for every ability: each caller's count is the number of its pended requests
and at most 50, and the objects of the callbacks differ. When a process stops, each call of
`HandlePendingLoadEventLocked` that finds a pended load replays the list once. -/
theorem pended_loads_are_counted_and_replayed_once (saProfiles : List SaProfile) (ops : List (Env × Op))
    (sa : Int) :
    let s := runFrom saProfiles ops
    let requests := (s.ability sa).pendingLoadEventList
    (∀ pid, (s.ability sa).pendingLoadEventCountMap pid =
        (requests.filter fun request => request.callingPid = pid).length ∧
      (s.ability sa).pendingLoadEventCountMap pid ≤ 50) ∧
    (∀ request ∈ requests, request.callback.isSome) ∧
    (requests.map LoadRequestInfo.object).Nodup ∧
    ∀ env processName, ∀ call ∈ (s.setProcess processName fun context =>
        { context with state := .notStarted }).replayCalls env processName,
      (call.2.ability call.1).pendingEvent = .loadAbilityEvent → ReplaysOnce env call.2 call.1 := by
  intro s requests
  have exact_ : Tallied requests (s.ability sa).pendingLoadEventCountMap := runFrom_exact saProfiles ops sa
  refine ⟨fun pid => ⟨?_, exact_.bounded pid⟩, exact_.given, exact_.distinct, ?_⟩
  · rw [exact_.tallies pid, Tally.tally, List.countP_eq_length_filter]
  · intro env processName call member pending
    exact replaysOnce (pendingCalls_listed member) pending

/-- The request pended while the process was STOPPING is replayed. -/
example : (((runFrom [{ process := "host", saId := 1 }] overflowOps).setProcess "host" fun context =>
      { context with state := .notStarted }).replayCalls {} "host").map (fun call =>
        (call.1, (call.2.ability call.1).pendingEvent, (call.2.ability call.1).pendingLoadEventList)) =
    [(1, .loadAbilityEvent, [localLoad 1 8 80])] := by decide +kernel

end Scheduler

end Samgr
