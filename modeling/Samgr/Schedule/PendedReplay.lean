import Samgr.Schedule.PendedLoads
import Samgr.Schedule.Ledger

/-! How a pended load request leaves its list. There are two ways: the process-stopped event
hands the whole list to the load handler, in order, and the overflow task of the ability
clears it while the process is stopping, without telling anyone. Such a task is posted for a request
that is too many. -/
namespace Samgr

namespace Chart

variable {x y z : Chart} {P : Change → Prop} {sa : Int}

/-- Only a clearing of the list itself takes requests from it. -/
theorem Path.pended_prefix (path : Path P x y) (noClear : ¬ P (.clearPended sa)) :
    x.pended sa <+: y.pended sa := by
  refine path.keeps (fun z => x.pended sa <+: z.pended sa) ?_ (List.prefix_refl _)
  intro z w c allowed step kept
  rcases step.frame.2.2.1 with same | ⟨id, request, rfl⟩ | ⟨id, rfl⟩
  · rwa [same]
  · obtain ⟨-, rfl⟩ := step
    by_cases own : sa = id
    · subst own
      exact kept.trans (by simp)
    · simpa [Function.update_of_ne own] using kept
  · cases step
    have other : sa ≠ id := fun same => noClear (same ▸ allowed)
    simpa [Function.update_of_ne other] using kept

theorem Path.loads_prefix (path : Path P x y) : x.loads sa <+: y.loads sa := by
  refine path.keeps (fun z => x.loads sa <+: z.loads sa) ?_ (List.prefix_refl _)
  intro z w c allowed step kept
  rcases step.frame.2.2.2.1 with same | ⟨id, request, rfl⟩
  · rwa [same]
  · cases step
    by_cases own : sa = id
    · subst own
      exact kept.trans (by simp)
    · simpa [Function.update_of_ne own] using kept

/-- The requests pended on the ability were all handled, in the order of the list. -/
def Replayed (sa : Int) (x y : Chart) : Prop :=
  x.loads sa ++ x.pended sa <+: y.loads sa

/-- Nothing has happened to the list, and nothing was handled for the ability. -/
def Untouched (sa : Int) (x y : Chart) : Prop :=
  y.pended sa = x.pended sa ∧ y.loads sa = x.loads sa

theorem Replayed.trans_path (first : Replayed sa x y) (rest : Path P y z) : Replayed sa x z :=
  List.IsPrefix.trans first rest.loads_prefix

theorem Untouched.trans_replayed (first : Untouched sa x y) (rest : Replayed sa y z) :
    Replayed sa x z := by
  simpa only [Replayed, first.1, first.2] using rest

/-- A path about other abilities does not touch this one. -/
theorem Path.untouched (path : Path P x y) (noPend : ∀ request, ¬ P (.pend sa request))
    (noClear : ¬ P (.clearPended sa)) (noHandle : ∀ request, ¬ P (.handle sa request)) :
    Untouched sa x y := by
  refine path.keeps (Untouched sa x) ?_ ⟨rfl, rfl⟩
  rintro z w c allowed step ⟨pended, loads⟩
  refine ⟨?_, ?_⟩
  · rcases step.frame.2.2.1 with same | ⟨id, request, rfl⟩ | ⟨id, rfl⟩
    · rwa [same]
    · obtain ⟨-, rfl⟩ := step
      have other : sa ≠ id := fun same => noPend request (same ▸ allowed)
      simpa [Function.update_of_ne other] using pended
    · cases step
      have other : sa ≠ id := fun same => noClear (same ▸ allowed)
      simpa [Function.update_of_ne other] using pended
  · rcases step.frame.2.2.2.1 with same | ⟨id, request, rfl⟩
    · rwa [same]
    · cases step
      have other : sa ≠ id := fun same => noHandle request (same ▸ allowed)
      simpa [Function.update_of_ne other] using loads

end Chart

namespace Scheduler

open Chart

variable {env : Env} {s : Scheduler} {sa : Int}

theorem loads_handleLoadAbilityEventLocked {request : LoadRequestInfo} (listed : sa ∈ s.abilityIds) :
    (s.handleLoadAbilityEventLocked env sa request).1.chart.loads sa =
      s.chart.loads sa ++ [request] := by
  have entered : (s.emit (.handleLoad sa request)).chart.loads sa = s.chart.loads sa ++ [request] := by
    simp [chart, emit, loadsOf]
  rw [← entered]
  exact congrFun ((handleLoadAbilityEventLocked_path listed).loads_eq fun _ _ => id) sa

/-- The loop hands over the requests in the order of the list. -/
theorem loads_replayPendingLoads {requests : List LoadRequestInfo} (listed : sa ∈ s.abilityIds) :
    (replayPendingLoads env sa requests s).chart.loads sa = s.chart.loads sa ++ requests := by
  induction requests generalizing s with
  | nil => simp [replayPendingLoads]
  | cons request rest hypothesis =>
      have first : Path (RequestChange sa) s.chart
          (s.handleLoadAbilityEventLocked env sa request).1.chart :=
        handleLoadAbilityEventLocked_request listed
      rw [replayPendingLoads, hypothesis (Path.listed first listed),
        loads_handleLoadAbilityEventLocked listed]
      simp

theorem replayed_handlePendingLoadEventLocked (listed : sa ∈ s.abilityIds) :
    Untouched sa s.chart (s.handlePendingLoadEventLocked env sa).chart ∨
      Replayed sa s.chart (s.handlePendingLoadEventLocked env sa).chart := by
  simp only [handlePendingLoadEventLocked]
  split
  · exact Or.inl ⟨rfl, rfl⟩
  · refine Or.inr ?_
    generalize begins : (s.setAbility sa fun context =>
      { context with pendingEvent := .noEvent }) = begun
    have same : begun.chart.loads sa = s.chart.loads sa := by
      rw [← begins, chart_setPendingEvent]
    have replays : (replayPendingLoads env sa (s.ability sa).pendingLoadEventList
        begun).chart.loads sa = begun.chart.loads sa ++ (s.ability sa).pendingLoadEventList :=
      loads_replayPendingLoads (begins ▸ listed)
    generalize replayPendingLoads env sa (s.ability sa).pendingLoadEventList begun = replayed
      at replays ⊢
    have clears : Path (fun _ => True) replayed.chart (replayed.clearPendingLoads sa).chart :=
      clearPendingLoads_path trivial
    have grows : replayed.chart.loads sa <+: (replayed.clearPendingLoads sa).chart.loads sa :=
      clears.loads_prefix
    rwa [replays, same] at grows

theorem untouched_of_leavePath {x y : Chart} (path : Path (LeaveChange sa) x y) :
    Untouched sa x y :=
  path.untouched (fun _ => id) id fun _ => id

/-- The turn of one ability, seen from any ability. -/
theorem replayed_stopAbility {id : Int} :
    Untouched sa s.chart (s.stopAbility env id).chart ∨
      sa = id ∧ Replayed sa s.chart (s.stopAbility env id).chart := by
  by_cases same : sa = id
  · subst same
    simp only [stopAbility]
    split
    · exact Or.inl ⟨rfl, rfl⟩
    · rename_i listed
      have listed : sa ∈ s.abilityIds := by simpa using listed
      have leaves : Path (LeaveChange sa) s.chart (s.toNotLoaded env sa).1.chart :=
        toNotLoaded_path listed
      have first := untouched_of_leavePath leaves
      split
      · rcases replayed_handlePendingLoadEventLocked (Path.listed leaves listed) with second | second
        · exact Or.inl ⟨second.1.trans first.1, second.2.trans first.2⟩
        · exact Or.inr ⟨trivial, first.trans_replayed second⟩
      · exact Or.inl first
  · refine Or.inl (stopAbility_path.untouched ?_ ?_ ?_)
    · rintro request (change | (change | ⟨_, change⟩) | change | change)
      · exact change
      · exact same change
      · cases change
      · cases change
      · cases change
    · rintro (change | (change | ⟨_, change⟩) | change | change)
      · exact change
      · exact change
      · cases change
      · cases change
      · cases change
        exact same rfl
    · rintro request (change | (change | ⟨_, change⟩) | change | change)
      · exact change
      · exact change
      · cases change
        exact same rfl
      · cases change
      · cases change

theorem replayed_stopAbilities {sas : List Int} :
    Untouched sa s.chart (sas.foldl (stopAbility env) s).chart ∨
      sa ∈ sas ∧ Replayed sa s.chart (sas.foldl (stopAbility env) s).chart := by
  induction sas generalizing s with
  | nil => exact Or.inl ⟨rfl, rfl⟩
  | cons id rest hypothesis =>
      rw [List.foldl_cons]
      have turn : Untouched sa s.chart (s.stopAbility env id).chart ∨
          sa = id ∧ Replayed sa s.chart (s.stopAbility env id).chart := replayed_stopAbility
      rcases turn with first | ⟨rfl, first⟩
      · rcases hypothesis with second | ⟨member, second⟩
        · exact Or.inl ⟨second.1.trans first.1, second.2.trans first.2⟩
        · exact Or.inr ⟨List.mem_cons_of_mem _ member, first.trans_replayed second⟩
      · exact Or.inr ⟨List.mem_cons_self .., first.trans_path stopAbilities_path⟩

/-- The whole process-stopped entry: a list is kept, or it belongs to the process and was
handed over completely. -/
theorem replayed_onProcessNotStartedLocked {processName : String} :
    s.chart.pended sa <+: (s.onProcessNotStartedLocked env processName).chart.pended sa ∨
      sa ∈ s.chart.saList processName ∧
        Replayed sa s.chart (s.onProcessNotStartedLocked env processName).chart := by
  have begun : (s.beginStop env processName).1.chart = s.chart := chart_beginStop
  have ids : (s.beginStop env processName).1.abilityIds = s.abilityIds :=
    congrArg Chart.ids begun
  rw [onProcessNotStartedLocked_eq, ← begun]
  generalize stops : ((s.beginStop env processName).1.process processName).saList.foldl
    (stopAbility env) (s.beginStop env processName).1 = stopped
  have restarts : Path (fun c => ∃ sa, RequestChange sa c) stopped.chart
      (stopped.handleAbnormallyDiedAbilityLocked env processName
        (s.beginStop env processName).2).chart := by
    refine handleAbnormallyDiedAbilityLocked_path fun id died => ?_
    exact stops ▸ Path.listed stopAbilities_path (ids ▸ listed_of_beginStop died)
  rcases replayed_stopAbilities with kept | ⟨member, replayed⟩
  · refine Or.inl ?_
    rw [stops] at kept
    rw [← kept.1]
    refine restarts.pended_prefix ?_
    rintro ⟨id, change | ⟨_, change⟩⟩
    · exact change
    · cases change
  · exact Or.inr ⟨member, (stops ▸ replayed).trans_path restarts⟩

theorem replayed_stopTransition {processName : String} :
    s.chart.pended sa <+: (s.processStateTransitionLocked (onProcessNotStartedLocked env)
        processName .notStarted).1.chart.pended sa ∨
      sa ∈ s.chart.saList processName ∧
        Replayed sa s.chart (s.processStateTransitionLocked (onProcessNotStartedLocked env)
          processName .notStarted).1.chart := by
  simp only [processStateTransitionLocked]
  split
  · exact Or.inl (List.prefix_refl _)
  · split
    · exact Or.inl (List.prefix_refl _)
    · have entered : (s.setProcess processName fun context =>
          { context with state := .notStarted }).chart =
          { s.chart with proc := Function.update s.chart.proc processName .notStarted } :=
        chart_setProcessState
      generalize (s.setProcess processName fun context =>
        { context with state := .notStarted }) = t at entered ⊢
      have handled : t.chart.pended sa <+:
            (t.onProcessNotStartedLocked env processName).chart.pended sa ∨
          sa ∈ t.chart.saList processName ∧
            Replayed sa t.chart (t.onProcessNotStartedLocked env processName).chart :=
        replayed_onProcessNotStartedLocked
      simpa only [Replayed, entered] using handled

theorem replayed_processStopped {info : ProcessInfo} :
    s.chart.pended sa <+:
        (s.sendProcessStateEvent env info .processStoppedEvent).1.chart.pended sa ∨
      sa ∈ s.chart.saList info.processName ∧
        Replayed sa s.chart (s.sendProcessStateEvent env info .processStoppedEvent).1.chart := by
  have handled : s.chart.pended sa <+:
        (s.handleProcessStoppedEventLocked env info).1.chart.pended sa ∨
      sa ∈ s.chart.saList info.processName ∧
        Replayed sa s.chart (s.handleProcessStoppedEventLocked env info).1.chart := by
    simp only [handleProcessStoppedEventLocked]
    split
    · exact replayed_stopTransition
    · exact replayed_stopTransition
    · exact Or.inl (List.prefix_refl _)
  simp only [sendProcessStateEvent]
  split
  · exact Or.inl (List.prefix_refl _)
  · split
    · exact handled
    · exact handled

theorem pended_processPendingLoadOverflow (stopping : (s.ownProcess sa).state = .stopping) :
    (s.processPendingLoadOverflow env sa).chart.pended sa = [] := by
  have stops : ¬ (s.process (s.ownProcessName sa)).state ≠ .stopping := not_not.mpr stopping
  have cleared : (s.clearPendingLoadOverflow sa).chart.pended sa = [] := by
    simp [clearPendingLoadOverflow, clearPendingLoads, chart, setProcess, setAbility]
  simp only [processPendingLoadOverflow, if_neg stops]
  split
  · rw [chart_killSystemProcessLocked]
    exact cleared
  · split
    · rw [chart_emit rfl]
      exact cleared
    · exact cleared

/-- What an overflow task may do after it has cleared the list: it stops the process, or has it
removed. -/
def StopsProcess (processName : String) : Event → Prop
  | .serviceControlStop name _ => name = processName
  | .removeSystemProcess name => name = processName
  | _ => False

/-- The overflow task calls nobody for a request. -/
theorem log_processPendingLoadOverflow :
    ∃ new, (s.processPendingLoadOverflow env sa).log = new ++ s.log ∧
      ∀ event ∈ new, StopsProcess (s.ownProcessName sa) event := by
  have quiet : ∃ new, s.log = new ++ s.log ∧ ∀ event ∈ new, StopsProcess (s.ownProcessName sa) event :=
    ⟨[], rfl, fun event member => absurd member List.not_mem_nil⟩
  have single {event : Event} (stops : StopsProcess (s.ownProcessName sa) event) :
      ∃ new, event :: s.log = new ++ s.log ∧ ∀ event ∈ new, StopsProcess (s.ownProcessName sa) event :=
    ⟨[event], rfl, fun other member => List.mem_singleton.mp member ▸ stops⟩
  simp only [processPendingLoadOverflow]
  split
  · exact quiet
  · split
    · exact single rfl
    · split
      · exact single rfl
      · exact quiet

/-- The overflow task clears the list of its own ability, and only while the process is
stopping. -/
theorem cleared_runRecoverTask :
    s.chart.pended sa <+: (s.runRecoverTask env).chart.pended sa ∨
      (∃ rest, s.recoverHandler.pop = some (sa, rest)) ∧ (s.ownProcess sa).state = .stopping ∧
        (s.runRecoverTask env).chart.pended sa = [] ∧
        ∃ new, (s.runRecoverTask env).log = new ++ s.log ∧
          ∀ event ∈ new, StopsProcess (s.ownProcessName sa) event := by
  cases popped : s.recoverHandler.pop with
  | none =>
      simp only [runRecoverTask, popped]
      exact Or.inl (List.prefix_refl _)
  | some entry =>
      obtain ⟨id, rest⟩ := entry
      by_cases same : sa = id
      · subst same
        by_cases stopping : (s.ownProcess sa).state = .stopping
        · refine Or.inr ⟨⟨rest, rfl⟩, stopping, ?_⟩
          simp only [runRecoverTask, popped]
          exact ⟨pended_processPendingLoadOverflow stopping, log_processPendingLoadOverflow⟩
        · have unchanged : s.runRecoverTask env = { s with recoverHandler := rest } := by
            simp only [runRecoverTask, popped, processPendingLoadOverflow]
            exact if_pos stopping
          rw [unchanged]
          exact Or.inl (List.prefix_refl _)
      · refine Or.inl (runRecoverTask_path.pended_prefix ?_)
        rintro ⟨other, left, found, clears⟩
        simp only [popped, Option.some.injEq, Prod.mk.injEq] at found
        simp only [Change.clearPended.injEq] at clears
        exact same (clears.trans found.1.symm)

/-- During this step a request for the ability is too many and the task is posted for it. -/
def PostsOverflow (s : Scheduler) (label : Env × Op) (task : Nat × Int) : Prop :=
  ∃ x request curtime,
    Ledger.Path (OpEntry label.1 label.2) s.ledger x ∧
    OpEntry label.1 label.2 (.overflow task.2 request curtime) ∧
    x.Exceeds task.2 request curtime ∧ task.1 = x.overflows.next ∧
    Ledger.Path (OpEntry label.1 label.2) { x with overflows := x.overflows.post task.2 }
      (step s label).ledger

theorem recoverHandler_init (saProfiles : List SaProfile) : (init saProfiles).recoverHandler = {} := by
  have kept : ∀ s : Scheduler, (saProfiles.foldl initStateContext s).recoverHandler = s.recoverHandler := by
    induction saProfiles with
    | nil => exact fun s => rfl
    | cons profile rest hypothesis =>
        intro s
        rw [List.foldl_cons, hypothesis]
        simp only [initStateContext]
        split
        · rfl
        · split <;> rfl
  exact kept {}

/-- Every overflow task in the queue was posted in a step of the run. -/
theorem posted_of_waiting {saProfiles : List SaProfile} {ops : List (Env × Op)} {task : Nat × Int}
    (waiting : task ∈ (runFrom saProfiles ops).recoverHandler.waiting) :
    ∃ before label after, ops = before ++ label :: after ∧
      (runFrom saProfiles before).PostsOverflow label task := by
  induction ops using List.reverseRecOn with
  | nil =>
      have empty : (runFrom saProfiles []).recoverHandler = {} := recoverHandler_init saProfiles
      rw [empty] at waiting
      cases waiting
  | append_singleton ops label hypothesis =>
      have last : runFrom saProfiles (ops ++ [label]) = step (runFrom saProfiles ops) label := by
        simp [runFrom, Runs.run]
      rw [last] at waiting
      have path : Ledger.Path (OpEntry label.1 label.2) (runFrom saProfiles ops).ledger
          (step (runFrom saProfiles ops) label).ledger := exec_ledger
      rcases path.posted waiting with old | posts
      · obtain ⟨before, earlier, after, split, posts⟩ := hypothesis old
        exact ⟨before, earlier, after ++ [label], by simp [split], posts⟩
      · exact ⟨ops, label, [], rfl, posts⟩

/-- In every run, one step takes requests from the list of an ability in two ways only. The
process-stopped event of a process that lists the ability hands every pended request to the
load handler, in order, before it clears the list; and the overflow task of the ability,
running while its process is STOPPING, clears the list as a whole and calls nobody for the
requests. Each overflow task was posted for a request that was too many. -/
theorem pended_loads_leave_by_replay_or_overflow (saProfiles : List SaProfile)
    (ops : List (Env × Op)) (label : Env × Op) (sa : Int) :
    let s := runFrom saProfiles ops
    let t := step s label
    ((s.ability sa).pendingLoadEventList <+: (t.ability sa).pendingLoadEventList ∨
      (∃ info, label.2 = .processEvent info .processStoppedEvent ∧
        sa ∈ (s.process info.processName).saList ∧
        loadsOf sa s.log ++ (s.ability sa).pendingLoadEventList <+: loadsOf sa t.log) ∨
      (label.2 = .runRecoverTask ∧ (∃ rest, s.recoverHandler.pop = some (sa, rest)) ∧
        (s.ownProcess sa).state = .stopping ∧ (t.ability sa).pendingLoadEventList = [] ∧
        ∃ new, t.log = new ++ s.log ∧ ∀ event ∈ new, StopsProcess (s.ownProcessName sa) event)) ∧
    ∀ handle, (handle, sa) ∈ s.recoverHandler.waiting →
      ∃ before earlier after, ops = before ++ earlier :: after ∧
        (runFrom saProfiles before).PostsOverflow earlier (handle, sa) := by
  intro s t
  refine ⟨?_, fun handle waiting => posted_of_waiting waiting⟩
  obtain ⟨env, op⟩ := label
  have kept (noClear : ¬ OpChange s op (.clearPended sa)) :
      s.chart.pended sa <+: t.chart.pended sa := exec_path.pended_prefix noClear
  cases op with
  | runRecoverTask =>
      rcases (cleared_runRecoverTask : s.chart.pended sa <+: t.chart.pended sa ∨ _) with
        stays | ⟨popped, stopping, cleared, silent⟩
      · exact Or.inl stays
      · exact Or.inr (Or.inr ⟨rfl, popped, stopping, cleared, silent⟩)
  | processEvent info event =>
      cases event with
      | processStartedEvent => exact Or.inl (kept nofun)
      | processStoppedEvent =>
          rcases (replayed_processStopped : s.chart.pended sa <+: t.chart.pended sa ∨ _) with
            stays | ⟨member, replayed⟩
          · exact Or.inl stays
          · exact Or.inr (Or.inl ⟨info, rfl, member, replayed⟩)
  | load request => exact Or.inl (kept (by rintro (change | ⟨_, change⟩) <;> cases change))
  | startProcessTask =>
      refine Or.inl (kept ?_)
      rintro ⟨task, rest, -, change⟩
      cases task <;> exact change
  | stepUnloadEvent => exact Or.inl (kept (by rintro (change | ⟨_, -, change⟩) <;> cases change))
  | unload request => exact Or.inl (kept (by cases request <;> exact id))
  | abilityEvent other event => exact Or.inl (kept (by cases event <;> exact id))
  | expire expiry => exact Or.inl (kept (by cases expiry <;> exact id))
  | startUnloadEvent => exact Or.inl (kept nofun)
  | _ => exact Or.inl (kept id)

/-- An event that carries a load request, and through which alone the request can reach the
manager and its callback. -/
def carries (request : LoadRequestInfo) : Event → Prop
  | .handleLoad _ handled => handled = request
  | .doLoadSystemAbility _ handled _ => handled = request
  | _ => False

/-- The request of client 8 is pended at tick 1. The request of client 9 comes 60 s later and
is refused; the overflow task then drops the request of client 8. -/
def overflowOps : List (Env × Op) :=
  [({}, .processEvent ⟨"host", 100, 1000⟩ .processStartedEvent),
   ({}, .load (localLoad 1 7 70)),
   ({}, .abilityEvent 1 .abilityLoadSuccessEvent),
   ({}, .unload (some (localUnload 1 7))),
   ({}, .startProcessTask),
   ({}, .startProcessTask),
   ({ getTickCount := fun _ _ => 1 }, .load (localLoad 1 8 80)),
   ({ getTickCount := fun _ _ => 60001 }, .load (localLoad 1 9 90))]

theorem pended_load_dropped_by_overflow :
    ¬ ∀ (saProfiles : List SaProfile) (ops : List (Env × Op)) (label : Env × Op) (sa : Int)
        (request : LoadRequestInfo),
      request ∈ ((runFrom saProfiles ops).ability sa).pendingLoadEventList →
      request ∈ ((step (runFrom saProfiles ops) label).ability sa).pendingLoadEventList ∨
        ∃ new, (step (runFrom saProfiles ops) label).log = new ++ (runFrom saProfiles ops).log ∧
          ∃ event ∈ new, carries request event := by
  intro never
  have pended : localLoad 1 8 80 ∈
      ((runFrom [{ process := "host", saId := 1 }] overflowOps).ability 1).pendingLoadEventList := by
    decide +kernel
  have dropped : ((step (runFrom [{ process := "host", saId := 1 }] overflowOps)
      ({}, .runRecoverTask)).ability 1).pendingLoadEventList = [] := by decide +kernel
  have silent : (step (runFrom [{ process := "host", saId := 1 }] overflowOps)
      ({}, .runRecoverTask)).log =
        [.serviceControlStop "host" 0] ++
          (runFrom [{ process := "host", saId := 1 }] overflowOps).log := by decide +kernel
  rcases never _ _ _ _ _ pended with kept | ⟨new, extends_, event, member, carried⟩
  · rw [dropped] at kept
    cases kept
  · rw [silent] at extends_
    have only := List.append_cancel_right extends_
    rw [← only, List.mem_singleton] at member
    rw [member] at carried
    exact carried

end Scheduler

end Samgr
