import Samgr.Schedule.Board
import Samgr.Schedule.Counters
import Samgr.Schedule.ProcessListeners

/-! The notices of activity of a process. They are derived from the counters when an ability enters
LOADED or UNLOADABLE, while abilities leave LOADED and LOADING on other ways as well, so they follow
the process only as long as its last LOADED ability leaves through UNLOADABLE. -/
namespace Samgr

open Tally

namespace Board

variable {b : Board} {sa : Int} {next state : SystemAbilityState}

/-- The counters of the process are exact but for NOT_LOADED, and the listener has one entry at most. -/
structure Sound (b : Board) : Prop where
  nodup : b.ids.Nodup
  exact : ∀ state, state ≠ .notLoaded → b.count state = tally (b.ids.filter b.mine) b.state state
  single : b.entries ≤ 1

theorem moveCount_apply {count : SystemAbilityState → Nat} {fromState toState : SystemAbilityState}
    (different : fromState ≠ toState) : Chart.moveCount count fromState toState state =
      if state = toState then count toState + 1
      else if state = fromState then count fromState - 1 else count state := by
  simp only [Chart.moveCount, Function.update_apply, if_neg different.symm]

theorem ne_of_canEnter {fromState toState : SystemAbilityState}
    (enterable : toState.canEnter fromState = true) : fromState ≠ toState := by
  rintro rfl
  cases fromState <;> exact absurd enterable (by decide)

theorem enter_count : (b.enter sa next).count =
    if b.mine sa then Chart.moveCount b.count (b.state sa) next else b.count := by
  rw [enter, tell_count]
  rfl

theorem Sound.enter (sound : b.Sound) (listed : sa ∈ b.ids) (enterable : next.canEnter (b.state sa) = true) :
    (b.enter sa next).Sound := by
  have ids : (b.enter sa next).ids = b.ids := by
    rw [Board.enter, tell_ids]
    rfl
  have mine : (b.enter sa next).mine = b.mine := by
    rw [Board.enter, tell_mine]
    rfl
  have states : (b.enter sa next).state = Function.update b.state sa next := by
    rw [Board.enter, tell_state]
    rfl
  constructor
  · rw [ids]
    exact sound.nodup
  · intro state other
    have before := sound.exact state other
    rw [ids, mine, states, enter_count]
    by_cases own : b.mine sa = true
    · have relabel := tally_update (sound.nodup.filter b.mine)
        (List.mem_filter.mpr ⟨listed, own⟩) b.state next state
      rw [if_pos own, moveCount_apply (ne_of_canEnter enterable)]
      have different := ne_of_canEnter enterable
      grind
    · rw [if_neg own, tally_update_of_notMem]
      · exact before
      · exact fun member => own (List.mem_filter.mp member).2
  · rw [Board.enter, tell_entries]
    exact sound.single

/-- A LOADED ability is counted. -/
theorem Sound.loaded_pos (sound : b.Sound) (listed : sa ∈ b.ids) (own : b.mine sa = true)
    (loaded : b.state sa = .loaded) : 0 < b.count .loaded := by
  rw [sound.exact .loaded (by decide), ← loaded]
  exact tally_pos (List.mem_filter.mpr ⟨listed, own⟩) b.state

/-- Another LOADED ability is counted besides. -/
theorem Sound.loaded_two (sound : b.Sound) (listed : sa ∈ b.ids) (own : b.mine sa = true)
    (loaded : b.state sa = .loaded) {other : Int} (apart : other ≠ sa) (member : other ∈ b.ids)
    (others : b.mine other = true) (up : b.state other = .loaded) : 1 < b.count .loaded := by
  have relabel := tally_update (sound.nodup.filter b.mine)
    (List.mem_filter.mpr ⟨listed, own⟩) b.state .notLoaded .loaded
  have rest : 0 < tally (b.ids.filter b.mine) (Function.update b.state sa .notLoaded) .loaded := by
    have there := tally_pos (List.mem_filter.mpr ⟨member, others⟩) (Function.update b.state sa .notLoaded)
    rwa [Function.update_of_ne apart, up] at there
  rw [sound.exact .loaded (by decide)]
  rw [if_pos loaded, if_neg (by decide)] at relabel
  omega

/-- Notices, the newest first, that begin with an activation and alternate. -/
structure Alternate (news : List Bool) : Prop where
  turns : news.IsChain (· ≠ ·)
  begins : news.getLast? ≠ some false

/-- The notices since `before` alternate, and the last one is an activation exactly while an ability
of the process is LOADED. -/
def InStep (before : List Bool) (b : Board) : Prop :=
  ∃ news, b.heard = news ++ before ∧ Alternate news ∧ (news.head? = some true ↔ 0 < b.count .loaded)

theorem Alternate.cons {news : List Bool} {mark : Bool} (alternate : Alternate news)
    (turn : news.head? ≠ some mark) (first : news = [] → mark = true) : Alternate (mark :: news) := by
  cases news with
  | nil => exact ⟨List.IsChain.singleton _, by simp [first rfl]⟩
  | cons last news =>
      constructor
      · apply List.isChain_cons_cons.mpr
        refine ⟨?_, alternate.turns⟩
        rintro rfl
        exact turn rfl
      · rw [List.getLast?_cons_cons]
        exact alternate.begins

/-- An entry that does not take the last LOADED ability away, unless by UNLOADABLE with none LOADING. -/
def Safe (b : Board) (sa : Int) (next : SystemAbilityState) : Prop :=
  b.mine sa = true → b.state sa = .loaded →
    1 < b.count .loaded ∨ (next = .unloadable ∧ b.count .loading = 0)

/-- An entry that says nothing new. -/
theorem InStep.same {before : List Bool} {c : Board} (inStep : InStep before b)
    (heard : c.heard = b.heard) (count : 0 < c.count .loaded ↔ 0 < b.count .loaded) : InStep before c := by
  obtain ⟨news, all, alternate, last⟩ := inStep
  exact ⟨news, heard.trans all, alternate, last.trans count.symm⟩

theorem InStep.told {before : List Bool} {c : Board} (mark : Bool) (inStep : InStep before b)
    (heard : c.heard = mark :: b.heard) (was : 0 < b.count .loaded ↔ mark = false)
    (count : 0 < c.count .loaded ↔ mark = true) : InStep before c := by
  obtain ⟨news, all, alternate, last⟩ := inStep
  refine ⟨mark :: news, by rw [heard, all, List.cons_append], ?_, ?_⟩
  · apply alternate.cons
    · intro same
      cases mark
      · rw [same] at last
        have up := was.mpr rfl
        rw [← last] at up
        cases up
      · have up := was.mp (last.mp same)
        cases up
    · rintro rfl
      cases mark
      · have up := last.mpr (was.mpr rfl)
        cases up
      · rfl
  · rw [List.head?_cons, Option.some.injEq]
    exact count.symm

theorem enter_heard (single : b.entries = 1) : (b.enter sa next).heard =
    (if b.mine sa then (notice (Chart.moveCount b.count (b.state sa) next) next).toList else []) ++
      b.heard := by
  rw [enter, tell]
  by_cases own : b.mine sa = true
  · have count : (b.move sa next).count = Chart.moveCount b.count (b.state sa) next := if_pos own
    have mine : (b.move sa next).mine sa = true := own
    have entries : (b.move sa next).entries = 1 := single
    rw [if_pos mine, if_pos own, count, entries]
    cases notice (Chart.moveCount b.count (b.state sa) next) next <;> rfl
  · have mine : ¬ (b.move sa next).mine sa = true := own
    rw [if_neg mine, if_neg own]
    rfl

/-- A safe entry keeps the listener in step. -/
theorem InStep.enter {before : List Bool} (inStep : InStep before b) (sound : b.Sound)
    (single : b.entries = 1) (listed : sa ∈ b.ids) (enterable : next.canEnter (b.state sa) = true)
    (safe : Safe b sa next) : InStep before (b.enter sa next) := by
  have heard : (b.enter sa next).heard = _ := enter_heard single
  have count : (b.enter sa next).count = _ := enter_count
  by_cases own : b.mine sa = true
  · rw [if_pos own] at heard count
    have different := ne_of_canEnter enterable
    have moved : ∀ state, Chart.moveCount b.count (b.state sa) next state = _ :=
      fun state => moveCount_apply different
    generalize Chart.moveCount b.count (b.state sa) next = counts at heard count moved
    by_cases leaves : b.state sa = .loaded
    · have counted := sound.loaded_pos listed own leaves
      have loaded := moved .loaded
      rw [leaves] at loaded different
      rw [if_neg different, if_pos rfl] at loaded
      by_cases more : 1 < b.count .loaded
      · -- others stay LOADED, and nothing is said
        apply inStep.same
        · have silent : notice counts next = none := by
            cases next with
            | loaded => exact absurd rfl different
            | unloadable => exact if_neg fun none => absurd none.1 (by omega)
            | _ => rfl
          rw [heard, silent]
          rfl
        · rw [count]
          omega
      · -- the last one leaves through UNLOADABLE
        obtain ⟨rfl, none⟩ := (safe own leaves).resolve_left more
        have loading := moved .loading
        rw [leaves, if_neg (by decide), if_neg (by decide)] at loading
        apply inStep.told false
        · have said : notice counts .unloadable = some false := if_pos ⟨by omega, by omega⟩
          rw [heard, said]
          rfl
        · simp only [iff_true]
          omega
        · rw [count, loaded]
          simp only [Bool.false_eq_true, iff_false]
          omega
    · have loaded := moved .loaded
      by_cases enters : next = .loaded
      · subst enters
        rw [if_pos rfl] at loaded
        by_cases first : b.count .loaded = 0
        · apply inStep.told true
          · have said : notice counts .loaded = some true := if_pos (by omega)
            rw [heard, said]
            rfl
          · simp only [Bool.true_eq_false, iff_false]
            omega
          · rw [count, loaded]
            simp only [iff_true]
            omega
        · apply inStep.same
          · have silent : notice counts .loaded = none := if_neg (by omega)
            rw [heard, silent]
            rfl
          · rw [count]
            omega
      · -- LOADED is not concerned
        rw [if_neg (Ne.symm enters), if_neg (Ne.symm leaves)] at loaded
        apply inStep.same
        · have silent : notice counts next = none := by
            cases next with
            | loaded => exact absurd rfl enters
            | unloadable => exact absurd (by simpa [SystemAbilityState.canEnter] using enterable) leaves
            | _ => rfl
          rw [heard, silent]
          rfl
        · rw [count, loaded]
  · rw [if_neg own] at heard count
    apply inStep.same heard
    rw [count]

/-- A listener with its one entry that is in step. -/
structure Kept (before : List Bool) (b : Board) : Prop where
  sound : b.Sound
  single : b.entries = 1
  inStep : InStep before b

theorem Kept.enter {before : List Bool} (kept : Kept before b) (listed : sa ∈ b.ids)
    (enterable : next.canEnter (b.state sa) = true) (safe : Safe b sa next) :
    Kept before (b.enter sa next) := by
  constructor
  · exact kept.sound.enter listed enterable
  · rw [Board.enter, tell_entries]
    exact kept.single
  · exact kept.inStep.enter kept.sound kept.single listed enterable safe

theorem Path.kept {before : List Bool} {c : Board} (path : Path Safe b c) (kept : Kept before b) :
    Kept before c :=
  path.keeps (Kept before) (fun listed enterable safe kept => kept.enter listed enterable safe) kept

theorem Path.sound {P : Board → Int → SystemAbilityState → Prop} {c : Board} (path : Path P b c)
    (sound : b.Sound) : c.Sound :=
  path.keeps Sound (fun listed enterable _ sound => sound.enter listed enterable) sound

theorem safe_of_calm (calm : Calm b sa next) : Safe b sa next :=
  fun _ loaded => absurd loaded calm

/-- No ability of the process is LOADED, or one stays so when the abilities of `sas` leave. -/
def Stays (sas : List Int) (b : Board) : Prop :=
  b.count .loaded = 0 ∨ ∃ other ∈ b.ids, b.mine other = true ∧ b.state other = .loaded ∧ other ∉ sas

theorem Stays.enter {sas : List Int} (stays : Stays sas b) (enterable : next.canEnter (b.state sa) = true)
    (stops : Scheduler.Stops sas b sa next) : Stays sas (b.enter sa next) := by
  obtain ⟨leaves, below⟩ := stops
  rcases stays with none | ⟨other, member, others, up, outside⟩
  · apply Or.inl
    rw [enter_count]
    split
    · rw [moveCount_apply (ne_of_canEnter enterable), if_neg (Ne.symm below)]
      split
      · rename_i same
        rw [← same, none]
      · exact none
    · exact none
  · have apart : other ≠ sa := by
      rintro rfl
      exact outside (leaves.resolve_left fun down => down up)
    refine .inr ⟨other, ?_, ?_, ?_, outside⟩
    · rw [Board.enter, tell_ids]
      exact member
    · rw [Board.enter, tell_mine]
      exact others
    · rw [enter_state, if_neg apart]
      exact up

theorem Stays.safe {sas : List Int} (stays : Stays sas b) (sound : b.Sound) (listed : sa ∈ b.ids)
    (stops : Scheduler.Stops sas b sa next) : Safe b sa next := by
  intro own loaded
  have counted := sound.loaded_pos listed own loaded
  rcases stays with none | ⟨other, member, others, up, outside⟩
  · omega
  · apply Or.inl
    apply sound.loaded_two listed own loaded _ member others up
    rintro rfl
    exact outside (stops.1.resolve_left fun down => down loaded)

/-- As long as one ability stays LOADED, if any, the others leave safely. -/
theorem Path.safe_of_stops {sas : List Int} {c : Board} (path : Path (Scheduler.Stops sas) b c)
    (sound : b.Sound) (stays : Stays sas b) : Path Safe b c := by
  suffices all : c.Sound ∧ Stays sas c ∧ Path Safe b c from all.2.2
  apply path.keeps (fun d => d.Sound ∧ Stays sas d ∧ Path Safe b d) _ ⟨sound, stays, .refl b⟩
  rintro d sa next listed enterable stops ⟨sound, stays, path⟩
  refine ⟨sound.enter listed enterable, stays.enter enterable stops, path.trans ?_⟩
  exact Board.Path.single ⟨sa, next, listed, enterable, stays.safe sound listed stops, rfl⟩

end Board

namespace Scheduler

variable {listener : RemoteInterface} {processName : String} {env : Env} {s : Scheduler}

/-- The ability that an operation asks to become idle, if it answers that it is. -/
def idles (s : Scheduler) (label : Env × Op) : Option Int :=
  if label.1.idleSystemAbility s.now = some 0 then
    match label.2 with
    | .unload (some request) =>
        if request.systemAbilityId ∈ s.abilityIds ∧ asksAtOnce request then some request.systemAbilityId
        else none
    | .stepUnloadEvent =>
        match s.unloadEventRunning with
        | some (sa, .waitingForLock) =>
            if sa ∈ s.abilityIds ∧ (s.ability sa).unloadRequest.isSome then some sa else none
        | _ => none
    | .startProcessTask =>
        match s.unloadTimeoutRunning, s.processHandler.pop with
        | none, some (.pendingUnload sa, _) =>
            if sa ∈ s.abilityIds ∧ (s.ability sa).pendingEvent = .unloadAbilityEvent ∧
              (s.ability sa).pendingUnloadEvent.any asksAtOnce then some sa
            else none
        | _, _ => none
    | _ => none
  else none

/-- An operation on the listeners of processes. -/
def Op.subscribes : Op → Bool
  | .subscribeList _ _ _ => true
  | .unSubscribeList _ _ _ => true
  | _ => false

open Board

variable {P : Board → Int → SystemAbilityState → Prop}

theorem runProcessTask_board {task : ProcessTask} (weaken : ∀ {b c : Board}, Path Calm b c → Path P b c)
    (unloads : ∀ (sa : Int) (b : Board), b.state sa = .unloadable → P b sa .unloading)
    (idles : ∀ sa, task = .pendingUnload sa → sa ∈ s.abilityIds →
      (s.ability sa).pendingEvent = .unloadAbilityEvent →
      (s.ability sa).pendingUnloadEvent.any asksAtOnce = true → (s.ability sa).state = .loaded →
      env.idleSystemAbility s.now = some 0 → P (s.board listener processName) sa .unloadable) :
    Path P (s.board listener processName) ((s.runProcessTask env task).board listener processName) := by
  cases task with
  | updateLimitDelayUnloadTime sa =>
      simp only [runProcessTask, updateLimitDelayUnloadTimeTask]
      split
      · rfl
      · rw [board_setAbility_quiet rfl rfl]
  | tryUnloadAllSystemAbility name => exact weaken tryUnloadAllSystemAbility_board
  | unloadTimeout name => rfl
  | tryKillSystemProcess name =>
      rw [runProcessTask, tryKillSystemProcess]
      split
      · rw [board_killSystemProcessLocked]
      · rfl
  | pendingUnload sa =>
      rw [runProcessTask]
      split
      · rename_i listed
        exact handlePendingUnloadEventLocked_board listed (idles sa rfl listed) (unloads sa)
      · rfl

/-- Every operation but the subscriptions is a path of entries; those that may take an ability out of
LOADED are a directed unload, an idle request and a stopped process. -/
theorem exec_board {op : Op} (rest : op.subscribes = false)
    (calm : ∀ b sa next, Calm b sa next → P b sa next)
    (idles : ∀ sa, s.idles (env, op) = some sa → (s.ability sa).state = .loaded →
      P (s.board listener processName) sa .unloadable)
    (leaves : ∀ sa ∈ s.abilityIds, op = .abilityEvent sa .abilityUnloadSuccessEvent →
      P (s.board listener processName) sa .notLoaded)
    (stops : ∀ info middle, op = .processEvent info .processStoppedEvent →
      info.processName ∈ s.processNames ∧ (s.process info.processName).state ≠ .notStarted →
      Path (Stops (s.process info.processName).saList) (s.board listener processName) middle →
      Path P (s.board listener processName) middle) :
    Path P (s.board listener processName) ((s.exec env op).1.board listener processName) := by
  have weaken : ∀ {b c : Board}, Path Calm b c → Path P b c :=
    fun path => path.mono fun b sa next _ => calm b sa next
  have unloads : ∀ (sa : Int) (b : Board), b.state sa = .unloadable → P b sa .unloading :=
    fun sa b unloadable => calm b sa .unloading (calm_of_unloadable unloadable)
  cases op with
  | load request => exact weaken handleLoadAbilityEvent_board
  | checkStart sa => exact weaken checkStartAbilityEvent_board
  | unload request =>
      cases request with
      | none => rfl
      | some request =>
          simp only [exec, handleUnloadAbilityEvent]
          split
          · rename_i listed
            refine handleUnloadAbilityEventLocked_board listed (fun atOnce up answer => ?_) (unloads _)
            apply idles _ _ up
            simpa [Scheduler.idles, answer, listed] using atOnce
          · rfl
  | cancelUnload sa => exact weaken handleCancelUnloadAbilityEvent_board
  | abilityEvent sa event =>
      simp only [exec, sendAbilityStateEvent]
      split
      · rfl
      · rename_i listed
        rw [not_not] at listed
        cases event with
        | abilityLoadFailedEvent => exact weaken (handleAbilityLoadFailedEventLocked_board listed)
        | abilityLoadSuccessEvent => exact weaken (handleAbilityLoadSuccessEventLocked_board listed)
        | abilityUnloadSuccessEvent =>
            exact handleAbilityUnLoadSuccessEventLocked_board listed (leaves sa listed rfl)
  | processEvent info event =>
      cases event with
      | processStartedEvent =>
          rw [exec, board_sendProcessStarted]
      | processStoppedEvent =>
          by_cases runs : info.processName ∈ s.processNames ∧
              (s.process info.processName).state ≠ .notStarted
          · obtain ⟨middle, first, restarts⟩ := sendProcessStopped_board env s info listener processName
            exact (stops info middle rfl runs first).trans (weaken restarts)
          · rw [not_and_not_right] at runs
            simp only [exec, sendProcessStateEvent]
            split
            · rfl
            · rename_i known
              rw [not_not] at known
              simp [handleProcessStoppedEventLocked, runs known]
  | unloadProcess name => exact weaken unloadProcess_board
  | updateLimitDelayUnloadTime sa => rw [exec, board_postProcessTask]
  | expire expiry => cases expiry <;> rfl
  | startProcessTask =>
      simp only [exec, startProcessTask]
      split
      · rename_i task rest free popped
        have taken : ({ s with processHandler := rest } : Scheduler).board listener processName =
            s.board listener processName := rfl
        rw [← taken] at idles ⊢
        refine runProcessTask_board weaken unloads fun sa own listed pending atOnce up answer => ?_
        subst own
        apply idles _ _ up
        have answer : env.idleSystemAbility s.now = some 0 := answer
        have listed : sa ∈ s.abilityIds := listed
        have pending : (s.ability sa).pendingEvent = .unloadAbilityEvent := pending
        simpa [Scheduler.idles, free, popped, answer, listed, pending] using atOnce
      · rfl
  | stepUnloadTimeout =>
      simp only [exec, stepUnloadTimeout]
      split
      · rfl
      · rfl
      · rw [unloadTimeoutTask]
        split
        · rw [board_killSystemProcessLocked]
          rfl
        · rfl
  | startUnloadEvent =>
      simp only [exec, startUnloadEvent]
      split <;> rfl
  | stepUnloadEvent =>
      simp only [exec, stepUnloadEvent]
      split
      · rfl
      · rfl
      · rename_i sa runs
        have stopped : ({ s with unloadEventRunning := none } : Scheduler).board listener processName =
            s.board listener processName := rfl
        rw [← stopped] at idles ⊢
        rw [processDelayUnloadEvent]
        split
        · rename_i listed
          have listed : sa ∈ s.abilityIds := listed
          refine processDelayUnloadEventLocked_board listed (fun requested up answer => ?_) (unloads _)
          apply idles _ _ up
          have answer : env.idleSystemAbility s.now = some 0 := answer
          have requested : (s.ability sa).unloadRequest.isSome = true := requested
          simp [Scheduler.idles, runs, answer, listed, requested]
        · rfl
  | runRecoverTask =>
      simp only [exec, runRecoverTask]
      split
      · rfl
      · rw [board_processPendingLoadOverflow]
        rfl
  | subscribe listener foregroundOnly =>
      simp only [exec, subscribeSystemProcess]
      split <;> rfl
  | unSubscribe listener foregroundOnly =>
      simp only [exec, unSubscribeSystemProcess]
      split
      · rfl
      · split <;> rfl
  | listenerDied remoteObject => rfl
  | subscribeList procNames listener callingPid => cases rest
  | unSubscribeList procNames listener callingPid => cases rest

/-- Nothing but the entries of the listener differs, and there is one at most as before. -/
structure Resubscribed (b c : Board) : Prop where
  rest : c = { b with entries := c.entries }
  single : b.entries ≤ 1 → c.entries ≤ 1

theorem Resubscribed.trans {b c d : Board} (first : Resubscribed b c) (second : Resubscribed c d) :
    Resubscribed b d := by
  constructor
  · rw [second.rest, first.rest]
  · exact fun single => second.single (first.single single)

theorem subscribeOneProcess_board {told : RemoteInterface} {callingPid : Int} {procName : String} :
    Resubscribed (s.board listener processName)
      ((s.subscribeOneProcess told callingPid procName).1.board listener processName) := by
  constructor
  · simp only [subscribeOneProcess]
    split
    · rfl
    · split
      · rfl
      · split <;> rfl
  · intro single
    have before : ((s.subscriptions processName).map ProcSubscription.listener).count listener ≤ 1 := single
    change (((s.subscribeOneProcess told callingPid procName).1.subscriptions processName).map
      ProcSubscription.listener).count listener ≤ 1
    by_cases adds : s.addsEntry told callingPid procName
    · have added := subscribeOne_added adds
      by_cases own : processName = procName
      · subst own
        rw [added.list, List.map_append, List.count_append]
        by_cases same : told = listener
        · subst same
          have none : ((s.subscriptions processName).map ProcSubscription.listener).count told = 0 := by
            apply List.count_eq_zero.mpr
            intro member
            obtain ⟨item, inside, rfl⟩ := List.mem_map.mp member
            exact adds.2.1 item inside rfl
          rw [none]
          simp
        · have last : (List.map ProcSubscription.listener
              [{ listener := told, subscriber := callingPid }]).count listener = 0 := by
            simp [same]
          omega
      · rw [added.agree.subscriptions own]
        exact before
    · rw [(subscribeOne_same adds).entries]
      exact before

theorem subscribeSystemProcessList_board {told : RemoteInterface} {callingPid : Int}
    {procNames : List String} : Resubscribed (s.board listener processName)
      ((subscribeSystemProcessList told callingPid procNames s).1.board listener processName) := by
  induction procNames generalizing s with
  | nil => exact ⟨rfl, id⟩
  | cons procName rest hypothesis =>
      simp only [subscribeSystemProcessList]
      split
      · exact subscribeOneProcess_board.trans hypothesis
      · exact subscribeOneProcess_board

theorem unSubscribeOneProcess_board {told : RemoteInterface} {callingPid : Int} {procName : String} :
    Resubscribed (s.board listener processName)
      ((unSubscribeOneProcess told callingPid s procName).board listener processName) := by
  constructor
  · simp only [unSubscribeOneProcess]
    split <;> rfl
  · intro single
    have before : ((s.subscriptions processName).map ProcSubscription.listener).count listener ≤ 1 := single
    change (((unSubscribeOneProcess told callingPid s procName).subscriptions processName).map
      ProcSubscription.listener).count listener ≤ 1
    by_cases own : processName = procName
    · subst own
      rw [unSubscribeOne_list]
      have fewer := (List.eraseP_sublist (p := fun item : ProcSubscription =>
        item.listener.object == told.object) (l := s.subscriptions processName)).map
          ProcSubscription.listener
      exact Nat.le_trans (fewer.count_le listener) before
    · rw [unSubscribeOne_elsewhere.subscriptions own]
      exact before

theorem unSubscribeSystemProcessList_board {told : RemoteInterface} {callingPid : Int}
    {procNames : List String} : Resubscribed (s.board listener processName)
      ((s.unSubscribeSystemProcessList told callingPid procNames).board listener processName) := by
  rw [unSubscribeSystemProcessList]
  induction procNames generalizing s with
  | nil => exact ⟨rfl, id⟩
  | cons procName rest hypothesis => exact unSubscribeOneProcess_board.trans hypothesis

theorem exec_resubscribed {op : Op} (subscribes : op.subscribes = true) :
    Resubscribed (s.board listener processName) ((s.exec env op).1.board listener processName) := by
  cases op with
  | subscribeList procNames told callingPid => exact subscribeSystemProcessList_board
  | unSubscribeList procNames told callingPid => exact unSubscribeSystemProcessList_board
  | _ => cases subscribes

theorem Resubscribed.sound {b c : Board} (same : Resubscribed b c) (sound : b.Sound) : c.Sound := by
  have single := same.single sound.single
  have rest := same.rest
  generalize c.entries = entries at rest single
  subst rest
  exact ⟨sound.nodup, sound.exact, single⟩

theorem step_sound {label : Env × Op} (sound : (s.board listener processName).Sound) :
    ((s.step label).board listener processName).Sound := by
  cases subscribes : label.2.subscribes
  · have path : Path (fun _ _ _ => True) (s.board listener processName)
        ((s.exec label.1 label.2).1.board listener processName) :=
      exec_board subscribes (fun _ _ _ _ => trivial) (fun _ _ _ => trivial) (fun _ _ _ => trivial)
        fun _ _ _ _ stops => stops.mono fun _ _ _ _ _ => trivial
    exact path.sound sound
  · exact (exec_resubscribed subscribes).sound sound

/-- The counters of a process are exact in every reachable state but for NOT_LOADED, for any profile
list, and a pointer has one entry at most. -/
theorem runFrom_sound (saProfiles : List SaProfile) (ops : List (Env × Op)) :
    ((runFrom saProfiles ops).board listener processName).Sound := by
  apply Runs.run_invariant (fun s : Scheduler => (s.board listener processName).Sound)
  · exact fun s label sound => step_sound sound
  · have start := initial_init saProfiles
    constructor
    · exact start.nodup
    · intro state other
      have none : tally (((init saProfiles).board listener processName).ids.filter
          ((init saProfiles).board listener processName).mine)
          ((init saProfiles).board listener processName).state state = 0 := by
        apply tally_eq_zero.mpr
        intro sa _ same
        exact other (same.symm.trans (start.fresh sa))
      rw [none]
      exact (start.counts processName state).trans (if_neg other)
    · have empty : (init saProfiles).procListeners processName = [] := by
        simp [procListeners, (init_noListeners saProfiles).lists]
      simp [board, empty]

section Follows

/-- A LOADED ability of the process. -/
def up (s : Scheduler) (processName : String) (sa : Int) : Bool :=
  s.ownProcessName sa == processName && (s.ability sa).state == .loaded

/-- The ability is the last LOADED one of the process. -/
def lastUp (s : Scheduler) (processName : String) (sa : Int) : Bool :=
  s.up processName sa && (s.process processName).abilityStateCountMap .loaded == 1

/-- The last LOADED ability of the process is not made idle while another is LOADING, nor unloaded
directly, and a process does not stop with all that are LOADED. -/
def keepsActivity (processName : String) (s : Scheduler) (label : Env × Op) : Bool :=
  ((s.idles label).all fun sa => !s.lastUp processName sa ||
      (s.process processName).abilityStateCountMap .loading == 0) &&
    match label.2 with
    | .abilityEvent sa .abilityUnloadSuccessEvent =>
        !(s.abilityIds.contains sa && s.lastUp processName sa)
    | .processEvent info .processStoppedEvent =>
        !(s.processNames.contains info.processName &&
            (s.process info.processName).state != .notStarted) ||
          (s.abilityIds.all fun sa => !s.up processName sa) ||
          s.abilityIds.any fun sa => s.up processName sa &&
            !(s.process info.processName).saList.contains sa
    | _ => true

/-- The notices of the listener since the state `before` alternate and begin with an activation. The
last one is an activation if an ability of the process is LOADED, and is none if no ability is LOADED
or LOADING. -/
def Follows (listener : RemoteInterface) (processName : String) (before s : Scheduler) : Prop :=
  ∃ news, heardOf listener processName s.log = news ++ heardOf listener processName before.log ∧
    Alternate news ∧
    ((∃ sa ∈ s.abilityIds, s.ownProcessName sa = processName ∧ (s.ability sa).state = .loaded) →
      news.head? = some true) ∧
    ((∀ sa ∈ s.abilityIds, s.ownProcessName sa = processName →
        (s.ability sa).state ≠ .loaded ∧ (s.ability sa).state ≠ .loading) →
      news.head? ≠ some true)

theorem up_iff (listener : RemoteInterface) {sa : Int} : s.up processName sa = true ↔
    (s.board listener processName).mine sa = true ∧ (s.board listener processName).state sa = .loaded := by
  simp [up, board]

theorem loaded_pos_iff (sound : (s.board listener processName).Sound) :
    0 < (s.board listener processName).count .loaded ↔
      ∃ sa ∈ s.abilityIds, s.ownProcessName sa = processName ∧ (s.ability sa).state = .loaded := by
  constructor
  · intro positive
    by_contra none
    have zero : tally ((s.board listener processName).ids.filter (s.board listener processName).mine)
        (s.board listener processName).state .loaded = 0 := by
      apply tally_eq_zero.mpr
      intro sa member loaded
      obtain ⟨listed, own⟩ := List.mem_filter.mp member
      exact none ⟨sa, listed, by simpa [board] using own, loaded⟩
    rw [← sound.exact .loaded (by decide)] at zero
    omega
  · rintro ⟨sa, listed, own, loaded⟩
    exact sound.loaded_pos listed (by simpa [board] using own) loaded

theorem follows_of_kept {before : Scheduler} (kept : Kept (heardOf listener processName before.log)
    (s.board listener processName)) : Follows listener processName before s := by
  obtain ⟨news, heard, alternate, last⟩ := kept.inStep
  rw [loaded_pos_iff kept.sound] at last
  refine ⟨news, heard, alternate, last.mpr, fun unused same => ?_⟩
  obtain ⟨sa, listed, own, loaded⟩ := last.mp same
  exact (unused sa listed own).1 loaded

theorem entries_of_mem (sound : (s.board listener processName).Sound)
    (subscribed : listener ∈ s.procListeners processName) :
    (s.board listener processName).entries = 1 := by
  have single := sound.single
  have positive : 0 < (s.board listener processName).entries := List.count_pos_iff.mpr subscribed
  omega

theorem lastUp_of_single {sa : Int} (sound : (s.board listener processName).Sound) (listed : sa ∈ s.abilityIds)
    (own : (s.board listener processName).mine sa = true)
    (loaded : (s.board listener processName).state sa = .loaded)
    (single : ¬ 1 < (s.board listener processName).count .loaded) : s.lastUp processName sa = true := by
  have positive := sound.loaded_pos listed own loaded
  have one : (s.process processName).abilityStateCountMap .loaded = 1 := by
    change (s.board listener processName).count .loaded = 1
    omega
  rw [lastUp, Bool.and_eq_true, beq_iff_eq]
  exact ⟨(up_iff listener).mpr ⟨own, loaded⟩, one⟩

theorem listed_of_idles {label : Env × Op} {sa : Int} (found : s.idles label = some sa) :
    sa ∈ s.abilityIds := by
  rw [idles] at found
  split at found
  · split at found
    · split at found
      · rename_i listed
        cases found
        exact listed.1
      · cases found
    · split at found
      · split at found
        · rename_i listed
          cases found
          exact listed.1
        · cases found
      · cases found
    · split at found
      · split at found
        · rename_i listed
          cases found
          exact listed.1
        · cases found
      · cases found
    · cases found
  · cases found

theorem safe_of_idles {label : Env × Op} {sa : Int} (sound : (s.board listener processName).Sound)
    (keeps : s.keepsActivity processName label = true) (idles : s.idles label = some sa)
    (listed : sa ∈ s.abilityIds) : Safe (s.board listener processName) sa .unloadable := by
  intro own loaded
  rw [or_iff_not_imp_left]
  intro single
  have last := lastUp_of_single sound listed own loaded single
  rw [keepsActivity, Bool.and_eq_true, idles] at keeps
  have none : (s.process processName).abilityStateCountMap .loading = 0 := by
    simpa [last] using keeps.1
  exact ⟨rfl, none⟩

theorem safe_of_unloadSuccess {env : Env} {sa : Int} (sound : (s.board listener processName).Sound)
    (keeps : s.keepsActivity processName (env, .abilityEvent sa .abilityUnloadSuccessEvent) = true)
    (listed : sa ∈ s.abilityIds) : Safe (s.board listener processName) sa .notLoaded := by
  intro own loaded
  by_contra unsafely
  have last := lastUp_of_single sound listed own loaded fun more => unsafely (.inl more)
  rw [keepsActivity, Bool.and_eq_true] at keeps
  simp [last, listed] at keeps

theorem stays_of_processStopped {env : Env} {info : ProcessInfo}
    (sound : (s.board listener processName).Sound)
    (keeps : s.keepsActivity processName (env, .processEvent info .processStoppedEvent) = true)
    (runs : info.processName ∈ s.processNames ∧ (s.process info.processName).state ≠ .notStarted) :
    Stays (s.process info.processName).saList (s.board listener processName) := by
  rw [keepsActivity, Bool.and_eq_true] at keeps
  have cases := keeps.2
  simp only [Bool.or_eq_true, Bool.not_eq_true', List.all_eq_true, List.any_eq_true,
    Bool.and_eq_true] at cases
  rcases cases with (idle | none) | ⟨other, member, loaded, outside⟩
  · simp [runs] at idle
  · apply Or.inl
    by_contra positive
    obtain ⟨sa, listed, own, loaded⟩ := (loaded_pos_iff sound).mp (by omega)
    have down := none sa listed
    simp [up, own, loaded] at down
  · obtain ⟨own, loaded⟩ := (up_iff listener).mp loaded
    exact .inr ⟨other, member, own, loaded, by simpa using outside⟩

theorem step_kept {before : List Bool} {label : Env × Op}
    (stays : listener ∈ (s.step label).procListeners processName)
    (keeps : s.keepsActivity processName label = true)
    (kept : Kept before (s.board listener processName)) :
    Kept before ((s.step label).board listener processName) := by
  have sound : ((s.step label).board listener processName).Sound := step_sound kept.sound
  cases subscribes : label.2.subscribes
  · obtain ⟨env, op⟩ := label
    have path : Path Safe (s.board listener processName) ((s.exec env op).1.board listener processName) := by
      refine exec_board subscribes (fun _ _ _ => safe_of_calm) ?_ ?_ ?_
      · intro sa found _
        exact safe_of_idles kept.sound keeps found (listed_of_idles found)
      · rintro sa listed rfl
        exact safe_of_unloadSuccess kept.sound keeps listed
      · rintro info middle rfl runs stops
        exact stops.safe_of_stops kept.sound (stays_of_processStopped kept.sound keeps runs)
    exact path.kept kept
  · have same : Resubscribed (s.board listener processName) ((s.step label).board listener processName) :=
      exec_resubscribed subscribes
    refine ⟨sound, entries_of_mem sound stays, ?_⟩
    rw [same.rest]
    exact kept.inStep

/-- All along a run in which a listener stays subscribed, from a state in which no ability of the
process is LOADED or LOADING, its notices follow the process if every step keeps the activity. -/
theorem notices_follow_process (saProfiles : List SaProfile) (before after : List (Env × Op))
    (listener : RemoteInterface) (processName : String)
    (subscribed : listener ∈ (runFrom saProfiles before).procListeners processName)
    (unused : ∀ sa ∈ (runFrom saProfiles before).abilityIds,
      (runFrom saProfiles before).ownProcessName sa = processName →
        ((runFrom saProfiles before).ability sa).state ≠ .loaded ∧
          ((runFrom saProfiles before).ability sa).state ≠ .loading)
    (stays : Runs.Guarded step (fun s label => listener ∈ (s.step label).procListeners processName)
      (runFrom saProfiles before) after)
    (keeps : Runs.Guarded step (fun s label => s.keepsActivity processName label = true)
      (runFrom saProfiles before) after) :
    ∀ done, done <+: after → Follows listener processName (runFrom saProfiles before)
      (Runs.run step (runFrom saProfiles before) done) := by
  rintro done ⟨rest, rfl⟩
  have both := (Runs.guarded_append.mp (stays.and keeps)).1
  have sound : ((runFrom saProfiles before).board listener processName).Sound :=
    runFrom_sound saProfiles before
  have start : Kept (heardOf listener processName (runFrom saProfiles before).log)
      ((runFrom saProfiles before).board listener processName) := by
    refine ⟨sound, entries_of_mem sound subscribed, [], rfl, ⟨.nil, by simp⟩, ?_⟩
    rw [loaded_pos_iff sound]
    simp only [List.head?_nil, reduceCtorEq, false_iff]
    rintro ⟨sa, listed, own, loaded⟩
    exact (unused sa listed own).1 loaded
  apply follows_of_kept
  exact Runs.guarded_invariant
    (fun s : Scheduler => Kept (heardOf listener processName (runFrom saProfiles before).log)
      (s.board listener processName))
    (fun s label good kept => step_kept good.1 good.2 kept) both start

/-- One process with two abilities, started and with a listener. -/
def sharedHost : List SaProfile := [{ process := "host", saId := 1 }, { process := "host", saId := 2 }]

def watchHost : List (Env × Op) :=
  [({}, .processEvent ⟨"host", 100, 1000⟩ .processStartedEvent),
   ({}, .subscribeList ["host"] ⟨9, 9⟩ 50)]

/-- An ability is loaded and becomes idle. -/
def loadAndIdle : List (Env × Op) :=
  [({}, .load (localLoad 1 7 70)),
   ({}, .abilityEvent 1 .abilityLoadSuccessEvent),
   ({}, .unload (some (localUnload 1 7)))]

theorem loadAndIdle_follows : Follows ⟨9, 9⟩ "host" (runFrom sharedHost watchHost)
    (Runs.run step (runFrom sharedHost watchHost) loadAndIdle) :=
  notices_follow_process sharedHost watchHost loadAndIdle ⟨9, 9⟩ "host" (by decide +kernel)
    (by decide +kernel) (by decide +kernel) (by decide +kernel) loadAndIdle (List.prefix_refl _)

/-- The first ability becomes idle while the second one is LOADING. -/
def idleWhileLoading : List (Env × Op) :=
  [({}, .load (localLoad 1 7 70)),
   ({}, .load (localLoad 2 7 71)),
   ({}, .abilityEvent 1 .abilityLoadSuccessEvent),
   ({}, .unload (some (localUnload 1 7))),
   ({}, .abilityEvent 2 .abilityLoadSuccessEvent)]

/-- The listener hears of two activations in a row. -/
theorem activated_twice : ¬ ∀ (saProfiles : List SaProfile) (before after : List (Env × Op))
    (listener : RemoteInterface) (processName : String),
    listener ∈ (runFrom saProfiles before).procListeners processName →
      (∀ sa ∈ (runFrom saProfiles before).abilityIds,
        (runFrom saProfiles before).ownProcessName sa = processName →
          ((runFrom saProfiles before).ability sa).state ≠ .loaded ∧
            ((runFrom saProfiles before).ability sa).state ≠ .loading) →
      Runs.Guarded step (fun s label => listener ∈ (s.step label).procListeners processName)
        (runFrom saProfiles before) after →
      Follows listener processName (runFrom saProfiles before)
        (Runs.run step (runFrom saProfiles before) after) := by
  intro always
  obtain ⟨news, heard, alternate, -⟩ := always sharedHost watchHost idleWhileLoading ⟨9, 9⟩ "host"
    (by decide +kernel) (by decide +kernel) (by decide +kernel)
  have none : heardOf ⟨9, 9⟩ "host" (runFrom sharedHost watchHost).log = [] := by decide +kernel
  have twice : heardOf ⟨9, 9⟩ "host"
      (Runs.run step (runFrom sharedHost watchHost) idleWhileLoading).log = [true, true] := by
    decide +kernel
  rw [twice, none, List.append_nil] at heard
  have turns := alternate.turns
  rw [← heard] at turns
  revert turns
  decide

end Follows

end Scheduler

end Samgr
