import Samgr.Schedule.Refinement

/-! What one listener of one process can see of it: the states of its abilities, their counters, and
the notices of activity that have come. Every function of the scheduler is a path of entries of
abilities into states, each with the notice it gives at once. -/
namespace Samgr

/-- The notice of activity that an event brings to a listener of a process: true is OnSystemProcessActivated. -/
def Event.activity (listener : RemoteInterface) (processName : String) : Event → Option Bool
  | .onSystemProcessActivated told info =>
      if told = listener ∧ info.processName = processName then some true else none
  | .onSystemProcessIdled told info =>
      if told = listener ∧ info.processName = processName then some false else none
  | _ => none

/-- `mine` marks the abilities of the process, `entries` counts the entries of the listener in the
list of the process, and `heard` lists the notices, the newest first. -/
@[ext] structure Board where
  ids : List Int
  mine : Int → Bool
  state : Int → SystemAbilityState
  count : SystemAbilityState → Nat
  entries : Nat
  heard : List Bool

namespace Board

variable (b : Board)

/-- What entering a state says about the activity of the process, by its counters. -/
def notice (count : SystemAbilityState → Nat) : SystemAbilityState → Option Bool
  | .loaded => if count .loaded = 1 then some true else none
  | .unloadable => if count .loaded = 0 ∧ count .loading = 0 then some false else none
  | _ => none

/-- An ability is counted in its new state. -/
def move (sa : Int) (next : SystemAbilityState) : Board :=
  { b with
    state := Function.update b.state sa next
    count := if b.mine sa then Chart.moveCount b.count (b.state sa) next else b.count }

/-- Each entry of the listener hears of it. -/
def tell (sa : Int) (next : SystemAbilityState) : Board :=
  if b.mine sa then
    { b with heard := ((notice b.count next).toList.flatMap (List.replicate b.entries)) ++ b.heard }
  else b

def enter (sa : Int) (next : SystemAbilityState) : Board := (b.move sa next).tell sa next

/-- One entry that `P` allows. -/
def Step (P : Board → Int → SystemAbilityState → Prop) (b c : Board) : Prop :=
  ∃ sa next, sa ∈ b.ids ∧ next.canEnter (b.state sa) = true ∧ P b sa next ∧ c = b.enter sa next

def Path (P : Board → Int → SystemAbilityState → Prop) : Board → Board → Prop :=
  Relation.ReflTransGen (Step P)

variable {b} {c : Board} {P Q : Board → Int → SystemAbilityState → Prop}

@[refl, simp] theorem Path.refl (b : Board) : Path P b b := Relation.ReflTransGen.refl

theorem Path.trans {d : Board} (first : Path P b c) (second : Path P c d) : Path P b d :=
  Relation.ReflTransGen.trans first second

theorem Path.single (step : Step P b c) : Path P b c := Relation.ReflTransGen.single step

theorem Path.mono (path : Path P b c) (weaker : ∀ d sa next, next.canEnter (d.state sa) = true →
    P d sa next → Q d sa next) : Path Q b c := by
  refine Relation.ReflTransGen.mono (fun d e step => ?_) _ _ path
  obtain ⟨sa, next, listed, enterable, allowed, rfl⟩ := step
  exact ⟨sa, next, listed, enterable, weaker d sa next enterable allowed, rfl⟩

/-- What every allowed entry keeps, a path keeps. -/
theorem Path.keeps (inv : Board → Prop)
    (keep : ∀ {d sa next}, sa ∈ d.ids → next.canEnter (d.state sa) = true → P d sa next → inv d →
      inv (d.enter sa next)) (path : Path P b c) (start : inv b) : inv c := by
  apply Runs.path_invariant _ path start
  rintro d e ⟨sa, next, listed, enterable, allowed, rfl⟩
  exact keep listed enterable allowed

@[simp] theorem tell_ids {sa : Int} {next : SystemAbilityState} : (b.tell sa next).ids = b.ids := by
  rw [tell]
  split <;> rfl

@[simp] theorem tell_mine {sa : Int} {next : SystemAbilityState} : (b.tell sa next).mine = b.mine := by
  rw [tell]
  split <;> rfl

@[simp] theorem tell_state {sa : Int} {next : SystemAbilityState} : (b.tell sa next).state = b.state := by
  rw [tell]
  split <;> rfl

@[simp] theorem tell_count {sa : Int} {next : SystemAbilityState} : (b.tell sa next).count = b.count := by
  rw [tell]
  split <;> rfl

@[simp] theorem tell_entries {sa : Int} {next : SystemAbilityState} :
    (b.tell sa next).entries = b.entries := by
  rw [tell]
  split <;> rfl

theorem tell_eq_self {sa : Int} {next : SystemAbilityState} (silent : notice b.count next = none) :
    b.tell sa next = b := by
  rw [tell, silent]
  split <;> rfl

theorem Path.ids (path : Path P b c) : c.ids = b.ids := by
  apply path.keeps (fun d => d.ids = b.ids)
  · intro d sa next _ _ _ same
    rw [enter, tell_ids]
    exact same
  · rfl

theorem enter_state {sa id : Int} {next : SystemAbilityState} :
    (b.enter sa next).state id = if id = sa then next else b.state id := by
  rw [enter, tell_state]
  exact Function.update_apply ..

/-- An entry of an ability that is not LOADED. -/
def Calm (b : Board) (sa : Int) (_ : SystemAbilityState) : Prop := b.state sa ≠ .loaded

theorem calm_loading {sa : Int} (b : Board)
    (enterable : SystemAbilityState.canEnter .loading (b.state sa) = true) : Calm b sa .loading := by
  intro loaded
  rw [loaded] at enterable
  cases enterable

theorem calm_of_unloadable {sa : Int} {next : SystemAbilityState} (unloadable : b.state sa = .unloadable) :
    Calm b sa next := by
  intro loaded
  rw [loaded] at unloadable
  cases unloadable

end Board

namespace Scheduler

variable (listener : RemoteInterface) (processName : String)

/-- The notices of activity in a log. -/
def heardOf (log : List Event) : List Bool := log.filterMap (Event.activity listener processName)

def board (s : Scheduler) : Board where
  ids := s.abilityIds
  mine := fun sa => s.ownProcessName sa == processName
  state := fun sa => (s.ability sa).state
  count := (s.process processName).abilityStateCountMap
  entries := (s.procListeners processName).count listener
  heard := heardOf listener processName s.log

variable {listener processName} {env : Env} {s : Scheduler}

theorem board_emit {event : Event} (silent : event.activity listener processName = none) :
    (s.emit event).board listener processName = s.board listener processName := by
  have heard : heardOf listener processName (s.emit event).log = heardOf listener processName s.log :=
    List.filterMap_cons_none silent
  rw [board, heard]
  rfl

theorem board_setAbility {sa : Int} {f : SystemAbilityContext → SystemAbilityContext}
    (own : (f (s.ability sa)).ownProcessContext = (s.ability sa).ownProcessContext) :
    (s.setAbility sa f).board listener processName =
      { s.board listener processName with
        state := Function.update (s.board listener processName).state sa (f (s.ability sa)).state } := by
  have owns : (s.setAbility sa f).ownProcessName = s.ownProcessName := by
    funext id
    by_cases same : id = sa
    · subst same
      simp [ownProcessName, setAbility, own]
    · simp [ownProcessName, setAbility, same]
  have states : (fun id => ((s.setAbility sa f).ability id).state) =
      Function.update (fun id => (s.ability id).state) sa (f (s.ability sa)).state := by
    funext id
    by_cases same : id = sa <;> simp [setAbility, same]
  simp only [board, owns, states]
  rfl

/-- An update of an ability context that leaves its state alone. -/
theorem board_setAbility_quiet {sa : Int} {f : SystemAbilityContext → SystemAbilityContext}
    (own : (f (s.ability sa)).ownProcessContext = (s.ability sa).ownProcessContext)
    (state : (f (s.ability sa)).state = (s.ability sa).state) :
    (s.setAbility sa f).board listener processName = s.board listener processName := by
  rw [board_setAbility own, state]
  change { s.board listener processName with
    state := Function.update (s.board listener processName).state sa
      ((s.board listener processName).state sa) } = _
  rw [Function.update_eq_self]

theorem board_setProcess {name : String} {f : SystemProcessContext → SystemProcessContext} :
    (s.setProcess name f).board listener processName =
      { s.board listener processName with
        count := if name = processName then (f (s.process name)).abilityStateCountMap
          else (s.board listener processName).count } := by
  have counts : ((s.setProcess name f).process processName).abilityStateCountMap =
      if name = processName then (f (s.process name)).abilityStateCountMap
      else (s.process processName).abilityStateCountMap := by
    by_cases same : name = processName
    · subst same
      simp [setProcess]
    · simp [setProcess, same, Ne.symm same]
  rw [board, counts]
  rfl

theorem board_setProcess_quiet {name : String} {f : SystemProcessContext → SystemProcessContext}
    (count : (f (s.process name)).abilityStateCountMap = (s.process name).abilityStateCountMap) :
    (s.setProcess name f).board listener processName = s.board listener processName := by
  rw [board_setProcess, count]
  by_cases same : name = processName
  · subst same
    rw [if_pos rfl]
    rfl
  · rw [if_neg same]

/-- Every entry of the listener is told. -/
theorem board_notifyAll {listeners : List RemoteInterface} {event : RemoteInterface → Event} {mark : Bool}
    (tells : ∀ told, (event told).activity listener processName = if told = listener then some mark else none) :
    (s.notifyAll listeners event).board listener processName =
      { s.board listener processName with
        heard := List.replicate (listeners.count listener) mark ++
          (s.board listener processName).heard } := by
  have heard : (listeners.map event).filterMap (Event.activity listener processName) =
      List.replicate (listeners.count listener) mark := by
    induction listeners with
    | nil => rfl
    | cons told listeners hypothesis =>
        rw [List.map_cons, List.filterMap_cons, tells, hypothesis]
        by_cases own : told = listener
        · subst own
          rw [if_pos rfl, List.count_cons_self, List.replicate_succ]
        · rw [if_neg own, List.count_cons_of_ne own]
  simp only [board, heardOf, notifyAll, List.filterMap_append, List.filterMap_reverse, heard,
    List.reverse_replicate]
  rfl

theorem board_notifyAll_silent {listeners : List RemoteInterface} {event : RemoteInterface → Event}
    (silent : ∀ told, (event told).activity listener processName = none) :
    (s.notifyAll listeners event).board listener processName = s.board listener processName := by
  have heard : (listeners.map event).reverse.filterMap (Event.activity listener processName) = [] := by
    apply List.filterMap_eq_nil_iff.mpr
    intro other member
    obtain ⟨told, -, rfl⟩ := List.mem_map.mp (List.mem_reverse.mp member)
    exact silent told
  simp only [board, heardOf, notifyAll, List.filterMap_append, heard]
  rfl

@[simp] theorem board_postProcessTask {task : ProcessTask} :
    (s.postProcessTask env task).board listener processName = s.board listener processName := by
  rw [postProcessTask]
  split <;> rfl

@[simp] theorem board_removeDelayUnloadEventLocked {sa : Int} :
    (s.removeDelayUnloadEventLocked sa).board listener processName = s.board listener processName := by
  rw [removeDelayUnloadEventLocked]
  split <;> rfl

@[simp] theorem board_removePendingUnloadEventLocked {sa : Int} :
    (s.removePendingUnloadEventLocked sa).board listener processName =
      s.board listener processName := by
  rw [removePendingUnloadEventLocked]
  split
  · exact board_setAbility_quiet rfl rfl
  · rfl

@[simp] theorem board_sendDelayUnloadEventLocked {sa delayTime : Int} :
    (s.sendDelayUnloadEventLocked env sa delayTime).1.board listener processName =
      s.board listener processName := by
  rw [sendDelayUnloadEventLocked]
  split
  · rfl
  · split <;> rfl

@[simp] theorem board_onEnterNothing {κ : Type} {key : κ} :
    (onEnterNothing s key).board listener processName = s.board listener processName := rfl

@[simp] theorem board_onAbilityNotLoadedLocked {sa : Int} :
    (s.onAbilityNotLoadedLocked env sa).board listener processName =
      s.board listener processName := by
  rw [onAbilityNotLoadedLocked]
  split <;> simp

/-- A list that the map does not have has no entries. -/
theorem procListeners_of_absent (absent : s.procListenerMap.contains processName = false) :
    s.procListeners processName = [] := by
  have none : s.procListenerMap[processName]? = none := by
    rw [Std.TreeMap.getElem?_eq_none]
    rw [← Std.TreeMap.contains_iff_mem, absent]
    decide
  simp [procListeners, none]

/-- The listeners of the process of an ability are told when the counters say so. -/
theorem board_notified {sa : Int} {next : SystemAbilityState} {event : RemoteInterface → Event}
    {mark due : Bool}
    (tells : ∀ told, (event told).activity listener processName =
      if told = listener ∧ s.ownProcessName sa = processName then some mark else none)
    (counted : Board.notice (s.process (s.ownProcessName sa)).abilityStateCountMap next =
      if due then some mark else none) :
    (if s.procListenerMap.contains (s.ownProcessName sa) && due then
        s.notifyAll (s.procListeners (s.ownProcessName sa)) event
      else s).board listener processName = (s.board listener processName).tell sa next := by
  by_cases own : s.ownProcessName sa = processName
  · have mine : (s.board listener processName).mine sa = true := by
      simpa [board] using own
    subst own
    have noticed : Board.notice (s.board listener (s.ownProcessName sa)).count next =
        if due then some mark else none := counted
    rw [Board.tell, if_pos mine, noticed]
    cases due
    · simp
    · cases contained : s.procListenerMap.contains (s.ownProcessName sa)
      · have nobody : (s.board listener (s.ownProcessName sa)).entries = 0 := by
          simp [board, procListeners_of_absent contained]
        simp only [Bool.false_and, Bool.false_eq_true, if_false, if_true, Option.toList_some,
          List.flatMap_singleton, nobody, List.replicate_zero, List.nil_append]
        rw [← nobody]
      · rw [Bool.and_true, if_pos rfl, board_notifyAll fun told => by simpa using tells told]
        simp only [if_true, Option.toList_some, List.flatMap_singleton]
        rfl
  · have other : (s.board listener processName).mine sa = false := by
      simpa [board] using own
    have quiet : (s.board listener processName).tell sa next = s.board listener processName := by
      rw [Board.tell, other]
      rfl
    rw [quiet]
    split
    · apply board_notifyAll_silent
      intro told
      rw [tells told]
      exact if_neg fun both => own both.2
    · rfl

/-- Entering LOADED tells of the first ability. -/
theorem board_onAbilityLoadedLocked {sa : Int} :
    (s.onAbilityLoadedLocked env sa).board listener processName =
      (s.board listener processName).tell sa .loaded := by
  have entered : (s.setAbility sa fun context => { context with lastIdleTime := -1 }).board listener
      processName = s.board listener processName := board_setAbility_quiet rfl rfl
  simp only [onAbilityLoadedLocked, isProcessActivatedLocked, notifyProcessActivated]
  have posted : ((s.setAbility sa fun context => { context with lastIdleTime := -1 }).postProcessTask env
      (.pendingUnload sa)).board listener processName = s.board listener processName :=
    board_postProcessTask.trans entered
  generalize (s.setAbility sa fun context => { context with lastIdleTime := -1 }).postProcessTask env
    (.pendingUnload sa) = t at posted
  rw [← posted]
  apply board_notified
  · intro told
    rfl
  · simp [Board.notice]

open Board

variable {P : Board → Int → SystemAbilityState → Prop}

/-- The state in which the handler of the new state begins. -/
theorem board_entered {sa : Int} {nextState : SystemAbilityState} (event : Event)
    (silent : event.activity listener processName = none) :
    ((((s.setProcess (s.ownProcessName sa) fun _ =>
        { s.ownProcess sa with
          abilityStateCountMap :=
            Chart.moveCount (s.ownProcess sa).abilityStateCountMap (s.ability sa).state nextState
        }).setAbility sa fun context => { context with state := nextState }).emit event).board listener
          processName) = (s.board listener processName).move sa nextState := by
  rw [board_emit silent, board_setAbility rfl, board_setProcess, Board.move]
  by_cases own : s.ownProcessName sa = processName
  · have mine : (s.board listener processName).mine sa = true := by
      simpa [board] using own
    subst own
    rw [if_pos mine, if_pos rfl]
    rfl
  · have other : (s.board listener processName).mine sa = false := by
      simpa [board] using own
    rw [other, if_neg own]
    rfl

/-- A transition is refused, or one entry followed by what the handler of the new state does. -/
theorem abilityStateTransitionLocked_board {onEnter : Scheduler → Int → Scheduler} {sa : Int}
    {nextState : SystemAbilityState} (listed : sa ∈ s.abilityIds)
    (allowed : nextState.canEnter (s.ability sa).state = true →
      P (s.board listener processName) sa nextState)
    (enters : ∀ t : Scheduler, sa ∈ t.abilityIds → (t.ability sa).state = nextState →
      Board.Path P ((t.board listener processName).tell sa nextState)
        ((onEnter t sa).board listener processName)) :
    Board.Path P (s.board listener processName)
      ((s.abilityStateTransitionLocked onEnter sa nextState).1.board listener processName) := by
  simp only [abilityStateTransitionLocked]
  split
  · rw [board_emit rfl]
  · split
    · rw [board_emit rfl]
    · rename_i enterable
      rw [Bool.not_eq_true', Bool.not_eq_false] at enterable
      by_cases empty : (s.ownProcess sa).abilityStateCountMap (s.ability sa).state = 0
      · simp only [updateStateCount, empty, if_true]
        rw [board_emit rfl]
      · simp only [updateStateCount, empty, if_false]
        refine Board.Path.trans
          (Board.Path.single ⟨sa, nextState, listed, enterable, allowed enterable, rfl⟩) ?_
        rw [Board.enter, ← board_entered (.transition sa (s.ability sa).state nextState .errOk) rfl]
        exact enters _ listed (by simp [emit, setAbility])

theorem listed_of_path {t : Scheduler} {sa : Int} (listed : sa ∈ s.abilityIds)
    (path : Board.Path P (s.board listener processName) (t.board listener processName)) :
    sa ∈ t.abilityIds := by
  have same : t.abilityIds = s.abilityIds := path.ids
  rwa [same]

section Abilities

variable {sa : Int}

theorem toNotLoaded_board (listed : sa ∈ s.abilityIds)
    (allowed : SystemAbilityState.canEnter .notLoaded (s.ability sa).state = true →
      P (s.board listener processName) sa .notLoaded) :
    Board.Path P (s.board listener processName) ((s.toNotLoaded env sa).1.board listener processName) := by
  apply abilityStateTransitionLocked_board listed allowed
  intro t _ _
  rw [tell_eq_self rfl, board_onAbilityNotLoadedLocked]

theorem toLoading_board (listed : sa ∈ s.abilityIds)
    (allowed : SystemAbilityState.canEnter .loading (s.ability sa).state = true →
      P (s.board listener processName) sa .loading) :
    Board.Path P (s.board listener processName) ((s.toLoading sa).1.board listener processName) := by
  apply abilityStateTransitionLocked_board listed allowed
  intro t _ _
  rw [tell_eq_self rfl, board_onEnterNothing]

theorem toLoaded_board (listed : sa ∈ s.abilityIds)
    (allowed : SystemAbilityState.canEnter .loaded (s.ability sa).state = true →
      P (s.board listener processName) sa .loaded) :
    Board.Path P (s.board listener processName) ((s.toLoaded env sa).1.board listener processName) := by
  apply abilityStateTransitionLocked_board listed allowed
  intro t _ _
  rw [board_onAbilityLoadedLocked]

theorem doUnloadSystemAbilityLocked_board (listed : sa ∈ s.abilityIds)
    (allowed : (s.ability sa).state = .unloadable → P (s.board listener processName) sa .unloading) :
    Board.Path P (s.board listener processName)
      ((s.doUnloadSystemAbilityLocked env sa).1.board listener processName) := by
  simp only [doUnloadSystemAbilityLocked]
  split
  · rfl
  · rename_i request _
    have asked : (s.emit (.doUnloadSystemAbility sa request.unloadEvent
        (env.doUnloadSystemAbility s.now))).board listener processName =
        s.board listener processName := board_emit rfl
    split
    · rw [← asked]
      refine abilityStateTransitionLocked_board listed ?_ ?_
      · intro enterable
        rw [asked]
        apply allowed
        simpa [SystemAbilityState.canEnter, emit] using enterable
      · intro t _ _
        rw [tell_eq_self rfl, board_onEnterNothing]
    · rw [asked]

/-- Entering UNLOADABLE tells of the last ability, before the ability leaves again if it unloads
independently. -/
theorem onAbilityUnloadableLocked_board (listed : sa ∈ s.abilityIds)
    (unloads : ∀ b : Board, b.state sa = .unloadable → P b sa .unloading) :
    Board.Path P ((s.board listener processName).tell sa .unloadable)
      ((s.onAbilityUnloadableLocked env sa).board listener processName) := by
  have entered : (s.setAbility sa fun context =>
      { context with lastIdleTime := env.getTickCount s.now 0 }).board listener processName =
      s.board listener processName := board_setAbility_quiet rfl rfl
  simp only [onAbilityUnloadableLocked, board_postProcessTask]
  generalize (s.setAbility sa fun context =>
    { context with lastIdleTime := env.getTickCount s.now 0 }) = t at entered ⊢
  have told : (if t.isProcessIdledLocked (t.ownProcessName sa) then
      t.notifyProcessIdled (t.ownProcessName sa) else t).board listener processName =
      (t.board listener processName).tell sa .unloadable := by
    rw [isProcessIdledLocked, Bool.and_assoc]
    apply board_notified
    · intro told
      rfl
    · simp [Board.notice]
  have ids : (if t.isProcessIdledLocked (t.ownProcessName sa) then
      t.notifyProcessIdled (t.ownProcessName sa) else t).abilityIds = s.abilityIds := by
    have same : t.abilityIds = s.abilityIds := congrArg Board.ids entered
    split <;> exact same
  generalize (if t.isProcessIdledLocked (t.ownProcessName sa) then
    t.notifyProcessIdled (t.ownProcessName sa) else t) = u at told ids ⊢
  rw [← entered, ← told]
  split
  · apply doUnloadSystemAbilityLocked_board
    · rw [ids]
      exact listed
    · exact unloads (u.board listener processName)
  · rfl

theorem toUnloadable_board (listed : sa ∈ s.abilityIds)
    (allowed : (s.ability sa).state = .loaded → P (s.board listener processName) sa .unloadable)
    (unloads : ∀ b : Board, b.state sa = .unloadable → P b sa .unloading) :
    Board.Path P (s.board listener processName)
      ((s.toUnloadable env sa).1.board listener processName) := by
  apply abilityStateTransitionLocked_board listed
  · intro enterable
    apply allowed
    simpa [SystemAbilityState.canEnter] using enterable
  · intro t listed _
    exact onAbilityUnloadableLocked_board listed unloads

@[simp] theorem board_pendLoadEventLocked {request : LoadRequestInfo} :
    (s.pendLoadEventLocked env sa request).1.board listener processName =
      s.board listener processName := by
  obtain ⟨t, origin, result⟩ := pendLoadEventLocked_cases env s sa request
  have stamped : t.board listener processName = s.board listener processName := by
    rcases origin with rfl | ⟨stamp, rfl⟩
    · rfl
    · exact board_setProcess_quiet rfl
  rw [← stamped]
  rcases result with same | ⟨handler, same⟩ | ⟨counts, same⟩
  · rw [same]
  · rw [same]
    rfl
  · rw [same, board_emit rfl, board_setAbility_quiet rfl rfl]

theorem activeSystemAbilityLocked_board {reason : OnDemandEvent} (listed : sa ∈ s.abilityIds)
    (allowed : SystemAbilityState.canEnter .loaded (s.ability sa).state = true →
      P (s.board listener processName) sa .loaded) :
    Board.Path P (s.board listener processName)
      ((s.activeSystemAbilityLocked env sa reason).1.board listener processName) := by
  have asked : (s.emit (.activeSystemAbility sa reason (env.activeSystemAbility s.now))).board listener
      processName = s.board listener processName := board_emit rfl
  simp only [activeSystemAbilityLocked]
  split
  · rw [← asked] at allowed ⊢
    exact toLoaded_board listed allowed
  · rw [asked]

/-- A load request enters LOADED from UNLOADABLE only. -/
theorem beginLoad_board {request : LoadRequestInfo} (listed : sa ∈ s.abilityIds)
    (loaded : (s.ability sa).state = .unloadable → P (s.board listener processName) sa .loaded) :
    Board.Path P (s.board listener processName)
      ((s.beginLoad env sa request).1.board listener processName) := by
  have entered : (s.emit (.handleLoad sa request)).board listener processName =
      s.board listener processName := board_emit rfl
  simp only [beginLoad]
  split
  · simp [entered]
  · split
    · simp [entered]
    · simp [entered]
    · rename_i unloadable
      rw [← entered] at loaded ⊢
      exact activeSystemAbilityLocked_board listed fun _ => loaded unloadable
    · simp [entered]
    · simp [entered]

theorem finishLoad_board {result : ErrCode} (listed : sa ∈ s.abilityIds)
    (loading : ∀ b : Board, SystemAbilityState.canEnter .loading (b.state sa) = true → P b sa .loading) :
    Board.Path P (s.board listener processName)
      ((s.finishLoad sa result).1.board listener processName) := by
  rw [finishLoad]
  split
  · exact toLoading_board listed (loading (s.board listener processName))
  · rfl

theorem handleLoadAbilityEventLocked_board {request : LoadRequestInfo} (listed : sa ∈ s.abilityIds)
    (loading : ∀ b : Board, SystemAbilityState.canEnter .loading (b.state sa) = true → P b sa .loading)
    (loaded : (s.ability sa).state = .unloadable → P (s.board listener processName) sa .loaded) :
    Board.Path P (s.board listener processName)
      ((s.handleLoadAbilityEventLocked env sa request).1.board listener processName) := by
  have begins : Board.Path P (s.board listener processName)
      ((s.beginLoad env sa request).1.board listener processName) := beginLoad_board listed loaded
  simp only [handleLoadAbilityEventLocked]
  split
  · rename_i begun result verdict
    rwa [verdict] at begins
  · rename_i begun verdict
    rw [verdict] at begins
    apply begins.trans
    have asked : (begun.emit (.doLoadSystemAbility sa request
        (env.doLoadSystemAbility begun.now))).board listener processName =
        begun.board listener processName := board_emit rfl
    simp only [doLoadSystemAbilityLocked]
    rw [← asked]
    exact finishLoad_board (listed_of_path listed begins) loading

theorem handleLoadAbilityEvent_board {request : LoadRequestInfo} :
    Board.Path Calm (s.board listener processName)
      ((s.handleLoadAbilityEvent env request).1.board listener processName) := by
  rw [handleLoadAbilityEvent]
  split
  · refine handleLoadAbilityEventLocked_board (by assumption) calm_loading fun unloadable => ?_
    exact calm_of_unloadable unloadable
  · rfl

theorem checkStartAbilityEvent_board :
    Board.Path Calm (s.board listener processName)
      ((s.checkStartAbilityEvent env sa).1.board listener processName) := by
  simp only [checkStartAbilityEvent]
  split
  · rfl
  · rename_i goesOn
    obtain ⟨listed, -, -⟩ := beginCheckStart_none goesOn
    have asked : (s.emit (.doLoadOnDemandAbility sa (env.doLoadOnDemandAbility s.now).1
        (env.doLoadOnDemandAbility s.now).2)).board listener processName =
        s.board listener processName := board_emit rfl
    rw [finishCheckStart, ← asked]
    split
    · exact toLoading_board listed (calm_loading (Scheduler.board listener processName _))
    · rfl

/-- An unload request that the ability accepts at once. -/
theorem processDelayUnloadEventLocked_board (listed : sa ∈ s.abilityIds)
    (allowed : (s.ability sa).unloadRequest.isSome → (s.ability sa).state = .loaded →
      env.idleSystemAbility s.now = some 0 → P (s.board listener processName) sa .unloadable)
    (unloads : ∀ b : Board, b.state sa = .unloadable → P b sa .unloading) :
    Board.Path P (s.board listener processName)
      ((s.processDelayUnloadEventLocked env sa).1.board listener processName) := by
  simp only [processDelayUnloadEventLocked]
  split
  · rfl
  · rename_i request requested
    split
    · rfl
    · rename_i loaded
      have asked : (s.emit (.idleSystemAbility sa request.unloadEvent
          (env.idleSystemAbility s.now))).board listener processName =
          s.board listener processName := board_emit rfl
      rw [requested] at allowed
      rw [← asked] at allowed ⊢
      split
      · rfl
      · rename_i delayTime answer
        split
        · rfl
        · split
          · rename_i atOnce
            rw [atOnce] at answer
            refine toUnloadable_board listed (fun _ => ?_) unloads
            exact allowed rfl (by simpa using loaded) answer
          · rw [board_sendDelayUnloadEventLocked]

/-- An unload request that asks the ability at once. -/
def asksAtOnce (request : UnloadRequestInfo) : Bool :=
  request.unloadEvent.eventId == INTERFACE_CALL || request.unloadEvent.name == PARAM_LOW_MEM_PREPARE_NAME

theorem handleUnloadAbilityEventLocked_board {unloadRequestInfo : Option UnloadRequestInfo}
    (listed : sa ∈ s.abilityIds)
    (allowed : unloadRequestInfo.any asksAtOnce = true → (s.ability sa).state = .loaded →
      env.idleSystemAbility s.now = some 0 → P (s.board listener processName) sa .unloadable)
    (unloads : ∀ b : Board, b.state sa = .unloadable → P b sa .unloading) :
    Board.Path P (s.board listener processName)
      ((s.handleUnloadAbilityEventLocked env sa unloadRequestInfo).1.board listener processName) := by
  simp only [handleUnloadAbilityEventLocked]
  split
  · rfl
  · rename_i request
    have noted : (s.setAbility sa fun context =>
        { context with unloadRequest := some request }).board listener processName =
        s.board listener processName := board_setAbility_quiet rfl rfl
    have kept : ((s.setAbility sa fun context =>
        { context with unloadRequest := some request }).ability sa).state = (s.ability sa).state := by
      simp [setAbility]
    rw [← noted] at allowed ⊢
    split
    · simp only [pendUnloadEventLocked]
      rw [noted, board_setAbility_quiet rfl rfl, noted]
    · split
      · rename_i atOnce
        refine processDelayUnloadEventLocked_board listed (fun _ loaded answer => ?_) unloads
        refine allowed ?_ (kept.symm.trans loaded) answer
        simpa [asksAtOnce] using atOnce
      · rw [board_sendDelayUnloadEventLocked]
    · rfl

theorem handlePendingUnloadEventLocked_board (listed : sa ∈ s.abilityIds)
    (allowed : (s.ability sa).pendingEvent = .unloadAbilityEvent →
      (s.ability sa).pendingUnloadEvent.any asksAtOnce = true → (s.ability sa).state = .loaded →
      env.idleSystemAbility s.now = some 0 → P (s.board listener processName) sa .unloadable)
    (unloads : ∀ b : Board, b.state sa = .unloadable → P b sa .unloading) :
    Board.Path P (s.board listener processName)
      ((s.handlePendingUnloadEventLocked env sa).1.board listener processName) := by
  simp only [handlePendingUnloadEventLocked]
  split
  · rfl
  · rename_i pending
    rw [ne_eq, not_not] at pending
    have reset : (s.setAbility sa fun context => { context with pendingEvent := .noEvent }).board listener
        processName = s.board listener processName := board_setAbility_quiet rfl rfl
    have kept : ((s.setAbility sa fun context =>
        { context with pendingEvent := .noEvent }).ability sa).state = (s.ability sa).state := by
      simp [setAbility]
    rw [← reset] at allowed ⊢
    refine handleUnloadAbilityEventLocked_board listed (fun atOnce loaded answer => ?_) unloads
    exact allowed pending atOnce (kept.symm.trans loaded) answer

theorem handleCancelUnloadAbilityEvent_board :
    Board.Path Calm (s.board listener processName)
      ((s.handleCancelUnloadAbilityEvent env sa).1.board listener processName) := by
  rw [handleCancelUnloadAbilityEvent]
  split
  · rfl
  · rename_i listed
    split
    · rename_i unloadable
      refine activeSystemAbilityLocked_board (by simpa using listed) fun _ => ?_
      exact calm_of_unloadable unloadable
    · rfl

theorem leaveLoading_board (listed : sa ∈ s.abilityIds)
    (allowed : P (s.board listener processName) sa .notLoaded) :
    Board.Path P (s.board listener processName)
      (((s.removePendingUnloadEventLocked sa).toNotLoaded env sa).1.board listener processName) := by
  have reset : (s.removePendingUnloadEventLocked sa).board listener processName =
      s.board listener processName := board_removePendingUnloadEventLocked
  have ids : (s.removePendingUnloadEventLocked sa).abilityIds = s.abilityIds := congrArg Board.ids reset
  rw [← reset] at allowed ⊢
  apply toNotLoaded_board
  · rw [ids]
    exact listed
  · exact fun _ => allowed

theorem handleAbilityLoadFailedEventLocked_board (listed : sa ∈ s.abilityIds) :
    Board.Path Calm (s.board listener processName)
      ((s.handleAbilityLoadFailedEventLocked env sa).1.board listener processName) := by
  simp only [handleAbilityLoadFailedEventLocked]
  split
  · rename_i loading
    apply leaveLoading_board listed
    intro loaded
    exact absurd (loading.symm.trans loaded) (by decide)
  · rfl

theorem handleAbilityLoadSuccessEventLocked_board (listed : sa ∈ s.abilityIds) :
    Board.Path Calm (s.board listener processName)
      ((s.handleAbilityLoadSuccessEventLocked env sa).1.board listener processName) := by
  simp only [handleAbilityLoadSuccessEventLocked]
  split
  · rename_i notLoaded
    refine toLoaded_board listed fun _ loaded => ?_
    exact absurd (notLoaded.symm.trans loaded) (by decide)
  · rename_i loading
    refine toLoaded_board listed fun _ loaded => ?_
    exact absurd (loading.symm.trans loaded) (by decide)
  · rfl

theorem handleAbilityUnLoadSuccessEventLocked_board (listed : sa ∈ s.abilityIds)
    (allowed : P (s.board listener processName) sa .notLoaded) :
    Board.Path P (s.board listener processName)
      ((s.handleAbilityUnLoadSuccessEventLocked env sa).1.board listener processName) := by
  simp only [handleAbilityUnLoadSuccessEventLocked]
  split
  · exact leaveLoading_board listed allowed
  · exact toNotLoaded_board listed fun _ => allowed
  · exact toNotLoaded_board listed fun _ => allowed
  · exact toNotLoaded_board listed fun _ => allowed
  · rfl

/-- An accepted transition to NOT_LOADED leads there. -/
theorem toNotLoaded_accepted_state (accepted : (s.toNotLoaded env sa).2 = .errOk) :
    ((s.toNotLoaded env sa).1.ability sa).state = .notLoaded := by
  simp only [toNotLoaded, abilityStateTransitionLocked] at accepted ⊢
  split at accepted
  · rename_i same
    rw [if_pos same]
    exact same
  · rename_i different
    rw [if_neg different]
    split at accepted
    · cases accepted
    · rename_i enterable
      rw [if_neg enterable]
      split at accepted
      · cases accepted
      · generalize entering : (emit _ _) = entered
        have kept : (entered.onAbilityNotLoadedLocked env sa).board ⟨0, 0⟩ "" = entered.board ⟨0, 0⟩ "" :=
          board_onAbilityNotLoadedLocked
        have state := congrFun (congrArg Board.state kept) sa
        simp only [board] at state
        rw [state, ← entering]
        simp [emit, setAbility]

end Abilities

section Stop

variable {sa : Int} {sas : List Int}

/-- What the abilities of a stopped process do before the restarts: one of them leaves, or one that
is not LOADED is asked for again. -/
def Stops (sas : List Int) (b : Board) (sa : Int) (next : SystemAbilityState) : Prop :=
  (b.state sa ≠ .loaded ∨ sa ∈ sas) ∧ next ≠ .loaded

theorem foldl_board {κ : Type} {f : Scheduler → κ → Scheduler} {items : List κ}
    (each : ∀ t, ∀ item ∈ items, t.abilityIds = s.abilityIds →
      Board.Path P (t.board listener processName) ((f t item).board listener processName)) :
    Board.Path P (s.board listener processName) ((items.foldl f s).board listener processName) := by
  induction items generalizing s with
  | nil => rfl
  | cons item rest hypothesis =>
      have first := each s item List.mem_cons_self rfl
      have ids : (f s item).abilityIds = s.abilityIds := first.ids
      apply first.trans
      apply hypothesis
      intro t other member same
      exact each t other (List.mem_cons_of_mem _ member) (same.trans ids)

/-- A replayed request of an ability that is not UNLOADABLE enters LOADING only. -/
theorem replayPendingLoads_board {requests : List LoadRequestInfo} (listed : sa ∈ s.abilityIds)
    (below : (s.ability sa).state ≠ .unloadable) :
    Board.Path (Stops sas) (s.board listener processName)
      ((replayPendingLoads env sa requests s).board listener processName) := by
  induction requests generalizing s with
  | nil => rfl
  | cons request rest hypothesis =>
      have first : Board.Path (fun b id next => Calm b id next ∧ next = .loading)
          (s.board listener processName)
          ((s.handleLoadAbilityEventLocked env sa request).1.board listener processName) :=
        handleLoadAbilityEventLocked_board listed (fun b enterable => ⟨calm_loading b enterable, rfl⟩)
          fun unloadable => absurd unloadable below
      have stays : ((s.handleLoadAbilityEventLocked env sa request).1.ability sa).state ≠ .unloadable := by
        apply first.keeps (fun b => b.state sa ≠ .unloadable) _ below
        rintro d id next _ _ ⟨-, rfl⟩ before
        rw [enter_state]
        split
        · decide
        · exact before
      apply Board.Path.trans (first.mono _) (hypothesis (listed_of_path listed first) stays)
      rintro d id next _ ⟨calm, rfl⟩
      exact ⟨.inl calm, by decide⟩

@[simp] theorem board_clearPendingLoads : (s.clearPendingLoads sa).board listener processName =
    s.board listener processName := board_setAbility_quiet rfl rfl

theorem handlePendingLoadEventLocked_board (listed : sa ∈ s.abilityIds)
    (below : (s.ability sa).state ≠ .unloadable) :
    Board.Path (Stops sas) (s.board listener processName)
      ((s.handlePendingLoadEventLocked env sa).board listener processName) := by
  simp only [handlePendingLoadEventLocked]
  split
  · rfl
  · have begun : (s.setAbility sa fun context => { context with pendingEvent := .noEvent }).board listener
        processName = s.board listener processName := board_setAbility_quiet rfl rfl
    rw [board_clearPendingLoads, ← begun]
    apply replayPendingLoads_board
    · exact listed
    · simpa [setAbility] using below

theorem stopAbility_board (member : sa ∈ sas) :
    Board.Path (Stops sas) (s.board listener processName)
      ((s.stopAbility env sa).board listener processName) := by
  simp only [stopAbility]
  split
  · rfl
  · rename_i listed
    rw [not_not] at listed
    have leaves : Board.Path (Stops sas) (s.board listener processName)
        ((s.toNotLoaded env sa).1.board listener processName) :=
      toNotLoaded_board listed fun _ => ⟨.inr member, by decide⟩
    split
    · rename_i accepted
      apply leaves.trans
      apply handlePendingLoadEventLocked_board
      · exact listed_of_path listed leaves
      · rw [toNotLoaded_accepted_state accepted]
        decide
    · exact leaves

@[simp] theorem board_abnormallyDied : (s.abnormallyDied env sa).1.board listener processName =
    s.board listener processName := by
  have crashed : (s.emit (.sendUpdateSaState sa)).board listener processName =
      s.board listener processName := board_emit rfl
  simp only [abnormallyDied]
  split
  · rfl
  · split
    · split
      · rw [board_emit rfl, crashed]
      · exact crashed
    · split
      · rw [board_emit rfl, crashed]
      · exact crashed
    · rfl

@[simp] theorem board_getAbnormallyDiedAbilityLocked {ids : List Int} :
    (getAbnormallyDiedAbilityLocked env ids s).1.board listener processName =
      s.board listener processName := by
  induction ids generalizing s with
  | nil => rfl
  | cons sa rest hypothesis => rw [getAbnormallyDiedAbilityLocked, hypothesis, board_abnormallyDied]

@[simp] theorem board_canRestartProcessLocked {name : String} :
    (s.canRestartProcessLocked env name).1.board listener processName =
      s.board listener processName := by
  simp only [canRestartProcessLocked]
  split
  · rfl
  · split
    · exact board_setProcess_quiet rfl
    · split
      · split <;> exact board_setProcess_quiet rfl
      · rfl

theorem restartAbility_board (listed : sa ∈ s.abilityIds) :
    Board.Path Calm (s.board listener processName)
      ((s.restartAbility env sa).board listener processName) := by
  have removed : (s.emit (.removeDiedSystemAbility sa)).board listener processName =
      s.board listener processName := board_emit rfl
  rw [restartAbility, ← removed]
  refine handleLoadAbilityEventLocked_board listed calm_loading fun unloadable => ?_
  exact calm_of_unloadable unloadable

theorem handleAbnormallyDiedAbilityLocked_board {name : String} {died : List Int}
    (listed : ∀ sa ∈ died, sa ∈ s.abilityIds) :
    Board.Path Calm (s.board listener processName)
      ((s.handleAbnormallyDiedAbilityLocked env name died).board listener processName) := by
  have same : (s.canRestartProcessLocked env name).1.board listener processName =
      s.board listener processName := board_canRestartProcessLocked
  have ids : (s.canRestartProcessLocked env name).1.abilityIds = s.abilityIds := congrArg Board.ids same
  simp only [handleAbnormallyDiedAbilityLocked]
  split
  · rfl
  · split
    · rw [← same]
      apply foldl_board
      intro t sa member kept
      apply restartAbility_board
      rw [kept, ids]
      exact listed sa member
    · rw [same]

@[simp] theorem board_leaveProcess {name : String} :
    (s.leaveProcess env name).board listener processName = s.board listener processName := by
  have notified : (s.notifyProcessStopped env name).board listener processName =
      s.board listener processName := board_notifyAll_silent fun _ => rfl
  simp only [leaveProcess]
  rw [board_emit rfl, ← notified]
  rfl

@[simp] theorem board_beginStop {name : String} : (s.beginStop env name).1.board listener processName =
    s.board listener processName := by
  rw [beginStop, board_getAbnormallyDiedAbilityLocked, board_leaveProcess]
  exact board_setProcess_quiet rfl

/-- A stopped process: its abilities leave, and then some are restarted. -/
theorem onProcessNotStartedLocked_board {name : String} :
    ∃ middle, Board.Path (Stops (s.process name).saList) (s.board listener processName) middle ∧
      Board.Path Calm middle ((s.onProcessNotStartedLocked env name).board listener processName) := by
  have begun : (s.beginStop env name).1.board listener processName = s.board listener processName :=
    board_beginStop
  have list : ((s.beginStop env name).1.process name).saList = (s.process name).saList :=
    congrFun (congrArg Chart.saList chart_beginStop) name
  have ids : (s.beginStop env name).1.abilityIds = s.abilityIds := congrArg Board.ids begun
  have stops : Board.Path (Stops (s.process name).saList) (s.board listener processName)
      (((s.process name).saList.foldl (stopAbility env) (s.beginStop env name).1).board listener
        processName) := by
    rw [← begun]
    apply foldl_board
    exact fun t sa member _ => stopAbility_board member
  rw [onProcessNotStartedLocked_eq, list]
  refine ⟨_, stops, handleAbnormallyDiedAbilityLocked_board fun sa died => ?_⟩
  exact listed_of_path (listed_of_beginStop died) stops

theorem handleProcessStoppedEventLocked_board {processInfo : ProcessInfo} :
    ∃ middle, Board.Path (Stops (s.process processInfo.processName).saList)
        (s.board listener processName) middle ∧
      Board.Path Calm middle
        ((s.handleProcessStoppedEventLocked env processInfo).1.board listener processName) := by
  have still : ∃ middle, Board.Path (Stops (s.process processInfo.processName).saList)
      (s.board listener processName) middle ∧
      Board.Path Calm middle (s.board listener processName) := ⟨_, .refl _, .refl _⟩
  have leaves : ∃ middle, Board.Path (Stops (s.process processInfo.processName).saList)
      (s.board listener processName) middle ∧
      Board.Path Calm middle ((s.processStateTransitionLocked (onProcessNotStartedLocked env)
        processInfo.processName .notStarted).1.board listener processName) := by
    simp only [processStateTransitionLocked]
    split
    · exact still
    · split
      · exact still
      · have left : (s.setProcess processInfo.processName fun context =>
            { context with state := .notStarted }).board listener processName =
            s.board listener processName := board_setProcess_quiet rfl
        have list : ((s.setProcess processInfo.processName fun context =>
            { context with state := .notStarted }).process processInfo.processName).saList =
            (s.process processInfo.processName).saList := by simp [setProcess]
        rw [← left, ← list]
        exact onProcessNotStartedLocked_board
  simp only [handleProcessStoppedEventLocked]
  split
  · exact leaves
  · exact leaves
  · exact still

end Stop

section Rest

theorem unloadOne_board {sa : Int} : Board.Path Calm (s.board listener processName)
    ((s.unloadOne env sa).board listener processName) := by
  simp only [unloadOne]
  split
  · rfl
  · rename_i listed
    split
    · exact doUnloadSystemAbilityLocked_board (by simpa using listed) fun unloadable =>
        calm_of_unloadable unloadable
    · rfl

theorem unloadAllSystemAbilityLocked_board {name : String} : Board.Path Calm (s.board listener processName)
    ((s.unloadAllSystemAbilityLocked env name).1.board listener processName) := by
  have unloads : Board.Path Calm (s.board listener processName)
      (((s.process name).saList.foldl (unloadOne env) s).board listener processName) :=
    foldl_board fun t sa _ _ => unloadOne_board
  simp only [unloadAllSystemAbilityLocked, processStateTransitionLocked]
  generalize (s.process name).saList.foldl (unloadOne env) s = t at unloads ⊢
  have posted : (t.postUnloadTimeoutTask env name).board listener processName =
      t.board listener processName := by
    rw [postUnloadTimeoutTask]
    split <;> rfl
  rw [← posted] at unloads
  split
  · exact unloads
  · split
    · exact unloads
    · rw [board_onEnterNothing, board_setProcess_quiet rfl]
      exact unloads

theorem tryUnloadAllSystemAbility_board {name : String} : Board.Path Calm (s.board listener processName)
    ((s.tryUnloadAllSystemAbility env name).1.board listener processName) := by
  rw [tryUnloadAllSystemAbility]
  split
  · exact unloadAllSystemAbilityLocked_board
  · rfl

theorem unloadProcess_board {name : String} : Board.Path Calm (s.board listener processName)
    ((s.unloadProcess env name).1.board listener processName) := by
  rw [unloadProcess]
  split
  · exact unloadAllSystemAbilityLocked_board
  · rfl

@[simp] theorem board_killSystemProcessLocked {name : String} :
    (s.killSystemProcessLocked env name).board listener processName = s.board listener processName :=
  board_emit rfl

@[simp] theorem board_processPendingLoadOverflow {sa : Int} :
    (s.processPendingLoadOverflow env sa).board listener processName = s.board listener processName := by
  have cleared : (s.clearPendingLoadOverflow sa).board listener processName =
      s.board listener processName := by
    rw [clearPendingLoadOverflow, board_setProcess_quiet rfl, board_clearPendingLoads]
  simp only [processPendingLoadOverflow]
  split
  · rfl
  · split
    · rw [board_killSystemProcessLocked, cleared]
    · split
      · rw [board_emit rfl, cleared]
      · exact cleared

@[simp] theorem board_handleProcessStartedEventLocked {processInfo : ProcessInfo} :
    (s.handleProcessStartedEventLocked env processInfo).1.board listener processName =
      s.board listener processName := by
  have noted : (s.setProcess processInfo.processName fun context =>
      { context with pid := processInfo.pid, uid := processInfo.uid }).board listener processName =
      s.board listener processName := board_setProcess_quiet rfl
  simp only [handleProcessStartedEventLocked, processStateTransitionLocked]
  split
  · split
    · exact noted
    · split
      · exact noted
      · rw [notifyProcessStarted, board_notifyAll_silent fun _ => rfl, board_setProcess_quiet rfl, noted]
  · exact noted

theorem board_sendProcessStarted {processInfo : ProcessInfo} :
    (s.sendProcessStateEvent env processInfo .processStartedEvent).1.board listener processName =
      s.board listener processName := by
  simp only [sendProcessStateEvent]
  split
  · rfl
  · split
    · rw [addRunningProcessLocked]
      split <;> exact board_handleProcessStartedEventLocked
    · exact board_handleProcessStartedEventLocked

theorem sendProcessStopped_board (env : Env) (s : Scheduler) (processInfo : ProcessInfo)
    (listener : RemoteInterface) (processName : String) :
    ∃ middle, Board.Path (Stops (s.process processInfo.processName).saList)
        (s.board listener processName) middle ∧
      Board.Path Calm middle
        ((s.sendProcessStateEvent env processInfo .processStoppedEvent).1.board listener processName) := by
  simp only [sendProcessStateEvent]
  split
  · exact ⟨_, .refl _, .refl _⟩
  · split
    · exact handleProcessStoppedEventLocked_board
    · exact handleProcessStoppedEventLocked_board

end Rest

end Scheduler

end Samgr
