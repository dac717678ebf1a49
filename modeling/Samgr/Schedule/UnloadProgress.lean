import Samgr.Schedule.UnloadTasks
import Samgr.Schedule.Operations
import Samgr.Lib.Fair

/-! The unload of a process goes on. As long as the handler takes its tasks, a started process that can be
unloaded has the task that unloads it waiting, and a stopping one has its timeout waiting or running until
init has been asked to stop it. A handler that is served again and again, and whose delays pass, so brings
every unload to its end. -/
namespace Samgr

namespace Scheduler

variable {processName : String} {env : Env} {s t middle : Scheduler} {op : Op}

theorem sound_init (saProfiles : List SaProfile) : (init saProfiles).Sound processName := by
  suffices all : ∀ s : Scheduler, s.Sound processName →
      (saProfiles.foldl initStateContext s).Sound processName by
    apply all
    refine ⟨rfl, ⟨?_, ?_⟩⟩
    · intro entry member
      cases member
    · intro name handle recorded
      cases recorded
  induction saProfiles with
  | nil => exact fun _ sound => sound
  | cons profile rest hypothesis =>
      intro s sound
      apply hypothesis
      rw [initStateContext]
      split
      · exact sound
      · generalize naming : (if profile.process ∈ s.processNames then s
          else { s with processNames := s.processNames ++ [profile.process] }) = named
        have process : named.process = s.process := by
          rw [← naming]
          split <;> rfl
        have handler : named.processHandler = s.processHandler := by
          rw [← naming]
          split <;> rfl
        refine ⟨?_, handler ▸ sound.named⟩
        have full := sound.full
        simp only [setProcess, process, Function.update_apply]
        split
        · rename_i own
          subst own
          simp only [SystemProcessContext.counted, Function.update_apply, reduceCtorEq, if_true, if_false,
            List.length_append, List.length_singleton] at full ⊢
          omega
        · exact full

/-- How an operation begins: it leaves the handler alone, or it makes a delayed task ready, takes a task or
goes on with the timeout that runs. The rest of the operation leads from the second state to the third. -/
inductive Turned (env : Env) (op : Op) (s : Scheduler) : Scheduler → Scheduler → Prop where
  | still {t : Scheduler} (plain : op ≠ .stepUnloadTimeout ∨ s.unloadTimeoutRunning = none)
      (idle : op ≠ .startProcessTask ∨ s.unloadTimeoutRunning ≠ none ∨ s.processHandler.pop = none)
      (early : ∀ handle, op ≠ .expire (.processTask handle)) :
      Turned env op s s t
  | expired (handle : Nat) (asked : op = .expire (.processTask handle)) :
      Turned env op s { s with processHandler := s.processHandler.expire handle }
        { s with processHandler := s.processHandler.expire handle }
  | taken (task : ProcessTask) (rest : TaskQueue String ProcessTask) (free : s.unloadTimeoutRunning = none)
      (asked : op = .startProcessTask) (popped : s.processHandler.pop = some (task, rest))
      (other : ∀ name, task ≠ .unloadTimeout name) :
      Turned env op s { s with processHandler := rest }
        ({ s with processHandler := rest }.runProcessTask env task)
  | dequeued (name : String) (rest : TaskQueue String ProcessTask) (free : s.unloadTimeoutRunning = none)
      (asked : op = .startProcessTask) (popped : s.processHandler.pop = some (.unloadTimeout name, rest)) :
      Turned env op s
        { s with processHandler := rest, unloadTimeoutRunning := some (name, .dequeued) }
        { s with processHandler := rest, unloadTimeoutRunning := some (name, .dequeued) }
  | deleted (name : String) (runs : s.unloadTimeoutRunning = some (name, .dequeued))
      (asked : op = .stepUnloadTimeout) :
      Turned env op s
        { s with
          processHandler := s.processHandler.delTask name
          unloadTimeoutRunning := some (name, .waitingForLock) }
        { s with
          processHandler := s.processHandler.delTask name
          unloadTimeoutRunning := some (name, .waitingForLock) }
  | ended (name : String) (runs : s.unloadTimeoutRunning = some (name, .waitingForLock))
      (asked : op = .stepUnloadTimeout) :
      Turned env op s { s with unloadTimeoutRunning := none }
        ({ s with unloadTimeoutRunning := none }.unloadTimeoutTask env name)

theorem exec_turned (processName : String) (op : Op) (s : Scheduler)
    (posts : ∀ at', env.submitted at' = true) :
    ∃ middle, Turned env op s middle (s.exec env op).1 ∧ Moved processName middle (s.exec env op).1 := by
  by_cases other : op.ofHandler = false
  · refine ⟨s, .still ?_ ?_ ?_, exec_moved posts other⟩
    · apply Or.inl
      rintro rfl
      cases other
    · apply Or.inl
      rintro rfl
      cases other
    · rintro handle rfl
      cases other
  · cases op with
    | expire expiry =>
        cases expiry with
        | unloadEvent handle => exact absurd rfl other
        | processTask handle => exact ⟨_, .expired handle rfl, .steady (.refl _)⟩
    | startProcessTask =>
        cases runs : s.unloadTimeoutRunning with
        | some running =>
            have same : (s.exec env .startProcessTask).1 = s := by
              simp [exec, startProcessTask, runs]
            rw [same]
            have busy : s.unloadTimeoutRunning ≠ none := by
              simp [runs]
            exact ⟨s, .still (.inl (by decide)) (.inr (.inl busy)) (by simp), .steady (.refl s)⟩
        | none =>
            cases popped : s.processHandler.pop with
            | none =>
                have same : (s.exec env .startProcessTask).1 = s := by
                  simp [exec, startProcessTask, runs, popped]
                rw [same]
                exact ⟨s, .still (.inl (by decide)) (.inr (.inr popped)) (by simp), .steady (.refl s)⟩
            | some entry =>
                obtain ⟨task, rest⟩ := entry
                have same : (s.exec env .startProcessTask).1 =
                    { s with processHandler := rest }.runProcessTask env task := by
                  simp [exec, startProcessTask, runs, popped]
                rw [same]
                by_cases timeout : ∃ name, task = .unloadTimeout name
                · obtain ⟨name, rfl⟩ := timeout
                  exact ⟨_, .dequeued name rest runs rfl popped, .steady (.refl _)⟩
                · have plain : ∀ name, task ≠ .unloadTimeout name := fun name same => timeout ⟨name, same⟩
                  exact ⟨_, .taken task rest runs rfl popped plain, runProcessTask_moved posts plain⟩
    | stepUnloadTimeout =>
        cases runs : s.unloadTimeoutRunning with
        | none =>
            have same : (s.exec env .stepUnloadTimeout).1 = s := by
              simp [exec, stepUnloadTimeout, runs]
            rw [same]
            exact ⟨s, .still (.inr runs) (.inl (by decide)) (by simp), .steady (.refl s)⟩
        | some running =>
            obtain ⟨name, phase⟩ := running
            cases phase with
            | dequeued =>
                have same : (s.exec env .stepUnloadTimeout).1 =
                    { s with
                      processHandler := s.processHandler.delTask name
                      unloadTimeoutRunning := some (name, .waitingForLock) } := by
                  simp [exec, stepUnloadTimeout, runs]
                rw [same]
                exact ⟨_, .deleted name runs rfl, .steady (.refl _)⟩
            | waitingForLock =>
                have same : (s.exec env .stepUnloadTimeout).1 =
                    { s with unloadTimeoutRunning := none }.unloadTimeoutTask env name := by
                  simp [exec, stepUnloadTimeout, runs]
                rw [same]
                refine ⟨_, .ended name runs rfl, .steady ?_⟩
                rw [unloadTimeoutTask]
                split
                · exact steady_emit _
                · rfl
    | _ => exact absurd rfl other

namespace Turned

variable (turned : Turned env op s middle t)
include turned

theorem process : middle.process = s.process := by
  cases turned <;> rfl

theorem log : middle.log = s.log := by
  cases turned <;> rfl

theorem sound (sound : s.Sound processName) : middle.Sound processName := by
  refine ⟨by rw [turned.process]; exact sound.full, ?_⟩
  have named := sound.named
  cases turned with
  | still => exact named
  | expired handle => exact named.expire handle
  | taken task rest free asked popped other => exact named.pop popped
  | dequeued name rest free asked popped => exact named.pop popped
  | deleted name runs asked => exact named.delTask name
  | ended name runs asked => exact named

end Turned

/-- How much of a running timeout is left. -/
def weight (s : Scheduler) : Nat :=
  match s.unloadTimeoutRunning with
  | none => 0
  | some (_, .waitingForLock) => 1
  | some (_, .dequeued) => 2

/-- A turn of the handler: it is free and starts a task, or the timeout that it runs goes on. -/
def Serves (s : Scheduler) (op : Op) : Prop :=
  (s.unloadTimeoutRunning = none ∧ op = .startProcessTask) ∨
    (s.unloadTimeoutRunning ≠ none ∧ op = .stepUnloadTimeout)

/-- What a ready task still waits for: three turns for each task before it, and the running timeout. -/
def Placed (task : ProcessTask) (s : Scheduler) (rank : Nat) : Prop :=
  ∃ n, s.processHandler.Ahead task n ∧ rank = 3 * n + s.weight

/-- A ready task is taken, or it comes no later, and sooner by a turn of the handler. -/
theorem Turned.rank {task : ProcessTask} {rank : Nat} (turned : Turned env op s middle t)
    (ready : Placed task s rank) :
    (s.unloadTimeoutRunning = none ∧ op = .startProcessTask ∧
        ∃ rest, s.processHandler.pop = some (task, rest)) ∨
      ∃ left, Placed task middle left ∧ left ≤ rank ∧ (s.Serves op → left < rank) := by
  obtain ⟨n, ahead, rfl⟩ := ready
  cases turned with
  | still plain idle early =>
      refine .inr ⟨_, ⟨n, ahead, rfl⟩, Nat.le_refl _, ?_⟩
      rintro (⟨free, starts⟩ | ⟨runs, steps⟩)
      · obtain ⟨taken, rest, popped⟩ := TaskQueue.pop_of_ahead ahead
        rcases idle with other | running | empty
        · exact absurd starts other
        · exact absurd free running
        · rw [empty] at popped
          cases popped
      · rcases plain with other | none
        · exact absurd steps other
        · exact absurd none runs
  | expired handle asked =>
      refine .inr ⟨_, ⟨n, TaskQueue.ahead_expire ahead, rfl⟩, Nat.le_refl _, ?_⟩
      rintro (⟨-, starts⟩ | ⟨-, steps⟩)
      · cases asked.symm.trans starts
      · cases asked.symm.trans steps
  | taken first rest free asked popped other =>
      rcases TaskQueue.ahead_pop popped ahead with ⟨-, rfl⟩ | ⟨m, rfl, moved⟩
      · exact .inl ⟨free, asked, rest, popped⟩
      · refine .inr ⟨_, ⟨m, moved, rfl⟩, ?_, fun _ => ?_⟩
        · simp only [weight]
          omega
        · simp only [weight]
          omega
  | dequeued name rest free asked popped =>
      rcases TaskQueue.ahead_pop popped ahead with ⟨-, rfl⟩ | ⟨m, rfl, moved⟩
      · exact .inl ⟨free, asked, rest, popped⟩
      · refine .inr ⟨_, ⟨m, moved, rfl⟩, ?_, fun _ => ?_⟩
        · simp only [weight]
          omega
        · simp only [weight]
          omega
  | deleted name runs asked =>
      refine .inr ⟨_, ⟨n, ahead, rfl⟩, ?_, fun _ => ?_⟩
      · simp only [weight, runs]
        omega
      · simp only [weight, runs]
        omega
  | ended name runs asked =>
      refine .inr ⟨_, ⟨n, ahead, rfl⟩, ?_, fun _ => ?_⟩
      · simp only [weight, runs]
        omega
      · simp only [weight, runs]
        omega

theorem drives_unload : (ProcessTask.tryUnloadAllSystemAbility processName).Drives processName := rfl

theorem drives_timeout : (ProcessTask.unloadTimeout processName).Drives processName := rfl

/-- What is steady for a process keeps its ready tasks in their places. -/
theorem Steady.rank {task : ProcessTask} {rank : Nat} (same : Steady processName s t)
    (sound : s.Sound processName) (drives : task.Drives processName) (ready : Placed task s rank) :
    ∃ left, Placed task t left ∧ left ≤ rank := by
  obtain ⟨n, ahead, rfl⟩ := ready
  obtain ⟨m, earlier, ahead⟩ := (same.carries sound).ahead drives ahead
  refine ⟨_, ⟨m, ahead, rfl⟩, ?_⟩
  have weights : t.weight = s.weight := by
    rw [weight, weight, same.running]
  omega


/-- The task that a free handler takes is run. -/
theorem Turned.run {task : ProcessTask} {rest : TaskQueue String ProcessTask}
    (turned : Turned env op s middle t) (free : s.unloadTimeoutRunning = none) (starts : op = .startProcessTask)
    (popped : s.processHandler.pop = some (task, rest)) :
    t = { s with processHandler := rest }.runProcessTask env task := by
  cases turned with
  | still plain idle early =>
      rcases idle with other | running | empty
      · exact absurd starts other
      · exact absurd free running
      · rw [popped] at empty
        cases empty
  | expired handle asked => cases asked.symm.trans starts
  | taken first queue _ asked first_popped other =>
      rw [popped] at first_popped
      cases first_popped
      rfl
  | dequeued name queue _ asked first_popped =>
      rw [popped] at first_popped
      cases first_popped
      rfl
  | deleted name runs asked => cases asked.symm.trans starts
  | ended name runs asked => cases asked.symm.trans starts

/-- How often init has been asked to stop the process. -/
def stopsAsked (processName : String) (log : List Event) : Nat :=
  log.countP fun event =>
    match event with
    | .serviceControlStop name _ => name == processName
    | _ => false

theorem stopsAsked_mono {log more : List Event} (suffix : log <:+ more) :
    stopsAsked processName log ≤ stopsAsked processName more := suffix.sublist.countP_le

theorem stopsAsked_kill : stopsAsked processName (s.killSystemProcessLocked env processName).log =
    stopsAsked processName s.log + 1 := by
  rw [killSystemProcessLocked, emit, stopsAsked, List.countP_cons_of_pos]
  · rfl
  · exact beq_self_eq_true processName

/-- The timeout of the process waits or runs. -/
def Timed (processName : String) (s : Scheduler) : Prop :=
  (∃ handle, (handle, .unloadTimeout processName) ∈ s.processHandler.waiting) ∨
    ∃ phase, s.unloadTimeoutRunning = some (processName, phase)

theorem Turned.timed (turned : Turned env op s middle t) (timed : s.Timed processName) :
    middle.Timed processName ∨
      t = { s with unloadTimeoutRunning := none }.unloadTimeoutTask env processName := by
  cases turned with
  | still => exact .inl timed
  | expired handle asked =>
      rcases timed with ⟨entry, waits⟩ | runs
      · exact .inl (.inl ⟨entry, TaskQueue.mem_waiting_expire.mpr waits⟩)
      · exact .inl (.inr runs)
  | taken task rest free asked popped other =>
      rcases timed with ⟨entry, waits⟩ | ⟨phase, runs⟩
      · rcases TaskQueue.waiting_cases_pop popped waits with same | waits
        · exact absurd same.symm (other processName)
        · exact .inl (.inl ⟨entry, waits⟩)
      · rw [free] at runs
        cases runs
  | dequeued name rest free asked popped =>
      rcases timed with ⟨entry, waits⟩ | ⟨phase, runs⟩
      · rcases TaskQueue.waiting_cases_pop popped waits with same | waits
        · cases same
          exact .inl (.inr ⟨_, rfl⟩)
        · exact .inl (.inl ⟨entry, waits⟩)
      · rw [free] at runs
        cases runs
  | deleted name runs asked =>
      rcases timed with waits | ⟨phase, own⟩
      · exact .inl (.inl waits)
      · rw [runs] at own
        cases own
        exact .inl (.inr ⟨_, rfl⟩)
  | ended name runs asked =>
      rcases timed with waits | ⟨phase, own⟩
      · exact .inl (.inl waits)
      · rw [runs] at own
        cases own
        exact .inr rfl

theorem Steady.timed (same : Steady processName s t) (sound : s.Sound processName)
    (timed : s.Timed processName) : t.Timed processName := by
  rcases timed with ⟨handle, waits⟩ | ⟨phase, runs⟩
  · exact .inl ⟨handle, (same.carries sound).waiting rfl waits⟩
  · exact .inr ⟨phase, same.running.trans runs⟩

/-- What is to come is on its way: the task that unloads a started process that can be unloaded, and for a
stopping one the task that kills it once it is empty and its timeout, unless init has been asked more than
`asked` times. `recycled` are the abilities whose profile says that they are recycled at once. -/
structure Driven (recycled : Int → Bool) (processName : String) (asked : Nat) (s : Scheduler) : Prop where
  low : asked ≤ stopsAsked processName s.log
  unloads : (s.process processName).state = .started → (s.process processName).Unloadable →
    (s.process processName).saList.any recycled = true →
    s.processHandler.Ready (.tryUnloadAllSystemAbility processName)
  kills : (s.process processName).state = .stopping → (s.process processName).Emptied →
    s.processHandler.Ready (.tryKillSystemProcess processName) ∨ asked < stopsAsked processName s.log
  ends : (s.process processName).state = .stopping →
    s.Timed processName ∨ asked < stopsAsked processName s.log

variable {recycled : Int → Bool} {asked : Nat}

theorem Turned.ready {task : ProcessTask} (turned : Turned env op s middle t)
    (ready : s.processHandler.Ready task) :
    (∃ rest, t = { s with processHandler := rest }.runProcessTask env task) ∨
      middle.processHandler.Ready task := by
  obtain ⟨n, ahead⟩ := ready
  rcases turned.rank ⟨n, ahead, rfl⟩ with ⟨free, starts, rest, popped⟩ | ⟨left, ⟨m, stays, -⟩, -⟩
  · exact .inl ⟨rest, turned.run free starts popped⟩
  · exact .inr ⟨m, stays⟩

/-- A started process that can be unloaded stops when the task for it is run. -/
theorem state_runUnload {rest : TaskQueue String ProcessTask}
    (strategy : env.checkSaIsImmediatelyRecycle = recycled)
    (started : (s.process processName).state = .started) (unloadable : (s.process processName).Unloadable)
    (recycles : (s.process processName).saList.any recycled = true) :
    (({ s with processHandler := rest }.runProcessTask env
      (.tryUnloadAllSystemAbility processName)).process processName).state = .stopping := by
  have can : { s with processHandler := rest }.canUnloadAllSystemAbilityLocked env processName true = true := by
    apply canUnloadAll_iff.mpr
    refine ⟨unloadable, fun _ => ?_⟩
    rw [checkSaIsImmediatelyRecycle, strategy]
    exact recycles
  rw [runProcessTask, tryUnloadAllSystemAbility, if_pos can]
  exact state_unloadAllSystemAbilityLocked started

theorem stopsAsked_runKill {rest : TaskQueue String ProcessTask}
    (emptied : (s.process processName).Emptied) :
    stopsAsked processName ({ s with processHandler := rest }.runProcessTask env
      (.tryKillSystemProcess processName)).log = stopsAsked processName s.log + 1 := by
  have can : { s with processHandler := rest }.canKillSystemProcessLocked processName = true :=
    beq_iff_eq.mpr emptied
  rw [runProcessTask, tryKillSystemProcess, if_pos can, stopsAsked_kill]

theorem stopsAsked_timeout (stopping : (s.process processName).state = .stopping) :
    stopsAsked processName ({ s with unloadTimeoutRunning := none }.unloadTimeoutTask env
      processName).log = stopsAsked processName s.log + 1 := by
  have stops : ({ s with unloadTimeoutRunning := none }.process processName).state = .stopping := stopping
  rw [unloadTimeoutTask, if_pos stops, stopsAsked_kill]

theorem log_exec (posts : ∀ at', env.submitted at' = true) : s.log <:+ (s.exec env op).1.log := by
  obtain ⟨middle, turned, moved⟩ := exec_turned "" op s posts
  rw [← turned.log]
  cases moved with
  | steady same => exact same.log
  | stops _ _ _ _ _ log => exact log
  | leaves _ log => exact log
  | starts _ _ _ log => exact log

theorem exec_sound (posts : ∀ at', env.submitted at' = true) (sound : s.Sound processName) :
    (s.exec env op).1.Sound processName := by
  obtain ⟨middle, turned, moved⟩ := exec_turned processName op s posts
  have between := turned.sound sound
  cases moved with
  | steady same => exact same.sound between
  | stops _ _ _ _ _ _ keeps => exact keeps between
  | leaves _ _ keeps => exact keeps between
  | starts _ _ _ _ keeps => exact keeps between

/-- The process is not started where it could be unloaded already. -/
def StartsUnused (processName : String) (s : Scheduler) (label : Env × Op) : Prop :=
  (s.process processName).state = .notStarted →
    ((s.step label).process processName).state = .started → ¬ (s.process processName).Unloadable

instance (processName : String) (s : Scheduler) (label : Env × Op) :
    Decidable (StartsUnused processName s label) :=
  inferInstanceAs (Decidable (_ → _ → ¬ (_ ∧ _)))

/-- An operation keeps what is on its way, unless it starts a process that could be unloaded already. -/
theorem exec_driven (posts : ∀ at', env.submitted at' = true)
    (strategy : env.checkSaIsImmediatelyRecycle = recycled) (sound : s.Sound processName)
    (unused : StartsUnused processName s (env, op))
    (driven : Driven recycled processName asked s) :
    Driven recycled processName asked (s.exec env op).1 := by
  have low : asked ≤ stopsAsked processName (s.exec env op).1.log :=
    Nat.le_trans driven.low (stopsAsked_mono (log_exec posts))
  obtain ⟨middle, turned, moved⟩ := exec_turned processName op s posts
  have between := turned.sound sound
  have process := congrFun turned.process processName
  have log := turned.log
  simp only [StartsUnused, step] at unused
  generalize (s.exec env op).1 = t at *
  cases moved with
  | steady same =>
      have state : (t.process processName).state = (s.process processName).state := by
        rw [same.state, process]
      have more : stopsAsked processName s.log ≤ stopsAsked processName t.log := by
        rw [← log]
        exact stopsAsked_mono same.log
      refine ⟨low, fun started unloadable recycles => ?_, fun stopping emptied => ?_, fun stopping => ?_⟩
      · rw [state] at started
        rw [same.saList, process] at recycles
        rcases same.unloads between (process ▸ started) unloadable with before | ready
        · rw [process] at before
          rcases turned.ready (driven.unloads started before recycles) with ⟨rest, rfl⟩ | ready
          · rw [state_runUnload strategy started before recycles, started] at state
            cases state
          · exact (same.carries between).ready rfl ready
        · exact ready
      · rw [state] at stopping
        rcases same.kills between (process ▸ stopping) emptied with before | ready
        · rw [process] at before
          rcases driven.kills stopping before with ready | done
          · rcases turned.ready ready with ⟨rest, rfl⟩ | ready
            · rw [stopsAsked_runKill before]
              exact .inr (Nat.lt_succ_of_le driven.low)
            · exact .inl ((same.carries between).ready rfl ready)
          · exact .inr (Nat.lt_of_lt_of_le done more)
        · exact .inl ready
      · rw [state] at stopping
        rcases driven.ends stopping with timed | done
        · rcases turned.timed timed with timed | rfl
          · exact .inl (same.timed between timed)
          · rw [stopsAsked_timeout stopping]
            exact .inr (Nat.lt_succ_of_le driven.low)
        · exact .inr (Nat.lt_of_lt_of_le done more)
  | stops before unloadable after some timeout =>
      refine ⟨low, fun started => ?_, fun _ emptied => absurd emptied some, fun _ => .inl (.inl timeout)⟩
      cases after.symm.trans started
  | leaves after =>
      refine ⟨low, fun started => ?_, fun stopping => ?_, fun stopping => ?_⟩
      · cases after.symm.trans started
      · cases after.symm.trans stopping
      · cases after.symm.trans stopping
  | starts before after unloadable =>
      rw [process] at before unloadable
      refine ⟨low, fun started again => ?_, fun stopping => ?_, fun stopping => ?_⟩
      · exact absurd (unloadable again) (unused before started)
      · cases after.symm.trans stopping
      · cases after.symm.trans stopping

/-- Posts to the handler succeed, the strategy is that of the profiles, and the process is not started where
it could be unloaded already. -/
structure Expected (recycled : Int → Bool) (processName : String) (s : Scheduler) (label : Env × Op) :
    Prop where
  submitted : ∀ at', label.1.submitted at' = true
  strategy : label.1.checkSaIsImmediatelyRecycle = recycled
  unused : StartsUnused processName s label

theorem step_driven {label : Env × Op} (expected : Expected recycled processName s label)
    (good : s.Sound processName ∧ Driven recycled processName asked s) :
    (s.step label).Sound processName ∧ Driven recycled processName asked (s.step label) :=
  ⟨exec_sound expected.submitted good.1,
    exec_driven expected.submitted expected.strategy good.1 expected.unused good.2⟩

theorem state_init (saProfiles : List SaProfile) :
    ((init saProfiles).process processName).state = .notStarted := by
  suffices all : ∀ s : Scheduler, (s.process processName).state = .notStarted →
      ((saProfiles.foldl initStateContext s).process processName).state = .notStarted from all {} rfl
  induction saProfiles with
  | nil => exact fun _ still => still
  | cons profile rest hypothesis =>
      intro s still
      apply hypothesis
      rw [initStateContext]
      split
      · exact still
      · split <;>
          · simp only [setProcess, Function.update_apply]
            split
            · rename_i own
              subst own
              exact still
            · exact still

theorem driven_init (saProfiles : List SaProfile) : Driven recycled processName 0 (init saProfiles) := by
  have state := @state_init processName saProfiles
  refine ⟨Nat.zero_le _, fun started => ?_, fun stopping => ?_, fun stopping => ?_⟩
  · cases state.symm.trans started
  · cases state.symm.trans stopping
  · cases state.symm.trans stopping

/-- The count may begin at any moment at which the process is not stopping. -/
theorem Driven.restart (driven : Driven recycled processName asked s)
    (other : (s.process processName).state ≠ .stopping) :
    Driven recycled processName (stopsAsked processName s.log) s :=
  ⟨Nat.le_refl _, driven.unloads, fun stopping => absurd stopping other, fun stopping => absurd stopping other⟩

/-- What a state tells about the unload of a process, seen from an earlier state. -/
structure GoesOn (recycled : Int → Bool) (processName : String) (earlier now : Scheduler) : Prop where
  unloads : (now.process processName).state = .started →
    now.canUnloadAllSystemAbilityLocked { checkSaIsImmediatelyRecycle := recycled } processName true = true →
    now.processHandler.Ready (.tryUnloadAllSystemAbility processName)
  kills : (earlier.process processName).state ≠ .stopping → (now.process processName).state = .stopping →
    now.canKillSystemProcessLocked processName = true →
    now.processHandler.Ready (.tryKillSystemProcess processName) ∨
      stopsAsked processName earlier.log < stopsAsked processName now.log
  ends : (earlier.process processName).state ≠ .stopping → (now.process processName).state = .stopping →
    now.Timed processName ∨ stopsAsked processName earlier.log < stopsAsked processName now.log

/-- An unload never stalls. After every run, a started process that can be unloaded has the task for it ready;
and since any earlier moment at which it was not stopping, a stopping process has its timeout waiting or
running, and the task that kills it ready once it is empty, or init has been asked to stop it. -/
theorem unloads_never_stall (saProfiles : List SaProfile) (before after : List (Env × Op))
    (processName : String) (recycled : Int → Bool)
    (expected : Runs.Guarded step (Expected recycled processName) (init saProfiles) (before ++ after)) :
    GoesOn recycled processName (runFrom saProfiles before) (runFrom saProfiles (before ++ after)) := by
  obtain ⟨first, second⟩ := Runs.guarded_append.mp expected
  have keep : ∀ (asked : Nat) (s : Scheduler) (label : Env × Op), Expected recycled processName s label →
      s.Sound processName ∧ Driven recycled processName asked s →
      (s.step label).Sound processName ∧ Driven recycled processName asked (s.step label) :=
    fun asked s label expected good => step_driven expected good
  have start := Runs.guarded_invariant _ (keep 0) first ⟨sound_init saProfiles, driven_init saProfiles⟩
  have last := Runs.guarded_invariant _ (keep 0) second start
  have since : ((runFrom saProfiles before).process processName).state ≠ .stopping →
      Driven recycled processName (stopsAsked processName (runFrom saProfiles before).log)
        (Runs.run step (runFrom saProfiles before) after) :=
    fun other => (Runs.guarded_invariant _ (keep _) second ⟨start.1, start.2.restart other⟩).2
  have shape : runFrom saProfiles (before ++ after) = Runs.run step (runFrom saProfiles before) after :=
    Runs.run_append ..
  rw [shape]
  constructor
  · intro started can
    obtain ⟨unloadable, recycles⟩ := canUnloadAll_iff.mp can
    exact last.2.unloads started unloadable (recycles rfl)
  · intro other stopping can
    exact (since other).kills stopping (beq_iff_eq.mp can)
  · intro other stopping
    exact (since other).ends stopping

/-- A host with one ability. -/
def hostProfile : List SaProfile := [{ process := "host", saId := 1 }]

/-- The host starts and its ability is loaded. -/
def useHost : List (Env × Op) :=
  [({}, .processEvent ⟨"host", 100, 1000⟩ .processStartedEvent),
   ({}, .load (localLoad 1 7 70)),
   ({}, .abilityEvent 1 .abilityLoadSuccessEvent)]

/-- The ability becomes idle, the host is unloaded, and its timeout comes. -/
def releaseHost : List (Env × Op) :=
  [({}, .unload (some (localUnload 1 7))),
   ({}, .startProcessTask),
   ({}, .startProcessTask),
   ({}, .expire (.processTask 2)),
   ({}, .startProcessTask),
   ({}, .stepUnloadTimeout),
   ({}, .stepUnloadTimeout)]

theorem host_unload_goes_on :
    GoesOn (fun _ => true) "host" (runFrom hostProfile useHost) (runFrom hostProfile (useHost ++ releaseHost)) := by
  have plain : ∀ label ∈ useHost ++ releaseHost, (∀ at', label.1.submitted at' = true) ∧
      label.1.checkSaIsImmediatelyRecycle = fun _ => true := by
    intro label member
    simp only [useHost, releaseHost, List.cons_append, List.nil_append, List.mem_cons,
      List.not_mem_nil, or_false] at member
    rcases member with rfl | rfl | rfl | rfl | rfl | rfl | rfl | rfl | rfl | rfl <;>
      exact ⟨fun _ => rfl, rfl⟩
  have unused : Runs.Guarded step (StartsUnused "host") (init hostProfile) (useHost ++ releaseHost) := by
    decide +kernel
  apply unloads_never_stall
  exact ((Runs.guarded_of_forall plain (init hostProfile)).and unused).mono
    fun _ _ both => ⟨both.1.1, both.1.2, both.2⟩

/-- The ability has become idle before its host is started. -/
def startLate : List (Env × Op) :=
  [({}, .load (localLoad 1 7 70)),
   ({}, .abilityEvent 1 .abilityLoadSuccessEvent),
   ({}, .unload (some (localUnload 1 7))),
   ({}, .startProcessTask),
   ({}, .startProcessTask),
   ({}, .processEvent ⟨"host", 100, 1000⟩ .processStartedEvent)]

/-- Such a host has no task that would unload it. -/
example : ((runFrom hostProfile startLate).process "host").state = .started ∧
    (runFrom hostProfile startLate).canUnloadAllSystemAbilityLocked {} "host" true = true ∧
      (runFrom hostProfile startLate).processHandler.ready = [] := by
  decide +kernel

section Fairness

/-- A started process that can be unloaded, with the place of the task that does so. -/
def Unloads (recycled : Int → Bool) (processName : String) (s : Scheduler) (rank : Nat) : Prop :=
  ((s.process processName).state = .started ∧ (s.process processName).Unloadable ∧
    (s.process processName).saList.any recycled = true) ∧
    Placed (.tryUnloadAllSystemAbility processName) s rank

/-- Whatever is done, the process is no longer there to be unloaded, or its task has come closer. -/
theorem step_unloads {label : Env × Op} {rank : Nat} (expected : Expected recycled processName s label)
    (sound : s.Sound processName) (unloads : Unloads recycled processName s rank) :
    ¬ (((s.step label).process processName).state = .started ∧
        ((s.step label).process processName).Unloadable ∧
        ((s.step label).process processName).saList.any recycled = true) ∨
      ∃ left, Unloads recycled processName (s.step label) left ∧ left ≤ rank ∧
        (s.Serves label.2 → left < rank) := by
  obtain ⟨⟨started, unloadable, recycles⟩, ranked⟩ := unloads
  rw [or_iff_not_imp_left, not_not]
  intro still
  obtain ⟨middle, turned, moved⟩ :=
    exec_turned processName label.2 s expected.submitted
  have between := turned.sound sound
  have process := congrFun turned.process processName
  change Turned label.1 label.2 s middle (s.step label) at turned
  change Moved processName middle (s.step label) at moved
  generalize s.step label = t at *
  cases moved with
  | steady same =>
      rcases turned.rank ranked with ⟨free, starts, rest, popped⟩ | ⟨left, there, low, lower⟩
      · have run := turned.run free starts popped
        have stops := @state_runUnload processName label.1 s recycled rest expected.strategy started
          unloadable recycles
        rw [← run, still.1] at stops
        cases stops
      · obtain ⟨last, there, earlier⟩ := same.rank between drives_unload there
        refine ⟨last, ⟨still, there⟩, Nat.le_trans earlier low, fun serves => ?_⟩
        exact Nat.lt_of_le_of_lt earlier (lower serves)
  | stops _ _ after => cases after.symm.trans still.1
  | leaves after => cases after.symm.trans still.1
  | starts before =>
      rw [process, started] at before
      cases before

/-- The process is stopped, or init has been asked once more. -/
def Ends (processName : String) (asked : Nat) (s : Scheduler) : Prop :=
  asked < stopsAsked processName s.log ∨ (s.process processName).state = .notStarted

/-- The place of the timeout of a stopping process: behind other ready tasks, or running. -/
def Ending (processName : String) (s : Scheduler) (rank : Nat) : Prop :=
  (s.process processName).state = .stopping ∧
    ((∃ place, Placed (.unloadTimeout processName) s place ∧ rank = place + 3) ∨
      (∃ phase, s.unloadTimeoutRunning = some (processName, phase)) ∧ rank = s.weight)

/-- What an operation does to a stopping process. -/
theorem step_stopping {label : Env × Op} (asked : Nat) (expected : Expected recycled processName s label)
    (stopping : (s.process processName).state = .stopping) :
    ∃ middle, Turned label.1 label.2 s middle (s.step label) ∧
      (Ends processName asked (s.step label) ∨
        (Steady processName middle (s.step label) ∧
          ((s.step label).process processName).state = .stopping)) := by
  obtain ⟨middle, turned, moved⟩ :=
    exec_turned processName label.2 s expected.submitted
  have process := congrFun turned.process processName
  refine ⟨middle, turned, ?_⟩
  change Moved processName middle (s.step label) at moved
  cases moved with
  | steady same =>
      refine .inr ⟨same, ?_⟩
      rw [same.state, process]
      exact stopping
  | stops before =>
      rw [process, stopping] at before
      cases before
  | leaves after => exact .inl (.inr after)
  | starts before =>
      rw [process, stopping] at before
      cases before

theorem step_ending {label : Env × Op} {rank : Nat} (expected : Expected recycled processName s label)
    (sound : s.Sound processName) (low : asked ≤ stopsAsked processName s.log)
    (ending : Ending processName s rank) :
    Ends processName asked (s.step label) ∨
      ∃ left, Ending processName (s.step label) left ∧ left ≤ rank ∧
        (s.Serves label.2 → left < rank) := by
  obtain ⟨stopping, place⟩ := ending
  obtain ⟨middle, turned, ends | ⟨same, after⟩⟩ := step_stopping asked expected stopping
  · exact .inl ends
  have between := turned.sound sound
  generalize s.step label = t at *
  rcases place with ⟨place, ranked, rfl⟩ | ⟨⟨phase, runs⟩, rfl⟩
  · rcases turned.rank ranked with ⟨free, starts, rest, popped⟩ | ⟨left, there, low, lower⟩
    · have run : t = { s with
          processHandler := rest, unloadTimeoutRunning := some (processName, .dequeued) } :=
        turned.run free starts popped
      have weighs : t.weight = 2 := by
        rw [run]
        rfl
      refine .inr ⟨_, ⟨after, .inr ⟨⟨.dequeued, ?_⟩, rfl⟩⟩, by omega, fun _ => by omega⟩
      rw [run]
    · obtain ⟨last, there, earlier⟩ := same.rank between drives_timeout there
      refine .inr ⟨_, ⟨after, .inl ⟨last, there, rfl⟩⟩, by omega, fun serves => ?_⟩
      have closer := lower serves
      omega
  · have weighs : t.weight = middle.weight := by
      rw [weight, weight, same.running]
    have running := same.running
    cases turned with
    | still plain idle early =>
        refine .inr ⟨_, ⟨after, .inr ⟨⟨phase, running.trans runs⟩, rfl⟩⟩, Nat.le_of_eq weighs, ?_⟩
        rintro (⟨free, -⟩ | ⟨-, steps⟩)
        · cases runs.symm.trans free
        · rcases plain with other | free
          · exact absurd steps other
          · cases runs.symm.trans free
    | expired handle expiry =>
        refine .inr ⟨_, ⟨after, .inr ⟨⟨phase, running.trans runs⟩, rfl⟩⟩, Nat.le_of_eq weighs, ?_⟩
        rintro (⟨free, -⟩ | ⟨-, steps⟩)
        · cases runs.symm.trans free
        · cases expiry.symm.trans steps
    | taken task rest free => cases runs.symm.trans free
    | dequeued name rest free => cases runs.symm.trans free
    | deleted name deleting steps =>
        cases runs.symm.trans deleting
        have before : s.weight = 2 := by
          rw [weight, runs]
        refine .inr ⟨_, ⟨after, .inr ⟨⟨.waitingForLock, running⟩, rfl⟩⟩, ?_, fun _ => ?_⟩
        · rw [weighs, before]
          exact Nat.le_succ 1
        · rw [weighs, before]
          exact Nat.lt_succ_self 1
    | ended name ending steps =>
        cases runs.symm.trans ending
        apply Or.inl
        left
        rw [stopsAsked_timeout stopping]
        omega

/-- A delayed timeout of a stopping process waits until its delay has passed. -/
theorem step_delayed {label : Env × Op} {handle : Nat} (expected : Expected recycled processName s label)
    (sound : s.Sound processName) (stopping : (s.process processName).state = .stopping)
    (waits : (handle, ProcessTask.unloadTimeout processName) ∈ s.processHandler.delayed) :
    (Ends processName asked (s.step label) ∨ ∃ rank, Ending processName (s.step label) rank) ∨
      (label.2 ≠ .expire (.processTask handle) ∧
        ((s.step label).process processName).state = .stopping ∧
        (handle, ProcessTask.unloadTimeout processName) ∈ (s.step label).processHandler.delayed) := by
  obtain ⟨middle, turned, ends | ⟨same, after⟩⟩ := step_stopping asked expected stopping
  · exact .inl (.inl ends)
  have carries := same.carries (turned.sound sound)
  generalize s.step label = t at *
  have stays : label.2 ≠ .expire (.processTask handle) →
      (handle, ProcessTask.unloadTimeout processName) ∈ middle.processHandler.delayed →
      (Ends processName asked t ∨ ∃ rank, Ending processName t rank) ∨
        (label.2 ≠ .expire (.processTask handle) ∧ (t.process processName).state = .stopping ∧
        (handle, ProcessTask.unloadTimeout processName) ∈ t.processHandler.delayed) :=
    fun other there => .inr ⟨other, after, carries.delayed rfl there⟩
  cases turned with
  | still plain idle early => exact stays (early handle) waits
  | expired other expiry =>
      by_cases own : handle = other
      · subst own
        obtain ⟨n, ahead⟩ := carries.ready drives_timeout (TaskQueue.ready_expire waits)
        exact .inl (.inr ⟨_, after, .inl ⟨_, ⟨n, ahead, rfl⟩, rfl⟩⟩)
      · apply stays
        · rw [expiry]
          intro same
          cases same
          exact own rfl
        · exact TaskQueue.delayed_expire waits own
  | taken task rest free starts popped =>
      obtain ⟨-, -, delayed, -, -⟩ := TaskQueue.pop_eq_some popped
      apply stays
      · rw [starts]
        simp
      · rw [delayed]
        exact waits
  | dequeued name rest free starts popped =>
      obtain ⟨-, -, delayed, -, -⟩ := TaskQueue.pop_eq_some popped
      apply stays
      · rw [starts]
        simp
      · rw [delayed]
        exact waits
  | deleted name runs steps =>
      apply stays
      · rw [steps]
        simp
      · exact waits
  | ended name runs steps =>
      apply stays
      · rw [steps]
        simp
      · exact waits

variable {saProfiles : List SaProfile} {labels : Nat → Env × Op}

/-- The moments of an endless run of a scheduler. -/
abbrev moment (saProfiles : List SaProfile) (labels : Nat → Env × Op) (n : Nat) : Scheduler :=
  Runs.stateAt step (init saProfiles) labels n

/-- An endless run under the assumptions on posts, strategy and starts, in which the handler is served again
and again and the delays of timeouts pass. -/
structure Lively (saProfiles : List SaProfile) (labels : Nat → Env × Op) (recycled : Int → Bool)
    (processName : String) : Prop where
  expected : ∀ n, Expected recycled processName (moment saProfiles labels n) (labels n)
  served : Runs.Again fun n => (moment saProfiles labels n).Serves (labels n).2
  expires : ∀ n handle, (handle, ProcessTask.unloadTimeout processName) ∈
    (moment saProfiles labels n).processHandler.delayed →
    ∃ m, n ≤ m ∧ (labels m).2 = .expire (.processTask handle)

theorem Lively.driven (lively : Lively saProfiles labels recycled processName) {n m : Nat} (later : n ≤ m)
    (start : (moment saProfiles labels n).Sound processName ∧
      Driven recycled processName asked (moment saProfiles labels n)) :
    (moment saProfiles labels m).Sound processName ∧
      Driven recycled processName asked (moment saProfiles labels m) :=
  Runs.stateAt_invariant (fun s : Scheduler => s.Sound processName ∧ Driven recycled processName asked s)
    (fun _ _ expected good => step_driven expected good) lively.expected later start

theorem Lively.good (lively : Lively saProfiles labels recycled processName) (n : Nat) :
    (moment saProfiles labels n).Sound processName ∧
      Driven recycled processName 0 (moment saProfiles labels n) :=
  lively.driven (Nat.zero_le n) ⟨sound_init saProfiles, driven_init saProfiles⟩

theorem Lively.low (lively : Lively saProfiles labels recycled processName) {n m : Nat} (later : n ≤ m)
    (low : asked ≤ stopsAsked processName (moment saProfiles labels n).log) :
    asked ≤ stopsAsked processName (moment saProfiles labels m).log :=
  Runs.stateAt_invariant (fun s : Scheduler => asked ≤ stopsAsked processName s.log)
    (fun s label (expected : Expected recycled processName s label) low =>
      Nat.le_trans low (stopsAsked_mono (log_exec expected.submitted))) lively.expected later low

/-- A timeout that is ready or running comes to its end. -/
theorem Lively.ending (lively : Lively saProfiles labels recycled processName) {n rank : Nat}
    (low : asked ≤ stopsAsked processName (moment saProfiles labels n).log)
    (ending : Ending processName (moment saProfiles labels n) rank) :
    ∃ m, n ≤ m ∧ Ends processName asked (moment saProfiles labels m) := by
  apply @Runs.reached_of_rank (fun n => (moment saProfiles labels n).Serves (labels n).2)
    (fun m => Ends processName asked (moment saProfiles labels m))
    (fun m rank => asked ≤ stopsAsked processName (moment saProfiles labels m).log ∧
      Ending processName (moment saProfiles labels m) rank) lively.served
  · rintro m r ⟨low, ending⟩
    have expected := lively.expected m
    rcases step_ending expected (lively.good m).1 low ending with ends | ⟨left, stays, lower⟩
    · exact .inl ends
    · refine .inr ⟨left, ⟨?_, stays⟩, lower⟩
      exact lively.low (Nat.le_succ m) low
  · exact ⟨low, ending⟩

/-- A stopping process is stopped, or init is asked to stop it. -/
theorem Lively.stopping (lively : Lively saProfiles labels recycled processName) {n : Nat}
    (driven : Driven recycled processName asked (moment saProfiles labels n))
    (stopping : ((moment saProfiles labels n).process processName).state = .stopping) :
    ∃ m, n ≤ m ∧ Ends processName asked (moment saProfiles labels m) := by
  rcases driven.ends stopping with timed | done
  · rcases timed with ⟨handle, waits⟩ | ⟨phase, runs⟩
    · rcases List.mem_append.mp waits with ready | delayed
      · obtain ⟨place, ahead⟩ := TaskQueue.ready_of_mem ready
        exact lively.ending driven.low ⟨stopping, .inl ⟨_, ⟨place, ahead, rfl⟩, rfl⟩⟩
      · have reached := @Runs.reached_of_turn
          (fun m => ((moment saProfiles labels m).process processName).state = .stopping ∧
            (handle, ProcessTask.unloadTimeout processName) ∈
              (moment saProfiles labels m).processHandler.delayed)
          (fun m => (labels m).2 = .expire (.processTask handle))
          (fun m => Ends processName asked (moment saProfiles labels m) ∨
            ∃ rank, Ending processName (moment saProfiles labels m) rank)
          n (lively.expires n handle delayed)
          (fun m _ waiting => step_delayed (lively.expected m) (lively.good m).1 waiting.1 waiting.2)
          ⟨stopping, delayed⟩
        obtain ⟨m, later, ends | ⟨rank, ending⟩⟩ := reached
        · exact ⟨m, later, ends⟩
        · obtain ⟨k, after, ends⟩ := lively.ending (lively.low later driven.low) ending
          exact ⟨k, Nat.le_trans later after, ends⟩
    · exact lively.ending driven.low ⟨stopping, .inr ⟨⟨phase, runs⟩, rfl⟩⟩
  · exact ⟨n, Nat.le_refl n, .inl done⟩

/-- The unload of a process comes to its end. In every endless run in which the process handler is served
again and again and the delays of its timeouts pass, a started process that can be unloaded is at a later
moment asked of init to be stopped, or is gone by itself, or can no longer be unloaded because one of its
abilities is wanted again. -/
theorem unloads_come_to_an_end (saProfiles : List SaProfile) (labels : Nat → Env × Op)
    (recycled : Int → Bool) (processName : String)
    (lively : Lively saProfiles labels recycled processName) (n : Nat)
    (started : ((moment saProfiles labels n).process processName).state = .started)
    (can : (moment saProfiles labels n).canUnloadAllSystemAbilityLocked
      { checkSaIsImmediatelyRecycle := recycled } processName true = true) :
    ∃ m, n ≤ m ∧
      (stopsAsked processName (moment saProfiles labels n).log <
          stopsAsked processName (moment saProfiles labels m).log ∨
        ((moment saProfiles labels m).process processName).state = .notStarted ∨
        (((moment saProfiles labels m).process processName).state = .started ∧
          (moment saProfiles labels m).canUnloadAllSystemAbilityLocked
            { checkSaIsImmediatelyRecycle := recycled } processName true = false)) := by
  have recycling : ∀ s : Scheduler, s.canUnloadAllSystemAbilityLocked
      { checkSaIsImmediatelyRecycle := recycled } processName true = true ↔
      (s.process processName).Unloadable ∧ (s.process processName).saList.any recycled = true := by
    intro s
    rw [canUnloadAll_iff]
    exact and_congr_right fun _ => ⟨fun recycles => recycles rfl, fun recycles _ => recycles⟩
  obtain ⟨unloadable, recycles⟩ := (recycling _).mp can
  have good := lively.good n
  have other : ((moment saProfiles labels n).process processName).state ≠ .stopping := by
    rw [started]
    decide
  obtain ⟨place, ahead⟩ := good.2.unloads started unloadable recycles
  obtain ⟨m, later, leaves⟩ := @Runs.reached_of_rank
    (fun n => (moment saProfiles labels n).Serves (labels n).2)
    (fun m => ¬ (((moment saProfiles labels m).process processName).state = .started ∧
      ((moment saProfiles labels m).process processName).Unloadable ∧
      ((moment saProfiles labels m).process processName).saList.any recycled = true))
    (fun m rank => Unloads recycled processName (moment saProfiles labels m) rank) lively.served
    (fun m rank unloads => step_unloads (lively.expected m) (lively.good m).1 unloads)
    n _ ⟨⟨started, unloadable, recycles⟩, place, ahead, rfl⟩
  cases state : ((moment saProfiles labels m).process processName).state with
  | notStarted => exact ⟨m, later, .inr (.inl state)⟩
  | started =>
      refine ⟨m, later, .inr (.inr ⟨state, ?_⟩)⟩
      rw [← Bool.not_eq_true, recycling]
      exact fun both => leaves ⟨state, both⟩
  | stopping =>
      have driven := (lively.driven later ⟨good.1, good.2.restart other⟩).2
      obtain ⟨k, after, ends⟩ := lively.stopping driven state
      refine ⟨k, Nat.le_trans later after, ?_⟩
      rcases ends with asked | gone
      · exact .inl asked
      · exact .inr (.inl gone)

/-- The host is used and released, and then its handler is idle for ever. -/
def hostLabels (n : Nat) : Env × Op := (useHost ++ releaseHost).getD n ({}, .startProcessTask)

theorem step_idle (empty : s.processHandler.ready = []) : s.step (env, .startProcessTask) = s := by
  have none : s.processHandler.pop = none := by
    rw [TaskQueue.pop, empty]
  simp only [step, exec, startProcessTask, none]
  split
  · rename_i impossible
    cases impossible
  · rfl

theorem hostLabels_late (n : Nat) : hostLabels (10 + n) = ({}, .startProcessTask) := by
  have none : (useHost ++ releaseHost)[10 + n]? = none :=
    List.getElem?_eq_none (Nat.le_add_right 10 n)
  rw [hostLabels, List.getD_eq_getElem?_getD, none]
  rfl

/-- From the tenth moment on nothing changes. -/
theorem moment_host_late (n : Nat) :
    moment hostProfile hostLabels (10 + n) = moment hostProfile hostLabels 10 := by
  induction n with
  | zero => rfl
  | succ n hypothesis =>
      have empty : (moment hostProfile hostLabels 10).processHandler.ready = [] := by decide +kernel
      change step (moment hostProfile hostLabels (10 + n)) (hostLabels (10 + n)) = _
      rw [hypothesis, hostLabels_late]
      exact step_idle empty

theorem hostLabels_plain (n : Nat) : (∀ at', (hostLabels n).1.submitted at' = true) ∧
    (hostLabels n).1.checkSaIsImmediatelyRecycle = fun _ => true := by
  have plain : (hostLabels n).1 = {} := by
    rcases Nat.lt_or_ge n 10 with early | late
    · have all : ∀ label ∈ useHost ++ releaseHost, label.1 = {} := by
        simp [useHost, releaseHost]
      have found : (useHost ++ releaseHost)[n]? = some ((useHost ++ releaseHost).get ⟨n, early⟩) :=
        List.getElem?_eq_getElem early
      rw [hostLabels, List.getD_eq_getElem?_getD, found]
      exact all _ (List.getElem_mem early)
    · obtain ⟨k, rfl⟩ := Nat.exists_eq_add_of_le late
      rw [hostLabels_late]
  rw [plain]
  exact ⟨fun _ => rfl, rfl⟩

theorem lively_host : Lively hostProfile hostLabels (fun _ => true) "host" := by
  refine ⟨fun n => ⟨(hostLabels_plain n).1, (hostLabels_plain n).2, ?_⟩,
    fun n => ⟨10 + n, Nat.le_add_left n 10, ?_⟩, ?_⟩
  · rcases Nat.lt_or_ge n 10 with early | late
    · have all : ∀ n < 10, StartsUnused "host" (moment hostProfile hostLabels n) (hostLabels n) := by
        decide +kernel
      exact all n early
    · obtain ⟨k, rfl⟩ := Nat.exists_eq_add_of_le late
      rw [moment_host_late, hostLabels_late]
      decide +kernel
  · change (moment hostProfile hostLabels (10 + n)).Serves (hostLabels (10 + n)).2
    rw [moment_host_late, hostLabels_late]
    have free : (moment hostProfile hostLabels 10).unloadTimeoutRunning = none := by decide +kernel
    exact .inl ⟨free, rfl⟩
  · intro n handle waits
    rcases Nat.lt_or_ge n 10 with early | late
    · have all : ∀ n < 10, ∀ entry ∈ (moment hostProfile hostLabels n).processHandler.delayed,
          n ≤ 6 ∧ (hostLabels 6).2 = .expire (.processTask entry.1) := by
        decide +kernel
      exact ⟨6, all n early _ waits⟩
    · obtain ⟨k, rfl⟩ := Nat.exists_eq_add_of_le late
      have none : (moment hostProfile hostLabels 10).processHandler.delayed = [] := by decide +kernel
      rw [moment_host_late, none] at waits
      cases waits

theorem host_unload_comes_to_an_end : ∃ m, 4 ≤ m ∧
    (stopsAsked "host" (moment hostProfile hostLabels 4).log <
        stopsAsked "host" (moment hostProfile hostLabels m).log ∨
      ((moment hostProfile hostLabels m).process "host").state = .notStarted ∨
      (((moment hostProfile hostLabels m).process "host").state = .started ∧
        (moment hostProfile hostLabels m).canUnloadAllSystemAbilityLocked
          { checkSaIsImmediatelyRecycle := fun _ => true } "host" true = false)) :=
  unloads_come_to_an_end hostProfile hostLabels (fun _ => true) "host" lively_host 4 (by decide +kernel)
    (by decide +kernel)

end Fairness

end Scheduler

end Samgr
