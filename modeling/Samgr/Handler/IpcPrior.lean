import Samgr.Collect.Timed
import Samgr.Handler.NamedTasks
import Mathlib.Data.Int.Init

/-! The IPC priority of the manager. Whoever enables it is counted and starts a timer that takes the
priority back; the timer of the last enable is to be the only one. A timer that has been started can no
longer be cancelled, and then waits for the lock of the count like everybody else. -/
namespace Samgr

def RESET_IPC_PRIOR : String := "resetIpcPrior"
def RESET_IPC_PRIOR_TIMEOUT : Nat := 5 * 1000

/-- `contributed` are the enables that are counted, each by the number of the next task when it came, so
that the timer it posts has that number and those of earlier enables have lower ones; `timedOut` are the
enables that a timer has taken out of the count, with the number of the timer. The source has neither. -/
structure IpcPrior where
  isSupportSetPrior : Bool := true
  priorEnable : Bool := false
  priorRefCnt : Int := 0
  workHandler : FFRTHandler := {}
  contributed : List Nat := []
  timedOut : List (Nat × Nat) := []

/-- `which` is the enable that a disable is meant for, and `work` what else happens in the handler. -/
inductive PriorLabel where
  | enable (submitted : Bool)
  | disable (which : Nat)
  | resetTimeoutTask
  | work (label : HandlerLabel)

namespace FFRTHandler

/-- The task that has been dequeued and has not run its body. -/
def entered (h : FFRTHandler) : Option QueuedTask :=
  match h.serving with
  | .entered task => some task
  | _ => none

/-- What else happens in the handler does not touch the name. -/
def sparesName (h : FFRTHandler) (name : String) : HandlerLabel → Bool
  | .postNamedTask _ other _ => other != name
  | .removeTask other => other != name
  | .begin => h.entered.all fun task => task.name != some name
  | _ => true

end FFRTHandler

namespace IpcPrior

variable (s : IpcPrior)

def flushResetPriorTask (submitted : Bool) : FFRTHandler :=
  let cleared :=
    if s.workHandler.hasInnerEvent RESET_IPC_PRIOR then s.workHandler.removeTask RESET_IPC_PRIOR
    else s.workHandler
  (cleared.postTask true (some RESET_IPC_PRIOR) RESET_IPC_PRIOR_TIMEOUT submitted).1

/-- `SetSamgrIpcPrior(true)` under its lock. -/
def enable (submitted : Bool) : IpcPrior :=
  if s.isSupportSetPrior then
    { s with
      priorEnable := true
      priorRefCnt := toInt32 (s.priorRefCnt + 1)
      workHandler := s.flushResetPriorTask submitted
      contributed := s.contributed ++ [s.workHandler.next] }
  else s

/-- `SetSamgrIpcPrior(false)` under its lock. -/
def disable (which : Nat) : IpcPrior :=
  if s.isSupportSetPrior then
    if !s.priorEnable || decide (s.priorRefCnt ≤ 0) then s
    else
      let left := { s with
        priorRefCnt := s.priorRefCnt - 1
        contributed := s.contributed.eraseIdx (which % s.contributed.length) }
      if left.priorRefCnt = 0 then
        { left with priorEnable := false, workHandler := s.workHandler.removeTask RESET_IPC_PRIOR }
      else left
  else s

/-- The body of a timer when it gets the lock. It leaves its handle in the record of names. -/
def resetTimeoutTask : IpcPrior :=
  match s.workHandler.entered with
  | some task =>
      if task.name = some RESET_IPC_PRIOR then
        { s with
          priorEnable := false
          priorRefCnt := 0
          workHandler := { s.workHandler with serving := .idle }
          contributed := []
          timedOut := s.contributed.map (task.handle, ·) ++ s.timedOut }
      else s
  | none => s

def step (delayOf : String → Nat) (s : IpcPrior) : PriorLabel → IpcPrior
  | .enable submitted => s.enable submitted
  | .disable which => s.disable which
  | .resetTimeoutTask => s.resetTimeoutTask
  | .work label =>
      if s.workHandler.sparesName RESET_IPC_PRIOR label then
        { s with workHandler := s.workHandler.step delayOf label }
      else s

/-- The priority is on exactly while somebody is counted. -/
def Held : Prop := (s.priorEnable = true ↔ 0 < s.priorRefCnt) ∧ 0 ≤ s.priorRefCnt

/-- A timer has taken out no enable that came after the one that posted it. -/
def TimedOutOwn : Prop := ∀ out ∈ s.timedOut, out.2 ≤ out.1

/-- One more enable can be counted. -/
def hasRoom : PriorLabel → Bool
  | .enable _ => !s.isSupportSetPrior || decide (s.priorRefCnt < INT32_MAX)
  | _ => true

/-- A timer has been dequeued and has not run its body. -/
def timerWaits : Bool := s.workHandler.entered.any fun task => task.name == some RESET_IPC_PRIOR

/-- No enable comes while a timer waits. -/
def sparesEnable : PriorLabel → Bool
  | .enable _ => !s.isSupportSetPrior || !s.timerWaits
  | _ => true

end IpcPrior

namespace FFRTHandler

/-- What the rest of the handler's work does to the tasks of the name: it starts them. -/
structure Spares (name : String) (h after : FFRTHandler) : Prop where
  queue : ∀ task ∈ after.queue, task.name = some name → task ∈ h.queue
  entered : ∀ task, after.entered = some task → task.name = some name →
    h.entered = some task ∨ task ∈ h.queue
  record : after.taskMap name = h.taskMap name
  next : h.next ≤ after.next

variable {h : FFRTHandler} {name : String}

theorem spares_self : Spares name h h :=
  ⟨fun _ member _ => member, fun _ entered _ => .inl entered, rfl, Nat.le_refl _⟩

theorem entered_postTask {func submitted : Bool} {other : Option String} {delayTime : Nat} :
    (h.postTask func other delayTime submitted).1.entered = h.entered := by
  unfold FFRTHandler.postTask
  split
  · rfl
  · cases other <;> rfl

theorem postTask_spares {func submitted : Bool} {other : Option String} {delayTime : Nat}
    (different : other ≠ some name) : Spares name h (h.postTask func other delayTime submitted).1 := by
  refine ⟨?_, fun task entered _ => .inl (entered_postTask.symm.trans entered), ?_, ?_⟩
  · intro task member named
    unfold FFRTHandler.postTask at member
    split at member
    · exact member
    · have added : task ∈ h.queue ++ [⟨h.next, other, h.now + delayTime * CONVERSION_FACTOR⟩] := by
        cases other <;> exact member
      rcases List.mem_append.mp added with old | new
      · exact old
      · rw [List.mem_singleton.mp new] at named
        exact absurd named different
  · unfold FFRTHandler.postTask
    split
    · rfl
    · cases other with
      | none => rfl
      | some own => exact Function.update_of_ne (fun same => different (by rw [same])) _ _
  · unfold FFRTHandler.postTask
    split
    · exact Nat.le_refl _
    · cases other <;> exact Nat.le_succ _

theorem entered_removeTask {other : String} : (h.removeTask other).entered = h.entered := by
  unfold FFRTHandler.removeTask
  split <;> rfl

theorem next_removeTask {other : String} : (h.removeTask other).next = h.next := by
  unfold FFRTHandler.removeTask
  split <;> rfl

theorem queue_removeTask_subset {other : String} : (h.removeTask other).queue ⊆ h.queue := by
  unfold FFRTHandler.removeTask
  split
  · exact List.Subset.refl _
  · exact List.filter_subset_self _

theorem removeTask_spares {other : String} (different : other ≠ name) :
    Spares name h (h.removeTask other) := by
  refine ⟨fun task member _ => queue_removeTask_subset member,
    fun task entered _ => .inl (entered_removeTask.symm.trans entered), ?_, Nat.le_of_eq next_removeTask.symm⟩
  rw [taskMap_removeTask, Function.update_of_ne different.symm]

theorem begin_spares {task : QueuedTask} (different : task.name ≠ some name) :
    Spares name h (h.begin task) := by
  have none : ∀ after : FFRTHandler, after.serving = .busy → ∀ other, after.entered ≠ some other := by
    intro after busy other entered
    simp [FFRTHandler.entered, busy] at entered
  cases named : task.name with
  | none =>
      have result : h.begin task = { h with serving := .busy } := by simp only [FFRTHandler.begin, named]
      rw [result]
      exact ⟨fun _ member _ => member, fun other entered _ => absurd entered (none _ rfl other), rfl,
        Nat.le_refl _⟩
  | some own =>
      have result : h.begin task = { h.delTask own with serving := .busy } := by
        simp only [FFRTHandler.begin, named]
      have apart : name ≠ own := by
        rintro rfl
        exact different named
      rw [result]
      unfold FFRTHandler.delTask
      split
      · exact ⟨fun _ member _ => member, fun other entered _ => absurd entered (none _ rfl other), rfl,
          Nat.le_refl _⟩
      · exact ⟨fun _ member _ => member, fun other entered _ => absurd entered (none _ rfl other),
          Function.update_of_ne apart _ _, Nat.le_refl _⟩

theorem step_spares {delayOf : String → Nat} {label : HandlerLabel} (spared : h.sparesName name label = true) :
    Spares name h (h.step delayOf label) := by
  cases label with
  | tick => exact ⟨fun _ member _ => member, fun _ entered _ => .inl entered, rfl, Nat.le_refl _⟩
  | postTask func delayTime submitted => exact postTask_spares (by simp)
  | postNamedTask func other submitted =>
      refine postTask_spares ?_
      simpa [sparesName] using spared
  | removeTask other => exact removeTask_spares (by simpa [sparesName] using spared)
  | start handle =>
      simp only [FFRTHandler.step]
      split
      · exact spares_self
      · rename_i task found
        split
        · refine ⟨fun other member _ => List.mem_of_mem_erase member, ?_, rfl, Nat.le_refl _⟩
          intro other entered _
          obtain rfl : task = other := by simpa [FFRTHandler.entered] using entered
          exact .inr (List.mem_of_find?_eq_some found)
        · exact spares_self
  | begin =>
      simp only [FFRTHandler.step]
      split
      · rename_i task serving
        apply begin_spares
        simpa [sparesName, FFRTHandler.entered, serving] using spared
      · exact spares_self
  | finish =>
      simp only [FFRTHandler.step]
      split
      · refine ⟨fun _ member _ => member, fun task entered _ => ?_, rfl, Nat.le_refl _⟩
        cases entered
      · exact spares_self

end FFRTHandler

namespace IpcPrior

/-- The timers that are still to run their bodies. -/
def IsTimer (h : FFRTHandler) (task : QueuedTask) : Prop :=
  task.name = some RESET_IPC_PRIOR ∧ (h.entered = some task ∨ task ∈ h.queue)

/-- The record holds the timers that can still be cancelled, and numbers are given in order. -/
structure Timed (s : IpcPrior) : Prop where
  recorded : ∀ task ∈ s.workHandler.queue, task.name = some RESET_IPC_PRIOR →
    task.handle ∈ (s.workHandler.taskMap RESET_IPC_PRIOR).getD []
  given : ∀ task, IsTimer s.workHandler task → task.handle < s.workHandler.next
  before : ∀ number ∈ s.contributed, number ≤ s.workHandler.next

/-- Every timer comes after the enables that are counted. -/
structure TimersLast (s : IpcPrior) : Prop where
  later : ∀ task, IsTimer s.workHandler task → ∀ number ∈ s.contributed, number ≤ task.handle
  own : s.TimedOutOwn

/-- The count is that of the enables that are counted, and fits. -/
structure Counted (s : IpcPrior) : Prop where
  count : s.priorRefCnt = s.contributed.length
  enabled : s.priorEnable = true ↔ 0 < s.priorRefCnt
  fits : s.priorRefCnt ≤ INT32_MAX

variable {s : IpcPrior} {delayOf : String → Nat}

section Handler

variable {h : FFRTHandler}

theorem not_queued_of_removeTask (recorded : ∀ task ∈ h.queue, task.name = some RESET_IPC_PRIOR →
    task.handle ∈ (h.taskMap RESET_IPC_PRIOR).getD []) :
    ∀ task ∈ (h.removeTask RESET_IPC_PRIOR).queue, task.name ≠ some RESET_IPC_PRIOR := by
  intro task member named
  have known := recorded task (FFRTHandler.queue_removeTask_subset member) named
  unfold FFRTHandler.removeTask at member
  cases found : h.taskMap RESET_IPC_PRIOR with
  | none => simp [found] at known
  | some handles =>
      rw [found, Option.getD_some] at known
      simp [found, known] at member

/-- The handler before the new timer: it holds no timer that has not been started. -/
theorem cleared_spec (recorded : ∀ task ∈ h.queue, task.name = some RESET_IPC_PRIOR →
    task.handle ∈ (h.taskMap RESET_IPC_PRIOR).getD []) :
    let cleared := if h.hasInnerEvent RESET_IPC_PRIOR then h.removeTask RESET_IPC_PRIOR else h
    (∀ task ∈ cleared.queue, task.name ≠ some RESET_IPC_PRIOR) ∧ cleared.entered = h.entered ∧
      cleared.next = h.next := by
  intro cleared
  by_cases known : h.hasInnerEvent RESET_IPC_PRIOR = true
  · have same : cleared = h.removeTask RESET_IPC_PRIOR := if_pos known
    rw [same]
    exact ⟨not_queued_of_removeTask recorded, FFRTHandler.entered_removeTask, FFRTHandler.next_removeTask⟩
  · have same : cleared = h := if_neg known
    rw [same]
    refine ⟨fun task member named => ?_, rfl, rfl⟩
    have inside := recorded task member named
    have absent : h.taskMap RESET_IPC_PRIOR = none := by
      simpa [FFRTHandler.hasInnerEvent] using known
    rw [absent] at inside
    cases inside

/-- The new timer is the only one in the queue, and has the next number. -/
theorem postTimer_spec {submitted : Bool}
    (cleared : ∀ task ∈ h.queue, task.name ≠ some RESET_IPC_PRIOR) :
    let posted := (h.postTask true (some RESET_IPC_PRIOR) RESET_IPC_PRIOR_TIMEOUT submitted).1
    (∀ task ∈ posted.queue, task.name = some RESET_IPC_PRIOR →
      task.handle = h.next ∧ h.next < posted.next ∧
        task.handle ∈ (posted.taskMap RESET_IPC_PRIOR).getD []) ∧
      posted.entered = h.entered ∧ h.next ≤ posted.next := by
  intro posted
  refine ⟨fun task member named => ?_, FFRTHandler.entered_postTask, ?_⟩
  · cases submitted with
    | false => exact absurd named (cleared task member)
    | true =>
        have queue : posted.queue = h.queue ++
            [⟨h.next, some RESET_IPC_PRIOR, h.now + RESET_IPC_PRIOR_TIMEOUT * CONVERSION_FACTOR⟩] := rfl
        rw [queue] at member
        rcases List.mem_append.mp member with old | new
        · exact absurd named (cleared task old)
        · rw [List.mem_singleton.mp new]
          refine ⟨rfl, Nat.lt_succ_self _, ?_⟩
          have record : posted.taskMap = Function.update h.taskMap RESET_IPC_PRIOR
              (some ((h.taskMap RESET_IPC_PRIOR).getD [] ++ [h.next])) := rfl
          rw [record, Function.update_self, Option.getD_some]
          exact List.mem_append_right _ (List.mem_singleton_self _)
  · cases submitted with
    | false => exact Nat.le_refl _
    | true => exact Nat.le_succ _

end Handler

/-- After the flush the only timer in the queue is the new one. -/
theorem flush_spec (good : s.Timed) (submitted : Bool) :
    (∀ task ∈ (s.flushResetPriorTask submitted).queue, task.name = some RESET_IPC_PRIOR →
      task.handle = s.workHandler.next ∧ s.workHandler.next < (s.flushResetPriorTask submitted).next ∧
        task.handle ∈ ((s.flushResetPriorTask submitted).taskMap RESET_IPC_PRIOR).getD []) ∧
      (s.flushResetPriorTask submitted).entered = s.workHandler.entered ∧
      s.workHandler.next ≤ (s.flushResetPriorTask submitted).next := by
  obtain ⟨cleared, entered, next⟩ := cleared_spec good.recorded
  have posted := @postTimer_spec _ submitted cleared
  rw [next, entered] at posted
  exact posted

section Steps

theorem isTimer_removeTask {h : FFRTHandler} {name : String} {task : QueuedTask}
    (timer : IsTimer (h.removeTask name) task) : IsTimer h task := by
  refine ⟨timer.1, timer.2.imp ?_ fun member => FFRTHandler.queue_removeTask_subset member⟩
  exact fun entered => FFRTHandler.entered_removeTask.symm.trans entered

theorem isTimer_of_spares {h after : FFRTHandler} {task : QueuedTask}
    (spares : FFRTHandler.Spares RESET_IPC_PRIOR h after) (timer : IsTimer after task) :
    IsTimer h task := by
  obtain ⟨named, entered | member⟩ := timer
  · exact ⟨named, spares.entered task entered named⟩
  · exact ⟨named, .inr (spares.queue task member named)⟩

/-- What is left after a disable. -/
theorem disable_cases (s : IpcPrior) (which : Nat) :
    s.disable which = s ∨
      s.priorEnable = true ∧ 0 < s.priorRefCnt ∧ ∃ handler priorEnable,
        s.disable which = { s with
          priorEnable
          priorRefCnt := s.priorRefCnt - 1
          workHandler := handler
          contributed := s.contributed.eraseIdx (which % s.contributed.length) } ∧
        (s.priorRefCnt = 1 ∧ priorEnable = false ∧
            handler = s.workHandler.removeTask RESET_IPC_PRIOR ∨
          s.priorRefCnt ≠ 1 ∧ priorEnable = s.priorEnable ∧ handler = s.workHandler) := by
  unfold IpcPrior.disable
  split
  · split
    · exact .inl rfl
    · rename_i counts
      simp only [Bool.or_eq_true, Bool.not_eq_true', decide_eq_true_eq, not_or, Bool.not_eq_false] at counts
      refine .inr ⟨counts.1, Int.not_le.mp counts.2, ?_⟩
      by_cases last : s.priorRefCnt = 1
      · have zero : s.priorRefCnt - 1 = 0 := by omega
        refine ⟨s.workHandler.removeTask RESET_IPC_PRIOR, false, ?_, .inl ⟨last, rfl, rfl⟩⟩
        rw [if_pos zero]
      · have more : ¬ s.priorRefCnt - 1 = 0 := by omega
        refine ⟨s.workHandler, s.priorEnable, ?_, .inr ⟨last, rfl, rfl⟩⟩
        rw [if_neg more]
  · exact .inl rfl

/-- A timer that runs takes out all that is counted. -/
theorem resetTimeoutTask_cases (s : IpcPrior) :
    s.resetTimeoutTask = s ∨ ∃ task, s.workHandler.entered = some task ∧
      task.name = some RESET_IPC_PRIOR ∧
      s.resetTimeoutTask = { s with
        priorEnable := false
        priorRefCnt := 0
        workHandler := { s.workHandler with serving := .idle }
        contributed := []
        timedOut := s.contributed.map (task.handle, ·) ++ s.timedOut } := by
  unfold IpcPrior.resetTimeoutTask
  split
  · rename_i task entered
    split
    · rename_i named
      exact .inr ⟨task, entered, named, rfl⟩
    · exact .inl rfl
  · exact .inl rfl

theorem timed_init (isSupportSetPrior : Bool) : Timed { isSupportSetPrior } := by
  constructor
  · intro task member
    cases member
  · rintro task ⟨-, entered | member⟩
    · cases entered
    · cases member
  · intro number member
    cases member

theorem Timed.step (good : s.Timed) (label : PriorLabel) : (s.step delayOf label).Timed := by
  cases label with
  | enable submitted =>
      simp only [IpcPrior.step, IpcPrior.enable]
      split
      · obtain ⟨queued, entered, grown⟩ := flush_spec good submitted
        refine ⟨fun task member named => (queued task member named).2.2, ?_, ?_⟩
        · rintro task ⟨named, started | member⟩
          · have old := good.given task ⟨named, .inl (entered.symm.trans started)⟩
            exact Nat.lt_of_lt_of_le old grown
          · obtain ⟨handle, less, -⟩ := queued task member named
            rw [handle]
            exact less
        · intro number member
          rcases List.mem_append.mp member with old | new
          · exact Nat.le_trans (good.before number old) grown
          · rw [List.mem_singleton.mp new]
            exact grown
      · exact good
  | disable which =>
      simp only [IpcPrior.step]
      rcases disable_cases s which with same | ⟨-, -, handler, priorEnable, same, handled⟩
      · rw [same]
        exact good
      · rw [same]
        have fewer : ∀ number ∈ s.contributed.eraseIdx (which % s.contributed.length),
            number ≤ s.workHandler.next :=
          fun number member => good.before number (List.mem_of_mem_eraseIdx member)
        rcases handled with ⟨-, -, rfl⟩ | ⟨-, -, rfl⟩
        · refine ⟨fun task member named => ?_, fun task timer => ?_, fun number member => ?_⟩
          · exact absurd named (not_queued_of_removeTask good.recorded task member)
          · rw [FFRTHandler.next_removeTask]
            exact good.given task (isTimer_removeTask timer)
          · rw [FFRTHandler.next_removeTask]
            exact fewer number member
        · exact ⟨good.recorded, good.given, fewer⟩
  | resetTimeoutTask =>
      simp only [IpcPrior.step]
      rcases resetTimeoutTask_cases s with same | ⟨task, -, -, same⟩
      · rw [same]
        exact good
      · rw [same]
        refine ⟨good.recorded, ?_, fun number member => by cases member⟩
        rintro other ⟨named, entered | member⟩
        · cases entered
        · exact good.given other ⟨named, .inr member⟩
  | work label =>
      simp only [IpcPrior.step]
      split
      · rename_i spared
        have spares : FFRTHandler.Spares RESET_IPC_PRIOR s.workHandler (s.workHandler.step delayOf label) :=
          FFRTHandler.step_spares spared
        refine ⟨fun task member named => ?_, fun task timer => ?_,
          fun number member => Nat.le_trans (good.before number member) spares.next⟩
        · rw [spares.record]
          exact good.recorded task (spares.queue task member named) named
        · exact Nat.lt_of_lt_of_le (good.given task (isTimer_of_spares spares timer)) spares.next
      · exact good

/-- Where no enable comes while a timer waits, every timer comes after the enables that are counted. -/
theorem TimersLast.step (timed : s.Timed) (good : s.TimersLast) {label : PriorLabel}
    (spared : s.sparesEnable label = true) : (s.step delayOf label).TimersLast := by
  cases label with
  | enable submitted =>
      simp only [IpcPrior.step, IpcPrior.enable]
      split
      · rename_i supported
        obtain ⟨queued, entered, -⟩ := flush_spec timed submitted
        have nobody : s.timerWaits = false := by simpa [sparesEnable, supported] using spared
        refine ⟨?_, good.own⟩
        rintro task ⟨named, started | member⟩ number counted
        · have waits : s.workHandler.entered = some task := entered.symm.trans started
          simp [timerWaits, waits, named] at nobody
        · rw [(queued task member named).1]
          rcases List.mem_append.mp counted with old | new
          · exact timed.before number old
          · exact Nat.le_of_eq (List.mem_singleton.mp new)
      · exact good
  | disable which =>
      simp only [IpcPrior.step]
      rcases disable_cases s which with same | ⟨-, -, handler, priorEnable, same, handled⟩
      · rw [same]
        exact good
      · rw [same]
        refine ⟨fun task timer number counted => ?_, good.own⟩
        have before : IsTimer s.workHandler task := by
          rcases handled with ⟨-, -, rfl⟩ | ⟨-, -, rfl⟩
          · exact isTimer_removeTask timer
          · exact timer
        exact good.later task before number (List.mem_of_mem_eraseIdx counted)
  | resetTimeoutTask =>
      simp only [IpcPrior.step]
      rcases resetTimeoutTask_cases s with same | ⟨task, entered, named, same⟩
      · rw [same]
        exact good
      · rw [same]
        refine ⟨fun _ _ number counted => (by cases counted), fun out member => ?_⟩
        rcases List.mem_append.mp member with new | old
        · obtain ⟨number, counted, rfl⟩ := List.mem_map.mp new
          exact good.later task ⟨named, .inl entered⟩ number counted
        · exact good.own out old
  | work label =>
      simp only [IpcPrior.step]
      split
      · rename_i spared
        have spares : FFRTHandler.Spares RESET_IPC_PRIOR s.workHandler (s.workHandler.step delayOf label) :=
          FFRTHandler.step_spares spared
        exact ⟨fun task timer => good.later task (isTimer_of_spares spares timer), good.own⟩
      · exact good

theorem toInt32_of_fits {number : Int} (least : 0 ≤ number) (most : number < INT32_MAX) :
    toInt32 (number + 1) = number + 1 := by
  have bound : INT32_MAX = 2147483647 := rfl
  rw [toInt32, Int.bmod_eq_of_le (by omega) (by omega)]

theorem zero_fits : (0 : Int) ≤ INT32_MAX := by decide

theorem Counted.held (good : s.Counted) : s.Held := by
  refine ⟨good.enabled, ?_⟩
  rw [good.count]
  exact Int.natCast_nonneg _

theorem Counted.step (good : s.Counted) {label : PriorLabel} (room : s.hasRoom label = true) :
    (s.step delayOf label).Counted := by
  have least : 0 ≤ s.priorRefCnt := good.held.2
  cases label with
  | enable submitted =>
      simp only [IpcPrior.step, IpcPrior.enable]
      split
      · rename_i supported
        have most : s.priorRefCnt < INT32_MAX := by simpa [hasRoom, supported] using room
        have next : toInt32 (s.priorRefCnt + 1) = s.priorRefCnt + 1 := toInt32_of_fits least most
        rw [next]
        refine ⟨?_, iff_of_true rfl ?_, ?_⟩
        · show s.priorRefCnt + 1 = (s.contributed ++ [s.workHandler.next]).length
          rw [good.count, List.length_append]
          rfl
        · show 0 < s.priorRefCnt + 1
          omega
        · show s.priorRefCnt + 1 ≤ INT32_MAX
          omega
      · exact good
  | disable which =>
      simp only [IpcPrior.step]
      rcases disable_cases s which with same | ⟨on, some, handler, priorEnable, same, handled⟩
      · rw [same]
        exact good
      · rw [same]
        have fits := good.fits
        have inside : which % s.contributed.length < s.contributed.length := by
          refine Nat.mod_lt _ ?_
          have count := good.count
          omega
        refine ⟨?_, ?_, ?_⟩
        · show s.priorRefCnt - 1 = (s.contributed.eraseIdx (which % s.contributed.length)).length
          have count := good.count
          rw [List.length_eraseIdx_of_lt inside]
          omega
        · show priorEnable = true ↔ 0 < s.priorRefCnt - 1
          rcases handled with ⟨one, rfl, -⟩ | ⟨more, rfl, -⟩
          · exact iff_of_false (by simp) (by omega)
          · exact iff_of_true on (by omega)
        · show s.priorRefCnt - 1 ≤ INT32_MAX
          omega
  | resetTimeoutTask =>
      simp only [IpcPrior.step]
      rcases resetTimeoutTask_cases s with same | ⟨task, -, -, same⟩
      · rw [same]
        exact good
      · rw [same]
        exact ⟨rfl, iff_of_false (by simp) (by simp), zero_fits⟩
  | work label =>
      simp only [IpcPrior.step]
      split
      · exact ⟨good.count, good.enabled, good.fits⟩
      · exact good

/-- One enable more than the counter holds makes it negative. -/
theorem not_held_of_full (good : s.Counted) {label : PriorLabel} (full : ¬ s.hasRoom label = true) :
    ¬ (s.step delayOf label).Held := by
  cases label with
  | enable submitted =>
      simp only [hasRoom, Bool.or_eq_true, Bool.not_eq_true', decide_eq_true_eq, not_or,
        Bool.not_eq_false] at full
      obtain ⟨supported, most⟩ := full
      have bound : INT32_MAX = 2147483647 := rfl
      have fits := good.fits
      have count : s.priorRefCnt = 2147483647 := by omega
      have wraps : (s.step delayOf (.enable submitted)).priorRefCnt = -2147483648 := by
        simp only [IpcPrior.step, IpcPrior.enable, supported, if_true, count]
        decide
      intro held
      have least := held.2
      rw [wraps] at least
      omega
  | disable which => exact absurd rfl full
  | resetTimeoutTask => exact absurd rfl full
  | work label => exact absurd rfl full

end Steps

/-- An enable that comes while a timer waits is taken out of the count by that timer, if no disable comes
before it. -/
theorem not_own_of_waiting (timed : s.Timed) {submitted : Bool}
    (waits : ¬ s.sparesEnable (.enable submitted) = true) :
    ¬ (s.enable submitted).resetTimeoutTask.TimedOutOwn := by
  simp only [sparesEnable, Bool.or_eq_true, Bool.not_eq_true', not_or, Bool.not_eq_false, timerWaits,
    Option.any_eq_true, beq_iff_eq] at waits
  obtain ⟨supported, task, entered, named⟩ := waits
  have kept : (s.enable submitted).workHandler.entered = some task := by
    simp only [IpcPrior.enable, supported, if_true]
    exact (flush_spec timed submitted).2.1.trans entered
  have counted : s.workHandler.next ∈ (s.enable submitted).contributed := by
    simp [IpcPrior.enable, supported]
  have earlier : task.handle < s.workHandler.next := timed.given task ⟨named, .inl entered⟩
  intro own
  have out : (task.handle, s.workHandler.next) ∈ (s.enable submitted).resetTimeoutTask.timedOut := by
    simp only [IpcPrior.resetTimeoutTask, kept, named, if_true]
    exact List.mem_append_left _ (List.mem_map_of_mem counted)
  have later : s.workHandler.next ≤ task.handle := own _ out
  omega

/-- The priority is on exactly while somebody is counted, in every state of exactly those runs in which
the counter never overflows; no enable is taken out by the timer of an earlier one where none comes while
a timer waits; and one that does can be. -/
theorem priority_is_held_by_its_enables (isSupportSetPrior : Bool) (delayOf : String → Nat)
    (labels : List PriorLabel) :
    let init : IpcPrior := { isSupportSetPrior }
    let last := Runs.run (step delayOf) init labels
    ((∀ before, before <+: labels → (Runs.run (step delayOf) init before).Held) ↔
        Runs.Guarded (step delayOf) (fun s label => s.hasRoom label = true) init labels) ∧
      (Runs.Guarded (step delayOf) (fun s label => s.sparesEnable label = true) init labels →
        last.TimedOutOwn) ∧
      ∀ submitted, ¬ last.sparesEnable (.enable submitted) = true →
        ¬ (last.enable submitted).resetTimeoutTask.TimedOutOwn := by
  intro init last
  have timed : last.Timed :=
    Runs.run_invariant Timed (fun s label good => good.step label) labels (timed_init isSupportSetPrior)
  refine ⟨?_, fun guarded => ?_, fun submitted => not_own_of_waiting timed⟩
  · have start : init.Counted := ⟨rfl, iff_of_false (by simp [init]) (by simp [init]), zero_fits⟩
    exact Runs.forall_prefix_iff_guarded Counted (fun s label room good => good.step room)
      (fun s good => good.held) (fun s label good full => not_held_of_full good full) start
  · have both : last.Timed ∧ last.TimersLast := by
      refine Runs.guarded_invariant (fun s : IpcPrior => s.Timed ∧ s.TimersLast) ?_ guarded
        ⟨timed_init isSupportSetPrior, ?_⟩
      · rintro s label spared ⟨timed, good⟩
        exact ⟨timed.step label, good.step timed spared⟩
      · refine ⟨?_, fun out member => by cases member⟩
        intro _ _ number counted
        cases counted
    exact both.2.own

/-- Time passes. -/
def wait (ticks : Nat) : List PriorLabel := List.replicate ticks (.work .tick)

theorem run_wait (ticks : Nat) : Runs.run (step delayOf) s (wait ticks) =
    { s with workHandler := { s.workHandler with now := s.workHandler.now + ticks } } := by
  induction ticks generalizing s with
  | zero => rfl
  | succ ticks hypothesis =>
      rw [wait, List.replicate_succ, Runs.run_cons]
      refine hypothesis.trans ?_
      simp only [IpcPrior.step, FFRTHandler.sparesName, if_true, FFRTHandler.step]
      rw [Nat.add_assoc, Nat.add_comm 1 ticks]

/-- The first timer is due and has been dequeued when the second enable comes. -/
def lateTimer : List PriorLabel :=
  [.enable true] ++ wait 5000000 ++ [.work (.start 0), .enable true, .resetTimeoutTask]

theorem late_timer_resets_new_enable :
    ¬ ∀ (isSupportSetPrior : Bool) (delayOf : String → Nat) (labels : List PriorLabel),
      (Runs.run (step delayOf) { isSupportSetPrior } labels).Held ∧
        (Runs.run (step delayOf) { isSupportSetPrior } labels).TimedOutOwn := by
  intro always
  have own := (always true (fun _ => 0) lateTimer).2
  have out : (Runs.run (step fun _ => 0) { isSupportSetPrior := true } lateTimer).timedOut =
      [(0, 0), (0, 1)] := by
    rw [lateTimer, Runs.run_append, Runs.run_append, run_wait]
    decide +kernel
  have later := own (0, 1) (by simp [out])
  revert later
  decide

end IpcPrior

end Samgr
