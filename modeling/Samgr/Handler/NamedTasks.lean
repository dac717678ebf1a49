import Samgr.Lib.Runs
import Mathlib.Data.List.Nodup
import Mathlib.Logic.Function.Basic
import Mathlib.Algebra.Group.Nat.Defs

/-! The handler of named tasks. Tasks wait in a serial queue until they are due, and the
handles of the named ones are recorded under their names, so that a name can be asked for and
its tasks can be cancelled. A named task takes itself out of the record as its first action. -/
namespace Samgr

def CONVERSION_FACTOR : Nat := 1000
def UINT64_MAX : Nat := 2 ^ 64 - 1

/-- A submitted task. Tasks without a name are not recorded. -/
structure QueuedTask where
  handle : Nat
  name : Option String
  due : Nat
  deriving DecidableEq, Repr

/-- What the serial queue is at: a task has just been entered, and a named one will call
`DelTask` next, or it is in the rest of its body. -/
inductive Serving where
  | idle
  | entered (task : QueuedTask)
  | busy
  deriving DecidableEq, Repr

/-- `queue` lists the tasks that are neither started nor cancelled, in the order they were
submitted in; `next` is the next handle. -/
structure FFRTHandler where
  now : Nat := 0
  next : Nat := 0
  queue : List QueuedTask := []
  serving : Serving := .idle
  taskMap : String → Option (List Nat) := fun _ => none

inductive HandlerLabel where
  | tick
  | postTask (func : Bool) (delayTime : Nat) (submitted : Bool)
  | postNamedTask (func : Bool) (name : String) (submitted : Bool)
  | removeTask (name : String)
  | start (handle : Nat)
  | begin
  | finish
  deriving DecidableEq, Repr

/-- The entry of a name: an empty queue of handles is erased. -/
def handlerQueue : List Nat → Option (List Nat)
  | [] => none
  | handles => some handles

namespace FFRTHandler

variable (s : FFRTHandler)

/-- A null function, a delay that overflows or a failed submission posts nothing. -/
def postTask (func : Bool) (name : Option String) (delayTime : Nat) (submitted : Bool) :
    FFRTHandler × Bool :=
  if !func || decide (UINT64_MAX / CONVERSION_FACTOR < delayTime) || !submitted then (s, false)
  else
    let posted := { s with
      next := s.next + 1
      queue := s.queue ++ [⟨s.next, name, s.now + delayTime * CONVERSION_FACTOR⟩] }
    match name with
    | none => (posted, true)
    | some name =>
        ({ posted with
            taskMap := Function.update s.taskMap name (some ((s.taskMap name).getD [] ++ [s.next])) },
          true)

/-- Cancelling has no effect on a task that has been started. -/
def removeTask (name : String) : FFRTHandler :=
  match s.taskMap name with
  | none => s
  | some handles =>
      { s with
        queue := s.queue.filter fun task => !handles.contains task.handle
        taskMap := Function.update s.taskMap name none }

/-- The handle at the front goes, whichever task calls. -/
def delTask (name : String) : FFRTHandler :=
  match s.taskMap name with
  | none => s
  | some handles => { s with taskMap := Function.update s.taskMap name (handlerQueue handles.tail) }

def hasInnerEvent (name : String) : Bool := (s.taskMap name).isSome

/-- The queue is serial, starts nothing before it is due, and never starts a task while one
waits that was submitted earlier and is due no later. -/
def canStart (task : QueuedTask) : Bool :=
  s.serving == .idle && task.due ≤ s.now &&
    s.queue.all fun other => decide (task.handle ≤ other.handle) || decide (task.due < other.due)

/-- The first action of a task. -/
def begin (task : QueuedTask) : FFRTHandler :=
  match task.name with
  | none => { s with serving := .busy }
  | some name => { s.delTask name with serving := .busy }

/-- Every name has its own delay. -/
def step (delayOf : String → Nat) (s : FFRTHandler) : HandlerLabel → FFRTHandler
  | .tick => { s with now := s.now + 1 }
  | .postTask func delayTime submitted => (s.postTask func none delayTime submitted).1
  | .postNamedTask func name submitted => (s.postTask func (some name) (delayOf name) submitted).1
  | .removeTask name => s.removeTask name
  | .start handle =>
      match s.queue.find? fun task => task.handle == handle with
      | none => s
      | some task =>
          if s.canStart task then
            { s with queue := s.queue.erase task, serving := .entered task }
          else s
  | .begin =>
      match s.serving with
      | .entered task => s.begin task
      | _ => s
  | .finish => if s.serving = .busy then { s with serving := .idle } else s

/-- The task that has been started and has not called `DelTask` yet. -/
def starting : List QueuedTask :=
  match s.serving with
  | .entered task => [task]
  | _ => []

/-- The tasks of the name that were posted, were not cancelled and have not called `DelTask`. -/
def outstanding (name : String) : List QueuedTask :=
  (s.starting ++ s.queue).filter fun task => task.name == some name

/-- The record is exact: it holds the handles of the outstanding tasks of every name, so that a
name is in it when a task of the name is outstanding, and removing the name cancels what has
not started. -/
structure Exact : Prop where
  handles : ∀ name, (s.taskMap name).getD [] = (s.outstanding name).map QueuedTask.handle
  present : ∀ name, s.hasInnerEvent name = true ↔ ∃ task, task ∈ s.outstanding name
  cancels : ∀ name, ∀ task ∈ (s.removeTask name).queue, task.name ≠ some name

/-- No name is removed between the start of a task of this name and its `DelTask`. -/
def SparesStarting (s : FFRTHandler) (label : HandlerLabel) : Prop :=
  ∀ name, label = .removeTask name → ∀ task ∈ s.starting, task.name ≠ some name

/-- What the record rests on: handles are given in order, tasks of one name are due in the order
they were submitted in, and the record is exact. -/
structure Recorded (delayOf : String → Nat) (s : FFRTHandler) : Prop where
  ordered : s.queue.Pairwise fun task later => task.handle < later.handle
  given : ∀ task ∈ s.starting ++ s.queue, task.handle < s.next
  apart : ∀ task ∈ s.starting, ∀ other ∈ s.queue, task.handle ≠ other.handle
  punctual : s.queue.Pairwise fun task later =>
    ∀ name, task.name = some name → later.name = some name → task.due ≤ later.due
  bounded : ∀ task ∈ s.queue, ∀ name, task.name = some name →
    task.due ≤ s.now + delayOf name * CONVERSION_FACTOR
  recorded : ∀ name, s.taskMap name = handlerQueue ((s.outstanding name).map QueuedTask.handle)

variable {s} {delayOf : String → Nat} {name : String}

@[simp] theorem getD_handlerQueue (handles : List Nat) : (handlerQueue handles).getD [] = handles := by
  cases handles <;> rfl

theorem isSome_handlerQueue {handles : List Nat} :
    (handlerQueue handles).isSome = true ↔ ∃ handle, handle ∈ handles := by
  cases handles <;> simp [handlerQueue]

theorem handlerQueue_append (handles : List Nat) (handle : Nat) :
    handlerQueue (handles ++ [handle]) = some (handles ++ [handle]) := by
  cases handles <;> rfl

theorem mem_outstanding {task : QueuedTask} :
    task ∈ s.outstanding name ↔ (task ∈ s.starting ∨ task ∈ s.queue) ∧ task.name = some name := by
  simp [outstanding, or_and_right]

/-- Removing a name cancels the waiting tasks of the name and no others. -/
theorem queue_removeTask (good : Recorded delayOf s) :
    (s.removeTask name).queue = s.queue.filter fun task => task.name != some name := by
  have known : ∀ task ∈ s.queue, task.handle ∈ (s.outstanding name).map QueuedTask.handle ↔
      task.name = some name := by
    intro task member
    constructor
    · intro listed
      obtain ⟨other, found, same⟩ := List.mem_map.mp listed
      obtain ⟨waits | waits, named⟩ := mem_outstanding.mp found
      · exact absurd same (good.apart other waits task member)
      · have distinct : (s.queue.map QueuedTask.handle).Nodup := by
          refine List.Pairwise.map _ (fun a b less => ?_) good.ordered
          exact Nat.ne_of_lt less
        rwa [List.inj_on_of_nodup_map distinct member waits same.symm]
    · intro named
      exact List.mem_map_of_mem (mem_outstanding.mpr ⟨Or.inr member, named⟩)
  unfold removeTask
  rw [good.recorded name]
  cases handles : (s.outstanding name).map QueuedTask.handle with
  | nil =>
      refine (List.filter_eq_self.mpr fun task member => ?_).symm
      have other := (known task member).not.mp (by simp [handles])
      simpa using other
  | cons first rest =>
      refine List.filter_congr fun task member => ?_
      have same := known task member
      rw [handles, ← List.contains_iff_mem] at same
      by_cases named : task.name = some name
      · simp only [same.mpr named, named, bne_self_eq_false, Bool.not_true]
      · simp only [Bool.eq_false_iff.mpr (same.not.mpr named), Bool.not_false]
        simpa using named

theorem Recorded.exact (good : Recorded delayOf s) : s.Exact where
  handles name := by rw [good.recorded name, getD_handlerQueue]
  present name := by
    rw [hasInnerEvent, good.recorded name, isSome_handlerQueue]
    simp
  cancels name task member := by
    rw [queue_removeTask good] at member
    simpa using (List.mem_filter.mp member).2

theorem recorded_init : Recorded delayOf {} where
  ordered := List.Pairwise.nil
  given := by simp [starting]
  apart := by simp [starting]
  punctual := List.Pairwise.nil
  bounded := by simp
  recorded name := rfl

/-- A task is submitted behind the others, with the delay of its name. -/
theorem Recorded.submit (good : Recorded delayOf s) {task : QueuedTask}
    {taskMap : String → Option (List Nat)} (handle : task.handle = s.next)
    (due : ∀ name, task.name = some name → task.due = s.now + delayOf name * CONVERSION_FACTOR)
    (recorded : ∀ name, taskMap name = handlerQueue
      ((s.outstanding name ++ [task].filter fun task => task.name == some name).map
        QueuedTask.handle)) :
    Recorded delayOf { s with next := s.next + 1, queue := s.queue ++ [task], taskMap } where
  ordered := by
    refine List.pairwise_append.mpr ⟨good.ordered, List.pairwise_singleton _ _, ?_⟩
    intro earlier member last same
    rw [List.mem_singleton.mp same, handle]
    exact good.given earlier (List.mem_append_right _ member)
  given := by
    intro other member
    change other.handle < s.next + 1
    rw [← List.append_assoc] at member
    rcases List.mem_append.mp member with old | new
    · exact Nat.lt_succ_of_lt (good.given other old)
    · rw [List.mem_singleton.mp new, handle]
      exact Nat.lt_succ_self s.next
  apart := by
    intro started member other waits
    rcases List.mem_append.mp waits with old | new
    · exact good.apart started member other old
    · rw [List.mem_singleton.mp new, handle]
      exact Nat.ne_of_lt (good.given started (List.mem_append_left _ member))
  punctual := by
    refine List.pairwise_append.mpr ⟨good.punctual, List.pairwise_singleton _ _, ?_⟩
    intro earlier member last same name named latest
    rw [List.mem_singleton.mp same] at latest ⊢
    rw [due name latest]
    exact good.bounded earlier member name named
  bounded := by
    intro other member name named
    rcases List.mem_append.mp member with old | new
    · exact good.bounded other old name named
    · rw [List.mem_singleton.mp new] at named ⊢
      exact Nat.le_of_eq (due name named)
  recorded := by
    intro name
    refine (recorded name).trans ?_
    congr 2
    simp only [outstanding, starting, ← List.append_assoc, List.filter_append]

theorem Recorded.postTask (good : Recorded delayOf s) {func submitted : Bool} {name : Option String}
    {delayTime : Nat} (fixed : ∀ own, name = some own → delayTime = delayOf own) :
    Recorded delayOf (s.postTask func name delayTime submitted).1 := by
  unfold FFRTHandler.postTask
  split
  · exact good
  · cases name with
    | none =>
        refine good.submit rfl (fun own same => nomatch same) fun other => ?_
        rw [good.recorded other]
        simp
    | some own =>
        refine good.submit rfl (fun other same => ?_) fun other => ?_
        · cases same
          rw [fixed own rfl]
        · by_cases same : other = own
          · subst same
            rw [Function.update_self, good.recorded other, getD_handlerQueue]
            simp [handlerQueue_append]
          · rw [Function.update_of_ne same, good.recorded other]
            simp [Ne.symm same]

/-- A task that can start is the oldest one of its name. -/
theorem oldest_of_canStart (good : Recorded delayOf s) {task : QueuedTask} {front back : List QueuedTask}
    (split : s.queue = front ++ task :: back) (can : s.canStart task = true)
    (named : task.name = some name) : (front.filter fun task => task.name == some name) = [] := by
  refine List.filter_eq_nil_iff.mpr fun other member same => ?_
  have before : ∀ {R : QueuedTask → QueuedTask → Prop}, s.queue.Pairwise R → R other task := by
    intro R pairs
    rw [split] at pairs
    exact (List.pairwise_append.mp pairs).2.2 other member task List.mem_cons_self
  have earlier : other.handle < task.handle := before good.ordered
  have sooner : other.due ≤ task.due := before good.punctual name (by simpa using same) named
  simp only [canStart, Bool.and_eq_true, List.all_eq_true, Bool.or_eq_true, decide_eq_true_eq] at can
  rcases can.2 other (by simp [split, member]) with later | later
  · omega
  · omega

/-- The start of a task takes it from the queue and leaves it outstanding. -/
theorem Recorded.start (good : Recorded delayOf s) {task : QueuedTask} (member : task ∈ s.queue)
    (can : s.canStart task = true) :
    Recorded delayOf { s with queue := s.queue.erase task, serving := .entered task } := by
  obtain ⟨front, back, -, split, erased⟩ := List.exists_erase_eq member
  have idle : s.starting = [] := by
    simp only [canStart, Bool.and_eq_true, beq_iff_eq] at can
    simp [starting, can.1.1]
  have fewer : List.Sublist (s.queue.erase task) s.queue := List.erase_sublist
  refine ⟨good.ordered.sublist fewer, ?_, ?_, good.punctual.sublist fewer, ?_, ?_⟩
  · intro other inside
    refine good.given other (List.mem_append_right _ ?_)
    rcases List.mem_cons.mp inside with rfl | inside
    · exact member
    · exact fewer.subset inside
  · intro started same other inside
    rw [List.mem_singleton.mp same]
    have ordered := good.ordered
    rw [split] at ordered
    obtain ⟨-, after, across⟩ := List.pairwise_append.mp ordered
    rw [erased] at inside
    rcases List.mem_append.mp inside with ahead | behind
    · exact (Nat.ne_of_lt (across other ahead task List.mem_cons_self)).symm
    · exact Nat.ne_of_lt ((List.pairwise_cons.mp after).1 other behind)
  · exact fun other inside => good.bounded other (fewer.subset inside)
  · intro name
    rw [good.recorded name]
    congr 2
    have before : s.outstanding name =
        (front ++ task :: back).filter fun task => task.name == some name := by
      rw [outstanding, idle, split, List.nil_append]
    have after : ({ s with queue := s.queue.erase task, serving := .entered task } :
        FFRTHandler).outstanding name =
        (task :: (front ++ back)).filter fun task => task.name == some name := by
      rw [← erased]
      rfl
    rw [before, after]
    by_cases named : task.name = some name
    · simp [named, oldest_of_canStart good split can named]
    · simp [named]

/-- The first action of a task takes its own handle out of the record. -/
theorem Recorded.begin (good : Recorded delayOf s) {task : QueuedTask} (serving : s.serving = .entered task) :
    Recorded delayOf (s.begin task) := by
  have rest : ∀ {taskMap : String → Option (List Nat)},
      (∀ name, taskMap name =
        handlerQueue ((s.queue.filter fun task => task.name == some name).map QueuedTask.handle)) →
      Recorded delayOf { s with serving := .busy, taskMap } := by
    intro taskMap recorded
    refine ⟨good.ordered, ?_, ?_, good.punctual, good.bounded, recorded⟩
    · exact fun other member => good.given other (List.mem_append_right _ member)
    · exact fun other member => nomatch member
  have recorded := good.recorded
  simp only [outstanding, starting, serving, List.singleton_append, List.filter_cons] at recorded
  unfold FFRTHandler.begin
  cases named : task.name with
  | none =>
      refine rest fun name => ?_
      simpa [named] using recorded name
  | some own =>
      have front := recorded own
      simp only [named, beq_self_eq_true, if_true, List.map_cons, handlerQueue] at front
      simp only [FFRTHandler.delTask, front, List.tail_cons]
      refine rest fun name => ?_
      by_cases same : name = own
      · rw [same, Function.update_self]
      · rw [Function.update_of_ne same]
        simpa [named, Ne.symm same] using recorded name

theorem taskMap_removeTask : (s.removeTask name).taskMap = Function.update s.taskMap name none := by
  unfold removeTask
  split
  · rename_i absent
    rw [← absent, Function.update_eq_self]
  · rfl

theorem removeTask_eq (good : Recorded delayOf s) : s.removeTask name =
    { s with
      queue := s.queue.filter fun task => task.name != some name
      taskMap := Function.update s.taskMap name none } := by
  have queue : (s.removeTask name).queue = s.queue.filter fun task => task.name != some name :=
    queue_removeTask good
  have taskMap : (s.removeTask name).taskMap = Function.update s.taskMap name none := taskMap_removeTask
  rw [← queue, ← taskMap]
  unfold removeTask
  split <;> rfl

theorem Recorded.removeTask (good : Recorded delayOf s) (spared : ∀ task ∈ s.starting, task.name ≠ some name) :
    Recorded delayOf (s.removeTask name) := by
  rw [removeTask_eq good]
  have fewer : List.Sublist (s.queue.filter fun task => task.name != some name) s.queue :=
    List.filter_sublist
  refine ⟨good.ordered.sublist fewer, ?_, ?_, good.punctual.sublist fewer, ?_, ?_⟩
  · intro task member
    exact good.given task ((fewer.append_left s.starting).subset member)
  · exact fun task member other waits => good.apart task member other (fewer.subset waits)
  · exact fun task member => good.bounded task (fewer.subset member)
  · intro other
    change Function.update s.taskMap name none other = handlerQueue
      (((s.starting ++ s.queue.filter fun task => task.name != some name).filter
        fun task => task.name == some other).map QueuedTask.handle)
    by_cases same : other = name
    · subst same
      have gone : (s.starting ++ s.queue.filter fun task => task.name != some other).filter
          (fun task => task.name == some other) = [] := by
        refine List.filter_eq_nil_iff.mpr fun task member named => ?_
        rcases List.mem_append.mp member with started | waits
        · exact spared task started (by simpa using named)
        · simp_all
      rw [Function.update_self, gone]
      rfl
    · rw [Function.update_of_ne same, good.recorded other]
      congr 2
      rw [outstanding, List.filter_append, List.filter_append, List.filter_filter]
      congr 1
      refine List.filter_congr fun task _ => ?_
      by_cases named : task.name = some other
      · simp [named, same]
      · simp [named]

theorem Recorded.step (good : Recorded delayOf s) {label : HandlerLabel} (spared : s.SparesStarting label) :
    Recorded delayOf (s.step delayOf label) := by
  cases label with
  | tick =>
      refine ⟨good.ordered, good.given, good.apart, good.punctual, ?_, good.recorded⟩
      intro task member name named
      have bound := good.bounded task member name named
      change task.due ≤ s.now + 1 + delayOf name * CONVERSION_FACTOR
      omega
  | postTask func delayTime submitted => exact good.postTask fun own same => nomatch same
  | postNamedTask func name submitted =>
      refine good.postTask fun own same => ?_
      cases same
      rfl
  | removeTask name => exact good.removeTask (spared name rfl)
  | start handle =>
      simp only [FFRTHandler.step]
      split
      · exact good
      · rename_i task found
        split
        · rename_i can
          exact good.start (List.mem_of_find?_eq_some found) can
        · exact good
  | begin =>
      simp only [FFRTHandler.step]
      split
      · rename_i task serving
        exact good.begin serving
      · exact good
  | finish =>
      simp only [FFRTHandler.step]
      split
      · rename_i busy
        refine ⟨good.ordered, ?_, ?_, good.punctual, good.bounded, ?_⟩
        · exact fun task member => good.given task (List.mem_append_right _ member)
        · exact fun task member => nomatch member
        · intro name
          rw [good.recorded name]
          simp [outstanding, starting, busy]
      · exact good

/-- A name removed too early leaves a started task that is outstanding and not recorded. -/
theorem not_exact_of_removeTask (label : HandlerLabel) (early : ¬ s.SparesStarting label) :
    ¬ (s.step delayOf label).Exact := by
  intro exact
  simp only [SparesStarting, not_forall, not_not] at early
  obtain ⟨name, rfl, task, started, named⟩ := early
  have serving : (s.removeTask name).starting = s.starting := by
    unfold removeTask
    split <;> rfl
  have listed : task ∈ (s.removeTask name).outstanding name :=
    mem_outstanding.mpr ⟨Or.inl (serving ▸ started), named⟩
  have found := (exact.present name).mpr ⟨task, listed⟩
  change (s.removeTask name).hasInnerEvent name = true at found
  simp [hasInnerEvent, taskMap_removeTask] at found

/-- In a run of the handler, with a fixed delay for each name, the record is exact in every state
if and only if no name is removed while a task of the name has been started and has not called
`DelTask` yet. -/
theorem record_exact_iff_spared (delayOf : String → Nat) (labels : List HandlerLabel) :
    (∀ before, before <+: labels → (Runs.run (step delayOf) {} before).Exact) ↔
      Runs.Guarded (step delayOf) SparesStarting {} labels :=
  Runs.forall_prefix_iff_guarded (Recorded delayOf) (fun _ _ spared good => good.step spared)
    (fun _ good => good.exact) (fun _ label _ early => not_exact_of_removeTask label early)
    recorded_init

/-- The task of a name has just been started when the name is removed and posted again. -/
def repost : List HandlerLabel :=
  [.postNamedTask true "1401" true, .start 0, .removeTask "1401", .postNamedTask true "1401" true, .begin]

/-- The first task's `DelTask` takes the handle of the second one, which then waits unrecorded and
cannot be removed. -/
theorem repost_loses_handle :
    let s := Runs.run (step fun _ => 0) {} repost
    s.hasInnerEvent "1401" = false ∧ s.outstanding "1401" = [⟨1, some "1401", 0⟩] ∧
      (s.removeTask "1401").queue = s.queue ∧ ¬ s.Exact := by
  refine ⟨by decide, by decide, by decide, fun exact => ?_⟩
  have absent : (Runs.run (step fun _ => 0) {} repost).hasInnerEvent "1401" = false := by decide
  have listed : (⟨1, some "1401", 0⟩ : QueuedTask) ∈
      (Runs.run (step fun _ => 0) {} repost).outstanding "1401" := by decide
  rw [(exact.present "1401").mpr ⟨_, listed⟩] at absent
  cases absent

end FFRTHandler

end Samgr
