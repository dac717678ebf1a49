import Mathlib.Data.List.Basic

/-! A serial task queue with delayed and named tasks. A task posted without a
delay is ready at once; a delayed one becomes ready when it expires, and expiry
may happen at any moment, since no clock is part of the queue. Named tasks are
recorded under their name by their handle, so that they can be cancelled while
they are still waiting. -/

structure TaskQueue (Name Task : Type) where
  next : Nat := 0
  ready : List (Nat × Task) := []
  delayed : List (Nat × Task) := []
  handles : Name → List Nat := fun _ => []

namespace TaskQueue

variable {Name Task : Type} (q : TaskQueue Name Task)

/-- Everything still waiting, ready or not, with its handle. -/
def waiting : List (Nat × Task) := q.ready ++ q.delayed

def post (task : Task) : TaskQueue Name Task :=
  { q with next := q.next + 1, ready := q.ready ++ [(q.next, task)] }

def postNamed [DecidableEq Name] (name : Name) (task : Task) : TaskQueue Name Task :=
  { q with
    next := q.next + 1
    delayed := q.delayed ++ [(q.next, task)]
    handles := Function.update q.handles name (q.handles name ++ [q.next]) }

/-- Cancels every waiting task recorded under the name. A task that has already
been started is not affected. -/
def removeTask [DecidableEq Name] (name : Name) : TaskQueue Name Task :=
  { q with
    ready := q.ready.filter fun entry => entry.1 ∉ q.handles name
    delayed := q.delayed.filter fun entry => entry.1 ∉ q.handles name
    handles := Function.update q.handles name [] }

/-- Forgets the oldest handle recorded under the name, whichever task it is of. -/
def delTask [DecidableEq Name] (name : Name) : TaskQueue Name Task :=
  { q with handles := Function.update q.handles name (q.handles name).tail }

def hasNamed (name : Name) : Bool := !(q.handles name).isEmpty

/-- The delayed task with this handle becomes ready, behind what is ready already. -/
def expire (handle : Nat) : TaskQueue Name Task :=
  { q with
    ready := q.ready ++ q.delayed.filter fun entry => entry.1 = handle
    delayed := q.delayed.filter fun entry => entry.1 ≠ handle }

/-- The oldest ready task and the queue without it. -/
def pop : Option (Task × TaskQueue Name Task) :=
  match q.ready with
  | [] => none
  | entry :: rest => some (entry.2, { q with ready := rest })

variable {q}

theorem mem_waiting_post {task : Task} {entry : Nat × Task} :
    entry ∈ (q.post task).waiting ↔ entry = (q.next, task) ∨ entry ∈ q.waiting := by
  simp only [waiting, post, List.mem_append, List.mem_singleton]
  tauto

theorem mem_waiting_postNamed [DecidableEq Name] {name : Name} {task : Task} {entry : Nat × Task} :
    entry ∈ (q.postNamed name task).waiting ↔ entry = (q.next, task) ∨ entry ∈ q.waiting := by
  simp only [waiting, postNamed, List.mem_append, List.mem_singleton]
  tauto

theorem mem_waiting_removeTask [DecidableEq Name] {name : Name} {entry : Nat × Task} :
    entry ∈ (q.removeTask name).waiting ↔ entry ∈ q.waiting ∧ entry.1 ∉ q.handles name := by
  simp only [waiting, removeTask, List.mem_append, List.mem_filter, decide_eq_true_eq]
  tauto

theorem mem_waiting_expire {handle : Nat} {entry : Nat × Task} :
    entry ∈ (q.expire handle).waiting ↔ entry ∈ q.waiting := by
  simp only [waiting, expire, List.mem_append, List.mem_filter, decide_eq_true_eq]
  tauto

theorem pop_eq_some {task : Task} {rest : TaskQueue Name Task} (popped : q.pop = some (task, rest)) :
    ∃ handle, q.ready = (handle, task) :: rest.ready ∧
      rest.delayed = q.delayed ∧ rest.handles = q.handles ∧ rest.next = q.next := by
  cases shape : q.ready with
  | nil => simp [pop, shape] at popped
  | cons entry tail =>
      simp only [pop, shape, Option.some.injEq, Prod.mk.injEq] at popped
      obtain ⟨rfl, rfl⟩ := popped
      exact ⟨entry.1, rfl, rfl, rfl, rfl⟩

theorem waiting_of_pop {task : Task} {rest : TaskQueue Name Task} (popped : q.pop = some (task, rest)) :
    ∃ handle, (handle, task) ∈ q.waiting := by
  obtain ⟨handle, ready, -, -, -⟩ := pop_eq_some popped
  exact ⟨handle, by simp [waiting, ready]⟩

theorem mem_waiting_pop {task : Task} {rest : TaskQueue Name Task}
    (popped : q.pop = some (task, rest)) {entry : Nat × Task} (member : entry ∈ rest.waiting) :
    entry ∈ q.waiting := by
  obtain ⟨handle, ready, delayed, -, -⟩ := pop_eq_some popped
  simp only [waiting, ready, delayed, List.cons_append, List.mem_cons, List.mem_append] at member ⊢
  exact Or.inr member

theorem waiting_cases_pop {task : Task} {rest : TaskQueue Name Task}
    (popped : q.pop = some (task, rest)) {entry : Nat × Task} (member : entry ∈ q.waiting) :
    entry.2 = task ∨ entry ∈ rest.waiting := by
  obtain ⟨handle, ready, delayed, -, -⟩ := pop_eq_some popped
  simp only [waiting, ready, delayed, List.cons_append, List.mem_cons, List.mem_append] at member ⊢
  rcases member with rfl | member
  · exact Or.inl rfl
  · exact Or.inr member

section Marks

variable {Mark : Type} {f : Task → Option Mark}

/-- The marks that the waiting tasks carry, in the order of the queue. -/
def marks (q : TaskQueue Name Task) (f : Task → Option Mark) : List Mark :=
  q.waiting.filterMap fun entry => f entry.2

theorem marks_post_of_none {task : Task} (plain : f task = none) :
    ((q.post task).marks f).Sublist (q.marks f) := by
  simp [marks, waiting, post, plain]

theorem marks_post {task : Task} {mark : Mark} (marked : f task = some mark) :
    ((q.post task).marks f).Perm (mark :: q.marks f) := by
  simp only [marks, waiting, post, List.filterMap_append, List.filterMap_cons,
    marked, List.append_assoc, List.singleton_append]
  exact List.perm_middle

theorem marks_postNamed_of_none [DecidableEq Name] {name : Name} {task : Task} (plain : f task = none) :
    ((q.postNamed name task).marks f).Sublist (q.marks f) := by
  simp [marks, waiting, postNamed, plain]

theorem marks_removeTask [DecidableEq Name] (name : Name) :
    ((q.removeTask name).marks f).Sublist (q.marks f) :=
  (List.Sublist.append List.filter_sublist List.filter_sublist).filterMap _

theorem marks_expire (handle : Nat) : ((q.expire handle).marks f).Perm (q.marks f) := by
  refine List.Perm.filterMap _ ?_
  simp only [waiting, expire, List.append_assoc]
  refine List.Perm.append_left q.ready ?_
  have parts := List.filter_append_perm (fun entry => decide (entry.1 = handle)) q.delayed
  simpa using parts

theorem marks_pop {task : Task} {rest : TaskQueue Name Task} (popped : q.pop = some (task, rest)) :
    q.marks f = (f task).toList ++ rest.marks f := by
  obtain ⟨handle, ready, delayed, -, -⟩ := pop_eq_some popped
  cases marked : f task <;> simp [marks, waiting, ready, delayed, marked]

/-- The marks of the ready tasks, in the order in which they will be taken. -/
def readyMarks (q : TaskQueue Name Task) (f : Task → Option Mark) : List Mark :=
  q.ready.filterMap fun entry => f entry.2

theorem readyMarks_post {task : Task} :
    (q.post task).readyMarks f = q.readyMarks f ++ (f task).toList := by
  cases marked : f task <;> simp [readyMarks, post, marked]

theorem readyMarks_removeTask [DecidableEq Name] {name : Name}
    (unmarked : ∀ entry ∈ q.ready, entry.1 ∈ q.handles name → f entry.2 = none) :
    (q.removeTask name).readyMarks f = q.readyMarks f := by
  simp only [readyMarks, removeTask, List.filterMap_filter]
  refine List.filterMap_congr fun entry member => ?_
  by_cases recorded : entry.1 ∈ q.handles name
  · simp [recorded, unmarked entry member recorded]
  · simp [recorded]

theorem readyMarks_expire {handle : Nat} (unmarked : ∀ entry ∈ q.delayed, f entry.2 = none) :
    (q.expire handle).readyMarks f = q.readyMarks f := by
  have late : (q.delayed.filter fun entry => entry.1 = handle).filterMap (fun entry => f entry.2) = [] := by
    refine List.filterMap_eq_nil_iff.mpr fun entry member => ?_
    exact unmarked entry (List.mem_of_mem_filter member)
  simp only [readyMarks, expire, List.filterMap_append, late, List.append_nil]

theorem readyMarks_pop {task : Task} {rest : TaskQueue Name Task} (popped : q.pop = some (task, rest)) :
    q.readyMarks f = (f task).toList ++ rest.readyMarks f := by
  obtain ⟨handle, ready, -, -, -⟩ := pop_eq_some popped
  cases marked : f task <;> simp [readyMarks, ready, marked]

end Marks

section Named

variable (names : Name → Task → Prop)

/-- The handles recorded under a name are of tasks with that name, as far as these still wait. -/
structure Named (q : TaskQueue Name Task) : Prop where
  old : ∀ entry ∈ q.waiting, entry.1 < q.next
  named : ∀ name, ∀ handle ∈ q.handles name, handle < q.next ∧
    ∀ task, (handle, task) ∈ q.waiting → names name task

variable {names}

theorem Named.post (good : Named names q) (task : Task) : Named names (q.post task) := by
  constructor
  · intro entry waits
    rcases mem_waiting_post.mp waits with rfl | waits
    · exact Nat.lt_succ_self q.next
    · exact Nat.lt_succ_of_lt (good.old entry waits)
  · intro name handle recorded
    have older := (good.named name handle recorded).1
    refine ⟨Nat.lt_succ_of_lt older, fun other waits => ?_⟩
    rcases mem_waiting_post.mp waits with same | waits
    · exact absurd (congrArg Prod.fst same) (Nat.ne_of_lt older)
    · exact (good.named name handle recorded).2 other waits

/-- A queue with no more waiting tasks and no more recorded handles. -/
theorem Named.fewer {rest : TaskQueue Name Task} (good : Named names q) (next : rest.next = q.next)
    (waiting : ∀ entry ∈ rest.waiting, entry ∈ q.waiting)
    (handles : ∀ name, ∀ handle ∈ rest.handles name, handle ∈ q.handles name) : Named names rest := by
  constructor
  · intro entry waits
    rw [next]
    exact good.old entry (waiting entry waits)
  · intro name handle recorded
    rw [next]
    obtain ⟨older, fits⟩ := good.named name handle (handles name handle recorded)
    exact ⟨older, fun task waits => fits task (waiting _ waits)⟩

theorem Named.expire (good : Named names q) (handle : Nat) : Named names (q.expire handle) :=
  good.fewer rfl (fun _ waits => mem_waiting_expire.mp waits) fun _ _ recorded => recorded

theorem Named.pop (good : Named names q) {task : Task} {rest : TaskQueue Name Task}
    (popped : q.pop = some (task, rest)) : Named names rest := by
  obtain ⟨_, -, -, handles, next⟩ := pop_eq_some popped
  exact good.fewer next (fun _ waits => mem_waiting_pop popped waits) fun name handle recorded =>
    handles ▸ recorded

variable [DecidableEq Name]

theorem Named.postNamed (good : Named names q) {name : Name} {task : Task} (fits : names name task) :
    Named names (q.postNamed name task) := by
  constructor
  · intro entry waits
    rcases mem_waiting_postNamed.mp waits with rfl | waits
    · exact Nat.lt_succ_self q.next
    · exact Nat.lt_succ_of_lt (good.old entry waits)
  · intro other handle recorded
    have recorded : handle ∈ q.handles other ∨ other = name ∧ handle = q.next := by
      by_cases same : other = name
      · subst same
        simpa [TaskQueue.postNamed] using recorded
      · exact Or.inl (by simpa [TaskQueue.postNamed, same] using recorded)
    rcases recorded with recorded | ⟨rfl, rfl⟩
    · have older := (good.named other handle recorded).1
      refine ⟨Nat.lt_succ_of_lt older, fun last waits => ?_⟩
      rcases mem_waiting_postNamed.mp waits with same | waits
      · exact absurd (congrArg Prod.fst same) (Nat.ne_of_lt older)
      · exact (good.named other handle recorded).2 last waits
    · refine ⟨Nat.lt_succ_self q.next, fun last waits => ?_⟩
      rcases mem_waiting_postNamed.mp waits with same | waits
      · rw [Prod.mk.injEq] at same
        exact same.2 ▸ fits
      · exact absurd (good.old _ waits) (Nat.lt_irrefl q.next)

theorem Named.removeTask (good : Named names q) (name : Name) : Named names (q.removeTask name) := by
  refine good.fewer rfl (fun entry waits => (mem_waiting_removeTask.mp waits).1) ?_
  intro other handle recorded
  by_cases same : other = name
  · simp [TaskQueue.removeTask, same] at recorded
  · simpa [TaskQueue.removeTask, same] using recorded

theorem Named.delTask (good : Named names q) (name : Name) : Named names (q.delTask name) := by
  refine good.fewer rfl (fun entry waits => waits) ?_
  intro other handle recorded
  by_cases same : other = name
  · subst same
    exact List.mem_of_mem_tail (by simpa [TaskQueue.delTask] using recorded)
  · simpa [TaskQueue.delTask, same] using recorded

end Named

end TaskQueue
