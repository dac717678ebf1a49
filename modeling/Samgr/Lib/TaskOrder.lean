import Samgr.Lib.TaskQueue

/-! The order of the tasks of a queue. Posting, cancelling and expiry leave the tasks that they do not
cancel in their order, with new ones behind them, so a task never falls back. -/
namespace TaskQueue

variable {Name Task : Type} {q rest : TaskQueue Name Task} {must : Task → Prop} {task : Task}

/-- A ready task with this one and `n` before it. -/
def Ahead (task : Task) (n : Nat) (q : TaskQueue Name Task) : Prop :=
  ∃ before entry after, q.ready = before ++ entry :: after ∧ entry.2 = task ∧ before.length = n

/-- The task is ready, at some place. -/
def Ready (task : Task) (q : TaskQueue Name Task) : Prop := ∃ n, q.Ahead task n

theorem ready_of_mem {entry : Nat × Task} (member : entry ∈ q.ready) : q.Ready entry.2 := by
  obtain ⟨before, after, shape⟩ := List.append_of_mem member
  exact ⟨before.length, before, entry, after, shape, rfl, rfl⟩

theorem ready_post : (q.post task).Ready task :=
  @ready_of_mem _ _ (q.post task) (q.next, task) (by simp [post])

/-- A queue in which the waiting tasks that must stay are still waiting, ready or delayed as before and
in their order, with new tasks behind them. -/
structure Carries (must : Task → Prop) (q rest : TaskQueue Name Task) : Prop where
  kept : ∃ keep : Nat × Task → Bool, (∀ entry ∈ q.waiting, must entry.2 → keep entry = true) ∧
    (∃ new, rest.ready = q.ready.filter keep ++ new) ∧ ∃ new, rest.delayed = q.delayed.filter keep ++ new

theorem Carries.of_same (ready : rest.ready = q.ready) (delayed : rest.delayed = q.delayed) :
    Carries must q rest :=
  ⟨fun _ => true, fun _ _ _ => rfl, ⟨[], by simp [ready]⟩, [], by simp [delayed]⟩

theorem Carries.refl : Carries must q q := .of_same rfl rfl

/-- A delayed task that must stay is still delayed. -/
theorem Carries.delayed (carries : Carries must q rest) {entry : Nat × Task} (stays : must entry.2)
    (member : entry ∈ q.delayed) : entry ∈ rest.delayed := by
  obtain ⟨keep, keeps, -, new, delayed⟩ := carries.kept
  rw [delayed]
  apply List.mem_append_left
  exact List.mem_filter.mpr ⟨member, keeps entry (List.mem_append_right _ member) stays⟩

theorem Carries.waiting (carries : Carries must q rest) {entry : Nat × Task} (stays : must entry.2)
    (member : entry ∈ q.waiting) : entry ∈ rest.waiting := by
  obtain ⟨keep, keeps, ⟨ready', ready⟩, delayed', delayed⟩ := carries.kept
  have kept := keeps entry member stays
  rw [TaskQueue.waiting, ready, delayed]
  rcases List.mem_append.mp member with member | member
  · exact List.mem_append_left _ (List.mem_append_left _ (List.mem_filter.mpr ⟨member, kept⟩))
  · exact List.mem_append_right _ (List.mem_append_left _ (List.mem_filter.mpr ⟨member, kept⟩))

theorem Carries.trans {last : TaskQueue Name Task} (first : Carries must q rest)
    (second : Carries must rest last) : Carries must q last := by
  obtain ⟨keep, keeps, ⟨ready', ready⟩, delayed', delayed⟩ := first.kept
  obtain ⟨keep', keeps', ⟨ready'', lastReady⟩, delayed'', lastDelayed⟩ := second.kept
  refine ⟨fun entry => keep' entry && keep entry, fun entry member stays => ?_, ?_, ?_⟩
  · have kept := keeps' entry (first.waiting stays member) stays
    simp [kept, keeps entry member stays]
  · exact ⟨ready'.filter keep' ++ ready'', by simp [lastReady, ready, List.filter_filter]⟩
  · exact ⟨delayed'.filter keep' ++ delayed'', by simp [lastDelayed, delayed, List.filter_filter]⟩

/-- A task that must stay does not fall back. -/
theorem Carries.ahead (carries : Carries must q rest) (stays : must task) {n : Nat}
    (ahead : q.Ahead task n) : ∃ m, m ≤ n ∧ rest.Ahead task m := by
  obtain ⟨before, entry, after, shape, rfl, rfl⟩ := ahead
  obtain ⟨keep, keeps, ⟨new, ready⟩, -⟩ := carries.kept
  have kept := keeps entry (by simp [TaskQueue.waiting, shape]) stays
  refine ⟨(before.filter keep).length, List.length_filter_le .., before.filter keep, entry,
    after.filter keep ++ new, ?_, rfl, rfl⟩
  rw [ready, shape, List.filter_append, List.filter_cons_of_pos kept]
  simp

theorem Carries.ready (carries : Carries must q rest) (stays : must task) (ready : q.Ready task) :
    rest.Ready task := by
  obtain ⟨n, ahead⟩ := ready
  obtain ⟨m, -, ahead⟩ := carries.ahead stays ahead
  exact ⟨m, ahead⟩

theorem carries_post : Carries must q (q.post task) :=
  ⟨fun _ => true, fun _ _ _ => rfl, ⟨[(q.next, task)], by simp [post]⟩, [], by simp [post]⟩

theorem carries_postNamed [DecidableEq Name] {name : Name} : Carries must q (q.postNamed name task) :=
  ⟨fun _ => true, fun _ _ _ => rfl, ⟨[], by simp [postNamed]⟩, [(q.next, task)], by simp [postNamed]⟩

/-- Cancelling the tasks of a name leaves the tasks of other names. -/
theorem carries_removeTask [DecidableEq Name] {names : Name → Task → Prop} (named : Named names q)
    {name : Name} (others : ∀ task, must task → ¬ names name task) :
    Carries must q (q.removeTask name) := by
  refine ⟨fun entry => entry.1 ∉ q.handles name, fun entry member stays => ?_,
    ⟨[], by simp [removeTask]⟩, [], by simp [removeTask]⟩
  rw [decide_eq_true_eq]
  intro recorded
  exact others entry.2 stays ((named.named name entry.1 recorded).2 entry.2 member)

/-- Expiry takes a task from the delayed ones to the end of the ready ones. -/
theorem ahead_expire {handle : Nat} {n : Nat} (ahead : q.Ahead task n) :
    (q.expire handle).Ahead task n := by
  obtain ⟨before, entry, after, shape, same, length⟩ := ahead
  exact ⟨before, entry, after ++ q.delayed.filter fun entry => entry.1 = handle,
    by simp [expire, shape], same, length⟩

theorem ready_expire {entry : Nat × Task} (member : entry ∈ q.delayed) :
    (q.expire entry.1).Ready entry.2 := by
  apply ready_of_mem
  rw [expire]
  apply List.mem_append_right
  exact List.mem_filter.mpr ⟨member, by simp⟩

theorem delayed_expire {handle : Nat} {entry : Nat × Task} (member : entry ∈ q.delayed)
    (other : entry.1 ≠ handle) : entry ∈ (q.expire handle).delayed :=
  List.mem_filter.mpr ⟨member, by simpa using other⟩

/-- The first task is taken, or a task moves up. -/
theorem ahead_pop {taken : Task} {n : Nat} (popped : q.pop = some (taken, rest)) (ahead : q.Ahead task n) :
    (n = 0 ∧ taken = task) ∨ ∃ m, n = m + 1 ∧ rest.Ahead task m := by
  obtain ⟨handle, ready, -, -, -⟩ := pop_eq_some popped
  obtain ⟨before, entry, after, shape, same, length⟩ := ahead
  rw [ready] at shape
  cases before with
  | nil =>
      cases shape
      exact .inl ⟨length.symm, same⟩
  | cons first before =>
      obtain ⟨rfl, tail⟩ := List.cons_eq_cons.mp shape
      exact .inr ⟨before.length, length.symm, before, entry, after, tail, same, rfl⟩

theorem pop_of_ahead {n : Nat} (ahead : q.Ahead task n) : ∃ taken rest, q.pop = some (taken, rest) := by
  obtain ⟨before, entry, after, shape, -⟩ := ahead
  rw [pop, shape]
  cases before with
  | nil => exact ⟨_, _, rfl⟩
  | cons first before => exact ⟨_, _, rfl⟩

end TaskQueue
