import Samgr.Handler.AlarmTimers

/-! The life of a timer, from its creation to its closing, as the stages it can be in together
with the threads that have it in their hands. Every step takes one timer from one stage to the
next, so that each task whose timer expires is called once. -/
namespace Samgr

namespace TimerPiece

/-- The piece belongs to the `PostTask` that has the descriptor in its hands. -/
def postsOn (timerfd : Nat) : TimerPiece → Bool
  | .epollAdd own _ => own == timerfd
  | .setTime own _ => own == timerfd
  | .firstInsert own _ => own == timerfd
  | _ => false

/-- The piece belongs to the worker that has read the expiry of the timer. -/
def readsOn (timerfd : Nat) : TimerPiece → Bool
  | .find own _ => own == timerfd
  | .funcTime own _ _ => own == timerfd
  | .erase own _ => own == timerfd
  | .close own _ => own == timerfd
  | _ => false

/-- The thread of the piece is a worker in its loop. -/
def inLoop : TimerPiece → Bool
  | .isEmpty => true
  | .epollWait => true
  | .onTime _ => true
  | .find _ _ => true
  | .funcTime _ _ _ => true
  | .erase _ _ => true
  | .close _ _ => true
  | _ => false

end TimerPiece

/-- Where the life of one descriptor stands: the timer, the pieces of the `PostTask` and of the
worker that have it, and the task under it in the map. In the case `raced` a worker has read the
expiry before the task is in the map. -/
inductive TimerStage (timerfd : Nat) (expired called : Nat → Prop) :
    Option AlarmTimer → List TimerPiece → List TimerPiece → Option Nat → Prop
  | closed : TimerStage timerfd expired called none [] [] none
  | adding (task : Nat) (pending : ¬ expired task) (uncalled : ¬ called task) :
      TimerStage timerfd expired called (some ⟨task, .created⟩) [.epollAdd timerfd task] [] none
  | setting (task : Nat) (pending : ¬ expired task) (uncalled : ¬ called task) :
      TimerStage timerfd expired called (some ⟨task, .created⟩) [.setTime timerfd task] [] none
  | inserting (task : Nat) (pending : ¬ expired task) (uncalled : ¬ called task) :
      TimerStage timerfd expired called (some ⟨task, .armed⟩) [.firstInsert timerfd task] [] none
  | insertingLate (task : Nat) (due : expired task) (uncalled : ¬ called task) :
      TimerStage timerfd expired called (some ⟨task, .expired⟩) [.firstInsert timerfd task] [] none
  | raced (task : Nat) (events : List Nat) (due : expired task) (uncalled : ¬ called task) :
      TimerStage timerfd expired called (some ⟨task, .read⟩) [.firstInsert timerfd task]
        [.find timerfd events] none
  | waiting (task : Nat) (pending : ¬ expired task) (uncalled : ¬ called task) :
      TimerStage timerfd expired called (some ⟨task, .armed⟩) [] [] (some task)
  | ready (task : Nat) (due : expired task) (uncalled : ¬ called task) :
      TimerStage timerfd expired called (some ⟨task, .expired⟩) [] [] (some task)
  | finding (task : Nat) (events : List Nat) (due : expired task) (uncalled : ¬ called task) :
      TimerStage timerfd expired called (some ⟨task, .read⟩) [] [.find timerfd events] (some task)
  | calling (task : Nat) (events : List Nat) (due : expired task) (uncalled : ¬ called task) :
      TimerStage timerfd expired called (some ⟨task, .read⟩) []
        [.funcTime timerfd (some task) events] (some task)
  | erasing (task : Nat) (events : List Nat) (done : called task) :
      TimerStage timerfd expired called (some ⟨task, .read⟩) [] [.erase timerfd events] (some task)
  | closing (task : Nat) (events : List Nat) (done : called task) :
      TimerStage timerfd expired called (some ⟨task, .read⟩) [] [.close timerfd events] none

/-- A stage looks at the logs for its own task only. -/
theorem TimerStage.congr {timerfd : Nat} {expired called due done : Nat → Prop}
    {timer : Option AlarmTimer} {posters readers : List TimerPiece} {entry : Option Nat}
    (good : TimerStage timerfd expired called timer posters readers entry)
    (same : ∀ own, timer = some own → (due own.task ↔ expired own.task) ∧ (done own.task ↔ called own.task)) :
    TimerStage timerfd due done timer posters readers entry := by
  cases good with
  | closed => exact .closed
  | adding task pending uncalled =>
      exact .adding task ((same _ rfl).1.not.mpr pending) ((same _ rfl).2.not.mpr uncalled)
  | setting task pending uncalled =>
      exact .setting task ((same _ rfl).1.not.mpr pending) ((same _ rfl).2.not.mpr uncalled)
  | inserting task pending uncalled =>
      exact .inserting task ((same _ rfl).1.not.mpr pending) ((same _ rfl).2.not.mpr uncalled)
  | insertingLate task past uncalled =>
      exact .insertingLate task ((same _ rfl).1.mpr past) ((same _ rfl).2.not.mpr uncalled)
  | raced task events past uncalled =>
      exact .raced task events ((same _ rfl).1.mpr past) ((same _ rfl).2.not.mpr uncalled)
  | waiting task pending uncalled =>
      exact .waiting task ((same _ rfl).1.not.mpr pending) ((same _ rfl).2.not.mpr uncalled)
  | ready task past uncalled =>
      exact .ready task ((same _ rfl).1.mpr past) ((same _ rfl).2.not.mpr uncalled)
  | finding task events past uncalled =>
      exact .finding task events ((same _ rfl).1.mpr past) ((same _ rfl).2.not.mpr uncalled)
  | calling task events past uncalled =>
      exact .calling task events ((same _ rfl).1.mpr past) ((same _ rfl).2.not.mpr uncalled)
  | erasing task events past => exact .erasing task events ((same _ rfl).2.mpr past)
  | closing task events past => exact .closing task events ((same _ rfl).2.mpr past)

namespace SamgrTimeHandler

variable {s : SamgrTimeHandler} {pieces others : List TimerPiece} {timerfd : Nat} {piece : TimerPiece}

/-- The stage of a descriptor in a state with its threads. -/
def Staged (s : SamgrTimeHandler) (pieces : List TimerPiece) (timerfd : Nat) : Prop :=
  TimerStage timerfd (· ∈ s.expiries) (· ∈ s.called) (s.timers timerfd)
    (pieces.filter (TimerPiece.postsOn timerfd)) (pieces.filter (TimerPiece.readsOn timerfd))
    (s.findFunc timerfd)

/-- What is kept by every step as long as no worker looks for a task that is not in the map. -/
structure Attended (s : SamgrTimeHandler) (pieces : List TimerPiece) : Prop where
  alive : s.aborted = false
  staged : ∀ timerfd, s.Staged pieces timerfd
  distinct : ∀ fd other timer rival, s.timers fd = some timer → s.timers other = some rival →
    timer.task = rival.task → fd = other
  numbered : ∀ fd timer, s.timers fd = some timer → timer.task < s.posted
  known : ∀ task ∈ s.expiries, task < s.posted
  single : s.called.Nodup
  due : ∀ task ∈ s.called, task ∈ s.expiries
  expired : ∀ task ∈ s.expiries, task ∈ s.called ∨
    ∃ fd timer, s.timers fd = some timer ∧ timer.task = task
  looping : s.timeFunc ≠ [] → 0 < s.starting ∨ .startThread ∈ pieces ∨
    ∃ piece ∈ pieces, piece.inLoop = true

/-- Pieces and changes elsewhere do not touch the stage of a descriptor. -/
theorem Staged.frame {t : SamgrTimeHandler} {made : List TimerPiece}
    (good : s.Staged (piece :: others) timerfd) (timers : t.timers timerfd = s.timers timerfd)
    (entry : t.findFunc timerfd = s.findFunc timerfd)
    (expiries : ∀ timer, s.timers timerfd = some timer → (timer.task ∈ t.expiries ↔ timer.task ∈ s.expiries))
    (called : ∀ timer, s.timers timerfd = some timer → (timer.task ∈ t.called ↔ timer.task ∈ s.called))
    (away : ∀ other ∈ piece :: made, other.postsOn timerfd = false ∧ other.readsOn timerfd = false) :
    t.Staged (made ++ others) timerfd := by
  have posters : (made ++ others).filter (TimerPiece.postsOn timerfd) =
      (piece :: others).filter (TimerPiece.postsOn timerfd) := by
    rw [List.filter_append, List.filter_cons_of_neg (by simp [away piece List.mem_cons_self])]
    rw [List.filter_eq_nil_iff.mpr, List.nil_append]
    intro other member
    simp [away other (List.mem_cons_of_mem _ member)]
  have readers : (made ++ others).filter (TimerPiece.readsOn timerfd) =
      (piece :: others).filter (TimerPiece.readsOn timerfd) := by
    rw [List.filter_append, List.filter_cons_of_neg (by simp [away piece List.mem_cons_self])]
    rw [List.filter_eq_nil_iff.mpr, List.nil_append]
    intro other member
    simp [away other (List.mem_cons_of_mem _ member)]
  unfold Staged at good ⊢
  rw [timers, entry, posters, readers]
  exact good.congr fun timer open_ => ⟨expiries timer open_, called timer open_⟩

theorem staged_of {timer : Option AlarmTimer} {posters readers : List TimerPiece} {entry : Option Nat}
    (stage : TimerStage timerfd (· ∈ s.expiries) (· ∈ s.called) timer posters readers entry)
    (known : s.timers timerfd = timer) (posting : pieces.filter (TimerPiece.postsOn timerfd) = posters)
    (reading : pieces.filter (TimerPiece.readsOn timerfd) = readers) (found : s.findFunc timerfd = entry) :
    s.Staged pieces timerfd := by
  unfold Staged
  rw [known, posting, reading, found]
  exact stage

section Inversion

variable {task : Nat} {events : List Nat}

/-- What the stage of a descriptor is while a piece has it in its hands. -/
theorem Staged.of_epollAdd (good : s.Staged (.epollAdd timerfd task :: others) timerfd) :
    s.timers timerfd = some ⟨task, .created⟩ ∧ others.filter (TimerPiece.postsOn timerfd) = [] ∧
      others.filter (TimerPiece.readsOn timerfd) = [] ∧ s.findFunc timerfd = none ∧
      task ∉ s.expiries ∧ task ∉ s.called := by
  simp only [Staged, List.filter_cons, TimerPiece.postsOn, TimerPiece.readsOn, beq_self_eq_true,
    if_true, Bool.false_eq_true, if_false] at good
  grind [cases TimerStage]

theorem Staged.of_setTime (good : s.Staged (.setTime timerfd task :: others) timerfd) :
    s.timers timerfd = some ⟨task, .created⟩ ∧ others.filter (TimerPiece.postsOn timerfd) = [] ∧
      others.filter (TimerPiece.readsOn timerfd) = [] ∧ s.findFunc timerfd = none ∧
      task ∉ s.expiries ∧ task ∉ s.called := by
  simp only [Staged, List.filter_cons, TimerPiece.postsOn, TimerPiece.readsOn, beq_self_eq_true,
    if_true, Bool.false_eq_true, if_false] at good
  grind [cases TimerStage]

theorem Staged.of_firstInsert (good : s.Staged (.firstInsert timerfd task :: others) timerfd) :
    others.filter (TimerPiece.postsOn timerfd) = [] ∧ s.findFunc timerfd = none ∧ task ∉ s.called ∧
      (s.timers timerfd = some ⟨task, .armed⟩ ∧ others.filter (TimerPiece.readsOn timerfd) = [] ∧
          task ∉ s.expiries ∨
        s.timers timerfd = some ⟨task, .expired⟩ ∧ others.filter (TimerPiece.readsOn timerfd) = [] ∧
          task ∈ s.expiries ∨
        s.timers timerfd = some ⟨task, .read⟩ ∧
          (∃ events, others.filter (TimerPiece.readsOn timerfd) = [.find timerfd events]) ∧
          task ∈ s.expiries) := by
  simp only [Staged, List.filter_cons, TimerPiece.postsOn, TimerPiece.readsOn, beq_self_eq_true,
    if_true, Bool.false_eq_true, if_false] at good
  grind [cases TimerStage]

/-- An expiry that nobody has read: its task is in the map, or about to be put there. -/
theorem Staged.of_expired {timer : AlarmTimer} (good : s.Staged pieces timerfd)
    (known : s.timers timerfd = some timer) (phase : timer.phase = .expired) :
    pieces.filter (TimerPiece.readsOn timerfd) = [] ∧ timer.task ∈ s.expiries ∧
      timer.task ∉ s.called ∧
      (pieces.filter (TimerPiece.postsOn timerfd) = [.firstInsert timerfd timer.task] ∧
          s.findFunc timerfd = none ∨
        pieces.filter (TimerPiece.postsOn timerfd) = [] ∧ s.findFunc timerfd = some timer.task) := by
  simp only [Staged] at good
  grind [cases TimerStage]

theorem Staged.of_armed {timer : AlarmTimer} (good : s.Staged pieces timerfd)
    (known : s.timers timerfd = some timer) (phase : timer.phase = .armed) :
    pieces.filter (TimerPiece.readsOn timerfd) = [] ∧ timer.task ∉ s.expiries ∧
      timer.task ∉ s.called ∧
      (pieces.filter (TimerPiece.postsOn timerfd) = [.firstInsert timerfd timer.task] ∧
          s.findFunc timerfd = none ∨
        pieces.filter (TimerPiece.postsOn timerfd) = [] ∧ s.findFunc timerfd = some timer.task) := by
  simp only [Staged] at good
  grind [cases TimerStage]

theorem Staged.of_find (good : s.Staged (.find timerfd events :: others) timerfd)
    (present : s.findFunc timerfd ≠ none) :
    ∃ task, s.timers timerfd = some ⟨task, .read⟩ ∧ s.findFunc timerfd = some task ∧
      others.filter (TimerPiece.postsOn timerfd) = [] ∧
      others.filter (TimerPiece.readsOn timerfd) = [] ∧ task ∈ s.expiries ∧ task ∉ s.called := by
  simp only [Staged, List.filter_cons, TimerPiece.postsOn, TimerPiece.readsOn, beq_self_eq_true,
    if_true, Bool.false_eq_true, if_false] at good
  grind [cases TimerStage]

theorem Staged.of_funcTime {func : Option Nat}
    (good : s.Staged (.funcTime timerfd func events :: others) timerfd) :
    ∃ task, func = some task ∧ s.timers timerfd = some ⟨task, .read⟩ ∧
      s.findFunc timerfd = some task ∧ others.filter (TimerPiece.postsOn timerfd) = [] ∧
      others.filter (TimerPiece.readsOn timerfd) = [] ∧ task ∈ s.expiries ∧ task ∉ s.called := by
  simp only [Staged, List.filter_cons, TimerPiece.postsOn, TimerPiece.readsOn, beq_self_eq_true,
    if_true, Bool.false_eq_true, if_false] at good
  grind [cases TimerStage]

theorem Staged.of_erase (good : s.Staged (.erase timerfd events :: others) timerfd) :
    ∃ task, s.timers timerfd = some ⟨task, .read⟩ ∧ s.findFunc timerfd = some task ∧
      others.filter (TimerPiece.postsOn timerfd) = [] ∧
      others.filter (TimerPiece.readsOn timerfd) = [] ∧ task ∈ s.called := by
  simp only [Staged, List.filter_cons, TimerPiece.postsOn, TimerPiece.readsOn, beq_self_eq_true,
    if_true, Bool.false_eq_true, if_false] at good
  grind [cases TimerStage]

theorem Staged.of_close (good : s.Staged (.close timerfd events :: others) timerfd) :
    ∃ task, s.timers timerfd = some ⟨task, .read⟩ ∧ s.findFunc timerfd = none ∧
      others.filter (TimerPiece.postsOn timerfd) = [] ∧
      others.filter (TimerPiece.readsOn timerfd) = [] ∧ task ∈ s.called := by
  simp only [Staged, List.filter_cons, TimerPiece.postsOn, TimerPiece.readsOn, beq_self_eq_true,
    if_true, Bool.false_eq_true, if_false] at good
  grind [cases TimerStage]

theorem Staged.of_none (good : s.Staged pieces timerfd) (known : s.timers timerfd = none) :
    pieces.filter (TimerPiece.postsOn timerfd) = [] ∧
      pieces.filter (TimerPiece.readsOn timerfd) = [] ∧ s.findFunc timerfd = none := by
  simp only [Staged] at good
  grind [cases TimerStage]

end Inversion

/-- A task that is due and has not been called waits for a worker, or a worker has it. -/
theorem Staged.pending {timer : AlarmTimer} (good : s.Staged pieces timerfd)
    (known : s.timers timerfd = some timer) (due : timer.task ∈ s.expiries)
    (uncalled : timer.task ∉ s.called) :
    timer.phase = .expired ∨ timer.phase = .read ∧
      ∃ events, .find timerfd events ∈ pieces ∨ .funcTime timerfd (some timer.task) events ∈ pieces := by
  have readers : ∀ piece, piece ∈ pieces.filter (TimerPiece.readsOn timerfd) → piece ∈ pieces :=
    fun piece member => (List.mem_filter.mp member).1
  simp only [Staged] at good
  grind [cases TimerStage]

theorem TimerStage.short {expired called : Nat → Prop} {timer : Option AlarmTimer}
    {posters readers : List TimerPiece} {entry : Option Nat}
    (good : TimerStage timerfd expired called timer posters readers entry) :
    posters.length ≤ 1 ∧ readers.length ≤ 1 := by
  cases good <;> simp

theorem perm_short {short list : List TimerPiece} (few : short.length ≤ 1) (same : short.Perm list) :
    list = short := by
  match short with
  | [] => exact same.nil_eq.symm
  | [piece] => exact List.perm_singleton.mp same.symm
  | _ :: _ :: _ => simp at few

theorem Staged.perm (good : s.Staged pieces timerfd) (same : pieces.Perm others) :
    s.Staged others timerfd := by
  have short := TimerStage.short good
  refine staged_of good rfl ?_ ?_ rfl
  · exact perm_short short.1 (same.filter _)
  · exact perm_short short.2 (same.filter _)

theorem Attended.perm (good : Attended s pieces) (same : pieces.Perm others) : Attended s others :=
  { good with
    staged := fun timerfd => (good.staged timerfd).perm same
    looping := fun filled => by
      rcases good.looping filled with soon | starts | ⟨worker, member, loops⟩
      · exact Or.inl soon
      · exact Or.inr (Or.inl (same.mem_iff.mp starts))
      · exact Or.inr (Or.inr ⟨worker, same.mem_iff.mp member, loops⟩) }

/-- A call has no timer yet. -/
theorem Attended.enter (good : Attended s pieces) (call : TimerCall) :
    Attended s (postPieces call ++ pieces) := by
  have plain : ∀ fd, ∀ piece ∈ postPieces call, piece.postsOn fd = false ∧ piece.readsOn fd = false := by
    intro fd piece member
    cases call with
    | postTask func => cases func <;> simp_all [postPieces, TimerPiece.postsOn, TimerPiece.readsOn]
    | thread => simp_all [postPieces, TimerPiece.postsOn, TimerPiece.readsOn]
  refine { good with staged := fun timerfd => ?_, looping := fun filled => ?_ }
  · refine staged_of (good.staged timerfd) rfl ?_ ?_ rfl
    · rw [List.filter_append, List.filter_eq_nil_iff.mpr, List.nil_append]
      exact fun piece member => by simp [plain timerfd piece member]
    · rw [List.filter_append, List.filter_eq_nil_iff.mpr, List.nil_append]
      exact fun piece member => by simp [plain timerfd piece member]
  · rcases good.looping filled with soon | starts | ⟨worker, member, loops⟩
    · exact Or.inl soon
    · exact Or.inr (Or.inl (List.mem_append_right _ starts))
    · exact Or.inr (Or.inr ⟨worker, List.mem_append_right _ member, loops⟩)

/-- A turn that changes neither the logs nor the tasks of the timers. -/
theorem Attended.turn (good : Attended s (piece :: others)) {t : SamgrTimeHandler}
    {made : List TimerPiece} (alive : t.aborted = s.aborted) (posted : t.posted = s.posted)
    (expiries : t.expiries = s.expiries) (called : t.called = s.called)
    (staged : ∀ fd, t.Staged (made ++ others) fd)
    (owner : ∀ fd timer, t.timers fd = some timer → ∃ old, s.timers fd = some old ∧ old.task = timer.task)
    (kept : ∀ fd old, s.timers fd = some old →
      (∃ timer, t.timers fd = some timer ∧ timer.task = old.task) ∨ old.task ∉ s.expiries ∨
        old.task ∈ s.called)
    (looping : t.timeFunc ≠ [] → 0 < t.starting ∨ .startThread ∈ made ++ others ∨
      ∃ piece ∈ made ++ others, piece.inLoop = true) :
    Attended t (made ++ others) := by
  refine ⟨alive.trans good.alive, staged, ?_, ?_, ?_, ?_, ?_, ?_, looping⟩
  · intro fd other timer rival mine his same
    obtain ⟨old, before, task⟩ := owner fd timer mine
    obtain ⟨elder, earlier, twin⟩ := owner other rival his
    exact good.distinct fd other old elder before earlier ((task.trans same).trans twin.symm)
  · intro fd timer known
    obtain ⟨old, before, task⟩ := owner fd timer known
    rw [posted, ← task]
    exact good.numbered fd old before
  · rw [expiries, posted]
    exact good.known
  · rw [called]
    exact good.single
  · rw [called, expiries]
    exact good.due
  · rw [called, expiries]
    intro task member
    rcases good.expired task member with done | ⟨fd, old, before, same⟩
    · exact Or.inl done
    · rcases kept fd old before with ⟨timer, now, task⟩ | pending | done
      · exact Or.inr ⟨fd, timer, now, task.trans same⟩
      · exact absurd (same ▸ member) pending
      · exact Or.inl (same ▸ done)

theorem findFunc_insertFunc (task other : Nat) :
    (s.insertFunc timerfd task).findFunc other = if other = timerfd then some task else s.findFunc other := by
  by_cases same : other = timerfd
  · subst same
    simp [findFunc, insertFunc, Keyed.find_append, Keyed.find_filter_ne]
  · simp [findFunc, insertFunc, Keyed.find_append, Keyed.find_filter_ne, same, Ne.symm same]

theorem findFunc_eraseFunc (other : Nat) :
    (s.eraseFunc timerfd).findFunc other = if other = timerfd then none else s.findFunc other := by
  by_cases same : other = timerfd
  · simp [findFunc, eraseFunc, Keyed.find_filter_ne, same]
  · simp [findFunc, eraseFunc, Keyed.find_filter_ne, same]

/-- The worker that is in its loop stays there. -/
theorem Attended.loop (good : Attended s (piece :: others)) {t : SamgrTimeHandler} {made : List TimerPiece}
    (filled : t.timeFunc ≠ [] → s.timeFunc ≠ []) (starting : t.starting = s.starting)
    (other : piece ≠ .startThread) (stays : piece.inLoop = true → ∃ next ∈ made, next.inLoop = true) :
    t.timeFunc ≠ [] → 0 < t.starting ∨ .startThread ∈ made ++ others ∨
      ∃ piece ∈ made ++ others, piece.inLoop = true := by
  intro nonempty
  rcases good.looping (filled nonempty) with soon | starts | ⟨worker, member, loops⟩
  · exact Or.inl (starting ▸ soon)
  · rcases List.mem_cons.mp starts with same | starts
    · exact absurd same.symm other
    · exact Or.inr (Or.inl (List.mem_append_right made starts))
  · refine Or.inr (Or.inr ?_)
    rcases List.mem_cons.mp member with rfl | member
    · obtain ⟨next, inside, loops⟩ := stays loops
      exact ⟨next, List.mem_append_left others inside, loops⟩
    · exact ⟨worker, List.mem_append_right made member, loops⟩

/-- A turn that leaves timers, map and logs as they are, by a piece without a descriptor. -/
theorem Attended.pass (good : Attended s (piece :: others)) {made : List TimerPiece}
    (away : ∀ fd, ∀ other ∈ piece :: made, other.postsOn fd = false ∧ other.readsOn fd = false)
    (other : piece ≠ .startThread) (stays : piece.inLoop = true → ∃ next ∈ made, next.inLoop = true) :
    Attended s (made ++ others) := by
  refine good.turn rfl rfl rfl rfl (fun fd => ?_) (fun fd timer known => ⟨timer, known, rfl⟩) ?_
    (good.loop id rfl other stays)
  · exact (good.staged fd).frame rfl rfl (fun _ _ => Iff.rfl) (fun _ _ => Iff.rfl) (away fd)
  · exact fun fd old known => Or.inl ⟨old, known, rfl⟩

/-- A turn at one descriptor, whose timer keeps its task or is closed. -/
theorem Attended.at (timerfd : Nat) (good : Attended s (piece :: others)) {t : SamgrTimeHandler} {made : List TimerPiece}
    {old : AlarmTimer} (alive : t.aborted = s.aborted) (posted : t.posted = s.posted)
    (expiries : t.expiries = s.expiries) (called : t.called = s.called)
    (timers : ∀ fd, fd ≠ timerfd → t.timers fd = s.timers fd)
    (entries : ∀ fd, fd ≠ timerfd → t.findFunc fd = s.findFunc fd)
    (away : ∀ fd, fd ≠ timerfd → ∀ other ∈ piece :: made, other.postsOn fd = false ∧ other.readsOn fd = false)
    (before : s.timers timerfd = some old)
    (task : ∀ timer, t.timers timerfd = some timer → timer.task = old.task)
    (closing : t.timers timerfd = none → old.task ∉ s.expiries ∨ old.task ∈ s.called)
    (stage : t.Staged (made ++ others) timerfd)
    (looping : t.timeFunc ≠ [] → 0 < t.starting ∨ .startThread ∈ made ++ others ∨
      ∃ piece ∈ made ++ others, piece.inLoop = true) :
    Attended t (made ++ others) := by
  refine good.turn alive posted expiries called (fun fd => ?_) (fun fd timer now => ?_)
    (fun fd elder known => ?_) looping
  · by_cases same : fd = timerfd
    · rw [same]
      exact stage
    · refine (good.staged fd).frame (timers fd same) (entries fd same) ?_ ?_ (away fd same)
      · exact fun _ _ => by rw [expiries]
      · exact fun _ _ => by rw [called]
  · by_cases same : fd = timerfd
    · subst same
      exact ⟨old, before, (task timer now).symm⟩
    · exact ⟨timer, timers fd same ▸ now, rfl⟩
  · by_cases same : fd = timerfd
    · subst same
      cases before.symm.trans known
      cases now : t.timers fd with
      | none => exact Or.inr (closing now)
      | some timer => exact Or.inl ⟨timer, rfl, task timer now⟩
    · exact Or.inl ⟨elder, (timers fd same).trans known, rfl⟩

theorem Attended.createTimer (good : Attended s (.createTimer :: others)) (free : s.timers timerfd = none) :
    Attended { s with
        timers := Function.update s.timers timerfd (some ⟨s.posted, .created⟩)
        posted := s.posted + 1 }
      ([.epollAdd timerfd s.posted] ++ others) := by
  have fresh : s.posted ∉ s.expiries := fun member => Nat.lt_irrefl _ (good.known _ member)
  obtain ⟨posters, readers, entry⟩ := (good.staged timerfd).of_none free
  refine ⟨good.alive, fun fd => ?_, ?_, ?_, ?_, good.single, good.due, ?_,
    good.loop id rfl nofun nofun⟩
  · by_cases same : fd = timerfd
    · subst same
      refine staged_of (.adding s.posted fresh fun member => fresh (good.due _ member))
        (Function.update_self fd _ _) ?_ ?_ entry
      · simpa [TimerPiece.postsOn] using posters
      · simpa [TimerPiece.readsOn] using readers
    · refine (good.staged fd).frame ?_ rfl (fun _ _ => Iff.rfl) (fun _ _ => Iff.rfl) ?_
      · exact Function.update_of_ne same _ _
      · simp [TimerPiece.postsOn, TimerPiece.readsOn, Ne.symm same]
  · intro fd other timer rival mine his same
    by_cases own : fd = timerfd
    · by_cases twin : other = timerfd
      · rw [own, twin]
      · rw [own] at mine
        simp only [Function.update_self, Function.update_of_ne twin] at mine his
        cases mine
        exact absurd same.symm (Nat.ne_of_lt (good.numbered other rival his))
    · by_cases twin : other = timerfd
      · rw [twin] at his
        simp only [Function.update_self, Function.update_of_ne own] at mine his
        cases his
        exact absurd same (Nat.ne_of_lt (good.numbered fd timer mine))
      · simp only [Function.update_of_ne own, Function.update_of_ne twin] at mine his
        exact good.distinct fd other timer rival mine his same
  · intro fd timer known
    change timer.task < s.posted + 1
    by_cases own : fd = timerfd
    · rw [own] at known
      simp only [Function.update_self] at known
      cases known
      exact Nat.lt_succ_self s.posted
    · simp only [Function.update_of_ne own] at known
      exact Nat.lt_succ_of_lt (good.numbered fd timer known)
  · exact fun task member => Nat.lt_succ_of_lt (good.known task member)
  · intro task member
    refine (good.expired task member).imp_right ?_
    rintro ⟨fd, timer, known, same⟩
    refine ⟨fd, timer, ?_, same⟩
    have own : fd ≠ timerfd := by
      rintro rfl
      rw [free] at known
      cases known
    exact (Function.update_of_ne own _ _).trans known

section Turns

variable {task : Nat} {events : List Nat}

/-- The timer of a `PostTask` that fails is closed. -/
theorem Attended.giveUp (good : Attended s (piece :: others))
    (stage : s.timers timerfd = some ⟨task, .created⟩ ∧ others.filter (TimerPiece.postsOn timerfd) = [] ∧
      others.filter (TimerPiece.readsOn timerfd) = [] ∧ s.findFunc timerfd = none ∧
      task ∉ s.expiries ∧ task ∉ s.called)
    (away : ∀ fd, fd ≠ timerfd → piece.postsOn fd = false ∧ piece.readsOn fd = false)
    (other : piece ≠ .startThread) (leaves : piece.inLoop = false) :
    Attended (s.closeTimer timerfd) ([] ++ others) := by
  obtain ⟨known, posters, readers, entry, pending, uncalled⟩ := stage
  have closed : (s.closeTimer timerfd).timers timerfd = none := Function.update_self timerfd _ _
  refine good.at timerfd rfl rfl rfl rfl (fun fd same => Function.update_of_ne same _ _) (fun _ _ => rfl) ?_
    known ?_ (fun _ => Or.inl pending) (staged_of .closed closed posters readers entry)
    (good.loop id rfl other (fun loops => by simp [leaves] at loops))
  · simpa using away
  · intro timer now
    rw [closed] at now
    cases now

theorem Attended.epollAdd (good : Attended s (.epollAdd timerfd task :: others)) :
    Attended s ([.setTime timerfd task] ++ others) := by
  obtain ⟨known, posters, readers, entry, pending, uncalled⟩ := (good.staged timerfd).of_epollAdd
  refine good.at timerfd rfl rfl rfl rfl (fun _ _ => rfl) (fun _ _ => rfl) ?_ known ?_ ?_
    (staged_of (.setting task pending uncalled) known ?_ ?_ entry) (good.loop id rfl nofun nofun)
  · intro fd same
    simp [TimerPiece.postsOn, TimerPiece.readsOn, Ne.symm same]
  · rintro timer now
    rw [known] at now
    cases now
    rfl
  · intro now
    rw [known] at now
    cases now
  · simpa [TimerPiece.postsOn] using posters
  · simpa [TimerPiece.readsOn] using readers

theorem Attended.setTime (good : Attended s (.setTime timerfd task :: others)) :
    Attended (s.setPhase timerfd ⟨task, .created⟩ .armed) ([.firstInsert timerfd task] ++ others) := by
  obtain ⟨known, posters, readers, entry, pending, uncalled⟩ := (good.staged timerfd).of_setTime
  have now : (s.setPhase timerfd ⟨task, .created⟩ .armed).timers timerfd = some ⟨task, .armed⟩ :=
    Function.update_self timerfd _ _
  refine good.at timerfd rfl rfl rfl rfl (fun fd same => Function.update_of_ne same _ _) (fun _ _ => rfl) ?_
    known ?_ ?_ (staged_of (.inserting task pending uncalled) now ?_ ?_ entry)
    (good.loop id rfl nofun nofun)
  · intro fd same
    simp [TimerPiece.postsOn, TimerPiece.readsOn, Ne.symm same]
  · intro timer known
    cases now.symm.trans known
    rfl
  · exact fun gone => nomatch now.symm.trans gone
  · simpa [TimerPiece.postsOn] using posters
  · simpa [TimerPiece.readsOn] using readers

/-- The task is put into the map, and a thread is started for a map that was empty. -/
theorem Attended.firstInsert (good : Attended s (.firstInsert timerfd task :: others)) :
    Attended (s.insertFunc timerfd task)
      ((if s.timeFunc.isEmpty then [.startThread, .returned task] else [.returned task]) ++ others) := by
  obtain ⟨posters, -, uncalled, cases_⟩ := (good.staged timerfd).of_firstInsert
  have entry : (s.insertFunc timerfd task).findFunc timerfd = some task := by
    simp [findFunc_insertFunc]
  have plain : ∀ fd, ∀ made ∈ (if s.timeFunc.isEmpty then [TimerPiece.startThread, .returned task]
      else [.returned task]), made.postsOn fd = false ∧ made.readsOn fd = false := by
    intro fd made member
    split at member <;> simp at member <;> grind [TimerPiece.postsOn, TimerPiece.readsOn]
  obtain ⟨old, known, same⟩ : ∃ old, s.timers timerfd = some old ∧ old.task = task := by
    rcases cases_ with ⟨known, -⟩ | ⟨known, -⟩ | ⟨known, -⟩
    · exact ⟨_, known, rfl⟩
    · exact ⟨_, known, rfl⟩
    · exact ⟨_, known, rfl⟩
  refine good.at timerfd rfl rfl rfl rfl (fun _ _ => rfl) ?_ ?_ known ?_ ?_ ?_ ?_
  · intro fd other
    simp [findFunc_insertFunc, other]
  · intro fd other made member
    rcases List.mem_cons.mp member with rfl | member
    · simp [TimerPiece.postsOn, TimerPiece.readsOn, Ne.symm other]
    · exact plain fd made member
  · intro timer now
    change s.timers timerfd = some timer at now
    rw [known] at now
    cases now
    rfl
  · intro gone
    change s.timers timerfd = none at gone
    rw [known] at gone
    cases gone
  · have posting : ((if s.timeFunc.isEmpty then [TimerPiece.startThread, .returned task]
        else [.returned task]) ++ others).filter (TimerPiece.postsOn timerfd) = [] := by
      rw [List.filter_append, posters, List.append_nil]
      exact List.filter_eq_nil_iff.mpr fun made member => by simp [plain timerfd made member]
    have reading : ((if s.timeFunc.isEmpty then [TimerPiece.startThread, .returned task]
        else [.returned task]) ++ others).filter (TimerPiece.readsOn timerfd) =
        others.filter (TimerPiece.readsOn timerfd) := by
      rw [List.filter_append, List.filter_eq_nil_iff.mpr, List.nil_append]
      exact fun made member => by simp [plain timerfd made member]
    rcases cases_ with ⟨known, readers, pending⟩ | ⟨known, readers, due⟩ | ⟨known, ⟨events, readers⟩, due⟩
    · exact staged_of (.waiting task pending uncalled) known posting (reading.trans readers) entry
    · exact staged_of (.ready task due uncalled) known posting (reading.trans readers) entry
    · exact staged_of (.finding task events due uncalled) known posting (reading.trans readers) entry
  · intro _
    by_cases empty : s.timeFunc.isEmpty
    · simp [empty]
    · simp only [empty, Bool.false_eq_true, if_false]
      exact good.loop (t := s) id rfl nofun nofun (by simpa using empty)

/-- A worker reads the expiry. -/
theorem Attended.read (good : Attended s (.onTime (timerfd :: events) :: others))
    (known : s.timers timerfd = some ⟨task, .expired⟩) :
    Attended (s.setPhase timerfd ⟨task, .expired⟩ .read) ([.find timerfd events] ++ others) := by
  obtain ⟨readers, due, uncalled, cases_⟩ := (good.staged timerfd).of_expired known rfl
  have now : (s.setPhase timerfd ⟨task, .expired⟩ .read).timers timerfd = some ⟨task, .read⟩ :=
    Function.update_self timerfd _ _
  have reading : ([TimerPiece.find timerfd events] ++ others).filter (TimerPiece.readsOn timerfd) =
      [.find timerfd events] := by
    simpa [List.filter_cons, TimerPiece.readsOn] using readers
  refine good.at timerfd rfl rfl rfl rfl (fun fd same => Function.update_of_ne same _ _)
    (fun _ _ => rfl) ?_ known ?_ ?_ ?_ (good.loop id rfl nofun fun _ => ⟨_, List.mem_singleton_self _, rfl⟩)
  · intro fd same
    simp [TimerPiece.postsOn, TimerPiece.readsOn, Ne.symm same]
  · intro timer known
    cases now.symm.trans known
    rfl
  · exact fun gone => nomatch now.symm.trans gone
  · rcases cases_ with ⟨posters, entry⟩ | ⟨posters, entry⟩
    · refine staged_of (.raced task events due uncalled) now ?_ reading entry
      simpa [List.filter_cons, TimerPiece.postsOn] using posters
    · refine staged_of (.finding task events due uncalled) now ?_ reading entry
      simpa [List.filter_cons, TimerPiece.postsOn] using posters

/-- The task of the timer is found, since it is in the map. -/
theorem Attended.find (good : Attended s (.find timerfd events :: others))
    (present : s.findFunc timerfd ≠ none) :
    Attended s ([.funcTime timerfd (s.findFunc timerfd) events] ++ others) := by
  obtain ⟨task, known, entry, posters, readers, due, uncalled⟩ := (good.staged timerfd).of_find present
  rw [entry]
  refine good.at timerfd rfl rfl rfl rfl (fun _ _ => rfl) (fun _ _ => rfl) ?_ known ?_ ?_
    (staged_of (.calling task events due uncalled) known ?_ ?_ entry)
    (good.loop id rfl nofun fun _ => ⟨_, List.mem_singleton_self _, rfl⟩)
  · intro fd same
    simp [TimerPiece.postsOn, TimerPiece.readsOn, Ne.symm same]
  · intro timer now
    cases known.symm.trans now
    rfl
  · exact fun gone => nomatch known.symm.trans gone
  · simpa [TimerPiece.postsOn] using posters
  · simpa [TimerPiece.readsOn] using readers

/-- The task is called, for the first time. -/
theorem Attended.funcTime {func : Option Nat} (good : Attended s (.funcTime timerfd func events :: others)) :
    ∃ task, func = some task ∧
      Attended { s with called := s.called ++ [task] } ([.erase timerfd events] ++ others) := by
  obtain ⟨task, rfl, known, entry, posters, readers, due, uncalled⟩ := (good.staged timerfd).of_funcTime
  refine ⟨task, rfl, good.alive, fun fd => ?_, good.distinct, good.numbered, good.known, ?_, ?_, ?_,
    good.loop id rfl nofun fun _ => ⟨_, List.mem_singleton_self _, rfl⟩⟩
  · by_cases same : fd = timerfd
    · subst same
      refine staged_of (.erasing task events ?_) known ?_ ?_ entry
      · exact List.mem_append_right _ (List.mem_singleton_self task)
      · simpa [TimerPiece.postsOn] using posters
      · simpa [TimerPiece.readsOn] using readers
    · refine (good.staged fd).frame rfl rfl (fun _ _ => Iff.rfl) (fun timer elsewhere => ?_) ?_
      · have other : timer.task ≠ task := by
          intro twin
          exact same (good.distinct fd timerfd timer _ elsewhere known twin)
        simp [other]
      · simp [TimerPiece.postsOn, TimerPiece.readsOn, Ne.symm same]
  · refine List.nodup_append.mpr ⟨good.single, List.nodup_singleton task, ?_⟩
    rintro first member second last rfl
    exact uncalled (List.mem_singleton.mp last ▸ member)
  · intro other member
    rcases List.mem_append.mp member with before | last
    · exact good.due other before
    · rw [List.mem_singleton.mp last]
      exact due
  · intro other member
    exact (good.expired other member).imp_left (List.mem_append_left _)

theorem Attended.erase (good : Attended s (.erase timerfd events :: others)) :
    Attended (s.eraseFunc timerfd) ([.close timerfd events] ++ others) := by
  obtain ⟨task, known, -, posters, readers, done⟩ := (good.staged timerfd).of_erase
  have entry : (s.eraseFunc timerfd).findFunc timerfd = none := by simp [findFunc_eraseFunc]
  refine good.at timerfd rfl rfl rfl rfl (fun _ _ => rfl) ?_ ?_ known ?_ ?_
    (staged_of (.closing task events done) known ?_ ?_ entry)
    (good.loop ?_ rfl nofun fun _ => ⟨_, List.mem_singleton_self _, rfl⟩)
  · intro fd other
    simp [findFunc_eraseFunc, other]
  · intro fd same
    simp [TimerPiece.postsOn, TimerPiece.readsOn, Ne.symm same]
  · intro timer now
    cases known.symm.trans now
    rfl
  · exact fun gone => nomatch known.symm.trans gone
  · simpa [TimerPiece.postsOn] using posters
  · simpa [TimerPiece.readsOn] using readers
  · intro filled empty
    exact filled (by simp [eraseFunc, empty])

theorem Attended.close (good : Attended s (.close timerfd events :: others)) :
    Attended (s.closeTimer timerfd) ([.onTime events] ++ others) := by
  obtain ⟨task, known, entry, posters, readers, done⟩ := (good.staged timerfd).of_close
  have closed : (s.closeTimer timerfd).timers timerfd = none := Function.update_self timerfd _ _
  refine good.at timerfd rfl rfl rfl rfl (fun fd same => Function.update_of_ne same _ _)
    (fun _ _ => rfl) ?_ known ?_ (fun _ => Or.inr done) (staged_of .closed closed ?_ ?_ entry)
    (good.loop id rfl nofun fun _ => ⟨_, List.mem_singleton_self _, rfl⟩)
  · intro fd same
    simp [TimerPiece.postsOn, TimerPiece.readsOn, Ne.symm same]
  · exact fun timer now => nomatch closed.symm.trans now
  · simpa [TimerPiece.postsOn] using posters
  · simpa [TimerPiece.readsOn] using readers

/-- An armed timer expires. -/
theorem Attended.expire (good : Attended s pieces) (timerfd : Nat) : Attended (s.expire timerfd) pieces := by
  unfold SamgrTimeHandler.expire
  split
  case h_2 => exact good
  case h_1 timer known =>
    split
    case isFalse => exact good
    case isTrue phase =>
      obtain ⟨task, _⟩ := timer
      change _ = TimerPhase.armed at phase
      subst phase
      obtain ⟨readers, pending, uncalled, cases_⟩ := (good.staged timerfd).of_armed known rfl
      have now : (s.setPhase timerfd ⟨task, .armed⟩ .expired).timers timerfd = some ⟨task, .expired⟩ :=
        Function.update_self timerfd _ _
      have grown : ∀ {other : Nat}, other ∈ s.expiries → other ∈ s.expiries ++ [task] :=
        List.mem_append_left [task]
      have last : task ∈ s.expiries ++ [task] := List.mem_append_right _ (List.mem_singleton_self task)
      -- the other timers are those of other tasks
      have apart : ∀ fd, fd ≠ timerfd → ∀ timer, s.timers fd = some timer → timer.task ≠ task :=
        fun fd other timer elsewhere twin => other (good.distinct fd timerfd timer _ elsewhere known twin)
      have owner : ∀ fd timer, (s.setPhase timerfd ⟨task, .armed⟩ .expired).timers fd = some timer →
          ∃ old, s.timers fd = some old ∧ old.task = timer.task := by
        intro fd timer found
        by_cases same : fd = timerfd
        · subst same
          cases now.symm.trans found
          exact ⟨_, known, rfl⟩
        · exact ⟨timer, (Function.update_of_ne same _ _).symm.trans found, rfl⟩
      refine ⟨good.alive, fun fd => ?_, ?_, ?_, ?_, good.single, ?_, ?_, good.looping⟩
      · by_cases same : fd = timerfd
        · subst same
          rcases cases_ with ⟨posters, entry⟩ | ⟨posters, entry⟩
          · exact staged_of (.insertingLate task last uncalled) now posters readers entry
          · exact staged_of (.ready task last uncalled) now posters readers entry
        · unfold Staged
          rw [show SamgrTimeHandler.timers _ fd = s.timers fd from Function.update_of_ne same _ _]
          refine (good.staged fd).congr fun timer elsewhere => ⟨?_, Iff.rfl⟩
          simp [apart fd same timer elsewhere]
      · intro fd other timer rival mine his twin
        obtain ⟨old, before, task⟩ := owner fd timer mine
        obtain ⟨elder, earlier, match_⟩ := owner other rival his
        exact good.distinct fd other old elder before earlier ((task.trans twin).trans match_.symm)
      · intro fd timer found
        obtain ⟨old, before, task⟩ := owner fd timer found
        exact task ▸ good.numbered fd old before
      · intro other member
        rcases List.mem_append.mp member with before | new
        · exact good.known other before
        · rw [List.mem_singleton.mp new]
          exact good.numbered timerfd _ known
      · exact fun other member => grown (good.due other member)
      · intro other member
        rcases List.mem_append.mp member with before | new
        · refine (good.expired other before).imp_right ?_
          rintro ⟨fd, timer, found, same⟩
          by_cases own : fd = timerfd
          · subst own
            cases known.symm.trans found
            exact ⟨fd, _, now, same⟩
          · exact ⟨fd, timer, (Function.update_of_ne own _ _).trans found, same⟩
        · exact Or.inr ⟨timerfd, _, now, (List.mem_singleton.mp new).symm⟩

/-- A piece runs. A worker looks only for tasks that are in the map. -/
theorem Attended.exec (good : Attended s (piece :: others)) (input : TimerInput)
    (prompt : ∀ fd events, piece = .find fd events → s.findFunc fd ≠ none) :
    Attended (s.exec input piece).1 ((s.exec input piece).2 ++ others) := by
  simp only [SamgrTimeHandler.exec, good.alive, Bool.false_eq_true, if_false]
  cases piece with
  | createTimer =>
      simp only [execPiece]
      split
      · exact good.pass (by simp [TimerPiece.postsOn, TimerPiece.readsOn]) nofun nofun
      · split
        · exact good.pass (by simp [TimerPiece.postsOn, TimerPiece.readsOn]) nofun nofun
        · rename_i free
          exact good.createTimer free
  | epollAdd timerfd task =>
      simp only [execPiece]
      split
      · exact good.epollAdd
      · refine good.giveUp (good.staged timerfd).of_epollAdd (fun fd same => ?_) nofun rfl
        simp [TimerPiece.postsOn, TimerPiece.readsOn, Ne.symm same]
  | setTime timerfd task =>
      have stage := (good.staged timerfd).of_setTime
      simp only [execPiece, stage.1]
      split
      · exact good.setTime
      · refine good.giveUp stage (fun fd same => ?_) nofun rfl
        simp [TimerPiece.postsOn, TimerPiece.readsOn, Ne.symm same]
  | firstInsert timerfd task => exact good.firstInsert
  | startThread =>
      refine good.turn rfl rfl rfl rfl (fun fd => ?_) (fun fd timer known => ⟨timer, known, rfl⟩)
        (fun fd old known => Or.inl ⟨old, known, rfl⟩) (fun _ => Or.inl (Nat.succ_pos _))
      refine (good.staged fd).frame rfl rfl (fun _ _ => Iff.rfl) (fun _ _ => Iff.rfl) ?_
      simp [execPiece, TimerPiece.postsOn, TimerPiece.readsOn]
  | returned task =>
      refine good.turn rfl rfl rfl rfl (fun fd => ?_) (fun fd timer known => ⟨timer, known, rfl⟩)
        (fun fd old known => Or.inl ⟨old, known, rfl⟩) (good.loop id rfl nofun nofun)
      refine (good.staged fd).frame rfl rfl (fun _ _ => Iff.rfl) (fun _ _ => Iff.rfl) ?_
      simp [execPiece, TimerPiece.postsOn, TimerPiece.readsOn]
  | begin =>
      simp only [execPiece]
      split
      · exact good.pass (by simp [TimerPiece.postsOn, TimerPiece.readsOn]) nofun nofun
      · refine good.turn rfl rfl rfl rfl (fun fd => ?_) (fun fd timer known => ⟨timer, known, rfl⟩)
          (fun fd old known => Or.inl ⟨old, known, rfl⟩) (fun _ => Or.inr (Or.inr ?_))
        · refine (good.staged fd).frame rfl rfl (fun _ _ => Iff.rfl) (fun _ _ => Iff.rfl) ?_
          simp [TimerPiece.postsOn, TimerPiece.readsOn]
        · exact ⟨.isEmpty, List.mem_append_left _ (List.mem_singleton_self _), rfl⟩
  | isEmpty =>
      simp only [execPiece]
      split
      · -- the worker leaves, and the map is empty
        rename_i empty
        refine good.turn rfl rfl rfl rfl (fun fd => ?_) (fun fd timer known => ⟨timer, known, rfl⟩)
          (fun fd old known => Or.inl ⟨old, known, rfl⟩) (fun filled => absurd (by simpa using empty) filled)
        refine (good.staged fd).frame rfl rfl (fun _ _ => Iff.rfl) (fun _ _ => Iff.rfl) ?_
        simp [TimerPiece.postsOn, TimerPiece.readsOn]
      · exact good.pass (by simp [TimerPiece.postsOn, TimerPiece.readsOn]) nofun
          fun _ => ⟨_, List.mem_singleton_self _, rfl⟩
  | epollWait =>
      exact good.pass (by simp [execPiece, TimerPiece.postsOn, TimerPiece.readsOn]) nofun
        fun _ => ⟨_, List.mem_singleton_self _, rfl⟩
  | onTime events =>
      cases events with
      | nil =>
          exact good.pass (by simp [execPiece, TimerPiece.postsOn, TimerPiece.readsOn]) nofun
            fun _ => ⟨_, List.mem_singleton_self _, rfl⟩
      | cons timerfd events =>
          simp only [execPiece]
          split
          · rename_i timer known
            split
            · rename_i phase
              obtain ⟨task, _⟩ := timer
              change _ = TimerPhase.expired at phase
              subst phase
              exact good.read known
            · exact good.pass (by simp [TimerPiece.postsOn, TimerPiece.readsOn]) nofun
                fun _ => ⟨_, List.mem_singleton_self _, rfl⟩
          · exact good.pass (by simp [TimerPiece.postsOn, TimerPiece.readsOn]) nofun
              fun _ => ⟨_, List.mem_singleton_self _, rfl⟩
  | find timerfd events => exact good.find (prompt timerfd events rfl)
  | funcTime timerfd func events =>
      obtain ⟨task, rfl, called⟩ := good.funcTime
      exact called
  | erase timerfd events => exact good.erase
  | close timerfd events => exact good.close

end Turns

/-- A task whose `PostTask` has returned true, or is about to, has been called or is in the map. -/
def Served (s : SamgrTimeHandler) (pieces : List TimerPiece) : Prop :=
  ∀ task, task ∈ s.accepted ∨ .returned task ∈ pieces →
    task ∈ s.called ∨ ∃ timerfd, s.findFunc timerfd = some task

theorem Served.turn (served : Served s (piece :: others)) {t : SamgrTimeHandler} {made : List TimerPiece}
    (admits : ∀ task, task ∈ t.accepted ∨ .returned task ∈ made →
      task ∈ s.accepted ∨ piece = .returned task ∨ ∃ timerfd, t.findFunc timerfd = some task)
    (called : ∀ task ∈ s.called, task ∈ t.called)
    (entries : ∀ timerfd task, s.findFunc timerfd = some task →
      task ∈ t.called ∨ t.findFunc timerfd = some task) : Served t (made ++ others) := by
  have old : ∀ task, task ∈ s.accepted ∨ .returned task ∈ piece :: others →
      task ∈ t.called ∨ ∃ timerfd, t.findFunc timerfd = some task := by
    intro task before
    rcases served task before with done | ⟨timerfd, found⟩
    · exact Or.inl (called task done)
    · exact (entries timerfd task found).imp_right fun kept => ⟨timerfd, kept⟩
  intro task now
  rw [List.mem_append, ← or_assoc] at now
  rcases now with now | waits
  · rcases admits task now with before | same | found
    · exact old task (Or.inl before)
    · exact old task (Or.inr (same ▸ List.mem_cons_self))
    · exact Or.inr found
  · exact old task (Or.inr (List.mem_cons_of_mem _ waits))

/-- A turn that leaves the map and the logs as they are. -/
theorem Served.pass (served : Served s (piece :: others)) {t : SamgrTimeHandler} {made : List TimerPiece}
    (accepted : t.accepted = s.accepted) (called : t.called = s.called) (timeFunc : t.timeFunc = s.timeFunc)
    (plain : ∀ task, .returned task ∉ made) : Served t (made ++ others) := by
  have entries : ∀ timerfd, t.findFunc timerfd = s.findFunc timerfd := fun timerfd => by
    rw [findFunc, timeFunc]
    rfl
  refine served.turn (fun task now => ?_) (fun task done => called ▸ done) fun timerfd task found => ?_
  · exact Or.inl (accepted ▸ now.resolve_right (plain task))
  · exact Or.inr ((entries timerfd).trans found)

theorem Served.exec (served : Served s (piece :: others)) (good : Attended s (piece :: others))
    (input : TimerInput) : Served (s.exec input piece).1 ((s.exec input piece).2 ++ others) := by
  simp only [SamgrTimeHandler.exec, good.alive, Bool.false_eq_true, if_false]
  cases piece with
  | firstInsert timerfd task =>
      obtain ⟨-, absent, -⟩ := (good.staged timerfd).of_firstInsert
      refine served.turn ?_ (fun _ => id) fun fd other found => Or.inr ?_
      · intro other now
        by_cases same : other = task
        · refine Or.inr (Or.inr ⟨timerfd, ?_⟩)
          simp [execPiece, findFunc_insertFunc, same]
        · refine Or.inl (now.resolve_right ?_)
          simp only [execPiece]
          split <;> simp [same]
      · have distinct : fd ≠ timerfd := by
          rintro rfl
          rw [absent] at found
          cases found
        simpa [execPiece, findFunc_insertFunc, distinct] using found
  | erase timerfd events =>
      obtain ⟨task, -, entry, -, -, done⟩ := (good.staged timerfd).of_erase
      refine served.turn ?_ (fun _ => id) fun fd other found => ?_
      · intro other now
        exact Or.inl (now.resolve_right (by simp [execPiece]))
      by_cases same : fd = timerfd
      · subst same
        cases entry.symm.trans found
        exact Or.inl done
      · refine Or.inr ?_
        simpa [execPiece, findFunc_eraseFunc, same] using found
  | returned task =>
      refine served.turn ?_ (fun _ => id) fun fd other found => Or.inr found
      intro other now
      simp only [execPiece, List.mem_append, List.mem_singleton, List.not_mem_nil, or_false] at now
      rcases now with before | same
      · exact Or.inl before
      · exact Or.inr (Or.inl (by rw [same]))
  | funcTime timerfd func events =>
      obtain ⟨task, rfl, -⟩ := (good.staged timerfd).of_funcTime
      refine served.turn ?_ ?_ fun fd other found => Or.inr found
      · intro other now
        exact Or.inl (now.resolve_right (by simp [execPiece]))
      · exact fun other done => List.mem_append_left _ done
  | createTimer =>
      simp only [execPiece]
      split
      · exact served.pass rfl rfl rfl (by simp)
      · split
        · exact served.pass rfl rfl rfl (by simp)
        · exact served.pass rfl rfl rfl (by simp)
  | epollAdd timerfd task =>
      simp only [execPiece]
      split
      · exact served.pass rfl rfl rfl (by simp)
      · exact served.pass rfl rfl rfl (by simp)
  | setTime timerfd task =>
      simp only [execPiece, (good.staged timerfd).of_setTime.1]
      split
      · exact served.pass rfl rfl rfl (by simp)
      · exact served.pass rfl rfl rfl (by simp)
  | startThread => exact served.pass rfl rfl rfl (by simp [execPiece])
  | begin =>
      simp only [execPiece]
      split
      · exact served.pass rfl rfl rfl (by simp)
      · exact served.pass rfl rfl rfl (by simp)
  | isEmpty =>
      simp only [execPiece]
      split
      · exact served.pass rfl rfl rfl (by simp)
      · exact served.pass rfl rfl rfl (by simp)
  | epollWait => exact served.pass rfl rfl rfl (by simp [execPiece])
  | onTime events =>
      cases events with
      | nil => exact served.pass rfl rfl rfl (by simp [execPiece])
      | cons timerfd events =>
          simp only [execPiece]
          split
          · split
            · exact served.pass rfl rfl rfl (by simp)
            · exact served.pass rfl rfl rfl (by simp)
          · exact served.pass rfl rfl rfl (by simp)
  | find timerfd events => exact served.pass rfl rfl rfl (by simp [execPiece])
  | close timerfd events =>
      exact served.pass rfl rfl rfl (by simp [execPiece])

end SamgrTimeHandler

open Threads

namespace TimerMachine

def init : TimerMachine := { shared := {} }

abbrev step : TimerMachine → TimerLabel → TimerMachine := Config.step timerProgram

/-- A worker that looks for the task of a timer finds it in the map. -/
def prompt (x : TimerMachine) (label : TimerLabel) : Bool :=
  match x.next timerProgram label with
  | some (.find timerfd _) => (x.shared.findFunc timerfd).isSome
  | _ => true

/-- The expiry of the task's timer waits to be read, or a worker has read it and calls the task
next. -/
def Pending (x : TimerMachine) (task : Nat) : Prop :=
  ∃ timerfd, x.shared.timers timerfd = some ⟨task, .expired⟩ ∨
    x.shared.timers timerfd = some ⟨task, .read⟩ ∧
      ∃ events, .find timerfd events ∈ x.inFlight ∨ .funcTime timerfd (some task) events ∈ x.inFlight

/-- A task is called once if its timer expires and not at all before, no empty function is called,
a posted task stays in the map until it has been called, and a map that is not empty has a worker
in its loop, or one that is being started. -/
structure Faithful (x : TimerMachine) : Prop where
  once : ∀ task, x.shared.called.count task ≤ 1
  due : ∀ task ∈ x.shared.called, task ∈ x.shared.expiries
  served : ∀ task ∈ x.shared.expiries, x.shared.called.count task = 1 ∨
    x.shared.called.count task = 0 ∧ x.Pending task
  kept : ∀ task ∈ x.shared.accepted, x.shared.called.count task = 1 ∨
    ∃ timerfd, x.shared.findFunc timerfd = some task
  alive : x.shared.aborted = false
  attended : x.shared.timeFunc ≠ [] → 0 < x.shared.starting ∨ .startThread ∈ x.inFlight ∨
    ∃ piece ∈ x.inFlight, piece.inLoop = true

variable {x : TimerMachine} {label : TimerLabel}

/-- The invariant of a machine. -/
def Sound (s : SamgrTimeHandler) (pieces : List TimerPiece) : Prop :=
  s.Attended pieces ∧ s.Served pieces

theorem step_sound (good : Sound x.shared x.inFlight) (prompt : x.prompt label = true) :
    Sound (step x label).shared (step x label).inFlight := by
  refine Config.step_keeps Sound ?_ ?_ ?_ ?_ ?_ good
  · rintro s pieces others same ⟨attended, served⟩
    refine ⟨attended.perm same, fun task now => served task ?_⟩
    exact now.imp_right same.mem_iff.mpr
  · rintro call pieces ⟨attended, served⟩
    refine ⟨attended.enter call, fun task now => served task ?_⟩
    refine now.imp_right fun member => (List.mem_append.mp member).resolve_left ?_
    change TimerPiece.returned task ∉ SamgrTimeHandler.postPieces call
    cases call with
    | postTask func => cases func <;> simp [SamgrTimeHandler.postPieces]
    | thread => simp [SamgrTimeHandler.postPieces]
  · rintro input piece others next - - ⟨attended, served⟩
    refine ⟨attended.exec input ?_, served.exec attended input⟩
    rintro timerfd events rfl
    simpa [TimerMachine.prompt, next, Option.isSome_iff_ne_none] using prompt
  · intro pieces shared others taken
    cases taken
  · rintro timerfd - ⟨attended, served⟩
    refine ⟨attended.expire timerfd, ?_⟩
    change SamgrTimeHandler.Served (x.shared.expire timerfd) x.inFlight
    unfold SamgrTimeHandler.expire
    split
    · split
      · exact served
      · exact served
    · exact served

theorem sound_init : Sound init.shared init.inFlight := by
  refine ⟨⟨rfl, fun timerfd => .closed, nofun, nofun, nofun, List.nodup_nil, nofun, nofun, ?_⟩, nofun⟩
  exact fun filled => absurd rfl filled

theorem Sound.faithful (good : Sound x.shared x.inFlight) : x.Faithful := by
  obtain ⟨attended, served⟩ := good
  have once : ∀ task ∈ x.shared.called, x.shared.called.count task = 1 :=
    fun task member => List.count_eq_one_of_mem attended.single member
  refine ⟨fun task => List.nodup_iff_count_le_one.mp attended.single task, attended.due, ?_, ?_,
    attended.alive, attended.looping⟩
  · intro task member
    by_cases done : task ∈ x.shared.called
    · exact Or.inl (once task done)
    · refine Or.inr ⟨List.count_eq_zero.mpr done, ?_⟩
      rcases attended.expired task member with called | ⟨timerfd, timer, known, rfl⟩
      · exact absurd called done
      · obtain ⟨task, phase⟩ := timer
        refine ⟨timerfd, ?_⟩
        rcases (attended.staged timerfd).pending known member done with waits | ⟨read, held⟩
        · change phase = .expired at waits
          exact Or.inl (waits ▸ known)
        · change phase = .read at read
          exact Or.inr ⟨read ▸ known, held⟩
  · intro task member
    exact (served task (Or.inl member)).imp_left (once task)

/-- In every run in which no worker looks for the task of a timer before `PostTask` has put it into
the map, each task whose timer expires is called exactly once, and no empty function is called. -/
theorem alarm_tasks_called_once (labels : List TimerLabel)
    (prompt : Runs.Guarded step (fun x label => x.prompt label = true) init labels) :
    (Runs.run step init labels).Faithful :=
  Sound.faithful (Runs.guarded_invariant (fun x => Sound x.shared x.inFlight)
    (fun _ _ prompt good => step_sound good prompt) prompt sound_init)

/-- A task is posted, and a thread is started for it. -/
def postFirst : List TimerLabel :=
  [.call (.postTask true), .run (some 0) { timerfd := some 5 }, .run (some 0) {}, .run (some 0) {},
    .run (some 0) {}, .run (some 0) {}, .run (some 0) {}, .call .thread, .run (some 1) {}, .run (some 1) {}]

/-- Its timer expires, and the worker reads the expiry and calls the task. -/
def fire : List TimerLabel :=
  [.act 5, .run (some 1) { events := [5] }, .run (some 1) {}, .run (some 1) {}, .run (some 1) {},
    .run (some 1) {}, .run (some 1) {}]

theorem fire_calls_once :
    Runs.Guarded step (fun x label => x.prompt label = true) init (postFirst ++ fire) ∧
      (Runs.run step init (postFirst ++ fire)).shared.called = [0] ∧
      (Runs.run step init (postFirst ++ fire)).Faithful :=
  ⟨by decide, by decide, alarm_tasks_called_once (postFirst ++ fire) (by decide)⟩

/-- A second task is posted, and its timer expires before the task is in the map. -/
def postSecond : List TimerLabel :=
  [.call (.postTask true), .run (some 2) { timerfd := some 6 }, .run (some 2) {}, .run (some 2) {},
    .act 6, .run (some 1) { events := [6] }, .run (some 1) {}, .run (some 1) {}, .run (some 1) {}]

/-- The worker of the first task finds nothing for the second timer and calls an empty function. -/
theorem early_expiry_calls_empty :
    (Runs.run step init (postFirst ++ postSecond)).shared.aborted = true ∧
      ¬ (Runs.run step init (postFirst ++ postSecond)).Faithful := by
  have ended : (Runs.run step init (postFirst ++ postSecond)).shared.aborted = true := by decide
  refine ⟨ended, fun faithful => ?_⟩
  rw [faithful.alive] at ended
  cases ended

end TimerMachine

end Samgr
