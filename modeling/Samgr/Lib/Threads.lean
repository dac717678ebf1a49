import Samgr.Lib.Runs
import Mathlib.Data.List.Perm.Basic
import Mathlib.Logic.Function.Iterate

/-! Threads over a shared state, cut at their lock sections. A thread is the list of
pieces it still has to run; running a piece changes the shared state in one step and puts
the pieces that follow from it in its place. A piece may need a lock that is free, and a
lock is held exactly while the piece that releases it is still to be run. One thread is a
worker that takes its pieces from a queue inside the shared state, one task at a time. -/
namespace Threads

/-- What calls, pieces, queued tasks and outside actions do. -/
structure Program (State Call Piece Input Action Lock : Type) where
  enter : State → Call → List Piece
  exec : Input → State → Piece → State × List Piece
  take : State → Option (List Piece × State)
  act : State → Action → State
  needs : State → Piece → Option Lock
  releases : Piece → Option Lock

@[ext] structure Config (State Piece : Type) where
  shared : State
  worker : List Piece := []
  clients : List (List Piece) := []

/-- One step: a call starts a thread, a thread runs its next piece (`none` is the worker),
the worker takes a task, or something outside acts on the shared state. -/
inductive Label (Call Input Action : Type) where
  | call (call : Call)
  | run (client : Option Nat) (input : Input)
  | dispatch
  | act (action : Action)

variable {State Call Piece Input Action Lock : Type} [DecidableEq Lock]

namespace Config

variable (P : Program State Call Piece Input Action Lock) (x : Config State Piece)

/-- The pieces that are still to be run, in no particular order. -/
def inFlight : List Piece := x.worker ++ x.clients.flatten

def held (lock : Lock) : Bool := x.inFlight.any fun piece => P.releases piece == some lock

/-- A piece can run if the lock it needs is free. -/
def enabled (piece : Piece) : Bool := (P.needs x.shared piece).all fun lock => !x.held P lock

def thread (client : Option Nat) : List Piece :=
  match client with
  | none => x.worker
  | some n => x.clients.getD n []

/-- The piece that the label runs, if it runs one. -/
def next : Label Call Input Action → Option Piece
  | .run client _ => (x.thread client).head?.filter (x.enabled P)
  | _ => none

def setThread (client : Option Nat) (pieces : List Piece) : Config State Piece :=
  match client with
  | none => { x with worker := pieces }
  | some n => { x with clients := x.clients.set n pieces }

/-- A label that is not possible leaves everything as it is. -/
def step (x : Config State Piece) : Label Call Input Action → Config State Piece
  | .call call => { x with clients := x.clients ++ [P.enter x.shared call] }
  | .run client input =>
      match x.thread client with
      | [] => x
      | piece :: rest =>
          if x.enabled P piece then
            let done := P.exec input x.shared piece
            { x.setThread client (done.2 ++ rest) with shared := done.1 }
          else x
  | .dispatch =>
      match x.worker, P.take x.shared with
      | [], some (pieces, shared) => { x with shared, worker := pieces }
      | _, _ => x
  | .act action => { x with shared := P.act x.shared action }

variable {P x}

theorem held_iff {lock : Lock} : x.held P lock = true ↔
    ∃ piece ∈ x.inFlight, P.releases piece = some lock := by
  simp [held]

theorem free_of_enabled {piece : Piece} {lock : Lock} (enabled : x.enabled P piece = true)
    (needs : P.needs x.shared piece = some lock) :
    ∀ other ∈ x.inFlight, P.releases other ≠ some lock := by
  intro other member releases
  have held : x.held P lock = true := held_iff.mpr ⟨other, member, releases⟩
  simp [Config.enabled, needs, held] at enabled

theorem thread_split {n : Nat} {piece : Piece} {rest : List Piece}
    (shape : x.thread (some n) = piece :: rest) :
    ∃ before after, x.clients = before ++ (piece :: rest) :: after ∧
      ∀ pieces, x.clients.set n pieces = before ++ pieces :: after := by
  by_cases inside : n < x.clients.length
  · have entry : x.clients[n] = piece :: rest := by simpa [thread, inside] using shape
    refine ⟨x.clients.take n, x.clients.drop (n + 1), ?_, ?_⟩
    · rw [← entry, List.getElem_cons_drop inside, List.take_append_drop]
    · intro pieces
      exact List.set_eq_take_cons_drop pieces inside
  · simp [thread, List.getElem?_eq_none (Nat.le_of_not_lt inside)] at shape

/-- What one step can do. A piece is run by the worker or by a client; what follows from
it comes first in the same thread. -/
inductive Move (P : Program State Call Piece Input Action Lock) (x : Config State Piece)
    (label : Label Call Input Action) (y : Config State Piece) : Prop
  | idle (same : y = x)
  | called (call : Call) (same : label = .call call)
      (result : y = { x with clients := x.clients ++ [P.enter x.shared call] })
  | worked (input : Input) (piece : Piece) (rest : List Piece)
      (next : x.next P label = some piece) (enabled : x.enabled P piece = true)
      (before : x.worker = piece :: rest)
      (result : y = { shared := (P.exec input x.shared piece).1
                      worker := (P.exec input x.shared piece).2 ++ rest
                      clients := x.clients })
  | ran (input : Input) (piece : Piece) (rest : List Piece) (first last : List (List Piece))
      (next : x.next P label = some piece) (enabled : x.enabled P piece = true)
      (before : x.clients = first ++ (piece :: rest) :: last)
      (result : y = { shared := (P.exec input x.shared piece).1
                      worker := x.worker
                      clients := first ++ ((P.exec input x.shared piece).2 ++ rest) :: last })
  | dispatched (pieces : List Piece) (shared : State) (idle : x.worker = [])
      (taken : P.take x.shared = some (pieces, shared))
      (result : y = { x with shared, worker := pieces })
  | acted (action : Action) (same : label = .act action)
      (result : y = { x with shared := P.act x.shared action })

theorem step_move (x : Config State Piece) (label : Label Call Input Action) :
    Move P x label (x.step P label) := by
  cases label with
  | call call => exact .called call rfl rfl
  | act action => exact .acted action rfl rfl
  | dispatch =>
      simp only [step]
      split
      · rename_i pieces shared idle taken
        exact .dispatched pieces shared idle taken rfl
      · exact .idle rfl
  | run client input =>
      simp only [step]
      split
      · exact .idle rfl
      · rename_i piece rest shape
        split
        · rename_i enabled
          have next : x.next P (.run client input : Label Call Input Action) = some piece := by
            simp [Config.next, shape, enabled]
          cases client with
          | none => exact .worked input piece rest next enabled shape rfl
          | some n =>
              obtain ⟨first, last, before, replaced⟩ := thread_split shape
              refine .ran input piece rest first last next enabled before ?_
              simp [setThread, replaced]
        · exact .idle rfl

section Rules

variable {label : Label Call Input Action}

theorem perm_of_thread {client : Option Nat} {piece : Piece} {rest : List Piece}
    (shape : x.thread client = piece :: rest) : ∃ others, x.inFlight.Perm (piece :: others) := by
  cases client with
  | none =>
      have worker : x.worker = piece :: rest := shape
      exact ⟨rest ++ x.clients.flatten, by simp [inFlight, worker]⟩
  | some n =>
      obtain ⟨before, after, split, -⟩ := thread_split shape
      refine ⟨x.worker ++ before.flatten ++ (rest ++ after.flatten), ?_⟩
      simp only [inFlight, split, List.flatten_append, List.flatten_cons, List.cons_append]
      rw [← List.append_assoc]
      exact List.perm_middle

theorem mem_inFlight_of_thread {client : Option Nat} {piece : Piece} (member : piece ∈ x.thread client) :
    piece ∈ x.inFlight := by
  cases client with
  | none => exact List.mem_append_left _ member
  | some n =>
      refine List.mem_append_right _ (List.mem_flatten.mpr ⟨x.clients.getD n [], ?_, member⟩)
      by_contra outside
      rw [thread, List.getD_eq_getElem?_getD] at member
      cases found : x.clients[n]? with
      | none => simp [found] at member
      | some pieces =>
          rw [List.getD_eq_getElem?_getD, found] at outside
          exact outside (List.mem_of_getElem? found)

/-- A label that runs a piece runs it on the shared state, and the piece is in flight. -/
theorem step_of_next {piece : Piece} (next : x.next P label = some piece) :
    ∃ input others, x.inFlight.Perm (piece :: others) ∧
      (x.step P label).shared = (P.exec input x.shared piece).1 := by
  cases label with
  | run client input =>
      simp only [Config.next, Option.filter_eq_some_iff] at next
      obtain ⟨first, enabled⟩ := next
      obtain ⟨rest, shape⟩ := List.head?_eq_some_iff.mp first
      obtain ⟨others, flying⟩ := perm_of_thread shape
      refine ⟨input, others, flying, ?_⟩
      simp only [step, shape, enabled, if_true]
  | call _ => cases next
  | dispatch => cases next
  | act _ => cases next

/-- The thread that runs a piece goes on with what follows from it. -/
theorem thread_of_run {client : Option Nat} {input : Input} {piece : Piece}
    (next : x.next P (.run client input : Label Call Input Action) = some piece) :
    ∃ rest, x.thread client = piece :: rest ∧
      (x.step P (.run client input : Label Call Input Action)).thread client =
        (P.exec input x.shared piece).2 ++ rest := by
  simp only [Config.next, Option.filter_eq_some_iff] at next
  obtain ⟨first, enabled⟩ := next
  obtain ⟨rest, shape⟩ := List.head?_eq_some_iff.mp first
  refine ⟨rest, shape, ?_⟩
  simp only [step, shape, enabled, if_true]
  cases client with
  | none => rfl
  | some n =>
      have inside : n < x.clients.length := by
        by_contra outside
        simp [thread, List.getElem?_eq_none (Nat.le_of_not_lt outside)] at shape
      simp [setThread, thread, inside]

theorem shared_of_run {client : Option Nat} {input : Input} {piece : Piece}
    (next : x.next P (.run client input : Label Call Input Action) = some piece) :
    (x.step P (.run client input : Label Call Input Action)).shared =
      (P.exec input x.shared piece).1 := by
  simp only [Config.next, Option.filter_eq_some_iff] at next
  obtain ⟨first, enabled⟩ := next
  obtain ⟨rest, shape⟩ := List.head?_eq_some_iff.mp first
  simp only [step, shape, enabled, if_true]

/-- An invariant of the shared state, of the worker as a list and of the pieces of the
clients in any order is kept by a step when calls, pieces, tasks and actions keep it. -/
theorem step_keeps_worker (inv : State → List Piece → List Piece → Prop)
    (perm : ∀ {s w l l'}, l.Perm l' → inv s w l → inv s w l')
    (call : ∀ c l, inv x.shared x.worker l → inv x.shared x.worker (P.enter x.shared c ++ l))
    (worked : ∀ input piece rest, x.next P label = some piece → x.enabled P piece = true →
      x.worker = piece :: rest → inv x.shared (piece :: rest) x.clients.flatten →
      inv (P.exec input x.shared piece).1 ((P.exec input x.shared piece).2 ++ rest)
        x.clients.flatten)
    (ran : ∀ input piece others, x.next P label = some piece → x.enabled P piece = true →
      x.clients.flatten.Perm (piece :: others) → inv x.shared x.worker (piece :: others) →
      inv (P.exec input x.shared piece).1 x.worker ((P.exec input x.shared piece).2 ++ others))
    (dispatched : ∀ pieces shared, P.take x.shared = some (pieces, shared) → x.worker = [] →
      inv x.shared [] x.clients.flatten → inv shared pieces x.clients.flatten)
    (acted : ∀ action, label = .act action → inv x.shared x.worker x.clients.flatten →
      inv (P.act x.shared action) x.worker x.clients.flatten)
    (start : inv x.shared x.worker x.clients.flatten) :
    inv (x.step P label).shared (x.step P label).worker (x.step P label).clients.flatten := by
  rcases step_move (P := P) x label with same | ⟨c, -, result⟩ |
    ⟨input, piece, rest, next, enabled, before, result⟩ |
    ⟨input, piece, rest, first, last, next, enabled, before, result⟩ |
    ⟨pieces, shared, idle, taken, result⟩ | ⟨action, same, result⟩
  · rw [same]
    exact start
  · rw [result]
    refine perm ?_ (call c _ start)
    simp only [List.flatten_append, List.flatten_cons, List.flatten_nil, List.append_nil]
    exact List.perm_append_comm
  · rw [result]
    refine worked input piece rest next enabled before ?_
    rw [← before]
    exact start
  · rw [result]
    have opened : x.clients.flatten.Perm (piece :: (rest ++ (first.flatten ++ last.flatten))) := by
      rw [before]
      simp only [List.flatten_append, List.flatten_cons, List.cons_append]
      refine List.perm_middle.trans (List.Perm.cons piece ?_)
      rw [← List.append_assoc, ← List.append_assoc]
      exact List.Perm.append_right _ List.perm_append_comm
    refine perm ?_ (ran input piece _ next enabled opened (perm opened start))
    simp only [List.flatten_append, List.flatten_cons, List.append_assoc]
    generalize (P.exec input x.shared piece).2 = made
    have moved : (made ++ (rest ++ (first.flatten ++ last.flatten))).Perm
        ((first.flatten ++ (made ++ rest)) ++ last.flatten) := by
      rw [← List.append_assoc, ← List.append_assoc]
      exact List.Perm.append_right _ List.perm_append_comm
    rwa [List.append_assoc, List.append_assoc] at moved
  · rw [result]
    refine dispatched pieces shared taken idle ?_
    rw [← idle]
    exact start
  · rw [result]
    exact acted action same start

/-- The same rule for an invariant that does not tell the worker from the clients. -/
theorem step_keeps (inv : State → List Piece → Prop)
    (perm : ∀ {s l l'}, l.Perm l' → inv s l → inv s l')
    (call : ∀ c l, inv x.shared l → inv x.shared (P.enter x.shared c ++ l))
    (turn : ∀ input piece others, x.next P label = some piece → x.enabled P piece = true →
      x.inFlight.Perm (piece :: others) → inv x.shared (piece :: others) →
      inv (P.exec input x.shared piece).1 ((P.exec input x.shared piece).2 ++ others))
    (dispatched : ∀ pieces shared l, P.take x.shared = some (pieces, shared) →
      inv x.shared l → inv shared (pieces ++ l))
    (acted : ∀ action, label = .act action → inv x.shared x.inFlight →
      inv (P.act x.shared action) x.inFlight)
    (start : inv x.shared x.inFlight) :
    inv (x.step P label).shared (x.step P label).inFlight := by
  refine step_keeps_worker (fun s worker l => inv s (worker ++ l)) ?_ ?_ ?_ ?_ ?_ ?_ start
  · intro s worker l l' same
    exact perm (List.Perm.append_left worker same)
  · intro c l good
    refine perm ?_ (call c _ good)
    rw [← List.append_assoc, ← List.append_assoc]
    exact List.Perm.append_right l List.perm_append_comm
  · intro input piece rest next enabled before good
    have opened : x.inFlight = piece :: (rest ++ x.clients.flatten) := by
      simp [inFlight, before]
    rw [List.append_assoc]
    exact turn input piece _ next enabled (opened ▸ List.Perm.refl _) good
  · intro input piece others next enabled opened good
    have moved : (x.worker ++ piece :: others).Perm (piece :: (x.worker ++ others)) :=
      List.perm_middle
    have all : x.inFlight.Perm (piece :: (x.worker ++ others)) :=
      (List.Perm.append_left x.worker opened).trans moved
    refine perm ?_ (turn input piece _ next enabled all (perm moved good))
    rw [← List.append_assoc, ← List.append_assoc]
    exact List.Perm.append_right others List.perm_append_comm
  · intro pieces shared taken idle good
    exact dispatched pieces shared _ taken good
  · intro action same good
    exact acted action same good

/-- The same rule for conditions that look at the input of the label. -/
theorem step_keeps_input (inv : State → List Piece → Prop)
    (perm : ∀ {s l l'}, l.Perm l' → inv s l → inv s l')
    (call : ∀ c l, inv x.shared l → inv x.shared (P.enter x.shared c ++ l))
    (turn : ∀ client input piece others, label = .run client input →
      x.next P label = some piece → x.inFlight.Perm (piece :: others) →
      inv x.shared (piece :: others) →
      inv (P.exec input x.shared piece).1 ((P.exec input x.shared piece).2 ++ others))
    (dispatched : ∀ pieces shared l, P.take x.shared = some (pieces, shared) →
      inv x.shared l → inv shared (pieces ++ l))
    (acted : ∀ action, label = .act action → inv x.shared x.inFlight →
      inv (P.act x.shared action) x.inFlight)
    (start : inv x.shared x.inFlight) :
    inv (x.step P label).shared (x.step P label).inFlight := by
  cases label with
  | run client input =>
      -- with this label every piece runs on this input
      let fixed : Program State Call Piece Input Action Lock := { P with exec := fun _ => P.exec input }
      have kept : inv (x.step fixed (.run client input)).shared
          (x.step fixed (.run client input)).inFlight := by
        refine step_keeps inv perm call ?_ dispatched (fun action same => nomatch same) start
        intro _ piece others next _ opened good
        exact turn client input piece others rfl next opened good
      exact kept
  | call _ => exact step_keeps inv perm call (fun _ _ _ next => nomatch next) dispatched acted start
  | dispatch => exact step_keeps inv perm call (fun _ _ _ next => nomatch next) dispatched acted start
  | act _ => exact step_keeps inv perm call (fun _ _ _ next => nomatch next) dispatched acted start

/-- The rule that tells the worker from the clients, for conditions that look at the input. -/
theorem step_keeps_worker_input (inv : State → List Piece → List Piece → Prop)
    (perm : ∀ {s w l l'}, l.Perm l' → inv s w l → inv s w l')
    (call : ∀ c l, inv x.shared x.worker l → inv x.shared x.worker (P.enter x.shared c ++ l))
    (worked : ∀ client input piece rest, label = .run client input → x.next P label = some piece →
      x.worker = piece :: rest → inv x.shared (piece :: rest) x.clients.flatten →
      inv (P.exec input x.shared piece).1 ((P.exec input x.shared piece).2 ++ rest)
        x.clients.flatten)
    (ran : ∀ client input piece others, label = .run client input → x.next P label = some piece →
      x.clients.flatten.Perm (piece :: others) → inv x.shared x.worker (piece :: others) →
      inv (P.exec input x.shared piece).1 x.worker ((P.exec input x.shared piece).2 ++ others))
    (dispatched : ∀ pieces shared, P.take x.shared = some (pieces, shared) → x.worker = [] →
      inv x.shared [] x.clients.flatten → inv shared pieces x.clients.flatten)
    (acted : ∀ action, label = .act action → inv x.shared x.worker x.clients.flatten →
      inv (P.act x.shared action) x.worker x.clients.flatten)
    (start : inv x.shared x.worker x.clients.flatten) :
    inv (x.step P label).shared (x.step P label).worker (x.step P label).clients.flatten := by
  cases label with
  | run client input =>
      let fixed : Program State Call Piece Input Action Lock := { P with exec := fun _ => P.exec input }
      have kept : inv (x.step fixed (.run client input)).shared
          (x.step fixed (.run client input)).worker
          (x.step fixed (.run client input)).clients.flatten := by
        refine step_keeps_worker inv perm call ?_ ?_ dispatched (fun action same => nomatch same) start
        · intro _ piece rest next _ before good
          exact worked client input piece rest rfl next before good
        · intro _ piece others next _ opened good
          exact ran client input piece others rfl next opened good
      exact kept
  | call _ =>
      exact step_keeps_worker inv perm call (fun _ _ _ next => nomatch next)
        (fun _ _ _ next => nomatch next) dispatched acted start
  | dispatch =>
      exact step_keeps_worker inv perm call (fun _ _ _ next => nomatch next)
        (fun _ _ _ next => nomatch next) dispatched acted start
  | act _ =>
      exact step_keeps_worker inv perm call (fun _ _ _ next => nomatch next)
        (fun _ _ _ next => nomatch next) dispatched acted start

/-- What is in flight after a step was so before, or the call, the piece or the task of the
step has brought it. -/
theorem mem_inFlight_step {piece : Piece} (member : piece ∈ (x.step P label).inFlight) :
    piece ∈ x.inFlight ∨ (∃ call, label = .call call ∧ piece ∈ P.enter x.shared call) ∨
      (∃ input running, x.next P label = some running ∧ running ∈ x.inFlight ∧
        piece ∈ (P.exec input x.shared running).2) ∨
      ∃ pieces shared, P.take x.shared = some (pieces, shared) ∧ piece ∈ pieces := by
  rcases step_move (P := P) x label with same | ⟨call, own, result⟩ |
    ⟨input, running, rest, next, -, before, result⟩ |
    ⟨input, running, rest, first, last, next, -, before, result⟩ |
    ⟨pieces, shared, idle, taken, result⟩ | ⟨action, -, result⟩
  · rw [same] at member
    exact Or.inl member
  · rw [result] at member
    simp only [inFlight, List.flatten_append, List.flatten_cons, List.flatten_nil, List.append_nil,
      List.mem_append] at member ⊢
    rcases member with member | member | member
    · exact Or.inl (Or.inl member)
    · exact Or.inl (Or.inr member)
    · exact Or.inr (Or.inl ⟨call, own, member⟩)
  · rw [result] at member
    simp only [inFlight, before, List.mem_append, List.mem_cons] at member ⊢
    rcases member with (member | member) | member
    · exact Or.inr (Or.inr (Or.inl ⟨input, running, next, Or.inl (Or.inl rfl), member⟩))
    · exact Or.inl (Or.inl (Or.inr member))
    · exact Or.inl (Or.inr member)
  · rw [result] at member
    simp only [inFlight, before, List.flatten_append, List.flatten_cons, List.mem_append,
      List.mem_cons] at member ⊢
    rcases member with member | member | (member | member) | member
    · exact Or.inl (Or.inl member)
    · exact Or.inl (Or.inr (Or.inl member))
    · exact Or.inr (Or.inr (Or.inl
        ⟨input, running, next, Or.inr (Or.inr (Or.inl (Or.inl rfl))), member⟩))
    · exact Or.inl (Or.inr (Or.inr (Or.inl (Or.inr member))))
    · exact Or.inl (Or.inr (Or.inr (Or.inr member)))
  · rw [result] at member
    simp only [inFlight, List.mem_append] at member ⊢
    rcases member with member | member
    · exact Or.inr (Or.inr (Or.inr ⟨pieces, shared, taken, member⟩))
    · exact Or.inl (Or.inr member)
  · rw [result] at member
    exact Or.inl member

theorem length_le_step : x.clients.length ≤ (x.step P label).clients.length := by
  rcases step_move (P := P) x label with same | ⟨c, -, result⟩ |
    ⟨input, piece, rest, -, -, -, result⟩ | ⟨input, piece, rest, first, last, -, -, before, result⟩ |
    ⟨pieces, shared, -, -, result⟩ | ⟨action, -, result⟩
  · simp [same]
  · simp [result]
  · simp [result]
  · simp [result, before]
  · simp [result]
  · simp [result]

/-- A thread changes only when it runs a piece itself. -/
theorem thread_step {n : Nat} (inside : n < x.clients.length) :
    (x.step P label).thread (some n) = x.thread (some n) ∨
      ∃ input piece rest, label = .run (some n) input ∧ x.next P label = some piece ∧
        x.thread (some n) = piece :: rest ∧
        (x.step P label).thread (some n) = (P.exec input x.shared piece).2 ++ rest := by
  cases label with
  | call c =>
      left
      simp [step, thread, List.getElem?_append_left inside]
  | act action => exact Or.inl rfl
  | dispatch =>
      left
      simp only [step]
      split <;> rfl
  | run client input =>
      simp only [step]
      split
      · exact Or.inl rfl
      · rename_i piece rest shape
        split
        · rename_i enabled
          cases client with
          | none => exact Or.inl rfl
          | some m =>
              by_cases own : m = n
              · subst own
                refine Or.inr ⟨input, piece, rest, rfl, ?_, shape, ?_⟩
                · simp [next, shape, enabled]
                · simp [setThread, thread, inside]
              · left
                simp [setThread, thread, List.getElem?_set_ne own]
        · exact Or.inl rfl

/-- What is said of each thread by itself. -/
theorem step_each_thread {inv : List Piece → Prop}
    (call : ∀ c, label = .call c → inv (P.enter x.shared c))
    (fits : ∀ input piece rest, x.next P label = some piece → inv (piece :: rest) →
      inv ((P.exec input x.shared piece).2 ++ rest))
    (taken : ∀ pieces shared, P.take x.shared = some (pieces, shared) → inv pieces)
    (good : inv x.worker ∧ ∀ thread ∈ x.clients, inv thread) :
    inv (x.step P label).worker ∧ ∀ thread ∈ (x.step P label).clients, inv thread := by
  rcases step_move (P := P) x label with same | ⟨c, called, result⟩ |
    ⟨input, piece, rest, next, -, before, result⟩ |
    ⟨input, piece, rest, first, last, next, -, before, result⟩ |
    ⟨pieces, shared, idle, found, result⟩ | ⟨action, -, result⟩
  · rw [same]
    exact good
  · rw [result]
    refine ⟨good.1, fun thread member => ?_⟩
    rcases List.mem_append.mp member with member | member
    · exact good.2 thread member
    · rw [List.mem_singleton.mp member]
      exact call c called
  · rw [result]
    have whole := good.1
    rw [before] at whole
    exact ⟨fits input piece rest next whole, good.2⟩
  · rw [result]
    refine ⟨good.1, fun thread member => ?_⟩
    have whole := good.2 (piece :: rest) (by simp [before])
    rcases List.mem_append.mp member with member | member
    · exact good.2 thread (by simp [before, member])
    · rcases List.mem_cons.mp member with rfl | member
      · exact fits input piece rest next whole
      · exact good.2 thread (by simp [before, member])
  · rw [result]
    exact ⟨taken pieces shared found, good.2⟩
  · rw [result]
    exact good

end Rules

section Brackets

variable (opens closes : Piece → Prop)

/-- Along the thread every piece that opens a bracket is followed by one that closes it. -/
def Followed : List Piece → Prop
  | [] => True
  | piece :: rest => (opens piece → ∃ later ∈ rest, closes later) ∧ Followed rest

/-- The same in every thread. -/
def Bracketed (x : Config State Piece) : Prop :=
  Followed opens closes x.worker ∧ ∀ thread ∈ x.clients, Followed opens closes thread

variable {opens closes}

theorem followed_of_plain {thread : List Piece} (plain : ∀ piece ∈ thread, ¬ opens piece) :
    Followed opens closes thread := by
  induction thread with
  | nil => trivial
  | cons piece thread hypothesis =>
      refine ⟨fun opened => absurd opened (plain piece List.mem_cons_self), hypothesis ?_⟩
      exact fun later member => plain later (List.mem_cons_of_mem piece member)

theorem Followed.append {made rest : List Piece} (front : Followed opens closes made)
    (back : Followed opens closes rest) : Followed opens closes (made ++ rest) := by
  induction made with
  | nil => exact back
  | cons piece made hypothesis =>
      refine ⟨fun opened => ?_, hypothesis front.2⟩
      obtain ⟨later, member, closed⟩ := front.1 opened
      exact ⟨later, List.mem_append_left rest member, closed⟩

theorem Followed.append_of_closed {rest : List Piece} (made : List Piece)
    (closed : ∃ later ∈ rest, closes later) (back : Followed opens closes rest) :
    Followed opens closes (made ++ rest) := by
  induction made with
  | nil => exact back
  | cons piece made hypothesis =>
      refine ⟨fun _ => ?_, hypothesis⟩
      obtain ⟨later, member, closing⟩ := closed
      exact ⟨later, List.mem_append_right made member, closing⟩

/-- A piece may be replaced by pieces that close their own brackets, or by any pieces at all
if it stood inside the bracket itself. -/
theorem Followed.replace {piece : Piece} {made rest : List Piece}
    (thread : Followed opens closes (piece :: rest))
    (fits : Followed opens closes made ∨ opens piece) : Followed opens closes (made ++ rest) := by
  rcases fits with front | opened
  · exact front.append thread.2
  · exact Followed.append_of_closed made (thread.1 opened) thread.2

theorem Followed.later {thread : List Piece} (good : Followed opens closes thread) {piece : Piece}
    (member : piece ∈ thread) (opened : opens piece) : ∃ later ∈ thread, closes later := by
  induction thread with
  | nil => cases member
  | cons head thread hypothesis =>
      rcases List.mem_cons.mp member with rfl | member
      · obtain ⟨later, member, closed⟩ := good.1 opened
        exact ⟨later, List.mem_cons_of_mem _ member, closed⟩
      · obtain ⟨later, member, closed⟩ := hypothesis good.2 member
        exact ⟨later, List.mem_cons_of_mem _ member, closed⟩

theorem Bracketed.later (good : Bracketed opens closes x) {piece : Piece}
    (member : piece ∈ x.inFlight) (opened : opens piece) : ∃ later ∈ x.inFlight, closes later := by
  rcases List.mem_append.mp member with inside | inside
  · obtain ⟨later, found, closed⟩ := good.1.later inside opened
    exact ⟨later, List.mem_append_left _ found, closed⟩
  · obtain ⟨thread, listed, inside⟩ := List.mem_flatten.mp inside
    obtain ⟨later, found, closed⟩ := (good.2 thread listed).later inside opened
    exact ⟨later, List.mem_append_right _ (List.mem_flatten.mpr ⟨thread, listed, found⟩), closed⟩

theorem step_bracketed {label : Label Call Input Action} (good : Bracketed opens closes x)
    (call : ∀ c, Followed opens closes (P.enter x.shared c))
    (fits : ∀ input piece, x.next P label = some piece →
      Followed opens closes (P.exec input x.shared piece).2 ∨ opens piece)
    (taken : ∀ pieces shared, P.take x.shared = some (pieces, shared) → Followed opens closes pieces) :
    Bracketed opens closes (x.step P label) := by
  apply step_each_thread _ _ taken good
  · exact fun c _ => call c
  · intro input piece rest next whole
    exact whole.replace (fits input piece next)

/-- Mutual exclusion: while a piece inside a lock's bracket is in flight, no piece that needs
the lock can run. -/
theorem Bracketed.excludes {lock : Lock}
    (good : Bracketed opens (fun piece => P.releases piece = some lock) x) {piece other : Piece}
    (enabled : x.enabled P piece = true) (needs : P.needs x.shared piece = some lock)
    (member : other ∈ x.inFlight) : ¬ opens other := by
  intro opened
  obtain ⟨later, found, releases⟩ := good.later member opened
  exact free_of_enabled enabled needs later found releases

end Brackets

section Holders

/-- The lock has one holder at most: one piece in flight, and so one thread, releases it. -/
def Exclusive (P : Program State Call Piece Input Action Lock) (lock : Lock) (x : Config State Piece) :
    Prop :=
  x.inFlight.countP (fun piece => P.releases piece = some lock) ≤ 1

theorem step_exclusive {lock : Lock} {label : Label Call Input Action} (good : Exclusive P lock x)
    (call : ∀ c, ∀ piece ∈ P.enter x.shared c, P.releases piece ≠ some lock)
    (made : ∀ input piece, (∀ new ∈ (P.exec input x.shared piece).2, P.releases new ≠ some lock) ∨
      P.needs x.shared piece = some lock ∧
        (P.exec input x.shared piece).2.countP (fun new => P.releases new = some lock) ≤ 1)
    (taken : ∀ pieces shared, P.take x.shared = some (pieces, shared) →
      ∀ piece ∈ pieces, P.releases piece ≠ some lock) : Exclusive P lock (x.step P label) := by
  have none : ∀ {pieces : List Piece}, (∀ piece ∈ pieces, P.releases piece ≠ some lock) →
      pieces.countP (fun piece => P.releases piece = some lock) = 0 := by
    intro pieces plain
    exact List.countP_eq_zero.mpr fun piece member => by simpa using plain piece member
  refine step_keeps (fun _ pieces => pieces.countP (fun piece => P.releases piece = some lock) ≤ 1)
    ?_ ?_ ?_ ?_ ?_ good
  · intro s pieces others same single
    exact (same.countP_eq _) ▸ single
  · intro c pieces single
    rw [List.countP_append, none (call c)]
    omega
  · intro input piece others _ enabled opened single
    rw [List.countP_append]
    rw [List.countP_cons] at single
    rcases made input piece with plain | ⟨needs, few⟩
    · rw [none plain]
      omega
    · -- the piece could run, so nobody held the lock
      have free : others.countP (fun piece => P.releases piece = some lock) = 0 := by
        refine none fun other member => ?_
        exact free_of_enabled enabled needs other (opened.mem_iff.mpr (List.mem_cons_of_mem _ member))
      omega
  · intro pieces shared others found single
    rw [List.countP_append, none (taken pieces shared found)]
    omega
  · exact fun _ _ single => single

/-- Along every thread each piece stands to the later ones as `R` says. -/
def Arranged (R : Piece → Piece → Prop) (x : Config State Piece) : Prop :=
  x.worker.Pairwise R ∧ ∀ thread ∈ x.clients, thread.Pairwise R

theorem step_arranged {R : Piece → Piece → Prop} {label : Label Call Input Action}
    (good : Arranged R x) (call : ∀ c, (P.enter x.shared c).Pairwise R)
    (made : ∀ input piece, (P.exec input x.shared piece).2.Pairwise R)
    (fits : ∀ input piece later, R piece later → ∀ new ∈ (P.exec input x.shared piece).2, R new later)
    (taken : ∀ pieces shared, P.take x.shared = some (pieces, shared) → pieces.Pairwise R) :
    Arranged R (x.step P label) := by
  apply step_each_thread _ _ taken good
  · exact fun c _ => call c
  · intro input piece rest _ whole
    obtain ⟨front, back⟩ := List.pairwise_cons.mp whole
    refine List.pairwise_append.mpr ⟨made input piece, back, fun new member later inside => ?_⟩
    exact fits input piece later (front later inside) new member

/-- The piece that runs stands at the head of one of the threads. -/
theorem threads_of_next {label : Label Call Input Action} {piece : Piece}
    (next : x.next P label = some piece) :
    ∃ (rest : List Piece) (elsewhere : List (List Piece)),
      (piece :: rest = x.worker ∨ piece :: rest ∈ x.clients) ∧
      x.inFlight.Perm ((piece :: rest) ++ elsewhere.flatten) ∧
      ∀ thread ∈ elsewhere, thread = x.worker ∨ thread ∈ x.clients := by
  cases label with
  | run client input =>
      simp only [Config.next, Option.filter_eq_some_iff] at next
      obtain ⟨rest, shape⟩ := List.head?_eq_some_iff.mp next.1
      cases client with
      | none =>
          have worker : x.worker = piece :: rest := shape
          refine ⟨rest, x.clients, Or.inl worker.symm, ?_, fun thread member => Or.inr member⟩
          rw [inFlight, worker]
      | some n =>
          obtain ⟨before, after, split, -⟩ := thread_split shape
          refine ⟨rest, x.worker :: (before ++ after), Or.inr (by simp [split]), ?_, ?_⟩
          · simp only [inFlight, split, List.flatten_append, List.flatten_cons]
            generalize piece :: rest = own
            refine List.Perm.trans ?_ (List.perm_append_comm_assoc x.worker own _)
            exact List.Perm.append_left _ (List.perm_append_comm_assoc _ _ _)
          · intro thread member
            rcases List.mem_cons.mp member with rfl | member
            · exact Or.inl rfl
            · refine Or.inr ?_
              rw [split]
              simp only [List.mem_append, List.mem_cons] at member ⊢
              exact member.imp_right Or.inr
  | call _ => cases next
  | dispatch => cases next
  | act _ => cases next

/-- What is in flight inside a lock whose holder runs a piece inside it stands behind that
piece in the same thread. -/
theorem Bracketed.behind {opens : Piece → Prop} {lock : Lock} {R : Piece → Piece → Prop}
    {label : Label Call Input Action}
    (good : Bracketed opens (fun piece => P.releases piece = some lock) x)
    (single : Exclusive P lock x) (arranged : Arranged R x) {piece other : Piece}
    (next : x.next P label = some piece) (inside : opens piece) (member : other ∈ x.inFlight)
    (opened : opens other) : other = piece ∨ R piece other := by
  obtain ⟨rest, elsewhere, own, split, threads⟩ := threads_of_next next
  have releases : ∀ {thread : List Piece} {inner : Piece}, thread = x.worker ∨ thread ∈ x.clients →
      inner ∈ thread → opens inner →
      0 < thread.countP (fun piece => P.releases piece = some lock) := by
    intro thread inner known listed opened
    have closed : Followed opens (fun piece => P.releases piece = some lock) thread := by
      rcases known with rfl | known
      · exact good.1
      · exact good.2 thread known
    obtain ⟨later, found, released⟩ := closed.later listed opened
    exact List.countP_pos_iff.mpr ⟨later, found, by simpa using released⟩
  have here := releases own List.mem_cons_self inside
  rcases List.mem_append.mp (split.mem_iff.mp member) with inThread | away
  · rcases List.mem_cons.mp inThread with same | behind
    · exact Or.inl same
    · refine Or.inr ?_
      have ordered : (piece :: rest).Pairwise R := by
        rcases own with worker | client
        · exact worker ▸ arranged.1
        · exact arranged.2 _ client
      exact (List.pairwise_cons.mp ordered).1 other behind
  · -- a second thread inside the lock would have a release of its own
    obtain ⟨thread, listed, inThread⟩ := List.mem_flatten.mp away
    have there := releases (threads thread listed) inThread opened
    have flat : thread.countP (fun piece => P.releases piece = some lock) ≤
        elsewhere.flatten.countP (fun piece => P.releases piece = some lock) :=
      (List.sublist_flatten_of_mem listed).countP_le
    have both : (piece :: rest).countP (fun piece => P.releases piece = some lock) +
        elsewhere.flatten.countP (fun piece => P.releases piece = some lock) ≤ 1 := by
      rw [← List.countP_append, ← split.countP_eq]
      exact single
    omega

end Holders

section Solo

variable (P)

/-- One piece of the only thread that has any. -/
def solo (input : Input) (x : State × List Piece) : State × List Piece :=
  match x.2 with
  | [] => x
  | piece :: rest =>
      if (P.needs x.1 piece).all fun lock => !x.2.any fun other => P.releases other == some lock then
        ((P.exec input x.1 piece).1, (P.exec input x.1 piece).2 ++ rest)
      else x

/-- The configuration of one thread behind others that have ended. -/
def alone (ended : Nat) (x : State × List Piece) : Config State Piece :=
  { shared := x.1, clients := List.replicate ended [] ++ [x.2] }

variable {P} {ended : Nat} {x : State × List Piece} {input : Input}

theorem solo_of_exec {shared done : State} {piece : Piece} {rest made : List Piece}
    (free : ((P.needs shared piece).all fun lock =>
      !(piece :: rest).any fun other => P.releases other == some lock) = true)
    (does : P.exec input shared piece = (done, made)) :
    solo P input (shared, piece :: rest) = (done, made ++ rest) := by
  simp only [solo]
  rw [if_pos free, does]

theorem alone_thread : (alone ended x).thread (some ended) = x.2 := by
  simp [alone, thread]

theorem alone_enabled {piece : Piece} : (alone ended x).enabled P piece =
    (P.needs x.1 piece).all fun lock => !x.2.any fun other => P.releases other == some lock := by
  simp [alone, enabled, held, inFlight]

theorem next_alone {piece : Piece} {rest : List Piece} {shared : State}
    (free : ((P.needs shared piece).all fun lock =>
      !(piece :: rest).any fun other => P.releases other == some lock) = true) :
    (alone ended (shared, piece :: rest)).next P (.run (some ended) input : Label Call Input Action) =
      some piece := by
  simp only [next, alone_thread, List.head?_cons]
  rw [Option.filter_some, alone_enabled, if_pos free]

theorem call_alone {shared : State} {call : Call} :
    (alone ended (shared, [])).step P (.call call) = alone (ended + 1) (shared, P.enter shared call) := by
  simp [alone, step, List.replicate_succ']

theorem step_alone : (alone ended x).step P (.run (some ended) input) = alone ended (solo P input x) := by
  obtain ⟨shared, pieces⟩ := x
  cases pieces with
  | nil => simp only [step, alone_thread, solo]
  | cons piece rest =>
      simp only [step, alone_thread, alone_enabled, solo]
      split
      · simp [alone, setThread]
      · rfl

theorem run_alone {count : Nat} :
    Runs.run (Config.step P) (alone ended x) (List.replicate count (.run (some ended) input)) =
      alone ended ((solo P input)^[count] x) := by
  induction count generalizing x with
  | zero => rfl
  | succ count hypothesis =>
      rw [List.replicate_succ, Runs.run_cons, step_alone, hypothesis, Function.iterate_succ_apply]

end Solo

end Config

end Threads
