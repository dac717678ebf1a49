import Samgr.Lib.Threads
import Samgr.Collect.State

/-! The delayed reclaim of IPC threads. Screen-off starts a thread that looks every two seconds whether it
has been called off, and reclaims at last; screen-on calls it off. Events and threads share two flags and
no lock, so a step is one access to a flag. -/
namespace Samgr

def COMMON_EVENT_SCREEN_ON : String := "usual.event.SCREEN_ON"
def COMMON_EVENT_SCREEN_OFF : String := "usual.event.SCREEN_OFF"
def COMMON_RECENT_EVENT : String := "RECENT_EVENT"
def COMMON_RECENT_CLEAR_ALL : String := "RECENT_CLEAR_ALL"
def TRIGGER_THREAD_RECLAIM_DELAY_TIME : Nat := 130
def TRIGGER_THREAD_RECLAIM_DURATION_TIME : Nat := 2

/-- `spawned` are the threads that have been created and have not begun, and `owed` whether a delayed
reclaim has been asked for that has neither been made nor been called off, which the source does not
know. -/
structure IpcReclaim where
  isCancel : Bool := false
  isTriggerTaskStart : Bool := false
  spawned : Nat := 0
  triggers : Nat := 0
  owed : Bool := false

namespace IpcReclaim

inductive Call where
  | startReclaimIpcThreadWork (eventName eventType : String)
  /-- A thread that has been created begins. -/
  | reclaimThread

inductive Piece where
  | cancel
  | ask (triggers : Bool)
  | triggerAtOnce
  | exchange
  | sendKernalReclaimIpcThread
  | begin
  | check (i : Nat)
  | trigger
  | takeBack
  deriving DecidableEq

/-- `StartReclaimIpcThreadWork` of the base user's collector; those of other users do nothing. -/
def enter (isBaseUser : Bool) : Call → List Piece
  | .startReclaimIpcThreadWork eventName eventType =>
      if !isBaseUser then []
      else if eventName = COMMON_EVENT_SCREEN_OFF then [.ask false]
      else if eventName = COMMON_EVENT_SCREEN_ON then [.cancel]
      else if eventName = COMMON_RECENT_EVENT ∧ eventType = COMMON_RECENT_CLEAR_ALL then [.ask true]
      else []
  | .reclaimThread => [.begin]

variable (s : IpcReclaim)

/-- `TriggerSystemIPCThreadReclaim` -/
def triggerReclaim : IpcReclaim := { s with triggers := s.triggers + 1 }

def exec : Piece → IpcReclaim × List Piece
  | .cancel => ({ s with isCancel := true, owed := false }, [])
  | .ask triggers =>
      ({ s with isCancel := false, owed := true }, if triggers then [.triggerAtOnce] else [.exchange])
  | .triggerAtOnce => (s.triggerReclaim, [.exchange])
  | .exchange =>
      ({ s with isTriggerTaskStart := true },
        if s.isTriggerTaskStart then [] else [.sendKernalReclaimIpcThread])
  | .sendKernalReclaimIpcThread => ({ s with spawned := s.spawned + 1 }, [])
  | .begin => if s.spawned = 0 then (s, []) else ({ s with spawned := s.spawned - 1 }, [.check 0])
  | .check i =>
      (s,
        if s.isCancel then [.takeBack]
        else if i + TRIGGER_THREAD_RECLAIM_DURATION_TIME < TRIGGER_THREAD_RECLAIM_DELAY_TIME then
          [.check (i + TRIGGER_THREAD_RECLAIM_DURATION_TIME)]
        else [.trigger])
  | .trigger => ({ s.triggerReclaim with owed := false }, [.takeBack])
  | .takeBack => ({ s with isTriggerTaskStart := false }, [])

def program (isBaseUser : Bool) : Threads.Program IpcReclaim Call Piece Unit Empty Unit where
  enter _ := enter isBaseUser
  exec _ s := s.exec
  take _ := none
  act _ action := nomatch action
  needs _ _ := none
  releases _ := none

abbrev Machine : Type := Threads.Config IpcReclaim Piece

abbrev Label : Type := Threads.Label Call Unit Empty

/-- The piece is of a reclaim thread, from its creation to its end. -/
def Piece.works : Piece → Bool
  | .sendKernalReclaimIpcThread | .check _ | .trigger | .takeBack => true
  | _ => false

/-- The piece is of an event that will still look whether there is a thread. -/
def Piece.asks : Piece → Bool
  | .triggerAtOnce | .exchange => true
  | _ => false

/-- Whoever runs the piece may still see to a reclaim. -/
def Piece.carries : Piece → Bool
  | .takeBack => false
  | piece => piece.works || piece.asks

/-- The reclaim threads there are. -/
def workers (pieces : List Piece) : Nat := s.spawned + pieces.countP Piece.works

def Carried (pieces : List Piece) : Prop := 0 < s.spawned ∨ ∃ piece ∈ pieces, piece.carries = true

/-- No event finds the flag still set by a thread that has looked for the last time, unless another event
looks later. -/
def spares (isBaseUser : Bool) (x : Machine) (label : Label) : Prop :=
  x.next (program isBaseUser) label = some .exchange → x.shared.owed = true →
    .takeBack ∈ x.inFlight → 1 < x.inFlight.countP Piece.asks

/-- One thread at most, and exactly while the flag is set; what is owed has not been called off, and is
seen to. -/
structure Sound (s : IpcReclaim) (pieces : List Piece) : Prop where
  single : s.workers pieces = if s.isTriggerTaskStart then 1 else 0
  standing : s.owed = true → s.isCancel = false

variable {s} {t : IpcReclaim} {piece : Piece} {pieces others made : List Piece}

theorem workers_cons : s.workers (piece :: others) = s.workers others + if piece.works then 1 else 0 := by
  rw [workers, workers, List.countP_cons, Nat.add_assoc]

theorem workers_append : t.workers (made ++ others) = t.spawned + made.countP Piece.works + others.countP Piece.works := by
  rw [workers, List.countP_append, Nat.add_assoc]

theorem Sound.perm (same : pieces.Perm others) (sound : s.Sound pieces) : s.Sound others := by
  refine ⟨?_, sound.standing⟩
  rw [workers, ← same.countP_eq]
  exact sound.single

theorem Carried.perm (same : pieces.Perm others) (carried : s.Carried pieces) : s.Carried others := by
  refine carried.imp_right ?_
  rintro ⟨piece, member, carries⟩
  exact ⟨piece, same.mem_iff.mp member, carries⟩

/-- A piece that makes as many threads and takes as many away as it moves the flag. -/
theorem Sound.of_count {after : Bool} (flag : t.isTriggerTaskStart = after)
    (count : t.spawned + made.countP Piece.works + others.countP Piece.works = if after then 1 else 0)
    (standing : t.owed = true → t.isCancel = false) : t.Sound (made ++ others) :=
  ⟨by rw [workers_append, flag, count], standing⟩

theorem Sound.exec (sound : s.Sound (piece :: others)) :
    (s.exec piece).1.Sound ((s.exec piece).2 ++ others) := by
  have single := sound.single
  rw [workers_cons, workers] at single
  cases piece with
  | cancel => exact .of_count rfl single fun owed => nomatch owed
  | ask triggers =>
      refine .of_count rfl ?_ fun _ => rfl
      cases triggers
      · exact single
      · exact single
  | triggerAtOnce => exact .of_count rfl single sound.standing
  | exchange =>
      refine .of_count (show _ = true from rfl) ?_ sound.standing
      cases started : s.isTriggerTaskStart with
      | true =>
          simpa [IpcReclaim.exec, started, Piece.works] using single
      | false =>
          simp only [started, Piece.works, Bool.false_eq_true, if_false] at single
          simp only [IpcReclaim.exec, started, Bool.false_eq_true, if_false, List.countP_singleton, Piece.works, if_true]
          omega
  | sendKernalReclaimIpcThread =>
      refine .of_count (show _ = s.isTriggerTaskStart from rfl) ?_ sound.standing
      simp only [Piece.works, if_true] at single
      simp only [IpcReclaim.exec, List.countP_nil]
      omega
  | begin =>
      simp only [Piece.works, Bool.false_eq_true, if_false] at single
      by_cases created : s.spawned = 0
      · rw [IpcReclaim.exec, if_pos created]
        exact .of_count rfl single sound.standing
      · rw [IpcReclaim.exec, if_neg created]
        refine .of_count rfl ?_ sound.standing
        simp only [List.countP_singleton, Piece.works, if_true]
        omega
  | check i =>
      refine .of_count rfl ?_ sound.standing
      have one : (s.exec (.check i)).2.countP Piece.works = 1 := by
        rw [IpcReclaim.exec]
        split
        · rfl
        · split
          · rfl
          · rfl
      simp only [Piece.works, if_true] at single
      rw [one, Nat.add_right_comm]
      exact single
  | trigger =>
      refine .of_count (show _ = s.isTriggerTaskStart from rfl) ?_ fun owed => nomatch owed
      simp only [Piece.works, if_true] at single
      simp only [IpcReclaim.exec, triggerReclaim, List.countP_singleton, Piece.works, if_true]
      omega
  | takeBack =>
      refine .of_count rfl ?_ sound.standing
      simp only [Piece.works, if_true] at single
      simp only [IpcReclaim.exec, List.countP_nil, Bool.false_eq_true, if_false]
      split at single <;> omega

variable {isBaseUser : Bool} {x : Machine} {label : Label}

/-- A call brings nobody to see to a reclaim that is owed, and takes nobody away. -/
theorem Sound.call (sound : s.Sound pieces) (call : Call) : s.Sound (enter isBaseUser call ++ pieces) := by
  refine .of_count rfl ?_ sound.standing
  have none : (enter isBaseUser call).countP Piece.works = 0 := by
    cases call with
    | startReclaimIpcThreadWork eventName eventType =>
        rw [enter]
        split_ifs <;> rfl
    | reclaimThread => rfl
  rw [none]
  exact sound.single

theorem step_sound (sound : x.shared.Sound x.inFlight) :
    (x.step (program isBaseUser) label).shared.Sound (x.step (program isBaseUser) label).inFlight := by
  refine Threads.Config.step_keeps Sound ?_ ?_ ?_ ?_ ?_ sound
  · exact fun same good => good.perm same
  · exact fun call pieces good => good.call call
  · exact fun _ piece others _ _ _ good => good.exec
  · exact fun _ _ _ taken => nomatch taken
  · exact fun action => nomatch action

def init : Machine := { shared := {} }

/-- The screen goes on while a thread waits, and off again when the thread has seen that. -/
def offWhileLeaving : List Label :=
  [.call (.startReclaimIpcThreadWork COMMON_EVENT_SCREEN_OFF ""), .run (some 0) (), .run (some 0) (),
    .run (some 0) (), .call .reclaimThread, .run (some 1) (),
    .call (.startReclaimIpcThreadWork COMMON_EVENT_SCREEN_ON ""), .run (some 2) (), .run (some 1) (),
    .call (.startReclaimIpcThreadWork COMMON_EVENT_SCREEN_OFF ""), .run (some 3) (), .run (some 3) (),
    .run (some 1) ()]

example :
    let x := Runs.run (Threads.Config.step (program true)) init offWhileLeaving
    x.inFlight = [] ∧ x.shared.owed = true := by decide +kernel

/-- Everything is cleared while the thread leaves: one reclaim is made at once, the delayed one is lost. -/
def clearedWhileLeaving : List Label :=
  offWhileLeaving.take 9 ++
    [.call (.startReclaimIpcThreadWork COMMON_RECENT_EVENT COMMON_RECENT_CLEAR_ALL), .run (some 3) (),
      .run (some 3) (), .run (some 3) (), .run (some 1) ()]

example :
    let x := Runs.run (Threads.Config.step (program true)) init clearedWhileLeaving
    x.inFlight = [] ∧ x.shared.triggers = 1 ∧ x.shared.owed = true := by decide +kernel

end IpcReclaim

end Samgr
