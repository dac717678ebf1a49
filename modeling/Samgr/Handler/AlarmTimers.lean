import Samgr.Lib.Threads
import Samgr.Lib.Keyed
import Mathlib.Logic.Function.Basic

/-! The handler of alarm timers. A posted task gets a timer of its own, which is armed before the
task is put into the map of the handler; worker threads wait for timers, read their expiries and
call the tasks. A worker leaves when it finds the map empty, and whoever fills an empty map starts
one. -/
namespace Samgr

def MAX_EVENT : Nat := 8

inductive TimerPhase where
  | created
  | armed
  | expired
  | read
  deriving DecidableEq, Repr

/-- An open timer, with the number of the task it was created for. -/
structure AlarmTimer where
  task : Nat
  phase : TimerPhase
  deriving DecidableEq, Repr

/-- The lock sections and system calls of `PostTask`, and those of a worker. A worker carries the
events of its last wait that it has not looked at. -/
inductive TimerPiece where
  | createTimer
  | epollAdd (timerfd task : Nat)
  | setTime (timerfd task : Nat)
  | firstInsert (timerfd task : Nat)
  | startThread
  | returned (task : Nat)
  | begin
  | isEmpty
  | epollWait
  | onTime (events : List Nat)
  | find (timerfd : Nat) (events : List Nat)
  | funcTime (timerfd : Nat) (func : Option Nat) (events : List Nat)
  | erase (timerfd : Nat) (events : List Nat)
  | close (timerfd : Nat) (events : List Nat)
  deriving DecidableEq, Repr

/-- What the system answers: the descriptor of a new timer, whether a call succeeds, and the
timers that a wait reports. -/
structure TimerInput where
  timerfd : Option Nat := none
  success : Bool := true
  events : List Nat := []
  deriving DecidableEq, Repr

inductive TimerCall where
  | postTask (func : Bool)
  | thread
  deriving DecidableEq, Repr

/-- `timeFunc` maps a descriptor to the number of its task. `starting` counts the threads that
have been started and are not in their loop yet; `expiries`, `called` and `accepted` list the
tasks whose timer has expired, that were called, and whose `PostTask` has returned true. Calling
an empty function ends the process. -/
structure SamgrTimeHandler where
  timers : Nat → Option AlarmTimer := fun _ => none
  timeFunc : List (Nat × Nat) := []
  posted : Nat := 0
  starting : Nat := 0
  expiries : List Nat := []
  called : List Nat := []
  accepted : List Nat := []
  aborted : Bool := false

namespace SamgrTimeHandler

variable (s : SamgrTimeHandler)

def setPhase (timerfd : Nat) (timer : AlarmTimer) (phase : TimerPhase) : SamgrTimeHandler :=
  { s with timers := Function.update s.timers timerfd (some { timer with phase }) }

def closeTimer (timerfd : Nat) : SamgrTimeHandler :=
  { s with timers := Function.update s.timers timerfd none }

/-- The task found under a descriptor. -/
def findFunc (timerfd : Nat) : Option Nat := (Keyed.find Prod.fst s.timeFunc timerfd).map Prod.snd

/-- An entry that is there already is replaced. -/
def insertFunc (timerfd task : Nat) : SamgrTimeHandler :=
  { s with timeFunc := (s.timeFunc.filter fun entry => entry.1 != timerfd) ++ [(timerfd, task)] }

def eraseFunc (timerfd : Nat) : SamgrTimeHandler :=
  { s with timeFunc := s.timeFunc.filter fun entry => entry.1 != timerfd }

/-- The timers a wait may report: those with an expiry that nobody has read. -/
def ready (events : List Nat) : List Nat :=
  (events.filter fun timerfd => (s.timers timerfd).any fun timer => timer.phase == .expired).take MAX_EVENT

def postPieces : TimerCall → List TimerPiece
  | .postTask func => if func then [.createTimer] else []
  | .thread => [.begin]

def execPiece (input : TimerInput) : TimerPiece → SamgrTimeHandler × List TimerPiece
  | .createTimer =>
      match input.timerfd with
      | none => (s, [])
      | some timerfd =>
          -- a new descriptor is not that of an open timer
          match s.timers timerfd with
          | some _ => (s, [])
          | none =>
              ({ s with
                  timers := Function.update s.timers timerfd (some ⟨s.posted, .created⟩)
                  posted := s.posted + 1 },
                [.epollAdd timerfd s.posted])
  | .epollAdd timerfd task =>
      if input.success then (s, [.setTime timerfd task]) else (s.closeTimer timerfd, [])
  | .setTime timerfd task =>
      if input.success then
        match s.timers timerfd with
        | some timer => (s.setPhase timerfd timer .armed, [.firstInsert timerfd task])
        | none => (s, [])
      else (s.closeTimer timerfd, [])
  | .firstInsert timerfd task =>
      (s.insertFunc timerfd task,
        if s.timeFunc.isEmpty then [.startThread, .returned task] else [.returned task])
  | .startThread => ({ s with starting := s.starting + 1 }, [])
  | .returned task => ({ s with accepted := s.accepted ++ [task] }, [])
  | .begin =>
      match s.starting with
      | 0 => (s, [])
      | starting + 1 => ({ s with starting }, [.isEmpty])
  | .isEmpty => if s.timeFunc.isEmpty then (s, []) else (s, [.epollWait])
  | .epollWait => (s, [.onTime (s.ready input.events)])
  | .onTime [] => (s, [.isEmpty])
  | .onTime (timerfd :: events) =>
      match s.timers timerfd with
      | some timer =>
          if timer.phase = .expired then (s.setPhase timerfd timer .read, [.find timerfd events])
          else (s, [.onTime events])
      | none => (s, [.onTime events])
  | .find timerfd events => (s, [.funcTime timerfd (s.findFunc timerfd) events])
  | .funcTime timerfd func events =>
      match func with
      | some task => ({ s with called := s.called ++ [task] }, [.erase timerfd events])
      | none => ({ s with aborted := true }, [])
  | .erase timerfd events => (s.eraseFunc timerfd, [.close timerfd events])
  | .close timerfd events => (s.closeTimer timerfd, [.onTime events])

/-- Nothing runs any more once the process has ended. -/
def exec (input : TimerInput) (piece : TimerPiece) : SamgrTimeHandler × List TimerPiece :=
  if s.aborted then (s, []) else s.execPiece input piece

/-- A timer may expire at any moment after it has been armed, and does so once. -/
def expire (timerfd : Nat) : SamgrTimeHandler :=
  match s.timers timerfd with
  | some timer =>
      if timer.phase = .armed then
        { s.setPhase timerfd timer .expired with expiries := s.expiries ++ [timer.task] }
      else s
  | none => s

end SamgrTimeHandler

def timerProgram : Threads.Program SamgrTimeHandler TimerCall TimerPiece TimerInput Nat Empty where
  enter _ := SamgrTimeHandler.postPieces
  exec input s piece := s.exec input piece
  take _ := none
  act := SamgrTimeHandler.expire
  needs _ _ := none
  releases _ := none

/-- The handler with its threads. -/
abbrev TimerMachine : Type := Threads.Config SamgrTimeHandler TimerPiece
abbrev TimerLabel : Type := Threads.Label TimerCall TimerInput Nat

end Samgr
